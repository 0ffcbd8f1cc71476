/-!
# Floating formats — bit patterns, exact values, rounding

A binary floating format is given by two widths, the fraction's and the exponent's.  `decode`
reads a bit pattern as an exact value and `round` finds the bit pattern nearest to a ratio of
natural numbers, a half going to the even neighbour.  Everything is integer arithmetic, so each
result can be computed by the kernel.
-/

namespace GpuRecorder.Binary

/-- The widths of a format's stored fraction and of its exponent field. -/
structure Format where
  fractionBits : Nat
  exponentBits : Nat
  deriving DecidableEq, Repr

/-- The 32-bit format. -/
def single : Format := ⟨23, 8⟩

/-- The 64-bit format. -/
def double : Format := ⟨52, 11⟩

/-- What a bit pattern stands for: a finite value is `significand * 2 ^ exponent`, signed. -/
inductive Value where
  | nan
  | infinite (negative : Bool)
  | finite (negative : Bool) (significand : Nat) (exponent : Int)
  deriving DecidableEq, Repr

/-! ## 1. Ratios -/

/-- The integer nearest to `num / den`; a half goes to the even neighbour. -/
def nearestDiv (num den : Nat) : Nat :=
  let q := num / den
  let twice := 2 * (num % den)
  if den < twice ∨ (twice = den ∧ q % 2 = 1) then q + 1 else q

/-- `num / den` divided by `2 ^ exponent`, again as a ratio. -/
def unscale (num den : Nat) : Int → Nat × Nat
  | .ofNat e => (num, den * Nat.pow 2 e)
  | .negSucc e => (num * Nat.pow 2 (e + 1), den)

namespace Format

variable (f : Format)

/-! ## 2. Fields of a bit pattern -/

/-- The weight of the sign bit, which stands above the exponent and the fraction. -/
def signWeight : Nat := Nat.pow 2 (f.fractionBits + f.exponentBits)

/-- The exponent field of the infinities and the not-a-numbers. -/
def topField : Nat := Nat.pow 2 f.exponentBits - 1

/-- The exponent of the last place of the smallest magnitudes. -/
def minExponent : Int := 2 - (Nat.pow 2 (f.exponentBits - 1) : Nat) - f.fractionBits

/-- The unsigned bit pattern of infinity; every finite magnitude lies below it. -/
def infinityBits : Nat := f.topField * Nat.pow 2 f.fractionBits

/-- A not-a-number without sign whose highest fraction bit alone is set. -/
def nanBits : Nat := f.infinityBits + Nat.pow 2 (f.fractionBits - 1)

/-- Put a sign on an unsigned bit pattern. -/
def withSign (negative : Bool) (bits : Nat) : Nat :=
  if negative then f.signWeight + bits else bits

/-- The value of a bit pattern.  Field `0` has no hidden bit and shares field `1`'s exponent. -/
def decode (bits : Nat) : Value :=
  let negative := bits / f.signWeight % 2 == 1
  let field := bits / Nat.pow 2 f.fractionBits % Nat.pow 2 f.exponentBits
  let fraction := bits % Nat.pow 2 f.fractionBits
  if field = f.topField then
    if fraction = 0 then .infinite negative else .nan
  else if field = 0 then
    .finite negative fraction f.minExponent
  else
    .finite negative (Nat.pow 2 f.fractionBits + fraction) (f.minExponent + (field - 1 : Nat))

/-! ## 3. Rounding -/

/-- The exponent of the last place in which `num / den` is rounded: the significand fills the
hidden bit and the fraction, unless the value is too small for that. -/
def lastPlace (num den : Nat) : Int :=
  let guess : Int := (num.log2 : Int) - den.log2 - f.fractionBits
  let (n, d) := unscale num den guess
  -- The leading bits alone may put the guess one place too high.
  let exponent := if n / d < Nat.pow 2 f.fractionBits then guess - 1 else guess
  max exponent f.minExponent

/-- The unsigned bit pattern nearest to `num / den`.  A carry out of the significand moves into
the exponent field by itself, and whatever passes the largest magnitude is infinity. -/
def magnitude (num den : Nat) : Nat :=
  if num = 0 then 0 else
    let exponent := f.lastPlace num den
    let (n, d) := unscale num den exponent
    let steps := (exponent - f.minExponent).toNat
    min f.infinityBits (steps * Nat.pow 2 f.fractionBits + nearestDiv n d)

/-- The bit pattern nearest to `num / den` with the given sign. -/
def round (negative : Bool) (num den : Nat) : Nat :=
  f.withSign negative (f.magnitude num den)

/-- The bit pattern nearest to `significand * 2 ^ exponent` with the given sign. -/
def roundScaled (negative : Bool) (significand : Nat) : Int → Nat
  | .ofNat e => f.round negative (significand * Nat.pow 2 e) 1
  | .negSucc e => f.round negative significand (Nat.pow 2 (e + 1))

/-- The bit pattern of a value, rounded where the format cannot hold it. -/
def encode : Value → Nat
  | .nan => f.nanBits
  | .infinite negative => f.withSign negative f.infinityBits
  | .finite negative significand exponent => f.roundScaled negative significand exponent

/-- No magnitude is rounded past infinity. -/
theorem magnitude_le_infinityBits (num den : Nat) : f.magnitude num den ≤ f.infinityBits := by
  unfold magnitude
  split
  · exact Nat.zero_le _
  · exact Nat.min_le_left _ _

end Format

/-! ## 4. Written and read back

The formats at their corners: one, the smallest magnitude, the largest, and a value halfway
between two neighbours. -/

example : single.round false 1 1 = 0x3f800000 := by decide +kernel
example : single.round true 1 10 = 0xbdcccccd := by decide +kernel
example : single.encode (.finite false 1 (-149)) = 1 := by decide +kernel
example : single.encode (.finite false 1 (-150)) = 0 := by decide +kernel
example : single.encode (.finite false 3 (-150)) = 2 := by decide +kernel
example : single.encode (.finite false 1 128) = single.infinityBits := by decide +kernel
example : single.decode 0x7f7fffff = .finite false 0xffffff 104 := by decide +kernel
example : double.round false 1 10 = 0x3fb999999999999a := by decide +kernel

end GpuRecorder.Binary
