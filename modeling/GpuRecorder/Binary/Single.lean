import GpuRecorder.Binary.Value

/-!
# Single-precision numbers

`Single` is a 32-bit floating number as it travels through the interface, a bit pattern.
Arithmetic is exact arithmetic rounded once.  `differs` is the comparison of the state cache: two
numbers differ when they are further apart than rounding noise, and a not-a-number differs from
every number, itself included.
-/

namespace GpuRecorder.Binary

/-- A 32-bit floating number, by its bit pattern. -/
structure Single where
  bits : UInt32
  deriving DecidableEq, Repr, Inhabited

namespace Single

/-! ## 1. Values and rounding -/

/-- The value of the bit pattern. -/
def value (a : Single) : Value := single.decode a.bits.toNat

/-- The number nearest to a value. -/
def ofValue (v : Value) : Single := ⟨.ofNat (single.encode v)⟩

/-- The number nearest to an integer. -/
def ofInt (i : Int) : Single := ⟨.ofNat (single.round (decide (i < 0)) i.natAbs 1)⟩

def zero : Single := ⟨0⟩

def one : Single := ⟨0x3f800000⟩

def nan : Single := ⟨0x7fc00000⟩

/-- The distance from one to the next larger number, `2 ^ -23`. -/
def epsilon : Single := ⟨0x34000000⟩

def isNaN (a : Single) : Bool := a.value.isNaN

example : ofInt 1 = one ∧ ofInt (-16777217) = ⟨0xcb800000⟩ := by decide +kernel

/-! ## 2. Arithmetic -/

def add (a b : Single) : Single := ofValue (a.value.add b.value)

def sub (a b : Single) : Single := ofValue (a.value.add b.value.neg)

def mul (a b : Single) : Single := ofValue (a.value.mul b.value)

/-- The quotient, rounded.  Division of a nonzero number by zero is infinite. -/
def div (a b : Single) : Single :=
  match a.value, b.value with
  | .finite n₁ m₁ e₁, .finite n₂ m₂ e₂ =>
    let negative := n₁ != n₂
    if m₂ = 0 then
      if m₁ = 0 then nan else ofValue (.infinite negative)
    else
      let (num, den) := unscale m₁ m₂ (e₂ - e₁)
      ⟨.ofNat (single.round negative num den)⟩
  | .infinite n₁, .finite n₂ _ _ => ofValue (.infinite (n₁ != n₂))
  | .finite n₁ _ _, .infinite n₂ => ofValue (.finite (n₁ != n₂) 0 0)
  | _, _ => nan

/-- The largest number of the form `root + k`, `k < 2 ^ bits`, whose square is at most `n`. -/
def floorSqrtFrom (n : Nat) : (bits root : Nat) → Nat
  | 0, root => root
  | bit + 1, root =>
    let candidate := root + Nat.pow 2 bit
    floorSqrtFrom n bit (if candidate * candidate ≤ n then candidate else root)

/-- The integer part of the square root. -/
def floorSqrt (n : Nat) : Nat := floorSqrtFrom n (n.log2 / 2 + 1) 0

/-- The square root, rounded; a negative number has none, negative zero excepted. -/
def sqrt (a : Single) : Single :=
  match a.value with
  | .nan => nan
  | .infinite negative => if negative then nan else a
  | .finite negative m e =>
    if m = 0 then a
    else if negative then nan
    else
      -- An even exponent and twice the digits the result can hold; one digit more records
      -- whether the root is exact, which is all that rounding asks of the rest.
      let shift := 2 * single.fractionBits + 8 + (e % 2).toNat
      let radicand := m * Nat.pow 2 shift
      let root := floorSqrt radicand
      let sticky := if root * root = radicand then 0 else 1
      ofValue (.finite false (2 * root + sticky) ((e - shift) / 2 - 1))

example : sqrt (ofInt 2) = ⟨0x3fb504f3⟩ ∧ sqrt (ofInt 9) = ofInt 3 := by decide +kernel
example : div one (ofInt 3) = ⟨0x3eaaaaab⟩ := by decide +kernel

/-! ## 3. Integers -/

/-- The signed 32-bit integer toward zero; out of range it is the nearest end of the range, and
`0` for a not-a-number. -/
def toInt (a : Single) : Int :=
  let clamp (i : Int) : Int := max (-2147483648) (min 2147483647 i)
  match a.value with
  | .nan => 0
  | .infinite negative => if negative then -2147483648 else 2147483647
  | .finite negative significand exponent =>
    let (num, den) := unscale significand 1 (-exponent)
    let magnitude : Int := (num / den : Nat)
    clamp (if negative then -magnitude else magnitude)

/-! ## 4. Comparison up to rounding noise -/

/-- Neither larger than the other. -/
def eq (a b : Single) : Bool := a.value.eq b.value

/-- Equal, or closer than `epsilon`, absolutely or relative to the larger magnitude; an infinity
is close to itself only. -/
def close (a b : Single) : Bool :=
  if a.eq b then true
  else if a.value.isInfinite || b.value.isInfinite then false
  else
    let distance := (a.sub b).value.abs
    let largest := if a.value.abs.lt b.value.abs then b.value.abs else a.value.abs
    distance.le epsilon.value || distance.le (ofValue (largest.mul epsilon.value)).value

/-- More than rounding noise apart. -/
def differs (a b : Single) : Bool := !a.close b

/-- Some component differs, or the lengths do. -/
def anyDiffers : List Single → List Single → Bool
  | [], [] => false
  | a :: as, b :: bs => a.differs b || anyDiffers as bs
  | _, _ => true

theorem eq_self {a : Single} (ha : a.isNaN = false) : a.eq a = true := by
  have hv : a.value ≠ .nan := by
    intro h
    simp [isNaN, h, Value.isNaN] at ha
  simp [eq, Value.eq, Value.compare?_self hv]

/-- A number does not differ from itself. -/
theorem differs_self {a : Single} (ha : a.isNaN = false) : a.differs a = false := by
  simp [differs, close, eq_self ha]

/-- A not-a-number differs from everything. -/
theorem differs_of_isNaN {a : Single} (ha : a.isNaN = true) (b : Single) : a.differs b = true := by
  have hv : a.value = .nan := by
    unfold isNaN at ha
    cases h : a.value <;> simp_all [Value.isNaN]
  have hadd : Value.add .nan b.value.neg = .nan := by cases b.value <;> rfl
  have hsub : (a.sub b).value = .nan := by
    unfold sub ofValue
    rw [hv, hadd]
    decide +kernel
  simp [differs, close, eq, Value.eq, Value.le, Value.lt, hv, hsub, Value.abs]

end Single

end GpuRecorder.Binary
