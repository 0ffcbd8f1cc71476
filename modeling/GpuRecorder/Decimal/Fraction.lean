import GpuRecorder.Binary.Single
import GpuRecorder.Decimal.Digits

/-!
# Decimal fractions and binary numbers

A decimal fraction `digits * 10 ^ exponent` is rounded to the nearest number of a format, and a
number of a format is written with the fewest decimal digits that read back as the same number.
-/

namespace GpuRecorder.Decimal

open Binary

/-- `digits * 10 ^ exponent`, signed. -/
structure Fraction where
  negative : Bool
  digits : Nat
  exponent : Int
  deriving DecidableEq, Repr

/-! ## 1. From decimal to binary -/

/-- No magnitude of the widest format needs a larger power of ten, up or down. -/
def exponentLimit : Int := 400

/-- The bit pattern of a format that is nearest to a decimal fraction. -/
def Fraction.nearest (f : Format) (d : Fraction) : Nat :=
  let leading := d.exponent + (decimalChars d.digits).length
  if d.digits = 0 ∨ leading < -exponentLimit then f.withSign d.negative 0
  -- Far out of range: decided without forming the power.
  else if exponentLimit < leading then f.withSign d.negative f.infinityBits
  else
    match d.exponent with
    | .ofNat e => f.round d.negative (d.digits * Nat.pow 10 e) 1
    | .negSucc e => f.round d.negative d.digits (Nat.pow 10 (e + 1))

example : Fraction.nearest single ⟨false, 1, -1⟩ = 0x3dcccccd := by decide +kernel
example : Fraction.nearest double ⟨true, 5, -324⟩ = double.withSign true 1 := by decide +kernel
example : Fraction.nearest single ⟨false, 34028236, 31⟩ = single.infinityBits := by decide +kernel

/-! ## 2. From binary to decimal -/

/-- What reads back as one number: the points between `low` and `high`, all in units of
`1 / unit`, the ends included when the significand is even. -/
structure Neighbourhood where
  low : Nat
  centre : Nat
  high : Nat
  unit : Nat
  closed : Bool
  deriving Repr

/-- The points that a format rounds to `significand * 2 ^ exponent`.  Below a power of two the
neighbours are twice as dense. -/
def Neighbourhood.of (f : Format) (significand : Nat) (exponent : Int) : Neighbourhood :=
  let below := if significand = Nat.pow 2 f.fractionBits ∧ f.minExponent < exponent then 1 else 2
  let (scale, unit) := unscale 1 1 (2 - exponent)
  { low := (4 * significand - below) * scale
    centre := 4 * significand * scale
    high := (4 * significand + 2) * scale
    unit := unit
    closed := significand % 2 = 0 }

/-- The same points counted on the grid of the multiples of `10 ^ exponent`. -/
def Neighbourhood.onGrid (n : Neighbourhood) : Int → Neighbourhood
  | .ofNat e => { n with unit := n.unit * Nat.pow 10 e }
  | .negSucc e =>
    let scale := Nat.pow 10 (e + 1)
    { n with low := n.low * scale, centre := n.centre * scale, high := n.high * scale }

def Neighbourhood.contains (n : Neighbourhood) (count : Nat) : Bool :=
  let point := count * n.unit
  if n.closed then decide (n.low ≤ point ∧ point ≤ n.high)
  else decide (n.low < point ∧ point < n.high)

/-- The grid point nearest to the centre among those that read back, if there is one.  Only the
two neighbours of the centre can be it, and the upper one is taken when both are as near. -/
def Neighbourhood.nearest? (n : Neighbourhood) : Option Nat :=
  let floor := n.centre / n.unit
  let twice := 2 * (n.centre % n.unit)
  match n.contains floor, n.contains (floor + 1) with
  | true, true => some (if n.unit ≤ twice then floor + 1 else floor)
  | true, false => some floor
  | false, true => some (floor + 1)
  | false, false => none

/-- Search the grids from `10 ^ exponent` downwards for the first that has a point. -/
def Neighbourhood.search (n : Neighbourhood) (exponent : Int) : (grids : Nat) → Nat × Int
  | 0 => (0, exponent)
  | grids + 1 =>
    match (n.onGrid exponent).nearest? with
    | some digits => (digits, exponent)
    | none => n.search (exponent - 1) grids

/-- The fewest digits that read back as `significand * 2 ^ exponent`, and their exponent. -/
def shortest (f : Format) (significand : Nat) (exponent : Int) : Nat × Int :=
  let n := Neighbourhood.of f significand exponent
  let top := (decimalChars (n.centre / n.unit)).length
  n.search top (top + f.fractionBits + Nat.pow 2 (f.exponentBits - 1))

-- Both 465132.12 and 465132.13 read back as 465132.125 and are as near to it.
example : shortest single 14884228 (-5) = (46513213, -2) := by decide +kernel

/-- A decimal written out without an exponent, with zeros where the digits do not reach. -/
def positional (digits : Nat) (exponent : Int) : List Char :=
  let cs := decimalChars digits
  match exponent with
  | .ofNat e => cs ++ List.replicate e '0'
  | .negSucc e =>
    let padded := List.replicate (e + 2 - cs.length) '0' ++ cs
    padded.take (padded.length - (e + 1)) ++ '.' :: padded.drop (padded.length - (e + 1))

/-- Drop the zeros at the end of a numeral into its exponent. -/
def trimZeros : (steps : Nat) → Nat → Int → Nat × Int
  | 0, digits, exponent => (digits, exponent)
  | steps + 1, digits, exponent =>
    if digits ≠ 0 ∧ digits % 10 = 0 then trimZeros steps (digits / 10) (exponent + 1)
    else (digits, exponent)

/-- How a number is spelled where it is not a plain numeral. -/
structure Spelling where
  nan : String
  infinity : String

/-- The shortest text of a bit pattern: positional, always with a fraction. -/
def shortestText (f : Format) (s : Spelling) (bits : Nat) : String :=
  match f.decode bits with
  | .nan => s.nan
  | .infinite negative => (if negative then "-" else "") ++ s.infinity
  | .finite negative significand exponent =>
    let (digits, place) :=
      if significand = 0 then (0, 0)
      else
        let (digits, place) := shortest f significand exponent
        trimZeros 20 digits place
    let text := positional digits place
    let text := if text.contains '.' then text else text ++ ['.', '0']
    (if negative then "-" else "") ++ String.ofList text

end GpuRecorder.Decimal
