import GpuRecorder.Decimal.Fraction

/-!
# Decimal numerals

`fraction?` reads a numeral such as `-12.5e3`.  The sign, the point, the digits on one side of the
point and the exponent may be absent.
-/

namespace GpuRecorder.Decimal

/-- A sign in front, and whether it is a minus. -/
def splitSign : List Char → Bool × List Char
  | '-' :: cs => (true, cs)
  | '+' :: cs => (false, cs)
  | cs => (false, cs)

/-- An integer numeral, to its end. -/
def integer? (cs : List Char) : Option Int :=
  let (negative, digits) := splitSign cs
  if digits ≠ [] ∧ digits.all (isDigitIn 10) then
    let n : Int := ofDigits 10 digits
    some (if negative then -n else n)
  else none

/-- A decimal numeral, to its end. -/
def fraction? (cs : List Char) : Option Fraction := do
  let (negative, cs) := splitSign cs
  let whole := cs.takeWhile (isDigitIn 10)
  let cs := cs.dropWhile (isDigitIn 10)
  let (part, cs) := match cs with
    | '.' :: cs => (cs.takeWhile (isDigitIn 10), cs.dropWhile (isDigitIn 10))
    | cs => ([], cs)
  let exponent ← match cs with
    | [] => some 0
    | c :: cs => if c = 'e' ∨ c = 'E' then integer? cs else none
  if whole ++ part = [] then none
  else some ⟨negative, ofDigits 10 (whole ++ part), exponent - part.length⟩

example : fraction? "-12.5e3".toList = some ⟨true, 125, 2⟩ := by decide
example : fraction? ".5".toList = some ⟨false, 5, -1⟩ := by decide
example : fraction? "5.".toList = some ⟨false, 5, 0⟩ := by decide
example : fraction? ".".toList = none ∧ fraction? "e5".toList = none := by decide

end GpuRecorder.Decimal
