import GpuRecorder.Decimal.Numeral
import GpuRecorder.Document.Scan
import GpuRecorder.Document.Toml.Node

/-!
# Numbers, dates and flags in TOML

A number is an integer in one of four bases or a decimal fraction.  Digits may be grouped by
single underscores.
-/

namespace GpuRecorder.Document.Toml

open Decimal (isDigitIn ofDigits splitSign)

/-! ## 1. Numbers -/

/-- A run of digits, which are given without the underscores between them. -/
def digits? (base : Nat) : Reader (List Char)
  | [] => none
  | c :: cs =>
    if isDigitIn base c then
      match cs with
      | '_' :: cs => push c (digits? base cs)
      | cs =>
        match digits? base cs with
        | some (more, rest) => some (c :: more, rest)
        | none => some ([c], cs)
    else none

/-- An integer of 64 bits, signed. -/
def integer? (negative : Bool) (n : Nat) : Option Node :=
  let i : Int := if negative then -n else n
  if -(Nat.pow 2 63 : Nat) ≤ i ∧ i < (Nat.pow 2 63 : Nat) then some (.integer i) else none

/-- An integer in a base other than ten, after the two characters that name the base. -/
def based? (base : Nat) : Reader Node := fun cs => do
  let (digits, cs) ← digits? base cs
  return (← integer? false (ofDigits base digits), cs)

/-- A fraction that is not too large for the 64-bit format.  Too far below zero is minus
infinity. -/
def decimal? (f : Decimal.Fraction) : Option Node :=
  let bits := f.nearest Binary.double
  if bits = Binary.double.infinityBits then none else some (.decimal bits)

/-- The digits after a point, if there is one. -/
def fractionPart? : Reader (Option (List Char))
  | '.' :: cs => do
    let (digits, cs) ← digits? 10 cs
    return (some digits, cs)
  | cs => some (none, cs)

/-- The exponent, if there is one. -/
def exponentPart? : Reader (Option Int)
  | [] => some (none, [])
  | c :: cs =>
    if c = 'e' ∨ c = 'E' then do
      let (negative, cs) := splitSign cs
      let (digits, cs) ← digits? 10 cs
      let n : Int := ofDigits 10 digits
      return (some (if negative then -n else n), cs)
    else some (none, c :: cs)

/-- The numbers that have no digits. -/
def special? (negative : Bool) (cs : List Char) : Option (Node × List Char) :=
  match expect "inf" cs with
  | some rest => some (.decimal (Binary.double.withSign negative Binary.double.infinityBits), rest)
  | none => (expect "nan" cs).map (.decimal (Binary.double.encode .nan), ·)

/-- An integer in base ten or a fraction.  Neither starts with a zero that is not needed. -/
def decimalNumber? : Reader Node := fun cs => do
  let (negative, cs) := splitSign cs
  match special? negative cs with
  | some r => some r
  | none =>
    let (whole, cs) ← digits? 10 cs
    if whole.head? = some '0' ∧ whole.length ≠ 1 then none
    else
      let (fraction, cs) ← fractionPart? cs
      let (exponent, cs) ← exponentPart? cs
      if fraction.isNone ∧ exponent.isNone then
        return (← integer? negative (ofDigits 10 whole), cs)
      else
        let part := fraction.getD []
        let place := exponent.getD 0 - part.length
        return (← decimal? ⟨negative, ofDigits 10 (whole ++ part), place⟩, cs)

def number? : Reader Node
  | '0' :: 'x' :: cs => based? 16 cs
  | '0' :: 'o' :: cs => based? 8 cs
  | '0' :: 'b' :: cs => based? 2 cs
  | cs => decimalNumber? cs

/-! ## 2. Dates and times -/

/-- A number of a fixed number of digits, within limits. -/
def field? (width low high : Nat) : Reader Nat := fun cs =>
  let digits := cs.take width
  let n := ofDigits 10 digits
  if digits.length = width ∧ digits.all (isDigitIn 10) ∧ low ≤ n ∧ n ≤ high then
    some (n, cs.drop width)
  else none

def isLeap (year : Nat) : Bool := year % 4 = 0 ∧ (year % 100 ≠ 0 ∨ year % 400 = 0)

def daysIn (year month : Nat) : Nat :=
  if month = 2 then (if isLeap year then 29 else 28)
  else if month ∈ [4, 6, 9, 11] then 30
  else 31

/-- A date; what follows it. -/
def date? (cs : List Char) : Option (List Char) := do
  let (year, cs) ← field? 4 0 9999 cs
  let cs ← expect "-" cs
  let (month, cs) ← field? 2 1 12 cs
  let cs ← expect "-" cs
  let (_, cs) ← field? 2 1 (daysIn year month) cs
  return cs

/-- A time of day, to the second or finer; what follows it.  A minute may have a leap second. -/
def clock? (cs : List Char) : Option (List Char) := do
  let (_, cs) ← field? 2 0 23 cs
  let cs ← expect ":" cs
  let (_, cs) ← field? 2 0 59 cs
  let cs ← expect ":" cs
  let (_, cs) ← field? 2 0 60 cs
  match cs with
  | '.' :: rest =>
    if (rest.head?.map (isDigitIn 10)).getD false then some (rest.dropWhile (isDigitIn 10))
    else some cs
  | cs => some cs

/-- A distance from universal time; what follows it. -/
def offset? : List Char → Option (List Char)
  | [] => none
  | c :: cs =>
    if c = 'Z' ∨ c = 'z' then some cs
    else if c = '+' ∨ c = '-' then do
      let (_, cs) ← field? 2 0 23 cs
      let cs ← expect ":" cs
      let (_, cs) ← field? 2 0 59 cs
      return cs
    else none

/-- A time of day after a date; what follows it. -/
def clockAfterDate? : List Char → Option (List Char)
  | [] => none
  | c :: cs =>
    if c = 'T' ∨ c = 't' ∨ c = ' ' then do
      let cs ← clock? cs
      return (offset? cs).getD cs
    else none

/-- A date, a time of day, or both; what follows it. -/
def time? (cs : List Char) : Option (List Char) :=
  match date? cs with
  | some cs => some ((clockAfterDate? cs).getD cs)
  | none => clock? cs

/-! ## 3. All scalars but texts -/

def scalar? : Reader Node := fun cs =>
  (expect "true" cs).map (.flag true, ·) <|>
  (expect "false" cs).map (.flag false, ·) <|>
  (time? cs).map (.time, ·) <|>
  number? cs

example : (scalar? "-9223372036854775808,".toList).map (·.2) = some [','] := by decide +kernel
example : (scalar? "9223372036854775808".toList).isNone := by decide +kernel
example : (scalar? "1979-05-27 07:32:00.5-08:00 #".toList).map (·.2) = some [' ', '#'] := by
  decide +kernel

end GpuRecorder.Document.Toml
