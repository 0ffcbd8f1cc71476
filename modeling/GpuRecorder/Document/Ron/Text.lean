import GpuRecorder.Document.Scan
import GpuRecorder.Text.Printable

/-!
# Quoted text in RON

A text stands between quotes with escapes, or as it is after an `r`, between a quote and a quote
with as many number signs as were put in front.  It is written in the first way, every character
that is not printable by its number.
-/

namespace GpuRecorder.Document.Ron

/-! ## 1. Reading -/

/-- The characters whose escape is a letter, a digit or a mark. -/
def shortEscape? : Char → Option Char
  | '\'' => some '\''
  | '"' => some '"'
  | '\\' => some '\\'
  | 'n' => some '\n'
  | 'r' => some '\r'
  | 't' => some '\t'
  | '0' => some '\x00'
  | _ => none

/-- The character of an escape, after its backslash: any character can be given by one to six
hexadecimal digits in braces, the first 256 also by two. -/
def escaped? : Reader Char
  | 'x' :: a :: b :: cs => (charOfHex? [a, b]).map (·, cs)
  | 'u' :: '\x7b' :: cs =>
    let digits := cs.takeWhile (Decimal.isDigitIn 16)
    match cs.dropWhile (Decimal.isDigitIn 16) with
    | '\x7d' :: rest =>
      if 0 < digits.length ∧ digits.length ≤ 6 then (charOfHex? digits).map (·, rest) else none
    | _ => none
  | c :: cs => (shortEscape? c).map (·, cs)
  | [] => none

/-- One character or escape.  A text may go over many lines. -/
def unit : Reader (List Char)
  | [] => none
  | c :: cs =>
    if c = '\\' then (escaped? cs).map fun (c, rest) => ([c], rest) else some ([c], cs)

/-- A text without escapes, after its `r`. -/
def readRaw : Reader (List Char) := fun cs => do
  let hashes := cs.takeWhile (· = '#')
  let cs ← expect "\"" (cs.drop hashes.length)
  let ending : Reader (List Char) := fun cs =>
    (('"' :: hashes).isPrefixOf? cs).map fun rest => ([], rest)
  readUnits ending (fun cs => cs.head?.map fun c => ([c], cs.drop 1)) cs

def readText : Reader (List Char)
  | '"' :: cs => readUnits (endAt '"') unit cs
  | 'r' :: cs => readRaw cs
  | _ => none

/-- A single character between single quotes. -/
def readChar : Reader Char
  | '\'' :: '\\' :: cs => do
    let (c, cs) ← escaped? cs
    return (c, ← expect "\x27" cs)
  | '\'' :: c :: '\'' :: cs => if c = '\'' then none else some (c, cs)
  | _ => none

/-! ## 2. Writing -/

/-- The hexadecimal digit of a number below sixteen. -/
def hexDigit (n : Nat) : Char := if n < 10 then Char.ofNat (n + 48) else Char.ofNat (n + 87)

/-- A hexadecimal numeral, without leading zeros. -/
def hexChars (n : Nat) : List Char :=
  if n < 16 then [hexDigit n] else hexChars (n / 16) ++ [hexDigit (n % 16)]
  termination_by n
  decreasing_by exact Nat.div_lt_self (by omega) (by omega)

/-- A character inside a text. -/
def escape (c : Char) : List Char :=
  if c = '\x00' then ['\\', '0']
  else if c = '\t' then ['\\', 't']
  else if c = '\r' then ['\\', 'r']
  else if c = '\n' then ['\\', 'n']
  else if c = '\'' ∨ c = '"' ∨ c = '\\' then ['\\', c]
  else if Text.isPrintable c then [c]
  else ['\\', 'u', '\x7b'] ++ hexChars c.toNat ++ ['\x7d']

def quote (cs : List Char) : List Char := ['"'] ++ cs.flatMap escape ++ ['"']

end GpuRecorder.Document.Ron
