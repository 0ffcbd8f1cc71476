import GpuRecorder.Document.Scan

/-!
# Quoted text in TOML

Four ways to quote a text: basic and literal strings on one line, and both over many lines.  A
literal string holds its characters as they are, a basic one has escapes.  `quote` chooses the
plainest way that needs no escape.
-/

namespace GpuRecorder.Document.Toml

/-- A control character, which stands in no text as it is.  The tab is not one of them. -/
def isControl (c : Char) : Bool := c ≠ '\t' ∧ (c.toNat < 0x20 ∨ c.toNat = 0x7f)

/-! ## 1. Reading -/

/-- The characters whose escape is a letter or a mark. -/
def shortEscape? : Char → Option Char
  | 'b' => some '\x08'
  | 't' => some '\t'
  | 'n' => some '\n'
  | 'f' => some '\x0c'
  | 'r' => some '\r'
  | '"' => some '"'
  | '\\' => some '\\'
  | _ => none

/-- The character of an escape, after its backslash: any character can be given by its number, in
four or in eight digits. -/
def escaped? : Reader Char
  | 'u' :: a :: b :: c :: d :: cs => (charOfHex? [a, b, c, d]).map (·, cs)
  | 'U' :: a :: b :: c :: d :: e :: f :: g :: h :: cs =>
    (charOfHex? [a, b, c, d, e, f, g, h]).map (·, cs)
  | c :: cs => (shortEscape? c).map (·, cs)
  | [] => none

/-- One character of a literal string. -/
def literalUnit : Reader (List Char)
  | [] => none
  | c :: cs => if isControl c then none else some ([c], cs)

/-- One character or escape of a basic string. -/
def basicUnit : Reader (List Char)
  | [] => none
  | c :: cs =>
    if c = '\\' then (escaped? cs).map fun (c, rest) => ([c], rest)
    else literalUnit (c :: cs)

/-- Skip blanks and line ends. -/
def skipLines : List Char → List Char
  | '\r' :: '\n' :: cs => skipLines cs
  | c :: cs => if c = ' ' ∨ c = '\t' ∨ c = '\n' then skipLines cs else c :: cs
  | [] => []

/-- A backslash at the end of a line joins it with the next text: what follows the join. -/
def joined? (cs : List Char) : Option (List Char) :=
  match cs.dropWhile fun c => c = ' ' ∨ c = '\t' with
  | '\n' :: rest => some (skipLines rest)
  | '\r' :: '\n' :: rest => some (skipLines rest)
  | _ => none

/-- A unit of a text of many lines.  A line end is one character however it is written, and a
joined line gives none. -/
def linesUnit (unit : Reader (List Char)) (joins : Bool) : Reader (List Char)
  | [] => none
  | c :: cs =>
    if c = '\n' then some (['\n'], cs)
    else if c = '\r' ∧ cs.head? = some '\n' then some (['\n'], cs.drop 1)
    else if joins ∧ c = '\\' then
      match joined? cs with
      | some rest => some ([], rest)
      | none => unit (c :: cs)
    else unit (c :: cs)

/-- Three quotes close a text of many lines; one or two in front of them belong to the text. -/
def closing? (quote : Char) : List Char → Option (List Char × List Char)
  | a :: b :: c :: cs =>
    if a = quote ∧ b = quote ∧ c = quote then
      let extra := (cs.take 2).takeWhile (· = quote)
      some (extra, cs.drop extra.length)
    else none
  | _ => none

/-- A line end directly after the opening quotes is not part of the text. -/
def dropLineEnd : List Char → List Char
  | '\n' :: cs => cs
  | '\r' :: '\n' :: cs => cs
  | cs => cs

/-- A text on one line. -/
def readQuoted : Reader (List Char)
  | '"' :: cs => readUnits (endAt '"') basicUnit cs
  | '\'' :: cs => readUnits (endAt '\'') literalUnit cs
  | _ => none

/-- A text quoted in any of the four ways. -/
def readText : Reader (List Char) := fun cs =>
  match expect "\"\"\"" cs, expect "\x27\x27\x27" cs with
  | some rest, _ => readUnits (closing? '"') (linesUnit basicUnit true) (dropLineEnd rest)
  | none, some rest => readUnits (closing? '\'') (linesUnit literalUnit false) (dropLineEnd rest)
  | none, none => readQuoted cs

/-! ## 2. Writing -/

/-- Three of a character in a row. -/
def hasTriple (quote : Char) : List Char → Bool
  | a :: b :: c :: cs => (a = quote && b = quote && c = quote) || hasTriple quote (b :: c :: cs)
  | _ => false

/-- The hexadecimal digit of a number below sixteen. -/
def hexDigit (n : Nat) : Char := if n < 10 then Char.ofNat (n + 48) else Char.ofNat (n + 55)

/-- A character other than a quote inside a basic string. -/
def escape (keepLineEnd : Bool) (c : Char) : List Char :=
  if c = '\x08' then ['\\', 'b']
  else if c = '\t' then ['\\', 't']
  else if c = '\n' then (if keepLineEnd then ['\n'] else ['\\', 'n'])
  else if c = '\x0c' then ['\\', 'f']
  else if c = '\r' then ['\\', 'r']
  else if c = '\\' then ['\\', '\\']
  else if isControl c then ['\\', 'u', '0', '0', hexDigit (c.toNat / 16), hexDigit (c.toNat % 16)]
  else [c]

/-- The inside of a basic string.  Up to `free` quotes in a row stand as they are; `run` counts
those that were just written. -/
def escapeAll (keepLineEnd : Bool) (free : Nat) : (run : Nat) → List Char → List Char
  | _, [] => []
  | run, c :: cs =>
    if c = '"' then
      if run < free then c :: escapeAll keepLineEnd free (run + 1) cs
      else '\\' :: c :: escapeAll keepLineEnd free 0 cs
    else escape keepLineEnd c ++ escapeAll keepLineEnd free 0 cs

def quoteBasic (cs : List Char) : List Char := ['"'] ++ escapeAll false 0 0 cs ++ ['"']

def quoteLiteral (cs : List Char) : List Char := ['\''] ++ cs ++ ['\'']

/-- A text with line ends starts on a line of its own. -/
def lineStart (cs : List Char) : List Char := if cs.contains '\n' then ['\n'] else []

def quoteBasicLines (cs : List Char) : List Char :=
  ['"', '"', '"'] ++ lineStart cs ++ escapeAll true 2 0 cs ++ ['"', '"', '"']

def quoteLiteralLines (cs : List Char) : List Char :=
  ['\'', '\'', '\''] ++ lineStart cs ++ cs ++ ['\'', '\'', '\'']

/-- A text in the first way that holds it without an escape: basic, literal, basic over many
lines, literal over many lines.  If there is none it is basic, over many lines if it has any. -/
def quote (cs : List Char) : List Char :=
  let plain := !cs.any fun c => isControl c && c != '\n'
  let oneLine := !cs.contains '\n'
  let noBackslash := !cs.contains '\\'
  if plain && oneLine && noBackslash && !cs.contains '"' then quoteBasic cs
  else if plain && oneLine && !cs.contains '\'' then quoteLiteral cs
  else if plain && noBackslash && !hasTriple '"' cs then quoteBasicLines cs
  else if plain && !hasTriple '\'' cs then quoteLiteralLines cs
  else if oneLine then quoteBasic cs
  else quoteBasicLines cs

end GpuRecorder.Document.Toml
