import GpuRecorder.Document.Shape
import GpuRecorder.Document.Toml.Scalar
import GpuRecorder.Document.Toml.Text

/-!
# Reading TOML

A document is a sequence of lines; each is a header, an entry or blank.  `read?` gives the entries
of the root table.
-/

namespace GpuRecorder.Document.Toml

/-! ## 1. Blanks -/

def skipSpaces (cs : List Char) : List Char := cs.dropWhile fun c => c = ' ' ∨ c = '\t'

/-- Skip blanks, line ends and comments; `comment` says that one has begun. -/
def skipBlank : (comment : Bool) → List Char → List Char
  | _, [] => []
  | _, '\r' :: '\n' :: cs => skipBlank false cs
  | comment, c :: cs =>
    if c = '\n' then skipBlank false cs
    else if comment then (if isControl c then c :: cs else skipBlank true cs)
    else if c = ' ' ∨ c = '\t' then skipBlank false cs
    else if c = '#' then skipBlank true cs
    else c :: cs

/-- The end of a line, with a comment before it or without; what follows it. -/
def endLine? (cs : List Char) : Option (List Char) :=
  let cs := skipSpaces cs
  let cs := if cs.head? = some '#' then cs.dropWhile (! isControl ·) else cs
  match cs with
  | [] => some []
  | '\n' :: cs => some cs
  | '\r' :: '\n' :: cs => some cs
  | _ => none

/-! ## 2. Keys -/

/-- A character of a key without quotes. -/
def isKeyChar (c : Char) : Bool := c.isAlphanum || c = '-' || c = '_'

/-- One part of a key. -/
def keyPart? (cs : List Char) : Option (String × List Char) :=
  match readQuoted cs with
  | some (text, cs) => some (String.ofList text, cs)
  | none =>
    let part := cs.takeWhile isKeyChar
    if part = [] then none else some (String.ofList part, cs.dropWhile isKeyChar)

/-- Keys have fewer parts than this, and values are nested less deep. -/
def nestingLimit : Nat := 80

/-- A key of at most `parts` parts with dots between them: all but the last, and the last. -/
def key? : (parts : Nat) → Reader (List String × String)
  | 0, _ => none
  | parts + 1, cs => do
    let (part, cs) ← keyPart? (skipSpaces cs)
    match skipSpaces cs with
    | '.' :: cs =>
      let ((path, last), cs) ← key? parts cs
      return ((part :: path, last), cs)
    | cs => return (([], part), cs)

/-! ## 3. Values -/

/-- An array may be written over many lines and end with a comma. -/
def arrayStyle : ListStyle := ⟨']', true, fun cs => some (skipBlank false cs)⟩

/-- A table in braces stands on one line and does not end with a comma. -/
def inlineStyle : ListStyle := ⟨'}', false, fun cs => some (skipSpaces cs)⟩

/-- A key and its value, the value read by `value`. -/
def assignment? (value : Reader Node) : Reader ((List String × String) × Node) := fun cs => do
  let (key, cs) ← key? (nestingLimit - 1) cs
  let cs ← expect "=" cs
  let (node, cs) ← value (skipSpaces cs)
  return ((key, node), cs)

/-- A table in braces from its entries. -/
def inlineTable? (pairs : List ((List String × String) × Node)) : Option Node := do
  let entries ← pairs.foldlM (fun entries ((path, key), node) =>
    Entries.insert? path key node .inline entries) []
  return .table .inline entries

/-- A value in which arrays and tables are nested at most `depth` deep. -/
def value? : (depth : Nat) → Reader Node
  | _, [] => none
  | depth, c :: cs =>
    if c = '[' then
      match depth with
      | 0 => none
      | depth + 1 => do
        let (items, cs) ← arrayStyle.read (value? depth) cs
        return (.list items, cs)
    else if c = '\x7b' then
      match depth with
      | 0 => none
      | depth + 1 => do
        let (pairs, cs) ← inlineStyle.read (assignment? (value? depth)) cs
        return (← inlineTable? pairs, cs)
    else if c = '"' ∨ c = '\'' then do
      let (text, cs) ← readText (c :: cs)
      return (.text (String.ofList text), cs)
    else scalar? (c :: cs)

/-! ## 4. Lines -/

/-- The root table as far as it has been read, and the path of the table that is open. -/
structure Progress where
  root : Entries := []
  path : List String := []

/-- A header, with the brackets around it: its key, and what follows. -/
def header? (opening closing : String) (cs : List Char) :
    Option ((List String × String) × List Char) := do
  let cs ← expect opening cs
  let (key, cs) ← key? (nestingLimit - 1) cs
  return (key, ← expect closing cs)

/-- What stands on a line in front of its end; what follows it. -/
def statement? (p : Progress) (cs : List Char) : Option (Progress × List Char) :=
  match skipSpaces cs with
  | '[' :: '[' :: _ => do
    let ((path, key), cs) ← header? "[[" "]]" (skipSpaces cs)
    return (⟨← p.root.openNext? path key, path ++ [key]⟩, cs)
  | '[' :: _ => do
    let ((path, key), cs) ← header? "[" "]" (skipSpaces cs)
    return (⟨← p.root.open? path key, path ++ [key]⟩, cs)
  | c :: cs =>
    if c = '#' ∨ c = '\n' ∨ c = '\r' then some (p, c :: cs)
    else do
      let (((path, key), node), cs) ← assignment? (value? (nestingLimit - 1)) (c :: cs)
      let root ← p.root.alter false (Entries.insert? path key node) p.path .header
      return ({ p with root }, cs)
  | [] => some (p, [])

/-- All lines.  Each takes at least one character, so the length of the text bounds their
number. -/
def lines? : (fuel : Nat) → Progress → List Char → Option Entries
  | _, p, [] => some p.root
  | 0, _, _ :: _ => none
  | fuel + 1, p, c :: cs => do
    let (p, rest) ← statement? p (c :: cs)
    lines? fuel p (← endLine? rest)

/-- The root table of a document.  A byte order mark in front is skipped. -/
def read? (text : String) : Option Node := do
  let cs := match text.toList with
    | '\ufeff' :: cs => cs
    | cs => cs
  return .table .header (← lines? (cs.length + 1) {} cs)

/-! ## 5. Nodes as values -/

/-- The value of an integer or a fraction in single precision.  A fraction is rounded twice, to
the 64-bit format when it is read and here. -/
def single? : Node → Option Binary.Single
  | .integer i => some (.ofInt i)
  | .decimal bits => some (.ofValue (Binary.double.decode bits))
  | _ => none

/-- The entries of a record.  An array gives its items to the fields in turn. -/
def entries? (keys : List String) : Node → Option Entries
  | .table _ entries => some entries
  | .list items => some (keys.zip items)
  | .tables earlier last => some (keys.zip (earlier ++ [.table .header last]))
  | .time => some []
  | _ => none

/-- The name of a choice is the one key of a table, over an empty array or table. -/
def choice? : Node → Option String
  | .table _ [(name, .table _ [])] => some name
  | .table _ [(name, .list [])] => some name
  | _ => none

def view : View Node where
  flag | .flag b => some b | _ => none
  word | .integer i => if 0 ≤ i ∧ i < UInt32.size then some (.ofNat i.toNat) else none | _ => none
  single := single?
  text | .text s => some (some s) | _ => none
  choice := choice?
  entries _ keys node := entries? keys node

end GpuRecorder.Document.Toml
