import GpuRecorder.Decimal.Numeral
import GpuRecorder.Document.Ron.Text
import GpuRecorder.Document.Shape

/-!
# Reading RON

A document is one value, after attributes that turn on extensions of the format.
-/

namespace GpuRecorder.Document.Ron

open Decimal (isDigitIn ofDigits fraction?)

/-- A value as it is written.  A number is kept as its numeral, because what it may be depends on
what is asked for. -/
inductive Node where
  | flag (b : Bool)
  | number (numeral : List Char)
  | infinity (negative : Bool)
  | nan
  | char (c : Char)
  | text (s : String)
  | option (content : Option Node)
  /-- A raw text with `Some` right in front of it, which together look like a name. -/
  | someRaw (s : String)
  /-- A name alone. -/
  | name (s : String)
  | record (name : Option String) (fields : List (String × Node))
  | tuple (name : Option String) (items : List Node)
  | list (items : List Node)
  | map (entries : List (Node × Node))
  deriving Inhabited

/-! ## 1. Blanks -/

/-- What is being skipped: blanks between the tokens, a comment to the end of its line, or a
comment in marks with `depth` more around it. -/
inductive Skipping where
  | blank
  | line
  | block (depth : Nat)

/-- Skip blanks and comments.  A comment in marks has to be closed. -/
def skipFrom? : Skipping → List Char → Option (List Char)
  | .blank, [] => some []
  | .line, [] => some []
  | .block _, [] => none
  | .blank, '/' :: '/' :: cs => skipFrom? .line cs
  | .blank, '/' :: '*' :: cs => skipFrom? (.block 0) cs
  | .block depth, '/' :: '*' :: cs => skipFrom? (.block (depth + 1)) cs
  | .block 0, '*' :: '/' :: cs => skipFrom? .blank cs
  | .block (depth + 1), '*' :: '/' :: cs => skipFrom? (.block depth) cs
  | .block depth, _ :: cs => skipFrom? (.block depth) cs
  | .line, c :: cs => if c = '\n' then skipFrom? .blank cs else skipFrom? .line cs
  | .blank, c :: cs =>
    if c = ' ' ∨ c = '\t' ∨ c = '\n' ∨ c = '\r' then skipFrom? .blank cs
    else if c = '/' then none
    else some (c :: cs)

def skip? : List Char → Option (List Char) := skipFrom? .blank

/-! ## 2. Names and numerals -/

def isNameStart (c : Char) : Bool := c.isAlpha || c = '_'

def isNameChar (c : Char) : Bool := c.isAlphanum || c = '_'

/-- A character of a name that is marked as raw, and of a numeral. -/
def isRawChar (c : Char) : Bool := isNameChar c || c = '.' || c = '+' || c = '-'

/-- A name, and whether it is marked as raw.  A name without the mark does not stop in front of a
character that only a raw name may hold. -/
def name? : Reader (Bool × String)
  | [] => none
  | 'r' :: '"' :: _ => none
  | 'r' :: '#' :: cs =>
    let part := cs.takeWhile isRawChar
    if part = [] then none else some ((true, String.ofList part), cs.dropWhile isRawChar)
  | ['r'] => none
  | c :: cs =>
    let rest := cs.dropWhile isNameChar
    if isNameStart c ∧ ! (rest.head?.map isRawChar).getD false then
      some ((false, String.ofList (c :: cs.takeWhile isNameChar)), rest)
    else none

/-- A natural number to the end of its numeral; underscores may stand anywhere but in front. -/
def natural? (numeral : List Char) : Option Nat :=
  let (base, digits) : Nat × List Char := match numeral with
    | '0' :: 'x' :: cs => (16, cs)
    | '0' :: 'o' :: cs => (8, cs)
    | '0' :: 'b' :: cs => (2, cs)
    | cs => (10, cs)
  let counted := digits.filter (· ≠ '_')
  if digits = [] ∨ digits.head? = some '_' ∨ !counted.all (isDigitIn base) then none
  else some (ofDigits base counted)

/-- A decimal fraction to the end of its numeral. -/
def decimal? (numeral : List Char) : Option Decimal.Fraction :=
  if '_' ∈ numeral then none else fraction? numeral

/-- A numeral that stands for a number of some type, an integer of 64 bits or a fraction. -/
def isNumeral (numeral : List Char) : Bool :=
  let integer := match numeral with
    | '-' :: cs => (natural? cs).any (· ≤ Nat.pow 2 63)
    | '+' :: cs => (natural? cs).any (· < Nat.pow 2 63)
    | cs => (natural? cs).any (· < Nat.pow 2 64)
  integer || (decimal? numeral).isSome

/-- The numerals of what is no number of digits.  Without a sign they are read as names. -/
def signedNames : List (List Char × Node) :=
  [("+inf".toList, .infinity false), ("-inf".toList, .infinity true),
   ("+NaN".toList, .nan), ("-NaN".toList, .nan)]

/-- A number, which extends as far as its characters do. -/
def number? : Reader Node := fun cs =>
  let numeral := cs.takeWhile isRawChar
  let rest := cs.dropWhile isRawChar
  match signedNames.lookup numeral with
  | some node => some (node, rest)
  | none => if isNumeral numeral then some (.number numeral, rest) else none

/-! ## 3. Values -/

/-- Items up to a closing mark, which may end with a comma. -/
def listStyle (close : Char) : ListStyle := ⟨close, true, skip?⟩

/-- Two things with a colon between them. -/
def pair? {α β : Type} (left : Reader α) (right : Reader β) : Reader (α × β) := fun cs => do
  let (a, cs) ← left cs
  let cs ← expect ":" (← skip? cs)
  let (b, cs) ← right (← skip? cs)
  return ((a, b), cs)

/-- The key of a field, raw or not. -/
def key? : Reader String := fun cs => (name? cs).map fun ((_, key), cs) => (key, cs)

/-- A field follows: a key and a colon. -/
def startsField (cs : List Char) : Bool :=
  ((do expect ":" (← skip? (← key? cs).2)) : Option (List Char)).isSome

/-- The inside of round brackets, after the opening one: fields if the first item is one, else a
tuple. -/
def bracketed? (name : Option String) (value : Reader Node) : Reader Node := fun cs => do
  let cs ← skip? cs
  if cs.head? = some ')' then return (.record name [], cs.drop 1)
  else if startsField cs then
    let (fields, cs) ← (listStyle ')').read (pair? key? value) cs
    return (.record name fields, cs)
  else
    let (items, cs) ← (listStyle ')').read value cs
    return (.tuple name items, cs)

/-- What follows `Some`, if the text starts with that word. -/
def afterSome? (cs : List Char) : Option (List Char) := do
  let rest ← expect "Some" cs
  if (rest.head?.map isNameChar).getD false then none else some rest

/-- A raw text with `Some` right in front of it. -/
def someRaw? : Reader Node := fun cs => do
  let rest ← expect "Some" cs
  if rest.head? = some 'r' then
    (readText rest).map fun (text, rest) => (.someRaw (String.ofList text), rest)
  else none

/-- The content of an option, after its `Some`: one value in round brackets or, where `Some` may
be left out, a value as it is. -/
def content? (implicitSome : Bool) (value : Reader Node) : Reader Node := fun cs => do
  let cs ← skip? cs
  if cs.head? = some '(' then
    match ← (listStyle ')').read value (cs.drop 1) with
    | ([content], cs) => return (content, cs)
    | _ => none
  else if implicitSome then value cs
  else none

/-- The values of names that are no names.  A raw name is always a name. -/
def keyword? : Bool × String → Option Node
  | (false, "true") => some (.flag true)
  | (false, "false") => some (.flag false)
  | (false, "None") => some (.option none)
  | (false, "inf") => some (.infinity false)
  | (false, "NaN") => some .nan
  | _ => none

/-- How what stands inside a value is read: the content of an option, and an item of a list, a
record or a map. -/
structure Inside where
  content : Reader Node
  item : Reader Node

/-- A value that starts with a name: a keyword, a record or a name alone. -/
def named? (inside : Option Inside) (name : Bool × String) : Reader Node := fun cs =>
  match keyword? name with
  | some node => some (node, cs)
  | none => do
    let cs ← skip? cs
    if cs.head? = some '(' then bracketed? (some name.2) (← inside).item (cs.drop 1)
    else return (.name name.2, cs)

/-- A value whose kind its first character tells.  Two brackets with nothing in them hold nothing,
so they may stand where nothing can be nested any more. -/
def marked? (inside : Option Inside) : Reader Node := fun cs =>
  match cs with
  | '(' :: ')' :: rest => some (.record none [], rest)
  | '(' :: rest => do bracketed? none (← inside).item rest
  | '[' :: rest => do
    let (items, rest) ← (listStyle ']').read (← inside).item rest
    return (.list items, rest)
  | '\x7b' :: rest => do
    let item := (← inside).item
    let (entries, rest) ← (listStyle '\x7d').read (pair? item item) rest
    return (.map entries, rest)
  | '"' :: _ | 'r' :: _ => (readText cs).map fun (text, rest) => (.text (String.ofList text), rest)
  | '\'' :: _ => (readChar cs).map fun (c, rest) => (.char c, rest)
  | _ => number? cs

/-- A value, given how to read what stands inside it, if anything may. -/
def valueAround? (implicitSome : Bool) (inside : Option Inside) : Reader Node := fun cs =>
  match afterSome? cs with
  | some rest => do
    let (content, rest) ← content? implicitSome (← inside).content rest
    return (.option (some content), rest)
  | none =>
    match if implicitSome then someRaw? cs else none with
    | some found => some found
    | none =>
      match name? cs with
      | some (name, rest) => named? inside name rest
      | none => marked? inside cs

/-- What is left to read a value inside another one: an option, a list, a record or a map takes
one level, and each item of the last three another one. -/
def value? (implicitSome : Bool) : (levels : Nat) → Reader Node
  | 0 => valueAround? implicitSome none
  | 1 => valueAround? implicitSome (some ⟨value? implicitSome 0, fun _ => none⟩)
  | levels + 2 =>
    valueAround? implicitSome
      (some ⟨value? implicitSome (levels + 1), value? implicitSome levels⟩)

/-- How deep values may be nested, in levels. -/
def levelLimit : Nat := 128

/-! ## 4. Documents -/

/-- A document: its value, and whether a text stands for itself where it may be left out. -/
structure Source where
  implicitSome : Bool
  root : Node

/-- The extensions of the format. -/
def extensions : List String := ["unwrap_newtypes", "implicit_some", "unwrap_variant_newtypes"]

/-- The extensions that the attributes in front of the value turn on. -/
def attributes? : (fuel : Nat) → Reader (List String)
  | 0, cs => some ([], cs)
  | fuel + 1, cs => do
    let cs ← skip? cs
    if cs.head? = some '#' then
      let cs ← ["#", "!", "[", "enable", "("].foldlM (fun cs text => do skip? (← expect text cs)) cs
      let (names, cs) ← (listStyle ')').items key? (cs.length + 1) cs
      let cs ← expect "]" (← skip? cs)
      let (more, cs) ← attributes? fuel cs
      if names.all (· ∈ extensions) then return (names ++ more, cs) else none
    else return ([], cs)

/-- The value of a document.  Nothing but blanks may follow it. -/
def read? (text : String) : Option Source := do
  let cs := text.toList
  let (names, cs) ← attributes? (cs.length + 1) cs
  let implicitSome := names.contains "implicit_some"
  let (root, cs) ← value? implicitSome levelLimit cs
  if (← skip? cs) = [] then return ⟨implicitSome, root⟩ else none

example : (read? "Table(a: [1, 0x1_F,], /* c */ b: (), r#c.d: -inf)").isSome := by decide +kernel
-- A value without brackets follows `Some` only where `Some` may be left out.
example : (read? "(a: Some 5)").isNone ∧
    (read? "#![enable(implicit_some)] (a: Some 5)").isSome := by decide +kernel

/-! ## 5. Nodes as values -/

def word? : Node → Option UInt32
  | .number numeral => do
    let n ← natural? numeral
    if n < UInt32.size then some (.ofNat n) else none
  | _ => none

/-- The number nearest to a fraction, rounded once. -/
def number : Node → Option Binary.Single
  | .number numeral => (decimal? numeral).map fun f => ⟨.ofNat (f.nearest Binary.single)⟩
  | .infinity negative => some (.ofValue (.infinite negative))
  | .nan => some .nan
  | _ => none

def text? (implicitSome : Bool) : Node → Option (Option String)
  | .option none => some none
  | .option (some (.text s)) | .someRaw s => some (some s)
  | .text s => if implicitSome then some (some s) else none
  | _ => none

mutual

/-- A value may stand where nobody asks for it.  A raw text with `Some` right in front of it may
not, because only who asks for a text that may be left out tells it from a name. -/
def Node.isIgnorable : Node → Bool
  | .someRaw _ => false
  | .option (some content) => content.isIgnorable
  | .record _ fields => areIgnorableFields fields
  | .tuple _ items => areIgnorableItems items
  | .list items => areIgnorableItems items
  | .map entries => areIgnorableEntries entries
  | _ => true

def areIgnorableItems : List Node → Bool
  | [] => true
  | item :: items => item.isIgnorable && areIgnorableItems items

def areIgnorableFields : List (String × Node) → Bool
  | [] => true
  | (_, value) :: fields => value.isIgnorable && areIgnorableFields fields

def areIgnorableEntries : List (Node × Node) → Bool
  | [] => true
  | (key, value) :: entries =>
    key.isIgnorable && value.isIgnorable && areIgnorableEntries entries

end

/-- The fields of a record, which has the right name or none.  A field whose key is not known
holds a value that may be ignored. -/
def entries? (name : String) (known : List String) : Node → Option (List (String × Node))
  | .record given fields =>
    if given.all (· = name) ∧ fields.all fun (key, value) => key ∈ known || value.isIgnorable then
      some fields
    else none
  | _ => none

def view (implicitSome : Bool) : View Node where
  flag | .flag b => some b | _ => none
  word := word?
  single := number
  text := text? implicitSome
  choice | .name s => some s | _ => none
  entries := entries?

end GpuRecorder.Document.Ron
