import GpuRecorder.Decimal.Digits

/-!
# Scanning — readers that both document formats share

A reader takes what it reads from the front of the text and gives back the rest, or refuses.
-/

namespace GpuRecorder.Document

/-- Takes what it reads from the front of the text. -/
abbrev Reader (α : Type) := List Char → Option (α × List Char)

/-- Take a fixed text from the front. -/
def expect (text : String) (cs : List Char) : Option (List Char) :=
  text.toList.isPrefixOf? cs

theorem isPrefixOf?_nil_left (cs : List Char) : [].isPrefixOf? cs = some cs := rfl

theorem isPrefixOf?_cons_nil (c : Char) (text : List Char) :
    (c :: text).isPrefixOf? [] = none := rfl

theorem isPrefixOf?_cons_cons (c d : Char) (text cs : List Char) :
    (c :: text).isPrefixOf? (d :: cs) = if c == d then text.isPrefixOf? cs else none := rfl

/-- The character whose number is written in hexadecimal, if there is such a character. -/
def charOfHex? (digits : List Char) : Option Char :=
  let n := Decimal.ofDigits 16 digits
  if digits.all (Decimal.isDigitIn 16) ∧ n.isValidChar then some (Char.ofNat n) else none

example : charOfHex? ['e', '9'] = some 'é' := by decide
-- Half of a surrogate pair is not a character.
example : charOfHex? ['D', '8', '0', '0'] = none := by decide

/-- Put a character in front of what was read. -/
def push (c : Char) : Option (List Char × List Char) → Option (List Char × List Char) :=
  Option.map fun (text, rest) => (c :: text, rest)

/-! ## 1. Text in units -/

/-- Read one unit of a text after the other until `ending` finds its end, which may still
contribute to the text.  A unit takes at least one character. -/
def readUnits (ending unit : Reader (List Char)) (cs : List Char) :
    Option (List Char × List Char) :=
  match ending cs with
  | some found => some found
  | none =>
    match unit cs with
    | none => none
    | some (text, rest) =>
      if _h : rest.length < cs.length then
        (readUnits ending unit rest).map fun (more, rest) => (text ++ more, rest)
      else none
termination_by cs.length

theorem readUnits_of_ending {ending unit : Reader (List Char)} {cs : List Char}
    {found : List Char × List Char} (h : ending cs = some found) :
    readUnits ending unit cs = some found := by
  rw [readUnits, h]

theorem readUnits_of_unit {ending unit : Reader (List Char)} {cs text rest : List Char}
    (hending : ending cs = none) (hunit : unit cs = some (text, rest))
    (hrest : rest.length < cs.length) :
    readUnits ending unit cs =
      (readUnits ending unit rest).map fun (more, rest) => (text ++ more, rest) := by
  rw [readUnits, hending]
  simp only [hunit]
  rw [dif_pos hrest]

theorem length_lt_cons_cons (a b : Char) (rest : List Char) :
    rest.length < (a :: b :: rest).length := by
  simp only [List.length_cons]
  omega

/-- What follows an escape of two characters or more is shorter than it. -/
theorem length_lt_escape (a b : Char) (cs rest : List Char) :
    rest.length < (a :: b :: (cs ++ rest)).length := by
  simp only [List.length_cons, List.length_append]
  omega

/-- The end of a text at one closing character. -/
def endAt (quote : Char) : Reader (List Char)
  | [] => none
  | c :: cs => if c = quote then some ([], cs) else none

/-- A character of a class is none of those outside it. -/
theorem ne_of_class {p : Char → Bool} {c d : Char} (hc : p c = true) (hd : p d = false) :
    c ≠ d := by
  rintro rfl
  exact absurd hc (by simp [hd])

/-- Characters of a class, and those after them. -/
theorem takeWhile_dropWhile_append {p : Char → Bool} {cs : List Char} (h : ∀ c ∈ cs, p c = true)
    {d : Char} (hd : p d = false) (rest : List Char) :
    (cs ++ d :: rest).takeWhile p = cs ∧ (cs ++ d :: rest).dropWhile p = d :: rest := by
  induction cs with
  | nil => simp [hd]
  | cons c cs ih =>
    have := ih fun c hc => h c (by simp [hc])
    simp [h c (by simp), this]

/-! ## 2. Items with commas between them -/

/-- How a format writes a list of items: what stands between them is skipped by `skip`, the list
ends with `close`, and a comma may or may not stand before the end. -/
structure ListStyle where
  close : Char
  trailingComma : Bool
  skip : List Char → Option (List Char)

/-- One item or more, up to the end of the list. -/
def ListStyle.items {α : Type} (style : ListStyle) (item : Reader α) :
    (fuel : Nat) → Reader (List α)
  | 0, _ => none
  | fuel + 1, cs => do
    let (x, cs) ← item cs
    match ← style.skip cs with
    | ',' :: cs =>
      let cs ← style.skip cs
      if style.trailingComma ∧ cs.head? = some style.close then some ([x], cs.drop 1)
      else
        let (xs, cs) ← style.items item fuel cs
        some (x :: xs, cs)
    | c :: cs => if c = style.close then some ([x], cs) else none
    | [] => none

/-- The items of a list, after its opening.  Each item and the comma after it take at least one
character, so the length of the text bounds their number. -/
def ListStyle.read {α : Type} (style : ListStyle) (item : Reader α) (cs : List Char) :
    Option (List α × List Char) := do
  let cs ← style.skip cs
  if cs.head? = some style.close then some ([], cs.drop 1)
  else style.items item (cs.length + 1) cs

end GpuRecorder.Document
