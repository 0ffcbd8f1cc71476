import GpuRecorder.Document.Ron.Reader
import GpuRecorder.Document.Ron.TextRoundTrip
import GpuRecorder.Document.Ron.Writer
import Mathlib.Data.List.TakeWhile

/-!
# Values in RON

What is written for people to read is read back as the node that `Node.ofValue` gives.  A value is
read from wherever it stands, up to a character that neither a name nor a numeral goes on with
(`Stops`); that is what lets the fields of a record follow one another.  Records may be as deep as
the reader's levels allow, which `isReadable` counts as the reader does.
-/

namespace GpuRecorder.Document.Ron

open Decimal (decimalChars isDigitIn ofDigits)

/-! ## 1. Blanks and names -/

/-- Characters that are skipped between tokens, or that may begin a comment. -/
def isSkipped (c : Char) : Bool := c = ' ' || c = '\t' || c = '\n' || c = '\r' || c = '/'

theorem skip?_of_token {c : Char} (h : isSkipped c = false) (cs : List Char) :
    skip? (c :: cs) = some (c :: cs) := by
  simp only [isSkipped, Bool.or_eq_false_iff, decide_eq_false_iff_not] at h
  unfold skip? skipFrom?
  split <;> simp_all

theorem skip?_blank {c : Char} (h : c = ' ' ∨ c = '\n') (cs : List Char) :
    skip? (c :: cs) = skip? cs := by
  rcases h with rfl | rfl <;> rfl

theorem skip?_replicate (n : Nat) (cs : List Char) :
    skip? (List.replicate n ' ' ++ cs) = skip? cs := by
  induction n with
  | zero => rfl
  | succ n ih => rw [List.replicate_succ, List.cons_append, skip?_blank (.inl rfl), ih]

theorem skip?_lineBreak (depth : Nat) (cs : List Char) :
    skip? (Layout.indented.lineBreak depth ++ cs) = skip? cs := by
  rw [Layout.lineBreak, List.cons_append, skip?_blank (.inr rfl), skip?_replicate]

/-- Neither a name nor a numeral goes on. -/
def Stops (cs : List Char) : Prop := ∀ c ∈ cs.head?, isRawChar c = false

theorem stops_cons {c : Char} (h : isRawChar c = false) (cs : List Char) : Stops (c :: cs) := by
  rintro d hd
  rwa [← Option.mem_some.1 hd]

theorem isRawChar_of_isNameChar {c : Char} (h : isNameChar c = true) : isRawChar c = true := by
  simp [isRawChar, h]

/-- A run of characters, up to where it stops. -/
theorem takeWhile_append_of_stops {p : Char → Bool} {cs rest : List Char}
    (h : ∀ c ∈ cs, p c = true) (hrest : ∀ c ∈ rest.head?, p c = false) :
    (cs ++ rest).takeWhile p = cs ∧ (cs ++ rest).dropWhile p = rest := by
  cases rest with
  | nil =>
    rw [List.append_nil]
    exact ⟨List.takeWhile_eq_self_iff.2 h, List.dropWhile_eq_nil_iff.2 h⟩
  | cons d rest => exact takeWhile_dropWhile_append h (hrest d rfl) rest

theorem Stops.name {cs : List Char} (h : Stops cs) : ∀ c ∈ cs.head?, isNameChar c = false := by
  intro c hc
  by_contra hname
  rw [Bool.not_eq_false] at hname
  exact absurd (isRawChar_of_isNameChar hname) (by simp [h c hc])

/-- A name that is not marked as raw.  After an `r` alone something else has to come. -/
theorem name?_append {c : Char} (cs : List Char) {rest : List Char} (hstart : isNameStart c = true)
    (hname : cs.all isNameChar = true) (hrest : Stops rest)
    (hr : c = 'r' → ∃ d ds, cs ++ rest = d :: ds ∧ d ≠ '"' ∧ d ≠ '#') :
    name? (c :: cs ++ rest) = some ((false, String.ofList (c :: cs)), rest) := by
  obtain ⟨htake, hdrop⟩ := takeWhile_append_of_stops (List.all_eq_true.1 hname) hrest.name
  have hstops : (rest.head?.map isRawChar).getD false = false := by
    cases hhead : rest.head? with
    | none => rfl
    | some d => exact hrest d hhead
  rw [List.cons_append]
  unfold name?
  -- Raw names and texts come first: what follows the `r` of this name begins none of them.
  split
  · simp_all
  · obtain ⟨d, ds, heq, hd, _⟩ := hr (by simp_all)
    simp_all
  · obtain ⟨d, ds, heq, _, hd⟩ := hr (by simp_all)
    simp_all
  · obtain ⟨d, ds, heq, _⟩ := hr (by simp_all)
    simp_all
  · rename_i heq
    obtain ⟨rfl, rfl⟩ := List.cons.inj heq
    simp [hstart, htake, hdrop, hstops]

/-- What a record may have for a key. -/
def isKey (key : String) : Bool :=
  match key.toList with
  | [] => false
  | c :: cs => isNameStart c && cs.all isNameChar

theorem name?_key {key : String} (h : isKey key = true) (cs : List Char) :
    name? (key.toList ++ ':' :: cs) = some ((false, key), ':' :: cs) := by
  unfold isKey at h
  split at h
  · cases h
  · rename_i c name heq
    obtain ⟨hstart, hname⟩ := Bool.and_eq_true_iff.1 h
    have hkey : String.ofList (c :: name) = key := by rw [← heq, String.ofList_toList]
    rw [heq, name?_append name hstart hname (stops_cons (by decide) _), hkey]
    rintro -
    cases name with
    | nil => exact ⟨':', cs, rfl, by decide, by decide⟩
    | cons d ds =>
      have hd := List.all_eq_true.1 hname d List.mem_cons_self
      exact ⟨d, ds ++ ':' :: cs, rfl, ne_of_class hd (by decide), ne_of_class hd (by decide)⟩

/-- A key is a token. -/
theorem skip?_key {key : String} (h : isKey key = true) (cs : List Char) :
    skip? (key.toList ++ cs) = some (key.toList ++ cs) := by
  unfold isKey at h
  split at h
  · cases h
  · rename_i c name heq
    rw [heq]
    refine skip?_of_token ?_ _
    by_contra hskipped
    rw [Bool.not_eq_false] at hskipped
    have hstart := (Bool.and_eq_true_iff.1 h).1
    simp only [isSkipped, Bool.or_eq_true, decide_eq_true_eq] at hskipped
    obtain (((rfl | rfl) | rfl) | rfl) | rfl := hskipped <;> exact absurd hstart (by decide)

/-! ## 2. Numerals -/

theorem natural?_of_digits {ds : List Char} (hne : ds ≠ []) (h : ∀ c ∈ ds, isDigitIn 10 c = true) :
    natural? ds = some (ofDigits 10 ds) := by
  have hother {c : Char} (hc : isDigitIn 10 c = false) : c ∉ ds := fun hmem =>
    absurd (h c hmem) (by simp [hc])
  have hcounted : ds.filter (· ≠ '_') = ds :=
    List.filter_eq_self.2 fun c hc => by
      rw [decide_eq_true_eq]
      rintro rfl
      exact hother (by decide) hc
  have hall : ds.all (isDigitIn 10) = true := List.all_eq_true.2 h
  have hhead : ds.head? ≠ some '_' := fun hhead =>
    hother (by decide : isDigitIn 10 '_' = false) (List.mem_of_mem_head? hhead)
  unfold natural?
  split
  rename_i base digits hbase
  -- Another base is marked by a letter after the first digit.
  have hdecimal : (base, digits) = (10, ds) := by
    rw [← hbase]
    split
    · exact absurd (List.mem_cons_of_mem _ List.mem_cons_self) (hother (c := 'x') (by decide))
    · exact absurd (List.mem_cons_of_mem _ List.mem_cons_self) (hother (c := 'o') (by decide))
    · exact absurd (List.mem_cons_of_mem _ List.mem_cons_self) (hother (c := 'b') (by decide))
    · rfl
  obtain ⟨rfl, rfl⟩ := Prod.mk.inj hdecimal
  dsimp only
  rw [hcounted, if_neg]
  simp [hne, hhead, hall]

/-- A numeral ends where it stops and stands for a number of 64 bits. -/
theorem number?_decimalChars {n : Nat} (h : n < Nat.pow 2 64) {rest : List Char}
    (hrest : Stops rest) :
    number? (decimalChars n ++ rest) = some (.number (decimalChars n), rest) := by
  have hdigits : ∀ c ∈ decimalChars n, isDigitIn 10 c = true := fun _ hc =>
    Decimal.isDigitIn_of_mem_decimalChars hc
  have hnone {c : Char} (hc : isDigitIn 10 c = false) {cs : List Char} :
      decimalChars n ≠ c :: cs := by
    intro heq
    exact absurd (hdigits c (heq ▸ List.mem_cons_self)) (by simp [hc])
  have hraw : ∀ c ∈ decimalChars n, isRawChar c = true := by
    intro c hc
    have hdigit := Decimal.isDigit_of_isDigitIn (hdigits c hc)
    exact isRawChar_of_isNameChar (by simp [isNameChar, Char.isAlphanum, hdigit])
  have hnatural := natural?_of_digits (Decimal.decimalChars_ne_nil n) hdigits
  rw [Decimal.ofDigits_decimalChars] at hnatural
  have hnumeral : isNumeral (decimalChars n) = true := by
    unfold isNumeral
    split
    · exact absurd ‹_› (hnone (by decide))
    · exact absurd ‹_› (hnone (by decide))
    · rw [hnatural]
      simp [h]
  have hsigned : signedNames.lookup (decimalChars n) = none := by
    rw [List.lookup_eq_none_iff]
    intro entry hentry
    simp only [signedNames, List.mem_cons, List.not_mem_nil, or_false] at hentry
    rcases hentry with rfl | rfl | rfl | rfl <;>
    · rw [bne_iff_ne]
      exact hnone (by decide)
  obtain ⟨htake, hdrop⟩ := takeWhile_append_of_stops hraw hrest
  simp only [number?, htake, hdrop, hsigned, hnumeral, if_true]

/-! ## 3. Values by their first character -/

/-- What may stand inside a value, by the levels that are left. -/
def insideOf : Nat → Option Inside
  | 0 => none
  | 1 => some ⟨value? false 0, fun _ => none⟩
  | levels + 2 => some ⟨value? false (levels + 1), value? false levels⟩

theorem value?_eq (levels : Nat) : value? false levels = valueAround? false (insideOf levels) := by
  match levels with
  | 0 => rfl
  | 1 => rfl
  | levels + 2 => rfl

theorem afterSome?_of_ne {c : Char} (h : c ≠ 'S') (cs : List Char) :
    afterSome? (c :: cs) = none := by
  have hhead : ('S' == c) = false := by simpa using Ne.symm h
  simp [afterSome?, expect, isPrefixOf?_cons_cons, hhead]

theorem valueAround?_named {inside : Option Inside} {c : Char} {cs rest : List Char}
    {name : Bool × String} (h : c ≠ 'S') (hname : name? (c :: cs) = some (name, rest)) :
    valueAround? false inside (c :: cs) = named? inside name rest := by
  simp [valueAround?, afterSome?_of_ne h, hname]

theorem valueAround?_marked {inside : Option Inside} {c : Char} (h : isNameStart c = false)
    (cs : List Char) : valueAround? false inside (c :: cs) = marked? inside (c :: cs) := by
  have hsome : c ≠ 'S' := Ne.symm (ne_of_class (by decide) h)
  have hname : name? (c :: cs) = none := by
    unfold name?
    split
    · simp_all
    · rfl
    · rename_i heq
      rw [(List.cons.inj heq).1] at h
      exact absurd h (by decide)
    · rfl
    · rename_i heq
      rw [(List.cons.inj heq).1] at h
      simp [h]
  simp [valueAround?, afterSome?_of_ne hsome, hname]

theorem isNameStart_of_digit {c : Char} (h : isDigitIn 10 c = true) : isNameStart c = false := by
  obtain ⟨-, hle⟩ := Bool.and_eq_true_iff.1 (Decimal.isDigit_of_isDigitIn h)
  have hnine : c.val.toNat ≤ 57 := UInt32.le_iff_toNat_le.1 (of_decide_eq_true hle)
  have hupper : c.isUpper = false := decide_eq_false fun hletter => by
    have hfirst : 65 ≤ c.val.toNat := UInt32.le_iff_toNat_le.1 hletter.1
    omega
  have hlower : c.isLower = false := Bool.and_eq_false_iff.2 (.inl (decide_eq_false fun hletter => by
    have hfirst : 97 ≤ c.val.toNat := UInt32.le_iff_toNat_le.1 hletter
    omega))
  have hunderscore : c ≠ '_' := ne_of_class h (by decide)
  exact Bool.or_eq_false_iff.2
    ⟨Bool.or_eq_false_iff.2 ⟨hupper, hlower⟩, decide_eq_false hunderscore⟩

theorem marked?_digit {inside : Option Inside} {c : Char} (h : isDigitIn 10 c = true)
    (cs : List Char) : marked? inside (c :: cs) = number? (c :: cs) := by
  have hne {d : Char} : isDigitIn 10 d = false → c ≠ d := ne_of_class h
  unfold marked?
  split <;> first
    | rfl
    | exact absurd (List.cons.inj (by assumption)).1 (hne (by decide))

theorem value?_flag (levels : Nat) (b : Bool) {rest : List Char} (hrest : Stops rest) :
    value? false levels (writeFlag b ++ rest) = some (.flag b, rest) := by
  rw [value?_eq]
  cases b with
  | false =>
    exact valueAround?_named (by decide)
      (name?_append "alse".toList (by decide) (by decide) hrest
        fun h => absurd h (by decide))
  | true =>
    exact valueAround?_named (by decide)
      (name?_append "rue".toList (by decide) (by decide) hrest
        fun h => absurd h (by decide))

theorem value?_none (levels : Nat) {rest : List Char} (hrest : Stops rest) :
    value? false levels ("None".toList ++ rest) = some (.option none, rest) := by
  rw [value?_eq]
  exact valueAround?_named (by decide)
    (name?_append "one".toList (by decide) (by decide) hrest
        fun h => absurd h (by decide))

theorem value?_word (levels : Nat) {n : Nat} (h : n < Nat.pow 2 64) {rest : List Char}
    (hrest : Stops rest) :
    value? false levels (decimalChars n ++ rest) = some (.number (decimalChars n), rest) := by
  rw [value?_eq, ← number?_decimalChars h hrest]
  obtain ⟨c, cs, heq⟩ := List.exists_cons_of_ne_nil (Decimal.decimalChars_ne_nil n)
  have hdigit : isDigitIn 10 c = true :=
    Decimal.isDigitIn_of_mem_decimalChars (heq ▸ List.mem_cons_self)
  rw [heq, List.cons_append, valueAround?_marked (isNameStart_of_digit hdigit),
    marked?_digit hdigit]

theorem value?_quote (levels : Nat) (t : String) (rest : List Char) :
    value? false levels (quote t.toList ++ rest) = some (.text t, rest) := by
  have hread := readText_quote t.toList rest
  rw [value?_eq]
  show valueAround? false _ ('"' :: _) = _
  rw [valueAround?_marked (by decide)]
  show (readText (quote t.toList ++ rest)).map _ = _
  simp only [hread, Option.map_some, String.ofList_toList]

/-- A list with something in it, after its opening. -/
theorem read_eq_items {α : Type} {style : ListStyle} (item : Reader α) {cs : List Char}
    (hskip : style.skip cs = some cs) (hopen : cs.head? ≠ some style.close) :
    style.read item cs = style.items item (cs.length + 1) cs := by
  simp only [ListStyle.read, hskip, Option.bind_eq_bind, Option.bind_some, if_neg hopen]

/-- One item and nothing else. -/
theorem items_single {style : ListStyle} {item : Reader Node} {cs rest : List Char} {node : Node}
    (hitem : item cs = some (node, style.close :: rest))
    (hclose : style.skip (style.close :: rest) = some (style.close :: rest))
    (hcomma : style.close ≠ ',') (fuel : Nat) :
    style.items item (fuel + 1) cs = some ([node], rest) := by
  simp only [ListStyle.items, hitem, hclose, Option.bind_eq_bind, Option.bind_some, if_true]

/-- A text that may be left out takes a level. -/
theorem value?_some (levels : Nat) (t : String) (rest : List Char) :
    value? false (levels + 1) ("Some(".toList ++ quote t.toList ++ [')'] ++ rest) =
      some (.option (some (.text t)), rest) := by
  obtain ⟨inside, hinside, hcontent⟩ : ∃ inside, insideOf (levels + 1) = some inside ∧
      inside.content = value? false levels := by
    cases levels with
    | zero => exact ⟨_, rfl, rfl⟩
    | succ levels => exact ⟨_, rfl, rfl⟩
  have hform : "Some(".toList ++ quote t.toList ++ [')'] ++ rest =
      'S' :: 'o' :: 'm' :: 'e' :: '(' :: (quote t.toList ++ ')' :: rest) := by
    simp
  have hread : (listStyle ')').read (value? false levels) (quote t.toList ++ ')' :: rest) =
      some ([.text t], rest) := by
    rw [read_eq_items _ (skip?_of_token (by decide) _) (by simp [quote, listStyle])]
    exact items_single (value?_quote levels t (')' :: rest)) (skip?_of_token (by decide) _)
      (by decide) _
  have hafter : afterSome? ('S' :: 'o' :: 'm' :: 'e' :: '(' :: (quote t.toList ++ ')' :: rest)) =
      some ('(' :: (quote t.toList ++ ')' :: rest)) := rfl
  rw [value?_eq, hinside, hform]
  simp only [valueAround?, hafter, Option.bind_eq_bind, Option.bind_some, content?, hcontent,
    skip?_of_token (show isSkipped '(' = false by decide), List.head?_cons, if_true,
    List.drop_succ_cons, List.drop_zero, hread]
  rfl

/-! ## 4. Values with records in them -/

mutual

/-- What is read back, with so many levels left: flags, words, texts that may be left out, and
records of these whose keys are names. -/
def isReadable (levels : Nat) : Value → Bool
  | .flag _ => true
  | .word _ => true
  | .text t => t.isNone || decide (1 ≤ levels)
  | .record fields => fields.isEmpty || (decide (2 ≤ levels) && areReadable (levels - 2) fields)
  | .single _ => false
  | .choice _ => false

def areReadable (levels : Nat) : List (String × Value) → Bool
  | [] => true
  | (key, value) :: fields => isKey key && isReadable levels value && areReadable levels fields

end

mutual

/-- What a value is read as. -/
def Node.ofValue : Value → Node
  | .flag b => .flag b
  | .word n => .number (decimalChars n.toNat)
  | .single x => .number (writeSingle x)
  | .text t => .option (t.map .text)
  | .choice name => .name name
  | .record fields => .record none (nodesOf fields)

def nodesOf : List (String × Value) → List (String × Node)
  | [] => []
  | (key, value) :: fields => (key, Node.ofValue value) :: nodesOf fields

end

/-- A value starts with a token, and not as an attribute does. -/
theorem write_eq_cons {levels : Nat} {v : Value} (h : isReadable levels v = true) (depth : Nat) :
    ∃ c cs, write .indented depth v = c :: cs ∧ isSkipped c = false ∧ c ≠ '#' := by
  cases v with
  | flag b => cases b <;> exact ⟨_, _, rfl, by decide, by decide⟩
  | word n =>
    obtain ⟨c, cs, heq⟩ := List.exists_cons_of_ne_nil (Decimal.decimalChars_ne_nil n.toNat)
    have hdigit : isDigitIn 10 c = true :=
      Decimal.isDigitIn_of_mem_decimalChars (heq ▸ List.mem_cons_self)
    have hne {d : Char} : isDigitIn 10 d = false → c ≠ d := ne_of_class hdigit
    refine ⟨c, cs, heq, ?_, hne (by decide)⟩
    simp [isSkipped, hne (d := ' ') (by decide), hne (d := '\t') (by decide),
      hne (d := '\n') (by decide), hne (d := '\r') (by decide), hne (d := '/') (by decide)]
  | text t => cases t <;> exact ⟨_, _, rfl, by decide, by decide⟩
  | record fields => cases fields <;> exact ⟨_, _, rfl, by decide, by decide⟩
  | _ => cases h

theorem skip?_write {levels : Nat} {v : Value} (h : isReadable levels v = true) (depth : Nat)
    (rest : List Char) :
    skip? (write .indented depth v ++ rest) = some (write .indented depth v ++ rest) := by
  obtain ⟨c, cs, heq, hskipped, -⟩ := write_eq_cons h depth
  rw [heq, List.cons_append, skip?_of_token hskipped]

theorem length_le_writeFields (layout : Layout) (depth : Nat) (fields : List (String × Value)) :
    fields.length ≤ (writeFields layout depth fields).length := by
  induction fields with
  | nil => exact Nat.zero_le _
  | cons field fields ih =>
    obtain ⟨key, value⟩ := field
    have hcolon : 0 < layout.colon.length := by cases layout <;> decide
    simp only [writeFields, List.length_append, List.length_cons]
    omega

theorem areReadable_iff {levels : Nat} {fields : List (String × Value)} :
    areReadable levels fields = true ↔
      ∀ f ∈ fields, isKey f.1 = true ∧ isReadable levels f.2 = true := by
  induction fields with
  | nil => simp [areReadable]
  | cons field fields ih =>
    obtain ⟨key, value⟩ := field
    simp [areReadable, ih]

theorem nodesOf_eq_map (fields : List (String × Value)) :
    nodesOf fields = fields.map fun f => (f.1, Node.ofValue f.2) := by
  induction fields with
  | nil => rfl
  | cons field fields ih => rw [nodesOf, ih, List.map_cons]

/-- A field is read back, wherever its value is. -/
def ReadsBack (levels depth : Nat) (v : Value) : Prop :=
  ∀ rest, Stops rest →
    value? false levels (write .indented depth v ++ rest) = some (Node.ofValue v, rest)

section Fields

variable {levels depth : Nat} {key : String} {v : Value}

theorem startsField_key (h : isKey key = true) (cs : List Char) :
    startsField (key.toList ++ ':' :: cs) = true := by
  have hcolon : skip? (':' :: cs) = some (':' :: cs) := skip?_of_token (by decide) _
  simp [startsField, key?, name?_key h, hcolon, expect, isPrefixOf?_cons_cons,
    isPrefixOf?_nil_left]

theorem pair?_field (hkey : isKey key = true) (hreadable : isReadable levels v = true)
    (hv : ReadsBack levels depth v) (rest : List Char) :
    pair? key? (value? false levels)
        (key.toList ++ ':' :: ' ' :: (write .indented depth v ++ ',' :: rest)) =
      some ((key, Node.ofValue v), ',' :: rest) := by
  have hcolon (cs : List Char) : skip? (':' :: cs) = some (':' :: cs) :=
    skip?_of_token (by decide) _
  have hexpect (cs : List Char) : expect ":" (':' :: cs) = some cs := rfl
  have hread := hv (',' :: rest) (stops_cons (by decide) rest)
  simp only [pair?, key?, name?_key hkey, Option.map_some, Option.bind_eq_bind, Option.bind_some,
    hcolon, hexpect, skip?_blank (.inl rfl), skip?_write hreadable, hread]
  rfl

/-- A key does not end a record. -/
theorem head?_key (h : isKey key = true) (cs : List Char) :
    (key.toList ++ cs).head? ≠ some ')' := by
  unfold isKey at h
  split at h
  · cases h
  · rename_i c name heq
    rw [heq, List.cons_append, List.head?_cons, ne_eq, Option.some.injEq]
    exact ne_of_class (Bool.and_eq_true_iff.1 h).1 (by decide)

/-- Fields start with a line break and a key. -/
theorem skip?_writeFields (hkey : isKey key = true) (fields : List (String × Value))
    (rest : List Char) :
    skip? (writeFields .indented depth ((key, v) :: fields) ++ rest) =
      some (key.toList ++ ':' :: ' ' :: (write .indented depth v ++ ',' ::
        (writeFields .indented depth fields ++ rest))) := by
  have hform : writeFields .indented depth ((key, v) :: fields) ++ rest =
      Layout.indented.lineBreak depth ++ (key.toList ++ ':' :: ' ' ::
        (write .indented depth v ++ ',' :: (writeFields .indented depth fields ++ rest))) := by
    simp [writeFields, Layout.colon, Layout.comma]
  rw [hform, skip?_lineBreak, skip?_key hkey]

/-- The fields of a record after the first line break, up to the closing bracket. -/
theorem items_fields {fields : List (String × Value)}
    (h : ∀ f ∈ (key, v) :: fields,
      isKey f.1 = true ∧ isReadable levels f.2 = true ∧ ReadsBack levels depth f.2)
    (outer : Nat) (rest : List Char) {fuel : Nat} (hfuel : fields.length < fuel) :
    (listStyle ')').items (pair? key? (value? false levels)) fuel
        (key.toList ++ ':' :: ' ' :: (write .indented depth v ++ ',' ::
          (writeFields .indented depth fields ++
            (Layout.indented.lineBreak outer ++ ')' :: rest)))) =
      some (nodesOf ((key, v) :: fields), rest) := by
  induction fields generalizing key v fuel with
  | nil =>
    obtain ⟨fuel, rfl⟩ := Nat.exists_eq_add_one_of_ne_zero (Nat.ne_of_gt hfuel)
    obtain ⟨hkey, hreadable, hv⟩ := h _ List.mem_cons_self
    have hclose : skip? (Layout.indented.lineBreak outer ++ ')' :: rest) = some (')' :: rest) := by
      rw [skip?_lineBreak, skip?_of_token (by decide)]
    simp only [ListStyle.items, pair?_field hkey hreadable hv, listStyle, Option.bind_eq_bind,
      Option.bind_some, skip?_of_token (show isSkipped ',' = false by decide), writeFields,
      List.nil_append, hclose, List.head?_cons, and_self, if_true]
    rfl
  | cons field fields ih =>
    obtain ⟨next, w⟩ := field
    obtain ⟨fuel, rfl⟩ := Nat.exists_eq_add_one_of_ne_zero (Nat.ne_of_gt (Nat.zero_lt_of_lt hfuel))
    obtain ⟨hkey, hreadable, hv⟩ := h _ List.mem_cons_self
    have hrest : ∀ f ∈ (next, w) :: fields,
        isKey f.1 = true ∧ isReadable levels f.2 = true ∧ ReadsBack levels depth f.2 :=
      fun f hf => h f (List.mem_cons_of_mem _ hf)
    have hnext := (hrest _ List.mem_cons_self).1
    have hitems := ih hrest (Nat.lt_of_succ_lt_succ hfuel)
    simp only [listStyle] at hitems
    simp only [ListStyle.items, pair?_field hkey hreadable hv, listStyle, Option.bind_eq_bind,
      Option.bind_some, skip?_of_token (show isSkipped ',' = false by decide),
      skip?_writeFields hnext, head?_key hnext, and_false, if_false, hitems]
    rfl

theorem bracketed?_fields {name : Option String} {value : Reader Node} {cs found rest : List Char}
    {fields : List (String × Node)} (hskip : skip? cs = some found)
    (hopen : found.head? ≠ some ')') (hfield : startsField found = true)
    (hread : (listStyle ')').read (pair? key? value) found = some (fields, rest)) :
    bracketed? name value cs = some (.record name fields, rest) := by
  simp only [bracketed?, hskip, hread, Option.bind_eq_bind, Option.bind_some, if_neg hopen,
    if_pos hfield]
  rfl

/-- A record with fields, two levels deeper than they are. -/
theorem value?_record {fields : List (String × Value)} (hne : fields ≠ [])
    (h : ∀ f ∈ fields,
      isKey f.1 = true ∧ isReadable levels f.2 = true ∧ ReadsBack levels (depth + 1) f.2)
    (rest : List Char) :
    value? false (levels + 2) (write .indented depth (.record fields) ++ rest) =
      some (.record none (nodesOf fields), rest) := by
  obtain ⟨⟨key, v⟩, fields, rfl⟩ := List.exists_cons_of_ne_nil hne
  obtain ⟨hkey, -, -⟩ := h _ List.mem_cons_self
  -- Reading the fields starts at the first key, and the rest of the text bounds their number.
  let tail := Layout.indented.lineBreak depth ++ ')' :: rest
  let found := key.toList ++ ':' :: ' ' :: (write .indented (depth + 1) v ++ ',' ::
    (writeFields .indented (depth + 1) fields ++ tail))
  have hskip : skip? (writeFields .indented (depth + 1) ((key, v) :: fields) ++ tail) =
      some found := skip?_writeFields hkey fields tail
  have hopen : found.head? ≠ some ')' := head?_key hkey _
  have hread : (listStyle ')').read (pair? key? (value? false levels)) found =
      some (nodesOf ((key, v) :: fields), rest) := by
    rw [read_eq_items _ (skip?_key hkey _) hopen]
    refine items_fields h depth rest ?_
    have hlength := length_le_writeFields .indented (depth + 1) fields
    simp only [found, List.length_append, List.length_cons]
    omega
  have hform : write .indented depth (.record ((key, v) :: fields)) ++ rest =
      '(' :: (writeFields .indented (depth + 1) ((key, v) :: fields) ++ tail) := by
    have hwrite : write .indented depth (.record ((key, v) :: fields)) =
        ['('] ++ writeFields .indented (depth + 1) ((key, v) :: fields) ++
          Layout.indented.lineBreak depth ++ [')'] := rfl
    simp [tail, hwrite]
  have hmarked (cs : List Char) : marked? (insideOf (levels + 2)) ('(' :: '\n' :: cs) =
      bracketed? none (value? false levels) ('\n' :: cs) := rfl
  rw [value?_eq, hform, valueAround?_marked (by decide)]
  exact (hmarked _).trans
    (bracketed?_fields hskip hopen (startsField_key hkey _) hread)

end Fields

/-- Reading gives back what was written, wherever it stands. -/
theorem readsBack {levels : Nat} (depth : Nat) {v : Value} (h : isReadable levels v = true) :
    ReadsBack levels depth v := by
  intro rest hrest
  -- By the size of the value.
  match v with
  | .flag b => exact value?_flag levels b hrest
  | .word n =>
    refine value?_word levels ?_ hrest
    exact Nat.lt_of_lt_of_le n.toNat_lt (by decide)
  | .text none => exact value?_none levels hrest
  | .text (some t) =>
    have hlevel : 1 ≤ levels := by simpa [isReadable] using h
    obtain ⟨levels, rfl⟩ := Nat.exists_eq_add_of_le' hlevel
    exact value?_some levels t rest
  | .record [] =>
    rw [value?_eq]
    rfl
  | .record (field :: fields) =>
    have hlevels : 2 ≤ levels ∧ areReadable (levels - 2) (field :: fields) = true := by
      simpa [isReadable] using h
    obtain ⟨levels, rfl⟩ := Nat.exists_eq_add_of_le' hlevels.1
    refine value?_record (List.cons_ne_nil field fields) (fun f hf => ?_) rest
    obtain ⟨hkey, hreadable⟩ := areReadable_iff.1 hlevels.2 f hf
    exact ⟨hkey, hreadable, readsBack (depth + 1) hreadable⟩
  | .single x => cases h
  | .choice name => cases h
termination_by v
decreasing_by
  have hlt := List.sizeOf_lt_of_mem hf
  obtain ⟨key, value⟩ := f
  simp only [Value.record.sizeOf_spec, Prod.mk.sizeOf_spec] at hlt ⊢
  omega

/-! ## 5. Documents -/

/-- Reading a document gives back the value that was written for people to read. -/
theorem read?_write {v : Value} (h : isReadable levelLimit v = true) :
    read? (String.ofList (write .indented 0 v)) = some ⟨false, Node.ofValue v⟩ := by
  have hskip := skip?_write h 0 []
  have hread := readsBack 0 h [] nofun
  rw [List.append_nil] at hskip hread
  have hplain : (write .indented 0 v).head? ≠ some '#' := by
    obtain ⟨c, cs, heq, -, hne⟩ := write_eq_cons h 0
    simpa [heq] using hne
  have hattributes (fuel : Nat) :
      attributes? (fuel + 1) (write .indented 0 v) = some ([], write .indented 0 v) := by
    simp only [attributes?, hskip, Option.bind_eq_bind, Option.bind_some, if_neg hplain]
    rfl
  simp only [read?, String.toList_ofList, hattributes, Option.bind_eq_bind, Option.bind_some,
    List.contains_nil, hread]
  rfl

end GpuRecorder.Document.Ron
