import GpuRecorder.Document.Toml.Reader
import GpuRecorder.Document.Toml.TextRoundTrip
import GpuRecorder.Document.Toml.Writer
import Mathlib.Data.List.Nodup

/-!
# Lines of TOML

A document is written line by line: the plain fields of the root first, then each record under a
header.  `Reads` says what lines at the front of a text do to the document read so far, and lines
are put together by `Reads.trans`.  So the proof goes from one value to its line, from there to
the lines of one table, and then over the tables.
-/

namespace GpuRecorder.Document.Toml

open Decimal (decimalChars isDigitIn ofDigits)

/-! ## 1. Numerals -/

section Numerals

variable {ds : List Char} (hds : ∀ c ∈ ds, isDigitIn 10 c = true)

include hds

/-- A numeral at the end of its line. -/
theorem digits?_of_digits (hne : ds ≠ []) (rest : List Char) :
    digits? 10 (ds ++ '\n' :: rest) = some (ds, '\n' :: rest) := by
  induction ds with
  | nil => exact absurd rfl hne
  | cons c ds ih =>
    have hc := hds c List.mem_cons_self
    cases ds with
    | nil =>
      have hend : digits? 10 ('\n' :: rest) = none := by
        unfold digits?
        exact if_neg (by decide)
      simp [digits?, hc, hend]
    | cons d ds =>
      -- A `_` may stand between digits, but there is none.
      have hd : d ≠ '_' := ne_of_class (hds d (by simp)) (by decide)
      have hmore := ih (fun c hc => hds c (List.mem_cons_of_mem _ hc)) (List.cons_ne_nil d ds)
      rw [List.cons_append, List.cons_append, digits?, if_pos hc, ← List.cons_append, hmore]
      exact fun _ heq => hd (List.cons.inj heq).1

/-- What follows a field of digits are digits, up to the end of the line. -/
theorem field?_of_digits {width low high n : Nat} {rest cs : List Char}
    (h : field? width low high (ds ++ '\n' :: rest) = some (n, cs)) :
    ∃ more, (∀ c ∈ more, isDigitIn 10 c = true) ∧ cs = more ++ '\n' :: rest := by
  unfold field? at h
  simp only at h
  split at h
  · rename_i hfield
    obtain ⟨-, hall, -⟩ := hfield
    obtain ⟨-, rfl⟩ := Prod.mk.inj (Option.some.inj h)
    -- The end of the line is no digit, so it is not reached.
    have hle : width ≤ ds.length := by
      by_contra hlt
      have hmem : '\n' ∈ (ds ++ '\n' :: rest).take width := by
        rw [List.take_append, List.take_of_length_le (by omega)]
        obtain ⟨k, hk⟩ := Nat.exists_eq_add_of_lt (Nat.lt_of_not_le hlt)
        rw [hk, show ds.length + k + 1 - ds.length = k + 1 by omega]
        simp
      exact absurd (List.all_eq_true.1 hall _ hmem) (by decide)
    refine ⟨ds.drop width, fun c hc => hds c (List.mem_of_mem_drop hc), ?_⟩
    rw [List.drop_append_of_le_length hle]
  · cases h

theorem expect_of_digits {d : Char} (hdigit : isDigitIn 10 d = false) (hline : d ≠ '\n')
    (text : List Char) (rest : List Char) :
    (d :: text).isPrefixOf? (ds ++ '\n' :: rest) = none := by
  cases ds with
  | nil =>
    rw [List.nil_append, isPrefixOf?_cons_cons, if_neg (by simpa using hline)]
  | cons c ds =>
    have hne : c ≠ d := ne_of_class (hds c List.mem_cons_self) hdigit
    rw [List.cons_append, isPrefixOf?_cons_cons, if_neg (by simpa using hne.symm)]

/-- Digits are neither a date nor a time of day. -/
theorem time?_of_digits (rest : List Char) : time? (ds ++ '\n' :: rest) = none := by
  have hdate : date? (ds ++ '\n' :: rest) = none := by
    unfold date?
    cases hfield : field? 4 0 9999 (ds ++ '\n' :: rest) with
    | none => rfl
    | some found =>
      obtain ⟨more, hmore, heq⟩ := field?_of_digits hds hfield
      have hdash : expect "-" found.2 = none :=
        heq ▸ expect_of_digits hmore (by decide) (by decide) _ _
      simp [hdash]
  have hclock : clock? (ds ++ '\n' :: rest) = none := by
    unfold clock?
    cases hfield : field? 2 0 23 (ds ++ '\n' :: rest) with
    | none => rfl
    | some found =>
      obtain ⟨more, hmore, heq⟩ := field?_of_digits hds hfield
      have hcolon : expect ":" found.2 = none :=
        heq ▸ expect_of_digits hmore (by decide) (by decide) _ _
      simp [hcolon]
  rw [time?, hdate, hclock]

theorem splitSign_of_digits (rest : List Char) :
    Decimal.splitSign (ds ++ '\n' :: rest) = (false, ds ++ '\n' :: rest) := by
  have hhead {c : Char} {cs : List Char} (hc : isDigitIn 10 c = false) (hline : c ≠ '\n') :
      ds ++ '\n' :: rest ≠ c :: cs := by
    intro heq
    cases ds with
    | nil => exact hline (List.cons.inj heq).1.symm
    | cons d ds =>
      obtain ⟨rfl, -⟩ := List.cons.inj heq
      exact absurd (hds _ List.mem_cons_self) (by simp [hc])
  unfold Decimal.splitSign
  split
  · exact absurd ‹_› (hhead (by decide) (by decide))
  · exact absurd ‹_› (hhead (by decide) (by decide))
  · rfl

theorem second_of_digits {a b : Char} {rest cs : List Char} (ha : a ≠ '\n')
    (h : ds ++ '\n' :: rest = a :: b :: cs) : isDigitIn 10 b = true ∨ b = '\n' := by
  match ds with
  | [] => exact absurd (List.cons.inj h).1.symm ha
  | [_] => exact .inr (List.cons.inj (List.cons.inj h).2).1.symm
  | _ :: d :: _ =>
    obtain rfl : d = b := (List.cons.inj (List.cons.inj h).2).1
    exact .inl (hds d (by simp))

end Numerals

/-- A number of 63 bits at the end of its line. -/
theorem number?_decimalChars {n : Nat} (h : n < Nat.pow 2 63) (rest : List Char) :
    number? (decimalChars n ++ '\n' :: rest) = some (.integer n, '\n' :: rest) := by
  have hdigits : ∀ c ∈ decimalChars n, isDigitIn 10 c = true := fun _ hc =>
    Decimal.isDigitIn_of_mem_decimalChars hc
  have hread := digits?_of_digits hdigits (Decimal.decimalChars_ne_nil n) rest
  have hzero : ¬((decimalChars n).head? = some '0' ∧ (decimalChars n).length ≠ 1) := by
    rintro ⟨hhead, hlength⟩
    rcases Nat.eq_zero_or_pos n with rfl | hpos
    · exact hlength (by decide +kernel)
    · exact Decimal.head?_decimalChars hpos hhead
  have hspecial : special? false (decimalChars n ++ '\n' :: rest) = none := by
    simp [special?, expect, expect_of_digits hdigits (show isDigitIn 10 'i' = false by decide)
      (by decide), expect_of_digits hdigits (show isDigitIn 10 'n' = false by decide) (by decide)]
  have hinteger : integer? false n = some (.integer n) := by
    simp only [integer?, Bool.false_eq_true, if_false]
    rw [if_pos]
    omega
  have hdecimal : decimalNumber? (decimalChars n ++ '\n' :: rest) =
      some (.integer n, '\n' :: rest) := by
    simp only [decimalNumber?, splitSign_of_digits hdigits, hspecial, hread, Option.bind_eq_bind,
      Option.bind_some, if_neg hzero, fractionPart?, exponentPart?]
    simp [Decimal.ofDigits_decimalChars, hinteger]
  have hbase {b : Char} {cs : List Char} (hb : isDigitIn 10 b = false) (hline : b ≠ '\n') :
      decimalChars n ++ '\n' :: rest ≠ '0' :: b :: cs := by
    intro heq
    rcases second_of_digits hdigits (by decide) heq with hdigit | hend
    · exact absurd hdigit (by simp [hb])
    · exact hline hend
  rw [← hdecimal]
  unfold number?
  split
  · exact absurd ‹_› (hbase (by decide) (by decide))
  · exact absurd ‹_› (hbase (by decide) (by decide))
  · exact absurd ‹_› (hbase (by decide) (by decide))
  · rfl

/-! ## 2. Plain values -/

/-- What a value is read as that stands on a line of its own. -/
def plainNode? : Value → Option Node
  | .flag b => some (.flag b)
  | .word n => some (.integer n.toNat)
  | .text t => t.map .text
  | _ => none

/-- Values that are read back from a line: flags, words and texts that may be left out. -/
def isPlain : Value → Bool
  | .flag _ | .word _ | .text _ => true
  | _ => false

theorem scalar?_digit {c : Char} (h : isDigitIn 10 c = true) {cs : List Char}
    (htime : time? (c :: cs) = none) : scalar? (c :: cs) = number? (c :: cs) := by
  have hne {d : Char} (hd : isDigitIn 10 d = false) : (d == c) = false :=
    beq_eq_false_iff_ne.2 (ne_of_class h hd).symm
  simp [scalar?, expect, isPrefixOf?_cons_cons, hne (d := 't') (by decide),
    hne (d := 'f') (by decide), htime]

theorem value?_scalar {c : Char} (h : c ≠ '[' ∧ c ≠ '\x7b' ∧ c ≠ '"' ∧ c ≠ '\'') (depth : Nat)
    (cs : List Char) : value? depth (c :: cs) = scalar? (c :: cs) := by
  obtain ⟨hlist, htable, hbasic, hliteral⟩ := h
  unfold value?
  rw [if_neg hlist, if_neg htable, if_neg (by simp [hbasic, hliteral])]

theorem value?_word (depth : Nat) (n : UInt32) (rest : List Char) :
    value? depth (writeWord n ++ '\n' :: rest) = some (.integer n.toNat, '\n' :: rest) := by
  have hlt : n.toNat < Nat.pow 2 63 := Nat.lt_of_lt_of_le n.toNat_lt (by decide)
  have hdigits : ∀ c ∈ decimalChars n.toNat, isDigitIn 10 c = true := fun _ hc =>
    Decimal.isDigitIn_of_mem_decimalChars hc
  have htime := time?_of_digits hdigits rest
  have hread := number?_decimalChars hlt rest
  obtain ⟨c, cs, heq⟩ := List.exists_cons_of_ne_nil (Decimal.decimalChars_ne_nil n.toNat)
  rw [heq, List.cons_append] at htime hread
  have hdigit : isDigitIn 10 c = true := hdigits c (heq ▸ List.mem_cons_self)
  have hne {d : Char} : isDigitIn 10 d = false → c ≠ d := ne_of_class hdigit
  rw [writeWord, heq, List.cons_append,
    value?_scalar ⟨hne (by decide), hne (by decide), hne (by decide), hne (by decide)⟩,
    scalar?_digit hdigit htime, hread]

/-- A quoted text starts with one of two quotes. -/
theorem quote_eq_cons (t : List Char) :
    ∃ c cs, quote t = c :: cs ∧ (c = '"' ∨ c = '\'') := by
  unfold quote
  simp only
  split
  · exact ⟨_, _, rfl, .inl rfl⟩
  split
  · exact ⟨_, _, rfl, .inr rfl⟩
  split
  · exact ⟨_, _, rfl, .inl rfl⟩
  split
  · exact ⟨_, _, rfl, .inr rfl⟩
  split <;> exact ⟨_, _, rfl, .inl rfl⟩

theorem value?_quote (depth : Nat) (t : String) (rest : List Char) :
    value? depth (quote t.toList ++ '\n' :: rest) = some (.text t, '\n' :: rest) := by
  have hread : readText (quote t.toList ++ '\n' :: rest) = some (t.toList, '\n' :: rest) :=
    readText_quote t.toList (by simp) (by simp)
  obtain ⟨c, cs, heq, hquote⟩ := quote_eq_cons t.toList
  rw [heq, List.cons_append] at hread ⊢
  have hbracket : c ≠ '[' ∧ c ≠ '\x7b' := by
    rcases hquote with rfl | rfl <;> decide
  unfold value?
  rw [if_neg hbracket.1, if_neg hbracket.2, if_pos hquote, hread]
  simp [String.ofList_toList]

theorem value?_flag (depth : Nat) (b : Bool) (rest : List Char) :
    value? depth (writeFlag b ++ rest) = some (.flag b, rest) := by
  cases b with
  | false => exact (value?_scalar (by decide) depth _).trans rfl
  | true => exact (value?_scalar (by decide) depth _).trans rfl

/-- A text from which a node is read, in front of the end of a line. -/
structure StandsFor (text : List Char) (node : Node) : Prop where
  starts : ∃ c cs, text = c :: cs ∧ c ≠ ' ' ∧ c ≠ '\t'
  reads : ∀ depth rest, value? depth (text ++ '\n' :: rest) = some (node, '\n' :: rest)

theorem standsFor_flag (b : Bool) : StandsFor (writeFlag b) (.flag b) where
  starts := by cases b <;> exact ⟨_, _, rfl, by decide, by decide⟩
  reads := fun depth _ => value?_flag depth b _

theorem standsFor_word (n : UInt32) : StandsFor (writeWord n) (.integer n.toNat) where
  starts := by
    obtain ⟨c, cs, heq⟩ := List.exists_cons_of_ne_nil (Decimal.decimalChars_ne_nil n.toNat)
    have hdigit : isDigitIn 10 c = true :=
      Decimal.isDigitIn_of_mem_decimalChars (heq ▸ List.mem_cons_self)
    exact ⟨c, cs, heq, ne_of_class hdigit (by decide), ne_of_class hdigit (by decide)⟩
  reads := fun depth rest => value?_word depth n rest

theorem standsFor_quote (t : String) : StandsFor (quote t.toList) (.text t) where
  starts := by
    obtain ⟨c, cs, heq, hquote⟩ := quote_eq_cons t.toList
    refine ⟨c, cs, heq, ?_⟩
    rcases hquote with rfl | rfl <;> decide
  reads := fun depth rest => value?_quote depth t rest

/-- A plain value is read back from its line, if it is written at all. -/
theorem standsFor_plain {v : Value} (h : isPlain v = true) :
    (writePlain? v = none ∧ plainNode? v = none) ∨
      ∃ text node, writePlain? v = some text ∧ plainNode? v = some node ∧ StandsFor text node := by
  cases v with
  | flag b => exact .inr ⟨_, _, rfl, rfl, standsFor_flag b⟩
  | word n => exact .inr ⟨_, _, rfl, rfl, standsFor_word n⟩
  | text t =>
    cases t with
    | none => exact .inl ⟨rfl, rfl⟩
    | some t => exact .inr ⟨_, _, rfl, rfl, standsFor_quote t⟩
  | _ => cases h

/-! ## 3. Keys -/

/-- A key without quotes. -/
def isKey (key : String) : Bool := key.toList ≠ [] && key.toList.all isKeyChar

theorem isKey_eq_cons {key : String} (h : isKey key = true) :
    ∃ c cs, key.toList = c :: cs ∧ ∀ d ∈ c :: cs, isKeyChar d = true := by
  obtain ⟨hne, hall⟩ := Bool.and_eq_true_iff.1 h
  obtain ⟨c, cs, heq⟩ := List.exists_cons_of_ne_nil (of_decide_eq_true hne)
  exact ⟨c, cs, heq, heq ▸ List.all_eq_true.1 hall⟩

theorem skipSpaces_of_ne {c : Char} (h : c ≠ ' ' ∧ c ≠ '\t') (cs : List Char) :
    skipSpaces (c :: cs) = c :: cs := by
  simp [skipSpaces, h]

/-- A key in front of a blank or a bracket. -/
theorem key?_key {key : String} (h : isKey key = true) {d e : Char} {cs rest : List Char}
    (hd : isKeyChar d = false) (hskip : skipSpaces (d :: cs) = e :: rest) (he : e ≠ '.')
    (parts : Nat) :
    key? (parts + 1) (key.toList ++ d :: cs) = some (([], key), e :: rest) := by
  obtain ⟨c, name, heq, hname⟩ := isKey_eq_cons h
  have hne {q : Char} : isKeyChar q = false → c ≠ q := ne_of_class (hname c List.mem_cons_self)
  have hquoted : readQuoted (c :: name ++ d :: cs) = none := by
    unfold readQuoted
    split
    · exact absurd (List.cons.inj ‹_›).1 (hne (by decide))
    · exact absurd (List.cons.inj ‹_›).1 (hne (by decide))
    · rfl
  obtain ⟨htake, hdrop⟩ := takeWhile_dropWhile_append hname hd cs
  have hkey : String.ofList (c :: name) = key := by rw [← heq, String.ofList_toList]
  have hpart : keyPart? (c :: name ++ d :: cs) = some (key, d :: cs) := by
    simp only [keyPart?, hquoted, htake, hdrop, hkey]
    rfl
  rw [key?, heq, List.cons_append, skipSpaces_of_ne ⟨hne (by decide), hne (by decide)⟩,
    ← List.cons_append, hpart]
  simp only [Option.bind_eq_bind, Option.bind_some, hskip]
  split
  · exact absurd (List.cons.inj ‹_›).1 he
  · rfl

/-! ## 4. Lines -/

/-- Some lines are read from the front of a text. -/
def Reads (p : Progress) (cs : List Char) (p' : Progress) (rest : List Char) : Prop :=
  ∃ n, n + rest.length ≤ cs.length ∧ ∀ fuel, lines? (fuel + n) p cs = lines? fuel p' rest

namespace Reads

variable {p p' p'' : Progress} {cs mid rest : List Char}

theorem refl (p : Progress) (cs : List Char) : Reads p cs p cs :=
  ⟨0, Nat.le_of_eq (Nat.zero_add _), fun _ => rfl⟩

theorem trans (h : Reads p cs p' mid) (h' : Reads p' mid p'' rest) : Reads p cs p'' rest := by
  obtain ⟨n, hn, hread⟩ := h
  obtain ⟨m, hm, hmore⟩ := h'
  refine ⟨m + n, by omega, fun fuel => ?_⟩
  rw [← Nat.add_assoc, hread, hmore]

/-- One line. -/
theorem line {c : Char} (hstatement : statement? p (c :: cs) = some (p', mid))
    (hend : endLine? mid = some rest) (hshorter : rest.length ≤ cs.length) :
    Reads p (c :: cs) p' rest := by
  refine ⟨1, by simp only [List.length_cons]; omega, fun fuel => ?_⟩
  simp only [lines?, hstatement, Option.bind_eq_bind, Option.bind_some, hend]

theorem endLine?_lineEnd (cs : List Char) : endLine? ('\n' :: cs) = some cs := rfl

/-- A line with nothing on it. -/
theorem blank (p : Progress) (cs : List Char) : Reads p ('\n' :: cs) p cs :=
  have hstatement : statement? p ('\n' :: cs) = some (p, '\n' :: cs) := rfl
  line hstatement (endLine?_lineEnd cs) (Nat.le_refl _)

/-- An empty first line makes no difference. -/
theorem of_blank (h : Reads p ('\n' :: cs) p' []) : Reads p cs p' [] := by
  obtain ⟨n, hn, hread⟩ := h
  cases n with
  | zero => cases hread 0
  | succ n =>
    refine ⟨n, by simpa using hn, fun fuel => ?_⟩
    rw [← hread fuel]
    rfl

/-- The length of a text bounds its lines. -/
theorem lines?_eq (h : Reads p cs p' []) : lines? (cs.length + 1) p cs = some p'.root := by
  obtain ⟨n, hn, hread⟩ := h
  have hfuel : cs.length + 1 = (cs.length + 1 - n) + n := by
    simp only [List.length_nil] at hn
    omega
  rw [hfuel, hread]
  cases cs.length + 1 - n <;> rfl

end Reads

/-! ## 5. Tables -/

namespace Entries

theorem ne_of_lookup_cons {entries : Entries} {k key : String} {n : Node}
    (h : List.lookup key ((k, n) :: entries) = none) : k ≠ key ∧ entries.lookup key = none := by
  rw [List.lookup_cons] at h
  split at h
  · cases h
  · rename_i hne
    exact ⟨Ne.symm (by simpa using hne), h⟩

theorem put_of_new {entries : Entries} {key : String} (h : entries.lookup key = none)
    (node : Node) : entries.put key node = entries ++ [(key, node)] := by
  induction entries with
  | nil => rfl
  | cons entry entries ih =>
    obtain ⟨k, n⟩ := entry
    obtain ⟨hkey, h⟩ := ne_of_lookup_cons h
    rw [put, if_neg hkey, ih h, List.cons_append]

theorem put_last {before : Entries} {key : String} (h : before.lookup key = none)
    (old new : Node) : Entries.put key new (before ++ [(key, old)]) = before ++ [(key, new)] := by
  induction before with
  | nil => simp [put]
  | cons entry before ih =>
    obtain ⟨k, n⟩ := entry
    obtain ⟨hkey, h⟩ := ne_of_lookup_cons h
    rw [List.cons_append, put, if_neg hkey, ih h, List.cons_append]

theorem lookup_last {before : Entries} {key : String} (h : before.lookup key = none)
    (node : Node) : (before ++ [(key, node)]).lookup key = some node := by
  rw [List.lookup_append, h, Option.none_or]
  simp

end Entries

/-- The table that is open: the root, or the last table in it. -/
inductive Place where
  | root
  | last (before : Entries) (name : String)

namespace Place

/-- The open table has some entries. -/
def progress : Place → Entries → Progress
  | .root, entries => ⟨entries, []⟩
  | .last before name, entries => ⟨before ++ [(name, .table .header entries)], [name]⟩

/-- The last table is not one of those before it. -/
def Sound : Place → Prop
  | .root => True
  | .last before name => before.lookup name = none

/-- A new entry goes to the open table. -/
theorem alter_insert? {place : Place} (hsound : place.Sound) {entries : Entries} {key : String}
    (hnew : entries.lookup key = none) (node : Node) :
    Entries.alter false (Entries.insert? [] key node) (place.progress entries).path .header
        (place.progress entries).root =
      some (place.progress (entries ++ [(key, node)])).root := by
  have hinsert : Entries.insert? [] key node .header entries = some (entries ++ [(key, node)]) := by
    simp [Entries.insert?, Entries.alter, hnew, Entries.put_of_new hnew]
  cases place with
  | root => exact hinsert
  | last before name =>
    simp only [progress, Entries.alter, Entries.lookup_last hsound, Bool.false_eq_true, false_and,
      or_false, reduceCtorEq, if_false, hinsert, Option.bind_eq_bind, Option.bind_some]
    exact congrArg some (Entries.put_last hsound _ _)

end Place

/-- The entries of the fields that are written on lines. -/
def plainEntries (fields : List (String × Value)) : Entries :=
  fields.filterMap fun (key, value) => (plainNode? value).map (key, ·)

/-- A field on its line. -/
theorem reads_field {place : Place} (hsound : place.Sound) {entries : Entries} {key : String}
    (hkey : isKey key = true) (hnew : entries.lookup key = none) {text : List Char} {node : Node}
    (hstands : StandsFor text node) (rest : List Char) :
    Reads (place.progress entries) (key.toList ++ " = ".toList ++ text ++ ['\n'] ++ rest)
      (place.progress (entries ++ [(key, node)])) rest := by
  obtain ⟨c, cs, heq, hname⟩ := isKey_eq_cons hkey
  have hne {d : Char} : isKeyChar d = false → c ≠ d := ne_of_class (hname c List.mem_cons_self)
  let line := key.toList ++ ' ' :: '=' :: ' ' :: (text ++ '\n' :: rest)
  have hline : line = c :: (cs ++ ' ' :: '=' :: ' ' :: (text ++ '\n' :: rest)) := by
    simp [line, heq]
  have hassign : assignment? (value? (nestingLimit - 1)) line =
      some ((([], key), node), '\n' :: rest) := by
    have hread : key? (nestingLimit - 1) line =
        some (([], key), '=' :: ' ' :: (text ++ '\n' :: rest)) :=
      key?_key hkey (by decide) (by simp [skipSpaces]) (by decide) 78
    have hexpect : expect "=" ('=' :: ' ' :: (text ++ '\n' :: rest)) =
        some (' ' :: (text ++ '\n' :: rest)) := rfl
    have hskip : skipSpaces (' ' :: (text ++ '\n' :: rest)) = text ++ '\n' :: rest := by
      obtain ⟨d, ds, rfl, hblank⟩ := hstands.starts
      simp [skipSpaces, hblank]
    simp only [assignment?, hread, hexpect, hskip, hstands.reads, Option.bind_eq_bind,
      Option.bind_some]
    rfl
  have hstatement : statement? (place.progress entries) line =
      some (place.progress (entries ++ [(key, node)]), '\n' :: rest) := by
    rw [hline] at hassign ⊢
    have hplain : ¬(c = '#' ∨ c = '\n' ∨ c = '\r') := by
      rintro (h | h | h) <;> exact hne (by decide) h
    have halter := Place.alter_insert? hsound hnew node
    -- A line is told by its first character, and that of a key is none of the others.
    unfold statement?
    rw [skipSpaces_of_ne ⟨hne (by decide), hne (by decide)⟩]
    split
    · exact absurd (List.cons.inj ‹_›).1 (hne (by decide))
    · exact absurd (List.cons.inj ‹_›).1 (hne (by decide))
    · rename_i heq'
      obtain ⟨rfl, rfl⟩ := List.cons.inj heq'
      rw [if_neg hplain, hassign]
      simp only [Option.bind_eq_bind, Option.bind_some, halter]
      cases place <;> rfl
    · cases ‹_ :: _ = []›
  have hform : key.toList ++ " = ".toList ++ text ++ ['\n'] ++ rest = line := by simp [line]
  rw [hform]
  rw [hline] at hstatement ⊢
  refine Reads.line hstatement (Reads.endLine?_lineEnd rest) ?_
  simp only [List.length_append, List.length_cons]
  omega

theorem lookup_concat_of_ne {entries : Entries} {key other : String}
    (h : entries.lookup key = none) (hne : key ≠ other) (node : Node) :
    (entries ++ [(other, node)]).lookup key = none := by
  have hother : (key == other) = false := by simpa using hne
  rw [List.lookup_append, h, Option.none_or, List.lookup_cons, hother]
  rfl

/-- A record is not written among the lines. -/
theorem standsFor_value {v : Value} (h : isPlain v = true ∨ ∃ fields, v = .record fields) :
    (writePlain? v = none ∧ plainNode? v = none) ∨
      ∃ text node, writePlain? v = some text ∧ plainNode? v = some node ∧ StandsFor text node := by
  rcases h with h | ⟨fields, rfl⟩
  · exact standsFor_plain h
  · exact .inl ⟨rfl, rfl⟩

/-- The lines of a table, into the table that is open. -/
theorem reads_lines (place : Place) (hsound : place.Sound) {fields : List (String × Value)}
    (hkeys : ∀ f ∈ fields, isKey f.1 = true)
    (hvalues : ∀ f ∈ fields, isPlain f.2 = true ∨ ∃ inner, f.2 = .record inner)
    (hdistinct : (fields.map (·.1)).Nodup) (entries : Entries)
    (hnew : ∀ f ∈ fields, entries.lookup f.1 = none) (rest : List Char) :
    Reads (place.progress entries) (writeLines fields ++ rest)
      (place.progress (entries ++ plainEntries fields)) rest := by
  induction fields generalizing entries with
  | nil =>
    rw [plainEntries, List.filterMap_nil, List.append_nil]
    exact .refl _ _
  | cons field fields ih =>
    obtain ⟨key, v⟩ := field
    obtain ⟨hfresh, hdistinct⟩ := List.nodup_cons.1 hdistinct
    have hmore := ih (fun f hf => hkeys f (List.mem_cons_of_mem _ hf))
      (fun f hf => hvalues f (List.mem_cons_of_mem _ hf)) hdistinct
    rcases standsFor_value (hvalues _ List.mem_cons_self) with
      ⟨hwrite, hnode⟩ | ⟨text, node, hwrite, hnode, hstands⟩
    · have hlines : writeLines ((key, v) :: fields) = writeLines fields := by
        simp only [writeLines, hwrite, List.nil_append]
      have hentries : plainEntries ((key, v) :: fields) = plainEntries fields := by
        simp [plainEntries, hnode]
      rw [hlines, hentries]
      exact hmore entries fun f hf => hnew f (List.mem_cons_of_mem _ hf)
    · have hlines : writeLines ((key, v) :: fields) ++ rest =
          key.toList ++ " = ".toList ++ text ++ ['\n'] ++ (writeLines fields ++ rest) := by
        simp only [writeLines, hwrite, List.append_assoc]
      have hentries : entries ++ plainEntries ((key, v) :: fields) =
          entries ++ [(key, node)] ++ plainEntries fields := by
        simp [plainEntries, hnode]
      rw [hlines, hentries]
      refine (reads_field hsound (hkeys _ List.mem_cons_self) (hnew _ List.mem_cons_self) hstands
        _).trans (hmore _ fun f hf => ?_)
      refine lookup_concat_of_ne (hnew f (List.mem_cons_of_mem _ hf)) ?_ node
      rintro rfl
      exact hfresh (List.mem_map.2 ⟨f, hf, rfl⟩)

/-! ## 6. Tables with headers -/

/-- A header opens a new table. -/
theorem reads_header {p : Progress} {key : String} (hkey : isKey key = true)
    (hnew : p.root.lookup key = none) (rest : List Char) :
    Reads p ('[' :: (key.toList ++ ']' :: '\n' :: rest))
      ((Place.last p.root key).progress []) rest := by
  obtain ⟨c, cs, heq, hname⟩ := isKey_eq_cons hkey
  have hread : key? (nestingLimit - 1) (key.toList ++ ']' :: '\n' :: rest) =
      some (([], key), ']' :: '\n' :: rest) :=
    key?_key hkey (by decide) (skipSpaces_of_ne (by decide) _) (by decide) 78
  have hheader : header? "[" "]" ('[' :: (key.toList ++ ']' :: '\n' :: rest)) =
      some (([], key), '\n' :: rest) := by
    have hopen : expect "[" ('[' :: (key.toList ++ ']' :: '\n' :: rest)) =
        some (key.toList ++ ']' :: '\n' :: rest) := rfl
    have hclose : expect "]" (']' :: '\n' :: rest) = some ('\n' :: rest) := rfl
    simp only [header?, hopen, hread, hclose, Option.bind_eq_bind, Option.bind_some]
    rfl
  have hopen : p.root.open? [] key = some (p.root ++ [(key, .table .header [])]) := by
    simp [Entries.open?, Entries.alter, hnew, Entries.put_of_new hnew]
  have hstatement : statement? p ('[' :: (key.toList ++ ']' :: '\n' :: rest)) =
      some ((Place.last p.root key).progress [], '\n' :: rest) := by
    have hbracket : c ≠ '[' := ne_of_class (hname c List.mem_cons_self) (by decide)
    unfold statement?
    rw [skipSpaces_of_ne (by decide)]
    split
    · rename_i heq'
      have hsecond := (List.cons.inj heq').2
      rw [heq] at hsecond
      exact absurd (List.cons.inj hsecond).1 hbracket
    · rw [hheader]
      simp only [Option.bind_eq_bind, Option.bind_some, hopen]
      rfl
    · rename_i hne heq'
      exact absurd (List.cons.inj heq').1 fun hc => hne hc.symm
    · cases ‹_ :: _ = []›
  refine Reads.line hstatement (Reads.endLine?_lineEnd rest) ?_
  simp only [List.length_append, List.length_cons]
  omega

/-- A record of plain values that is written under a header. -/
def isTable (fields : List (String × Value)) : Bool :=
  showsHeader fields && fields.all (fun f => isKey f.1 && isPlain f.2) &&
    decide (fields.map (·.1)).Nodup

theorem writeTables_of_plain (path : List String) {fields : List (String × Value)}
    (h : ∀ f ∈ fields, isPlain f.2 = true) : writeTables path fields = [] := by
  induction fields with
  | nil => rfl
  | cons field fields ih =>
    obtain ⟨key, v⟩ := field
    have hv : writeTable (path ++ [key]) v = [] := by
      have hplain := h _ List.mem_cons_self
      cases v <;> first | rfl | cases hplain
    rw [writeTables, hv, ih fun f hf => h f (List.mem_cons_of_mem _ hf)]
    rfl

/-- A table with its header, after what stands before it. -/
theorem reads_table {p : Progress} {key : String} (hkey : isKey key = true)
    (hnew : p.root.lookup key = none) {fields : List (String × Value)}
    (htable : isTable fields = true) (rest : List Char) :
    Reads p (writeTable [key] (.record fields) ++ rest)
      ((Place.last p.root key).progress (plainEntries fields)) rest := by
  simp only [isTable, Bool.and_eq_true, List.all_eq_true, decide_eq_true_eq] at htable
  obtain ⟨⟨hshown, hfields⟩, hdistinct⟩ := htable
  have hnone : writeTables [key] fields = [] :=
    writeTables_of_plain [key] fun f hf => (hfields f hf).2
  have hform : writeTable [key] (.record fields) ++ rest =
      '\n' :: '[' :: (key.toList ++ ']' :: '\n' :: (writeLines fields ++ rest)) := by
    simp [writeTable, hshown, hnone, dotted, String.intercalate_singleton]
  rw [hform]
  refine (Reads.blank p _).trans ((reads_header hkey hnew _).trans ?_)
  exact reads_lines (.last p.root key) hnew (fun f hf => (hfields f hf).1)
    (fun f hf => .inl (hfields f hf).2) hdistinct [] (fun _ _ => rfl) rest

/-! ## 7. Documents -/

/-- What a record is read as that stands under a header. -/
def tableNode? : Value → Option Node
  | .record fields => some (.table .header (plainEntries fields))
  | _ => none

/-- The entries of the fields that are written under headers. -/
def tableEntries (fields : List (String × Value)) : Entries :=
  fields.filterMap fun (key, value) => (tableNode? value).map (key, ·)

/-- A plain value or a record that is written under a header. -/
def isField : Value → Bool
  | .record inner => isTable inner
  | v => isPlain v

/-- The fields of a record that is read back: plain values and tables of such, all with keys of
their own. -/
def isDocument (fields : List (String × Value)) : Bool :=
  fields.all (fun f => isKey f.1 && isField f.2) && decide (fields.map (·.1)).Nodup

theorem plain_or_table {v : Value} (h : isField v = true) :
    (isPlain v = true ∧ ∀ path, writeTable path v = []) ∨
      ∃ inner, v = .record inner ∧ isTable inner = true := by
  cases v with
  | record inner => exact .inr ⟨inner, rfl, h⟩
  | _ => first | exact .inl ⟨rfl, fun _ => rfl⟩ | cases h

/-- The tables of a document, after what stands before them. -/
theorem reads_tables {fields : List (String × Value)} (hkeys : ∀ f ∈ fields, isKey f.1 = true)
    (hvalues : ∀ f ∈ fields, isField f.2 = true) (hdistinct : (fields.map (·.1)).Nodup)
    (p : Progress)
    (hnew : ∀ f ∈ fields, (∃ inner, f.2 = .record inner) → p.root.lookup f.1 = none)
    (rest : List Char) :
    ∃ p', p'.root = p.root ++ tableEntries fields ∧
      Reads p (writeTables [] fields ++ rest) p' rest := by
  -- By the fields, each after more of the document.
  induction fields generalizing p with
  | nil => exact ⟨p, (List.append_nil _).symm, .refl _ _⟩
  | cons field fields ih =>
    obtain ⟨key, v⟩ := field
    obtain ⟨hfresh, hdistinct⟩ := List.nodup_cons.1 hdistinct
    have hmore := ih (fun f hf => hkeys f (List.mem_cons_of_mem _ hf))
      (fun f hf => hvalues f (List.mem_cons_of_mem _ hf)) hdistinct
    have hform : writeTables [] ((key, v) :: fields) ++ rest =
        writeTable [key] v ++ (writeTables [] fields ++ rest) := by
      rw [writeTables, List.append_assoc]
      rfl
    rcases plain_or_table (hvalues _ List.mem_cons_self) with
      ⟨hplain, hwrite⟩ | ⟨inner, rfl, htable⟩
    · have hentries : tableEntries ((key, v) :: fields) = tableEntries fields := by
        cases v <;> first | rfl | cases hplain
      rw [hform, hentries, hwrite, List.nil_append]
      exact hmore p fun f hf => hnew f (List.mem_cons_of_mem _ hf)
    · have hkey := hnew _ List.mem_cons_self ⟨inner, rfl⟩
      obtain ⟨p', hroot, hreads⟩ := hmore
        ((Place.last p.root key).progress (plainEntries inner)) (fun f hf hrecord => by
          refine lookup_concat_of_ne (hnew f (List.mem_cons_of_mem _ hf) hrecord) ?_ _
          rintro rfl
          exact hfresh (List.mem_map.2 ⟨f, hf, rfl⟩))
      refine ⟨p', ?_, hform ▸ (reads_table (hkeys _ List.mem_cons_self) hkey htable _).trans hreads⟩
      rw [hroot]
      simp [tableEntries, tableNode?, Place.progress]

/-- Under the key of a table there is no plain entry. -/
theorem lookup_plainEntries {fields : List (String × Value)} {key : String}
    (h : ∀ f ∈ fields, f.1 = key → plainNode? f.2 = none) :
    (plainEntries fields).lookup key = none := by
  rw [List.lookup_eq_none_iff]
  intro entry hentry
  obtain ⟨⟨k, v⟩, hf, hmap⟩ := List.mem_filterMap.1 hentry
  obtain ⟨node, hnode, rfl⟩ := Option.map_eq_some_iff.1 hmap
  rw [bne_iff_ne]
  rintro rfl
  exact absurd (hnode.symm.trans (h _ hf rfl)) (by simp)

theorem writeLines_starts {fields : List (String × Value)}
    (hkeys : ∀ f ∈ fields, isKey f.1 = true) :
    writeLines fields = [] ∨ ∃ c cs, writeLines fields = c :: cs ∧ isKeyChar c = true := by
  induction fields with
  | nil => exact .inl rfl
  | cons field fields ih =>
    obtain ⟨key, v⟩ := field
    cases hwrite : writePlain? v with
    | none =>
      have hlines : writeLines ((key, v) :: fields) = writeLines fields := by
        simp only [writeLines, hwrite, List.nil_append]
      rw [hlines]
      exact ih fun f hf => hkeys f (List.mem_cons_of_mem _ hf)
    | some text =>
      obtain ⟨c, cs, heq, hname⟩ := isKey_eq_cons (hkeys _ List.mem_cons_self)
      refine .inr ⟨c, cs ++ " = ".toList ++ text ++ ['\n'] ++ writeLines fields, ?_,
        hname c List.mem_cons_self⟩
      simp only [writeLines, hwrite, heq, List.cons_append]

theorem writeTables_starts {fields : List (String × Value)}
    (hvalues : ∀ f ∈ fields, isField f.2 = true) :
    writeTables [] fields = [] ∨ ∃ cs, writeTables [] fields = '\n' :: '[' :: cs := by
  induction fields with
  | nil => exact .inl rfl
  | cons field fields ih =>
    obtain ⟨key, v⟩ := field
    have hform : writeTables [] ((key, v) :: fields) =
        writeTable [key] v ++ writeTables [] fields := rfl
    rcases plain_or_table (hvalues _ List.mem_cons_self) with
      ⟨-, hwrite⟩ | ⟨inner, rfl, htable⟩
    · rw [hform, hwrite, List.nil_append]
      exact ih fun f hf => hvalues f (List.mem_cons_of_mem _ hf)
    · simp only [isTable, Bool.and_eq_true] at htable
      refine .inr ⟨dotted [key] ++ [']', '\n'] ++ writeLines inner ++ writeTables [key] inner ++
        writeTables [] fields, ?_⟩
      rw [hform, writeTable, if_pos htable.1.1]
      rfl

/-- All lines of a text that does not begin with a byte order mark. -/
theorem read?_of_reads {cs : List Char} {p : Progress} (h : Reads {} cs p [])
    (hmark : cs.head? ≠ some '\ufeff') :
    read? (String.ofList cs) = some (.table .header p.root) := by
  unfold read?
  rw [String.toList_ofList]
  split
  · exact absurd rfl hmark
  · simp only [h.lines?_eq]
    rfl

/-- Reading a document gives back the entries that were written. -/
theorem read?_write? {fields : List (String × Value)} (h : isDocument fields = true) :
    ∃ text, write? (.record fields) = some text ∧
      read? text = some (.table .header (plainEntries fields ++ tableEntries fields)) := by
  simp only [isDocument, Bool.and_eq_true, List.all_eq_true, decide_eq_true_eq] at h
  obtain ⟨hfields, hdistinct⟩ := h
  have hkeys : ∀ f ∈ fields, isKey f.1 = true := fun f hf => (hfields f hf).1
  have hvalues : ∀ f ∈ fields, isField f.2 = true := fun f hf => (hfields f hf).2
  have hlines := reads_lines .root trivial hkeys (fun f hf => by
    rcases plain_or_table (hvalues f hf) with hplain | ⟨inner, heq, -⟩
    · exact .inl hplain.1
    · exact .inr ⟨inner, heq⟩) hdistinct [] (fun _ _ => rfl) (writeTables [] fields)
  obtain ⟨p, hroot, htables⟩ := reads_tables hkeys hvalues hdistinct
    (Place.root.progress ([] ++ plainEntries fields)) (fun f hf hrecord => by
      refine lookup_plainEntries fun f' hf' hsame => ?_
      obtain ⟨inner, heq⟩ := hrecord
      rw [List.inj_on_of_nodup_map hdistinct hf' hf hsame, heq]
      rfl) []
  rw [List.append_nil] at htables
  have hreads : Reads {} (writeLines fields ++ writeTables [] fields) p [] := hlines.trans htables
  refine ⟨_, rfl, ?_⟩
  rw [List.nil_append] at hroot
  change p.root = plainEntries fields ++ tableEntries fields at hroot
  rw [← hroot]
  -- The empty line before a table is left out at the beginning.
  rcases writeLines_starts hkeys with hnil | ⟨c, cs, heq, hc⟩
  · rcases writeTables_starts hvalues with hnone | ⟨cs, heq⟩
    · rw [hnil, hnone] at hreads ⊢
      exact read?_of_reads hreads (by simp)
    · rw [hnil, heq] at hreads ⊢
      exact read?_of_reads hreads.of_blank (by simp)
  · have hbreak : c ≠ '\n' := ne_of_class hc (by decide)
    have hmark : c ≠ '\ufeff' := ne_of_class hc (by decide)
    rw [heq, List.cons_append] at hreads ⊢
    rw [List.head?_cons, if_neg (by simpa using hbreak)]
    exact read?_of_reads hreads (by simpa using hmark)

end GpuRecorder.Document.Toml
