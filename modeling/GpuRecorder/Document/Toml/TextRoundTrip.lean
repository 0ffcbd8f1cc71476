import GpuRecorder.Document.Toml.Text

/-!
# Quoted text reads back

`readText_quote` says that reading what `quote` wrote gives the text again, whichever of the four
ways it chose.  What follows the text must not begin with a quote, which a closing quote could be
taken together with.
-/

namespace GpuRecorder.Document.Toml

/-! ## 1. Units -/

theorem literalUnit_cons {c : Char} (h : isControl c = false) (cs : List Char) :
    literalUnit (c :: cs) = some ([c], cs) := by
  simp [literalUnit, h]

theorem basicUnit_plain {c : Char} (hb : c ≠ '\\') (h : isControl c = false) (cs : List Char) :
    basicUnit (c :: cs) = some ([c], cs) := by
  simp [basicUnit, hb, literalUnit_cons h]

theorem basicUnit_escaped {c : Char} {cs rest : List Char} (h : escaped? cs = some (c, rest)) :
    basicUnit ('\\' :: cs) = some ([c], rest) := by
  simp [basicUnit, h]

theorem escaped?_control {c : Char} (h : isControl c = true) (rest : List Char) :
    escaped? ('u' :: '0' :: '0' :: hexDigit (c.toNat / 16) :: hexDigit (c.toNat % 16) :: rest) =
      some (c, rest) := by
  have hlt : c.toNat < 128 := by
    simp only [isControl, decide_eq_true_eq] at h
    omega
  have all : ∀ n : Fin 128, charOfHex? ['0', '0', hexDigit (n / 16), hexDigit (n % 16)] =
      some (Char.ofNat n) := by decide
  have hc := all ⟨c.toNat, hlt⟩
  simp only at hc
  rw [escaped?, hc, Char.ofNat_toNat]
  rfl

/-- How a character is written in a basic string: as it is, or as an escape that reads back and
that does not look like a joined line. -/
theorem escape_cases (keep : Bool) (c : Char) :
    (escape keep c = [c] ∧ c ≠ '\\' ∧ c ≠ '\r' ∧ (isControl c = false ∨ (c = '\n' ∧ keep = true))) ∨
      ∃ d cs, escape keep c = '\\' :: d :: cs ∧ d ∉ [' ', '\t', '\n', '\r'] ∧
        ∀ rest, escaped? (d :: (cs ++ rest)) = some (c, rest) := by
  unfold escape
  split
  · subst_vars
    exact Or.inr ⟨'b', [], rfl, by decide, fun _ => rfl⟩
  split
  · subst_vars
    exact Or.inr ⟨'t', [], rfl, by decide, fun _ => rfl⟩
  split
  · subst_vars
    cases keep
    · exact Or.inr ⟨'n', [], rfl, by decide, fun _ => rfl⟩
    · exact Or.inl (by simp)
  split
  · subst_vars
    exact Or.inr ⟨'f', [], rfl, by decide, fun _ => rfl⟩
  split
  · subst_vars
    exact Or.inr ⟨'r', [], rfl, by decide, fun _ => rfl⟩
  split
  · subst_vars
    exact Or.inr ⟨'\\', [], rfl, by decide, fun _ => rfl⟩
  rename_i hr hb
  split
  · rename_i h
    exact Or.inr ⟨'u', _, rfl, by decide, escaped?_control h⟩
  · rename_i h
    exact Or.inl ⟨rfl, hb, hr, Or.inl (by simpa using h)⟩

/-! ## 2. One line -/

theorem endAt_self (q : Char) (cs : List Char) : endAt q (q :: cs) = some ([], cs) := by
  simp [endAt]

theorem endAt_of_ne {q c : Char} (h : c ≠ q) (cs : List Char) : endAt q (c :: cs) = none := by
  simp [endAt, h]

theorem readUnits_escapeAll (cs rest : List Char) :
    readUnits (endAt '"') basicUnit (escapeAll false 0 0 cs ++ '"' :: rest) = some (cs, rest) := by
  induction cs with
  | nil => exact readUnits_of_ending (endAt_self _ _)
  | cons c cs ih =>
    rw [escapeAll]
    split
    · rename_i h
      subst h
      rw [if_neg (Nat.lt_irrefl 0), List.cons_append, List.cons_append,
        readUnits_of_unit (endAt_of_ne (by decide) _) (basicUnit_escaped rfl)
          (length_lt_cons_cons _ _ _), ih]
      rfl
    · rename_i hq
      rcases escape_cases false c with ⟨he, hb, -, hc⟩ | ⟨d, ds, he, -, hd⟩
      · have hc : isControl c = false := hc.resolve_right (by simp)
        rw [he, List.append_assoc, List.cons_append, List.nil_append,
          readUnits_of_unit (endAt_of_ne hq _) (basicUnit_plain hb hc _) (by simp), ih]
        rfl
      · rw [he, List.append_assoc, List.cons_append, List.cons_append,
          readUnits_of_unit (endAt_of_ne (by decide) _) (basicUnit_escaped (hd _))
            (length_lt_escape _ _ _ _), ih]
        rfl

theorem readUnits_literal {cs : List Char} (h : ∀ c ∈ cs, c ≠ '\'' ∧ isControl c = false)
    (rest : List Char) :
    readUnits (endAt '\'') literalUnit (cs ++ '\'' :: rest) = some (cs, rest) := by
  induction cs with
  | nil => exact readUnits_of_ending (endAt_self _ _)
  | cons c cs ih =>
    obtain ⟨hq, hc⟩ := h c (by simp)
    rw [List.cons_append, readUnits_of_unit (endAt_of_ne hq _) (literalUnit_cons hc _) (by simp),
      ih fun d hd => h d (by simp [hd])]
    rfl

/-! ## 3. The end of a text of many lines -/

theorem closing?_of_first {q a : Char} (h : a ≠ q) (cs : List Char) :
    closing? q (a :: cs) = none := by
  match cs with
  | [] => rfl
  | [_] => rfl
  | _ :: _ :: _ => simp [closing?, h]

theorem closing?_of_second {q a b : Char} (h : b ≠ q) (cs : List Char) :
    closing? q (a :: b :: cs) = none := by
  match cs with
  | [] => rfl
  | _ :: _ => simp [closing?, h]

theorem closing?_of_third {q a b c : Char} (h : c ≠ q) (cs : List Char) :
    closing? q (a :: b :: c :: cs) = none := by
  simp [closing?, h]

/-- Up to two quotes in front of the closing ones belong to the text. -/
theorem closing?_quotes {q : Char} {rest : List Char} (h : rest.head? ≠ some q) {n : Nat}
    (hn : n ≤ 2) :
    closing? q (List.replicate n q ++ q :: q :: q :: rest) = some (List.replicate n q, rest) := by
  have hnone : ∀ k, (rest.take k).takeWhile (· = q) = [] := by
    intro k
    match k, rest with
    | 0, _ => rfl
    | _, [] => simp
    | k + 1, d :: rest =>
      have hd : d ≠ q := fun hd => h (by simp [hd])
      simp [hd]
  match n, hn with
  | 0, _ => simp [closing?, hnone]
  | 1, _ => simp [closing?, List.replicate, hnone]
  | 2, _ => simp [closing?, List.replicate]

/-! ## 4. Basic strings of many lines -/

theorem linesUnit_of_unit {unit : Reader (List Char)} {joins : Bool} {c : Char} {cs : List Char}
    (hn : c ≠ '\n') (hr : c ≠ '\r') (hj : joins = true → c = '\\' → joined? cs = none) :
    linesUnit unit joins (c :: cs) = unit (c :: cs) := by
  rw [linesUnit, if_neg hn, if_neg (fun h => hr h.1)]
  split
  · rename_i h
    rw [hj h.1 h.2]
  · rfl

theorem linesUnit_lineEnd (unit : Reader (List Char)) (joins : Bool) (cs : List Char) :
    linesUnit unit joins ('\n' :: cs) = some (['\n'], cs) := by
  simp [linesUnit]

theorem joined?_of_not_blank {d : Char} (h : d ∉ [' ', '\t', '\n', '\r']) (cs : List Char) :
    joined? (d :: cs) = none := by
  simp only [List.mem_cons, List.not_mem_nil, or_false, not_or] at h
  obtain ⟨hs, ht, hn, hr⟩ := h
  simp [joined?, hs, ht, hn, hr]

/-- What is written of a text after `run` quotes in a row, and its end. -/
def basicLinesFrom (rest : List Char) (run : Nat) (cs : List Char) : List Char :=
  escapeAll true 2 run cs ++ '"' :: '"' :: '"' :: rest

/-- After two quotes, or with another character to come, no quote comes next. -/
theorem basicLinesFrom_cons (rest : List Char) {run : Nat} {c : Char} (h : c ≠ '"' ∨ run = 2)
    (cs : List Char) : ∃ d t, basicLinesFrom rest run (c :: cs) = d :: t ∧ d ≠ '"' := by
  unfold basicLinesFrom
  rw [escapeAll]
  split
  · rename_i hc
    obtain rfl := h.resolve_left (by simp [hc])
    exact ⟨'\\', _, rfl, by decide⟩
  · rename_i hc
    rcases escape_cases true c with ⟨he, -⟩ | ⟨d, ds, he, -⟩
    · rw [he]
      exact ⟨c, _, rfl, hc⟩
    · rw [he]
      exact ⟨'\\', _, rfl, by decide⟩

/-- A quote that stands as it is is part of the end exactly if nothing but quotes follows. -/
theorem closing?_basicLinesFrom {rest : List Char} (h : rest.head? ≠ some '"') {run : Nat}
    (hlow : 1 ≤ run) (hhigh : run ≤ 2) (cs : List Char) :
    closing? '"' ('"' :: basicLinesFrom rest run cs) = some ('"' :: cs, rest) ∨
      closing? '"' ('"' :: basicLinesFrom rest run cs) = none := by
  match cs with
  | [] => exact Or.inl (closing?_quotes h (by decide : 1 ≤ 2))
  | c :: cs =>
    by_cases hc : c ≠ '"' ∨ run = 2
    · obtain ⟨d, t, ht, hd⟩ := basicLinesFrom_cons rest hc cs
      rw [ht]
      exact Or.inr (closing?_of_second hd t)
    · simp only [not_or, Decidable.not_not] at hc
      obtain ⟨rfl, hrun⟩ := hc
      obtain rfl : run = 1 := by omega
      match cs with
      | [] => exact Or.inl (closing?_quotes h (by decide : 2 ≤ 2))
      | d :: cs =>
        obtain ⟨x, t, ht, hx⟩ := basicLinesFrom_cons rest (Or.inr rfl : d ≠ '"' ∨ 2 = 2) cs
        have hquote :
            basicLinesFrom rest 1 ('"' :: d :: cs) = '"' :: basicLinesFrom rest 2 (d :: cs) := rfl
        rw [hquote, ht]
        exact Or.inr (closing?_of_third hx t)

theorem readUnits_basicLinesFrom {rest : List Char} (h : rest.head? ≠ some '"') {run : Nat}
    (hrun : run ≤ 2) (cs : List Char) :
    readUnits (closing? '"') (linesUnit basicUnit true) (basicLinesFrom rest run cs) =
      some (cs, rest) := by
  induction cs generalizing run with
  | nil => exact readUnits_of_ending (closing?_quotes h (by decide : 0 ≤ 2))
  | cons c cs ih =>
    rw [basicLinesFrom, escapeAll]
    split
    · rename_i hc
      subst hc
      split
      · have hnext : run + 1 ≤ 2 := by omega
        change readUnits _ _ ('"' :: basicLinesFrom rest (run + 1) cs) = _
        rcases closing?_basicLinesFrom h (by omega : 1 ≤ run + 1) hnext cs with hclose | hclose
        · exact readUnits_of_ending hclose
        · have hunit : linesUnit basicUnit true ('"' :: basicLinesFrom rest (run + 1) cs) =
              some (['"'], basicLinesFrom rest (run + 1) cs) := by
            rw [linesUnit_of_unit (by decide) (by decide) (fun _ h => absurd h (by decide)),
              basicUnit_plain (by decide) (by decide)]
          rw [readUnits_of_unit hclose hunit (by simp), ih hnext]
          rfl
      · change readUnits _ _ ('\\' :: '"' :: basicLinesFrom rest 0 cs) = _
        have hunit : linesUnit basicUnit true ('\\' :: '"' :: basicLinesFrom rest 0 cs) =
            some (['"'], basicLinesFrom rest 0 cs) := by
          rw [linesUnit_of_unit (by decide) (by decide)
            (fun _ _ => joined?_of_not_blank (by decide) _), basicUnit_escaped rfl]
        rw [readUnits_of_unit (closing?_of_first (by decide) _) hunit (length_lt_cons_cons _ _ _),
          ih (by decide)]
        rfl
    · rename_i hq
      rcases escape_cases true c with ⟨he, hb, hr, hc⟩ | ⟨d, ds, he, hblank, hd⟩
      · rw [he]
        change readUnits _ _ (c :: basicLinesFrom rest 0 cs) = _
        have hunit : linesUnit basicUnit true (c :: basicLinesFrom rest 0 cs) =
            some ([c], basicLinesFrom rest 0 cs) := by
          by_cases hn : c = '\n'
          · subst hn
            exact linesUnit_lineEnd _ _ _
          · rw [linesUnit_of_unit hn hr (fun _ h => absurd h hb),
              basicUnit_plain hb (hc.resolve_right fun h => hn h.1)]
        rw [readUnits_of_unit (closing?_of_first hq _) hunit (by simp), ih (by decide)]
        rfl
      · rw [he, List.append_assoc, List.cons_append, List.cons_append]
        have hunit : linesUnit basicUnit true ('\\' :: d :: (ds ++ basicLinesFrom rest 0 cs)) =
            some ([c], basicLinesFrom rest 0 cs) := by
          rw [linesUnit_of_unit (by decide) (by decide)
            (fun _ _ => joined?_of_not_blank hblank _), basicUnit_escaped (hd _)]
        change readUnits _ _ ('\\' :: d :: (ds ++ basicLinesFrom rest 0 cs)) = _
        rw [readUnits_of_unit (closing?_of_first (by decide) _) hunit (length_lt_escape _ _ _ _),
          ih (by decide)]
        rfl

/-! ## 5. Literal strings of many lines -/

theorem hasTriple_of_cons {q c : Char} {cs : List Char} (h : hasTriple q (c :: cs) = false) :
    hasTriple q cs = false := by
  match cs with
  | [] => rfl
  | [_] => rfl
  | a :: b :: cs =>
    rw [hasTriple, Bool.or_eq_false_iff] at h
    exact h.2

/-- Without three quotes in a row the end is found where it is. -/
theorem closing?_literal {rest : List Char} (h : rest.head? ≠ some '\'') {c : Char}
    {cs : List Char} (ht : hasTriple '\'' (c :: cs) = false) :
    closing? '\'' (c :: cs ++ '\'' :: '\'' :: '\'' :: rest) = some (c :: cs, rest) ∨
      closing? '\'' (c :: cs ++ '\'' :: '\'' :: '\'' :: rest) = none := by
  by_cases hc : c = '\''
  · subst hc
    match cs with
    | [] => exact Or.inl (closing?_quotes h (by decide : 1 ≤ 2))
    | d :: cs =>
      by_cases hd : d = '\''
      · subst hd
        match cs with
        | [] => exact Or.inl (closing?_quotes h (by decide : 2 ≤ 2))
        | e :: cs =>
          have he : e ≠ '\'' := by
            rintro rfl
            simp [hasTriple] at ht
          exact Or.inr (closing?_of_third he _)
      · exact Or.inr (closing?_of_second hd _)
  · exact Or.inr (closing?_of_first hc _)

theorem readUnits_literalLines {rest : List Char} (h : rest.head? ≠ some '\'') {cs : List Char}
    (hc : ∀ c ∈ cs, isControl c = false ∨ c = '\n') (ht : hasTriple '\'' cs = false) :
    readUnits (closing? '\'') (linesUnit literalUnit false) (cs ++ '\'' :: '\'' :: '\'' :: rest) =
      some (cs, rest) := by
  induction cs with
  | nil => exact readUnits_of_ending (closing?_quotes h (by decide : 0 ≤ 2))
  | cons c cs ih =>
    rcases closing?_literal h ht with hclose | hclose
    · exact readUnits_of_ending hclose
    · have hunit : linesUnit literalUnit false (c :: (cs ++ '\'' :: '\'' :: '\'' :: rest)) =
          some ([c], cs ++ '\'' :: '\'' :: '\'' :: rest) := by
        rcases hc c (by simp) with hcontrol | rfl
        · have hn : c ≠ '\n' := by
            rintro rfl
            exact absurd hcontrol (by decide)
          have hr : c ≠ '\r' := by
            rintro rfl
            exact absurd hcontrol (by decide)
          rw [linesUnit_of_unit hn hr (fun h => absurd h (by decide)), literalUnit_cons hcontrol]
        · exact linesUnit_lineEnd _ _ _
      rw [List.cons_append] at hclose ⊢
      rw [readUnits_of_unit hclose hunit (by simp),
        ih (fun d hd => hc d (by simp [hd])) (hasTriple_of_cons ht)]
      rfl

/-! ## 6. All four ways -/

/-- Three quotes do not come first where the second character is not one. -/
theorem readText_of_second {q c : Char} {cs : List Char} (hq : q = '"' ∨ q = '\'') (hc : c ≠ q) :
    readText (q :: c :: cs) = readQuoted (q :: c :: cs) := by
  rcases hq with rfl | rfl
  · simp [readText, expect, isPrefixOf?_cons_cons, Ne.symm hc]
  · simp [readText, expect, isPrefixOf?_cons_cons, Ne.symm hc]

/-- Two quotes alone are an empty text. -/
theorem readText_of_third {q : Char} {cs : List Char} (hq : q = '"' ∨ q = '\'')
    (hc : cs.head? ≠ some q) : readText (q :: q :: cs) = readQuoted (q :: q :: cs) := by
  rcases hq with rfl | rfl
  · cases cs with
    | nil => simp [readText, expect, isPrefixOf?_cons_cons, isPrefixOf?_cons_nil]
    | cons d cs =>
      have hd : d ≠ '"' := fun hd => hc (by simp [hd])
      simp [readText, expect, isPrefixOf?_cons_cons, Ne.symm hd]
  · cases cs with
    | nil => simp [readText, expect, isPrefixOf?_cons_cons, isPrefixOf?_cons_nil]
    | cons d cs =>
      have hd : d ≠ '\'' := fun hd => hc (by simp [hd])
      simp [readText, expect, isPrefixOf?_cons_cons, Ne.symm hd]

theorem readText_quoteBasic (cs : List Char) {rest : List Char} (h : rest.head? ≠ some '"') :
    readText (quoteBasic cs ++ rest) = some (cs, rest) := by
  have hread : readQuoted ('"' :: (escapeAll false 0 0 cs ++ '"' :: rest)) = some (cs, rest) :=
    readUnits_escapeAll cs rest
  have hform : quoteBasic cs ++ rest = '"' :: (escapeAll false 0 0 cs ++ '"' :: rest) := by
    simp [quoteBasic]
  rw [hform]
  match cs with
  | [] => exact (readText_of_third (Or.inl rfl) h).trans hread
  | c :: cs =>
    have hsecond : ∃ d t, escapeAll false 0 0 (c :: cs) = d :: t ∧ d ≠ '"' := by
      rw [escapeAll]
      split
      · exact ⟨'\\', _, rfl, by decide⟩
      · rename_i hc
        rcases escape_cases false c with ⟨he, -⟩ | ⟨d, ds, he, -⟩
        · rw [he]
          exact ⟨c, _, rfl, hc⟩
        · rw [he]
          exact ⟨'\\', _, rfl, by decide⟩
    obtain ⟨d, t, ht, hd⟩ := hsecond
    rw [ht] at hread ⊢
    exact (readText_of_second (Or.inl rfl) hd).trans hread

theorem readText_quoteLiteral {cs : List Char} (hcs : ∀ c ∈ cs, c ≠ '\'' ∧ isControl c = false)
    {rest : List Char} (h : rest.head? ≠ some '\'') :
    readText (quoteLiteral cs ++ rest) = some (cs, rest) := by
  have hread : readQuoted ('\'' :: (cs ++ '\'' :: rest)) = some (cs, rest) :=
    readUnits_literal hcs rest
  have hform : quoteLiteral cs ++ rest = '\'' :: (cs ++ '\'' :: rest) := by simp [quoteLiteral]
  rw [hform]
  match cs with
  | [] => exact (readText_of_third (Or.inr rfl) h).trans hread
  | c :: cs => exact (readText_of_second (Or.inr rfl) (hcs c (by simp)).1).trans hread

/-- The line end that was put in front of a text is the one that is dropped. -/
theorem dropLineEnd_lineStart (cs : List Char) {text : List Char}
    (h : '\n' ∉ cs → text.head? ≠ some '\n' ∧ text.head? ≠ some '\r') :
    dropLineEnd (lineStart cs ++ text) = text := by
  unfold lineStart
  split
  · rfl
  · rename_i hn
    obtain ⟨h₁, h₂⟩ := h (by simpa using hn)
    match text with
    | [] => rfl
    | c :: text =>
      have hn : c ≠ '\n' := fun hc => h₁ (by simp [hc])
      have hr : c ≠ '\r' := fun hc => h₂ (by simp [hc])
      simp [dropLineEnd, hn, hr]

theorem head?_basicLinesFrom {cs : List Char} (rest : List Char) (h : '\n' ∉ cs) :
    (basicLinesFrom rest 0 cs).head? ≠ some '\n' ∧
      (basicLinesFrom rest 0 cs).head? ≠ some '\r' := by
  match cs with
  | [] => exact ⟨by simp [basicLinesFrom, escapeAll], by simp [basicLinesFrom, escapeAll]⟩
  | c :: cs =>
    have hn : c ≠ '\n' := fun hc => h (by simp [hc])
    rw [basicLinesFrom, escapeAll]
    split
    · rename_i hc
      subst hc
      exact ⟨by simp, by simp⟩
    · rcases escape_cases true c with ⟨he, -, hr, -⟩ | ⟨d, ds, he, -⟩
      · rw [he]
        exact ⟨by simp [hn], by simp [hr]⟩
      · rw [he]
        exact ⟨by simp, by simp⟩

theorem readText_quoteBasicLines (cs : List Char) {rest : List Char} (h : rest.head? ≠ some '"') :
    readText (quoteBasicLines cs ++ rest) = some (cs, rest) := by
  have hform : quoteBasicLines cs ++ rest =
      '"' :: '"' :: '"' :: (lineStart cs ++ basicLinesFrom rest 0 cs) := by
    simp [quoteBasicLines, basicLinesFrom]
  rw [hform]
  simp only [readText, expect, String.reduceToList, isPrefixOf?_cons_cons, isPrefixOf?_nil_left,
    beq_self_eq_true, if_true]
  rw [dropLineEnd_lineStart cs (head?_basicLinesFrom rest),
    readUnits_basicLinesFrom h (by decide)]

theorem readText_quoteLiteralLines {cs : List Char}
    (hcs : ∀ c ∈ cs, isControl c = false ∨ c = '\n') (ht : hasTriple '\'' cs = false)
    {rest : List Char} (h : rest.head? ≠ some '\'') :
    readText (quoteLiteralLines cs ++ rest) = some (cs, rest) := by
  have hform : quoteLiteralLines cs ++ rest =
      '\'' :: '\'' :: '\'' :: (lineStart cs ++ (cs ++ '\'' :: '\'' :: '\'' :: rest)) := by
    simp [quoteLiteralLines]
  have hhead : '\n' ∉ cs → (cs ++ '\'' :: '\'' :: '\'' :: rest).head? ≠ some '\n' ∧
      (cs ++ '\'' :: '\'' :: '\'' :: rest).head? ≠ some '\r' := by
    intro hn
    match cs with
    | [] => exact ⟨by simp, by simp⟩
    | c :: cs =>
      have hc : c ≠ '\n' := fun hc => hn (by simp [hc])
      have hr : c ≠ '\r' := by
        rintro rfl
        exact absurd ((hcs _ (by simp)).resolve_right hc) (by decide)
      exact ⟨by simp [hc], by simp [hr]⟩
  rw [hform]
  simp only [readText, expect, String.reduceToList, isPrefixOf?_cons_cons, isPrefixOf?_nil_left,
    beq_self_eq_true, if_true]
  simp only [show (('"' == '\'') = false) from rfl, Bool.false_eq_true, if_false]
  rw [dropLineEnd_lineStart cs hhead, readUnits_literalLines h hcs ht]

/-- Reading gives back what was quoted. -/
theorem readText_quote (cs : List Char) {rest : List Char} (hd : rest.head? ≠ some '"')
    (hs : rest.head? ≠ some '\'') : readText (quote cs ++ rest) = some (cs, rest) := by
  unfold quote
  simp only
  split
  · exact readText_quoteBasic cs hd
  split
  · rename_i h
    simp only [Bool.and_eq_true, Bool.not_eq_true', List.any_eq_false, List.contains_eq_mem,
      decide_eq_false_iff_not] at h
    obtain ⟨⟨hplain, hline⟩, hquote⟩ := h
    refine readText_quoteLiteral (fun c hc => ⟨fun h => hquote (h ▸ hc), ?_⟩) hs
    have hn : c ≠ '\n' := fun h => hline (h ▸ hc)
    simpa [hn] using hplain c hc
  split
  · exact readText_quoteBasicLines cs hd
  split
  · rename_i h
    simp only [Bool.and_eq_true, Bool.not_eq_true', List.any_eq_false] at h
    refine readText_quoteLiteralLines (fun c hc => ?_) h.2 hs
    have hplain := h.1 c hc
    by_cases hn : c = '\n'
    · exact Or.inr hn
    · exact Or.inl (by simpa [hn] using hplain)
  split
  · exact readText_quoteBasic cs hd
  · exact readText_quoteBasicLines cs hd

end GpuRecorder.Document.Toml
