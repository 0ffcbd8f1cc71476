import GpuRecorder.Document.Ron.Text

/-!
# Quoted text reads back

`readText_quote` says that reading what `quote` wrote gives the text again, whatever follows it.
-/

namespace GpuRecorder.Document.Ron

/-! ## 1. Hexadecimal numerals -/

theorem digitValue?_hexDigit {d : Nat} (h : d < 16) :
    Decimal.digitValue? (hexDigit d) = some d := by
  have all : ∀ d : Fin 16, Decimal.digitValue? (hexDigit d) = some (d : Nat) := by decide
  exact all ⟨d, h⟩

theorem ofDigits_hexChars (n : Nat) : Decimal.ofDigits 16 (hexChars n) = n := by
  induction n using hexChars.induct with
  | case1 n h =>
    rw [hexChars, if_pos h]
    simp [Decimal.ofDigits, digitValue?_hexDigit h]
  | case2 n h ih =>
    rw [hexChars, if_neg h, Decimal.ofDigits_append_singleton, ih,
      digitValue?_hexDigit (Nat.mod_lt _ (by omega))]
    simp only [Option.getD_some]
    omega

theorem isDigitIn_hexDigit {d : Nat} (h : d < 16) : Decimal.isDigitIn 16 (hexDigit d) = true := by
  simp [Decimal.isDigitIn, digitValue?_hexDigit h, h]

theorem isDigitIn_of_mem_hexChars {n : Nat} {c : Char} (hc : c ∈ hexChars n) :
    Decimal.isDigitIn 16 c = true := by
  induction n using hexChars.induct with
  | case1 n h =>
    rw [hexChars, if_pos h, List.mem_singleton] at hc
    exact hc ▸ isDigitIn_hexDigit h
  | case2 n h ih =>
    rw [hexChars, if_neg h, List.mem_append, List.mem_singleton] at hc
    rcases hc with hc | hc
    · exact ih hc
    · exact hc ▸ isDigitIn_hexDigit (Nat.mod_lt _ (by omega))

theorem length_hexChars_pos (n : Nat) : 0 < (hexChars n).length := by
  rw [hexChars]
  split <;> simp

theorem length_hexChars_le {n k : Nat} (h : n < Nat.pow 16 (k + 1)) :
    (hexChars n).length ≤ k + 1 := by
  induction k generalizing n with
  | zero =>
    rw [hexChars, if_pos (by simpa using h)]
    simp
  | succ k ih =>
    rw [hexChars]
    split
    · simp
    · have hdiv : n / 16 < Nat.pow 16 (k + 1) := by
        rw [Nat.div_lt_iff_lt_mul (by omega)]
        simpa [Nat.pow_succ] using h
      have := ih hdiv
      rw [List.length_append, List.length_singleton]
      omega

/-! ## 2. Characters -/

/-- Six digits are enough for every character. -/
theorem escaped?_hexChars (c : Char) (rest : List Char) :
    escaped? ('u' :: '\x7b' :: (hexChars c.toNat ++ '\x7d' :: rest)) = some (c, rest) := by
  have hdigits : ∀ d ∈ hexChars c.toNat, Decimal.isDigitIn 16 d = true := fun d hd =>
    isDigitIn_of_mem_hexChars hd
  obtain ⟨htake, hdrop⟩ :=
    takeWhile_dropWhile_append hdigits (by decide : Decimal.isDigitIn 16 '\x7d' = false) rest
  have hvalid : c.toNat.isValidChar := c.valid
  have hlt : c.toNat < Nat.pow 16 (5 + 1) := by
    have : Nat.pow 16 (5 + 1) = 16777216 := by decide
    simp only [Nat.isValidChar] at hvalid
    omega
  have hchar : charOfHex? (hexChars c.toNat) = some c := by
    simp only [charOfHex?, ofDigits_hexChars]
    rw [if_pos ⟨List.all_eq_true.2 hdigits, hvalid⟩]
    exact congrArg some (Char.ofNat_toNat c)
  simp only [escaped?, htake, hdrop]
  rw [if_pos ⟨length_hexChars_pos _, length_hexChars_le hlt⟩, hchar]
  rfl

theorem unit_escaped {c : Char} {cs rest : List Char} (h : escaped? cs = some (c, rest)) :
    unit ('\\' :: cs) = some ([c], rest) := by
  simp [unit, h]

/-- An escaped character, in front of what is left of the text. -/
theorem readUnits_escaped {c d : Char} {cs rest : List Char}
    (h : escaped? (d :: (cs ++ rest)) = some (c, rest)) :
    readUnits (endAt '"') unit ('\\' :: d :: (cs ++ rest)) =
      push c (readUnits (endAt '"') unit rest) :=
  readUnits_of_unit (by simp [endAt]) (unit_escaped h) (length_lt_escape _ _ _ _)

theorem readUnits_escape (c : Char) (rest : List Char) :
    readUnits (endAt '"') unit (escape c ++ rest) =
      push c (readUnits (endAt '"') unit rest) := by
  unfold escape
  split
  · subst_vars
    exact readUnits_escaped rfl
  split
  · subst_vars
    exact readUnits_escaped rfl
  split
  · subst_vars
    exact readUnits_escaped rfl
  split
  · subst_vars
    exact readUnits_escaped rfl
  split
  · rename_i h
    rcases h with rfl | rfl | rfl <;> exact readUnits_escaped rfl
  rename_i hmark
  split
  · have hq : c ≠ '"' := fun h => hmark (by simp [h])
    have hb : c ≠ '\\' := fun h => hmark (by simp [h])
    have hunit : unit (c :: rest) = some ([c], rest) := by simp [unit, hb]
    exact readUnits_of_unit (by simp [endAt, hq]) hunit (by simp)
  · have hescaped : escaped? ('u' :: ('\x7b' :: (hexChars c.toNat ++ ['\x7d']) ++ rest)) =
        some (c, rest) := by
      simpa using escaped?_hexChars c rest
    simpa using readUnits_escaped hescaped

/-- Reading gives back what was quoted. -/
theorem readText_quote (cs rest : List Char) : readText (quote cs ++ rest) = some (cs, rest) := by
  have hform : quote cs ++ rest = '"' :: (cs.flatMap escape ++ '"' :: rest) := by simp [quote]
  rw [hform]
  change readUnits (endAt '"') unit _ = _
  induction cs with
  | nil => exact readUnits_of_ending (by simp [endAt])
  | cons c cs ih =>
    rw [List.flatMap_cons, List.append_assoc, readUnits_escape, ih (by simp [quote])]
    rfl

end GpuRecorder.Document.Ron
