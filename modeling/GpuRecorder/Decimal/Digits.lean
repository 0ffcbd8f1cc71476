/-!
# Digits — numerals read and written

`digitValue?` reads one character as a digit, `ofDigits` a run of them in any base up to sixteen,
and `decimalChars` writes a number in base ten.  `ofDigits_decimalChars` says that the last two are
inverse.
-/

namespace GpuRecorder.Decimal

/-- The value of a digit character; letters go on after nine. -/
def digitValue? (c : Char) : Option Nat :=
  if '0' ≤ c ∧ c ≤ '9' then some (c.toNat - 48)
  else if 'a' ≤ c ∧ c ≤ 'f' then some (c.toNat - 87)
  else if 'A' ≤ c ∧ c ≤ 'F' then some (c.toNat - 55)
  else none

/-- A digit of a base. -/
def isDigitIn (base : Nat) (c : Char) : Bool :=
  match digitValue? c with
  | some d => d < base
  | none => false

/-- The number a run of digits stands for, most significant first. -/
def ofDigits (base : Nat) (cs : List Char) : Nat :=
  cs.foldl (fun n c => n * base + (digitValue? c).getD 0) 0

/-- The character of a decimal digit. -/
def digitChar (d : Nat) : Char := Char.ofNat (d + 48)

/-- The decimal numeral of a number, without leading zeros. -/
def decimalChars (n : Nat) : List Char :=
  if n < 10 then [digitChar n] else decimalChars (n / 10) ++ [digitChar (n % 10)]
  termination_by n
  decreasing_by exact Nat.div_lt_self (by omega) (by omega)

/-- The decimal numeral of a number. -/
def decimalText (n : Nat) : String := String.ofList (decimalChars n)

theorem digitValue?_digitChar {d : Nat} (h : d < 10) : digitValue? (digitChar d) = some d := by
  have : ∀ d : Fin 10, digitValue? (digitChar d) = some (d : Nat) := by decide
  exact this ⟨d, h⟩

theorem ofDigits_append_singleton (base : Nat) (cs : List Char) (c : Char) :
    ofDigits base (cs ++ [c]) = ofDigits base cs * base + (digitValue? c).getD 0 := by
  simp [ofDigits]

theorem ofDigits_decimalChars (n : Nat) : ofDigits 10 (decimalChars n) = n := by
  induction n using decimalChars.induct with
  | case1 n h =>
    rw [decimalChars, if_pos h]
    simp [ofDigits, digitValue?_digitChar h]
  | case2 n h ih =>
    rw [decimalChars, if_neg h, ofDigits_append_singleton, ih,
      digitValue?_digitChar (Nat.mod_lt _ (by omega))]
    simp only [Option.getD_some]
    omega

theorem isDigitIn_digitChar {d : Nat} (h : d < 10) : isDigitIn 10 (digitChar d) = true := by
  simp [isDigitIn, digitValue?_digitChar h, h]

theorem isDigitIn_of_mem_decimalChars {n : Nat} {c : Char} (hc : c ∈ decimalChars n) :
    isDigitIn 10 c = true := by
  induction n using decimalChars.induct with
  | case1 n h =>
    rw [decimalChars, if_pos h, List.mem_singleton] at hc
    exact hc ▸ isDigitIn_digitChar h
  | case2 n h ih =>
    rw [decimalChars, if_neg h, List.mem_append, List.mem_singleton] at hc
    rcases hc with hc | hc
    · exact ih hc
    · exact hc ▸ isDigitIn_digitChar (Nat.mod_lt _ (by omega))

theorem decimalChars_ne_nil (n : Nat) : decimalChars n ≠ [] := by
  rw [decimalChars]
  split <;> simp

/-- Only the numeral of zero starts with a zero. -/
theorem head?_decimalChars {n : Nat} (h : 0 < n) : (decimalChars n).head? ≠ some '0' := by
  induction n using decimalChars.induct with
  | case1 n hlt =>
    rw [decimalChars, if_pos hlt]
    have hall : ∀ d : Fin 10, 0 < d.val → digitChar d.val ≠ '0' := by decide
    simpa using hall ⟨n, hlt⟩ h
  | case2 n hge ih =>
    rw [decimalChars, if_neg hge, List.head?_append,
      List.head?_eq_some_head (decimalChars_ne_nil _), Option.some_or,
      ← List.head?_eq_some_head]
    exact ih (by omega)

theorem isDigit_of_isDigitIn {c : Char} (h : isDigitIn 10 c = true) : c.isDigit = true := by
  unfold isDigitIn digitValue? at h
  simp only [Char.isDigit, Bool.and_eq_true, decide_eq_true_eq]
  -- Letters are worth ten and more.
  split at h
  · rename_i d hd
    split at hd
    · rename_i hdigit
      exact hdigit
    · have hten : 10 ≤ d := by
        simp only [Char.le_def, UInt32.le_iff_toNat_le] at hd
        simp only [Char.toNat] at hd
        grind
      simp at h
      omega
  · cases h

end GpuRecorder.Decimal
