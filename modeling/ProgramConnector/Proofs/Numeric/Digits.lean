import Mathlib.Data.List.Basic

/-!
# Decimal numerals

A numeral without a zero in front of other digits is the one that is printed for its value, and what
is printed for a number is such a numeral. So numerals of this form that have the same value are the
same text.
-/

namespace ProgramConnector

/-- A decimal numeral: digits, of which the first of several is no zero. -/
structure IsDecimal (digits : List Char) : Prop where
  /-- There is a digit. -/
  ne_nil : digits ≠ []
  /-- All characters are digits. -/
  isDigit : ∀ c ∈ digits, c.isDigit = true
  /-- A zero in front stands alone. -/
  eq_zero : digits.head? = some '0' → digits = ['0']

/-- A digit is the character of its value. -/
theorem digitChar_of_isDigit {c : Char} (h : c.isDigit = true) :
    c.toNat - 48 < 10 ∧ Nat.digitChar (c.toNat - 48) = c := by
  have hbounds : 48 ≤ c.toNat ∧ c.toNat ≤ 57 := by
    rw [Char.isDigit, Bool.and_eq_true, decide_eq_true_eq, decide_eq_true_eq] at h
    exact h
  have hlt : c.toNat - 48 < 10 := by omega
  refine ⟨hlt, Char.toNat_inj.1 ?_⟩
  rw [Nat.toNat_digitChar_of_lt_ten hlt]
  omega

/-- Digits behind the numeral of a positive number make the numeral of their value. -/
theorem toDigits_append_digits {n : Nat} (hn : 0 < n) {digits : List Char}
    (h : ∀ c ∈ digits, c.isDigit = true) :
    Nat.toDigits 10 n ++ digits = Nat.toDigits 10 (Nat.ofDigitChars 10 digits n) := by
  induction digits generalizing n with
  | nil => exact List.append_nil _
  | cons c rest ih =>
    obtain ⟨hc, hrest⟩ := List.forall_mem_cons.1 h
    obtain ⟨hlt, hchar⟩ := digitChar_of_isDigit hc
    have hone : Nat.toDigits 10 n ++ [c] = Nat.toDigits 10 (10 * n + (c.toNat - 48)) := by
      rw [← Nat.toDigits_append_toDigits (by decide) hn hlt, Nat.toDigits_of_lt_base hlt, hchar]
    rw [Nat.ofDigitChars_cons, List.append_cons, hone]
    exact ih (by omega) hrest

/-- A numeral is what is printed for its value. -/
theorem IsDecimal.toDigits {digits : List Char} (h : IsDecimal digits) :
    Nat.toDigits 10 (Nat.ofDigitChars 10 digits 0) = digits := by
  cases digits with
  | nil => exact absurd rfl h.ne_nil
  | cons c rest =>
    obtain ⟨hc, hrest⟩ := List.forall_mem_cons.1 h.isDigit
    obtain ⟨hlt, hchar⟩ := digitChar_of_isDigit hc
    by_cases hzero : c = '0'
    · subst hzero
      rw [h.eq_zero rfl]
      rfl
    · have hpos : 0 < c.toNat - 48 := by
        refine Nat.pos_of_ne_zero fun hn => hzero ?_
        rw [← hchar, hn]
        rfl
      calc Nat.toDigits 10 (Nat.ofDigitChars 10 (c :: rest) 0)
          = Nat.toDigits 10 (Nat.ofDigitChars 10 rest (c.toNat - 48)) := by
            rw [Nat.ofDigitChars_cons, Nat.mul_zero, Nat.zero_add]
            rfl
        _ = Nat.toDigits 10 (c.toNat - 48) ++ rest := (toDigits_append_digits hpos hrest).symm
        _ = c :: rest := by rw [Nat.toDigits_of_lt_base hlt, hchar, List.singleton_append]

/-- Only the numeral of zero starts with a zero. -/
theorem eq_zero_of_head?_toDigits {n : Nat} (h : (Nat.toDigits 10 n).head? = some '0') :
    n = 0 := by
  induction n using Nat.strongRecOn with
  | ind n ih =>
    rw [Nat.toDigits_eq_if (by decide)] at h
    split at h
    · rename_i hlt
      have hall : ∀ m < 10, Nat.digitChar m = '0' → m = 0 := by decide
      exact hall n hlt (Option.some.inj h)
    · rw [List.head?_append_of_ne_nil _ Nat.toDigits_ne_nil] at h
      have hzero := ih (n / 10) (by omega) h
      omega

/-- What is printed for a number is a numeral. -/
theorem isDecimal_toDigits (n : Nat) : IsDecimal (Nat.toDigits 10 n) where
  ne_nil := Nat.toDigits_ne_nil
  isDigit _ hc := Nat.isDigit_of_mem_toDigits (by decide) (by decide) hc
  eq_zero h := by
    rw [eq_zero_of_head?_toDigits h]
    rfl

end ProgramConnector
