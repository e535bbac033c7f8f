import Mathlib.Data.List.TakeWhile
import ProgramConnector.Proofs.Json.TextReading
import ProgramConnector.Proofs.Numeric.Digits

/-!
# Reading printed atoms

The values of a document that are neither containers nor doubles are read back from what is printed
for them. So two of them that are printed alike are the same value.
-/

namespace ProgramConnector.Json

/-- An atom: null, a truth value, a whole number of 64 bits or a text. A whole number that does not
fit into 64 bits is a double in a document. -/
inductive IsAtom : Json → Prop
  /-- The null value. -/
  | null : IsAtom .null
  /-- A truth value. -/
  | bool (value : Bool) : IsAtom (.bool value)
  /-- A whole number. -/
  | whole {n : Int} (least : -(signedLimit : Int) ≤ n) (greatest : n < wordLimit) :
    IsAtom (.num (.whole n))
  /-- A text. -/
  | str (value : String) : IsAtom (.str value)

/-! ## Numbers -/

section Numbers

variable {digits : List Char}

/-- Digits do not make a significand smaller. -/
theorem le_ofDigitChars (digits : List Char) (significand : Nat) :
    significand ≤ Nat.ofDigitChars 10 digits significand := by
  induction digits generalizing significand with
  | nil => exact Nat.le_refl _
  | cons c rest ih =>
    rw [Nat.ofDigitChars_cons]
    exact Nat.le_trans (by omega) (ih _)

/-- Digits whose value has 64 bits are all absorbed. -/
theorem absorb_of_lt {significand : Nat}
    (h : Nat.ofDigitChars 10 digits significand < wordLimit) :
    absorb significand digits = (Nat.ofDigitChars 10 digits significand, []) := by
  induction digits generalizing significand with
  | nil => rfl
  | cons c rest ih =>
    have hstep : significand * 10 + digitValue c = 10 * significand + (c.toNat - '0'.toNat) := by
      rw [Nat.mul_comm]
      rfl
    rw [Nat.ofDigitChars_cons] at h ⊢
    rw [absorb, hstep, if_pos (Nat.lt_of_le_of_lt (le_ofDigitChars rest _) h), ih h]

/-- A numeral whose value has 64 bits is read as a whole number. -/
theorem number_of_isDecimal (hdecimal : IsDecimal digits)
    (h : Nat.ofDigitChars 10 digits 0 < wordLimit) (negative : Bool) :
    number negative digits = wholeNumber negative (Nat.ofDigitChars 10 digits 0) [] := by
  unfold number
  split
  · rename_i rest
    have hrest : rest = [] := (List.cons.inj (hdecimal.eq_zero rfl)).2
    subst hrest
    rfl
  · have hall : digits.takeWhile isDigit = digits :=
      List.takeWhile_eq_self_iff.2 hdecimal.isDigit
    rw [hall]
    dsimp only
    rw [List.drop_length, List.isEmpty_eq_false_iff.2 hdecimal.ne_nil, absorb_of_lt h]
    simp

/-- What is printed for a number of 64 bits is read as this number. -/
theorem number_toDigits {n : Nat} (h : n < wordLimit) (negative : Bool) :
    number negative (Nat.toDigits 10 n) = wholeNumber negative n [] := by
  have hvalue : Nat.ofDigitChars 10 (Nat.toDigits 10 n) 0 = n := Nat.ofDigitChars_ten_toDigits
  rw [number_of_isDecimal (isDecimal_toDigits n) (by rwa [hvalue]), hvalue]

/-- A digit starts a number. -/
theorem scalar?_of_isDigit {c : Char} (hc : c.isDigit = true) (rest : List Char) :
    scalar? (c :: rest) =
      (number false (c :: rest)).map fun (value, rest) => some (.num value, rest) := by
  have hother : ∀ d : Char, d.isDigit = false → c = d → False := by
    rintro d hd rfl
    rw [hc] at hd
    exact nomatch hd
  rw [scalar?.eq_9 c rest (hother _ (by decide)) (hother _ (by decide)) (hother _ (by decide))
    (hother _ (by decide)) (hother _ (by decide)) (hother _ (by decide)) (hother _ (by decide)),
    isDigit, if_pos hc]
  cases number false (c :: rest) <;> rfl

end Numbers

/-! ## Atoms -/

/-- What is printed for a natural number of 64 bits is read as an atom. -/
theorem scalar?_toDigits {n : Nat} (h : n < wordLimit) :
    scalar? (Nat.toDigits 10 n) = .ok (some (.num (.whole n), [])) := by
  obtain ⟨c, rest, hdigits⟩ := List.exists_cons_of_ne_nil (isDecimal_toDigits n).ne_nil
  have hc : c.isDigit = true := (isDecimal_toDigits n).isDigit c (by simp [hdigits])
  rw [hdigits, scalar?_of_isDigit hc, ← hdigits, number_toDigits h]
  rfl

/-- What is printed for the negative of a number of 63 bits is read as an atom. -/
theorem scalar?_negative {n : Nat} (h : n < signedLimit) :
    scalar? ('-' :: Nat.toDigits 10 (n + 1)) = .ok (some (.num (.whole (.negSucc n)), [])) := by
  have hword : n + 1 < wordLimit := Nat.lt_of_lt_of_le (Nat.succ_lt_succ h) (by decide)
  have hpos : ¬(n + 1 == 0 || decide (n + 1 > signedLimit)) = true := by
    simp only [Bool.or_eq_true, beq_iff_eq, decide_eq_true_eq]
    omega
  rw [scalar?, number_toDigits hword, wholeNumber, Bool.not_true, if_neg Bool.false_ne_true,
    if_neg hpos]
  rfl

/-- What is printed for an atom is read as this atom, to the end. -/
theorem IsAtom.scalar?_print {value : Json} (h : IsAtom value) :
    scalar? value.print = .ok (some (value, [])) := by
  cases h with
  | null => rfl
  | bool value => cases value <;> rfl
  | @whole n least greatest =>
    cases n with
    | ofNat n => exact scalar?_toDigits (Int.ofNat_lt.1 greatest)
    | negSucc n => exact scalar?_negative (by omega)
  | str value =>
    obtain ⟨printed, hprinted, hread⟩ := text_of_toText value []
    have hprint : (Json.str value).print = '"' :: printed := by
      rw [← hprinted, toText, String.toList_ofList]
    rw [List.append_nil] at hread
    rw [hprint, scalar?, hread]
    rfl

/-- What is printed for an atom starts with no space. -/
theorem IsAtom.skipSpace_print {value : Json} (h : IsAtom value) :
    skipSpace value.print = value.print := by
  have hdigits : ∀ n, skipSpace (Nat.toDigits 10 n) = Nat.toDigits 10 n := by
    intro n
    obtain ⟨c, rest, hdigits⟩ := List.exists_cons_of_ne_nil (isDecimal_toDigits n).ne_nil
    have hc : c.isDigit = true := (isDecimal_toDigits n).isDigit c (by simp [hdigits])
    have hspace : isSpace c = false := by
      simp only [isSpace, Bool.or_eq_false_iff, beq_eq_false_iff_ne]
      refine ⟨⟨⟨?_, ?_⟩, ?_⟩, ?_⟩ <;> · rintro rfl; exact absurd hc (by decide)
    rw [hdigits, skipSpace, List.dropWhile_cons_of_neg (by simp [hspace])]
  cases h with
  | null => rfl
  | bool value => cases value <;> rfl
  | @whole n least greatest =>
    cases n with
    | ofNat n => exact hdigits n
    | negSucc n => rfl
  | str value => rfl

/-- What is printed for an atom is the text of a document, and this document is the atom. -/
theorem IsAtom.ofText_toText {value : Json} (h : IsAtom value) :
    ofText value.toText = .ok value := by
  have hread : Json.value nestingLimit value.print = .ok (value, []) := by
    rw [Json.value.eq_def]
    dsimp only
    rw [h.skipSpace_print, h.scalar?_print]
    rfl
  have hmerged : value.merged = value := by cases h <;> rfl
  rw [ofText, ofTextRaw, toText, String.toList_ofList, hread]
  exact congrArg Except.ok hmerged

/-- Atoms that are printed alike are the same. -/
theorem IsAtom.eq_of_toText {value other : Json} (h : IsAtom value) (h' : IsAtom other)
    (htext : value.toText = other.toText) : value = other := by
  have hread := h.ofText_toText
  rw [htext, h'.ofText_toText] at hread
  exact (Except.ok.inj hread).symm

/-- Atoms are the same document only when they are equal. -/
theorem IsAtom.same_eq_true_iff {value other : Json} (h : IsAtom value) (h' : IsAtom other) :
    value.same other = true ↔ value = other := by
  cases h <;> cases h' <;> simp [same, Number.same]

end ProgramConnector.Json
