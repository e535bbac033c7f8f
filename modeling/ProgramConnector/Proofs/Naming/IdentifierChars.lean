import ProgramConnector.Naming.TypeName
import ProgramConnector.Proofs.Text.Ascii

/-!
# Characters of declared names

The name of a type for a title has no character that cannot stand in an identifier, whatever the
title is: each of the three passes leaves identifier characters and breaks, and the last one drops
the breaks.
-/

namespace ProgramConnector.Naming

open Text

/-- A text of identifier characters. -/
def IsPlain (text : List Char) : Prop := ∀ c ∈ text, isIdentifierChar c = true

/-- A text of identifier characters and breaks. -/
def IsBroken (text : List Char) : Prop := ∀ c ∈ text, isIdentifierChar c = true ∨ c = ' '

/-- Letters and digits are characters of ASCII. -/
theorem toNat_lt_of_isAlphanum {c : Char} (h : c.isAlphanum = true) : c.toNat < 128 := by
  have hkinds : (c.isUpper || c.isLower || c.isDigit) = true := h
  rw [Bool.or_eq_true, Bool.or_eq_true] at hkinds
  rcases hkinds with (h | h) | h
  · have hrange : c.val ≥ 'A'.val ∧ c.val ≤ 'Z'.val := of_decide_eq_true h
    exact Nat.lt_of_le_of_lt (UInt32.le_iff_toNat_le.1 hrange.2) (by decide)
  · have hrange : (decide (c.val ≥ 'a'.val) && decide (c.val ≤ 'z'.val)) = true := h
    rw [Bool.and_eq_true, decide_eq_true_eq, decide_eq_true_eq] at hrange
    exact Nat.lt_of_le_of_lt (UInt32.le_iff_toNat_le.1 hrange.2) (by decide)
  · have hrange : (decide (c.val ≥ '0'.val) && decide (c.val ≤ '9'.val)) = true := h
    rw [Bool.and_eq_true, decide_eq_true_eq, decide_eq_true_eq] at hrange
    exact Nat.lt_of_le_of_lt (UInt32.le_iff_toNat_le.1 hrange.2) (by decide)

/-- What holds of the first code points that are letters or digits holds of letters and digits. -/
theorem of_isAlphanum {p : Char → Bool}
    (h : ((List.range 128).all fun n => !(Char.ofNat n).isAlphanum || p (Char.ofNat n)) = true)
    {c : Char} (hc : c.isAlphanum = true) : p c = true := by
  have hall := of_all_ascii (p := fun c => !c.isAlphanum || p c) h (toNat_lt_of_isAlphanum hc)
  rwa [hc, Bool.not_true, Bool.false_or] at hall

/-- Identifier characters are characters of ASCII. -/
theorem toNat_lt_of_isIdentifierChar {c : Char} (h : isIdentifierChar c = true) :
    c.toNat < 128 := by
  simp only [isIdentifierChar, Bool.or_eq_true, beq_iff_eq] at h
  rcases h with (h | rfl) | rfl
  · exact toNat_lt_of_isAlphanum h
  · decide
  · decide

/-- What holds of all characters of ASCII holds of identifier characters. -/
theorem of_all_range {p : Char → Bool}
    (h : ((List.range 128).all fun n => p (Char.ofNat n)) = true) {c : Char}
    (hc : isIdentifierChar c = true) : p c = true :=
  of_all_ascii h (toNat_lt_of_isIdentifierChar hc)

/-- A letter of ASCII is an identifier character. -/
theorem isIdentifierChar_of_isAlpha {c : Char} (h : c.isAlpha = true) :
    isIdentifierChar c = true := by
  simp [isIdentifierChar, Char.isAlphanum, h]

/-- The capital of an identifier character is one. -/
theorem isIdentifierChar_toUpper {c : Char} (h : isIdentifierChar c = true) :
    isIdentifierChar c.toUpper = true := by
  have hall := of_all_range (p := fun c => !isIdentifierChar c || isIdentifierChar c.toUpper)
    (by decide) h
  rw [h, Bool.not_true, Bool.false_or] at hall
  exact hall

/-- The uppercase of an identifier character is made of them. -/
theorem isPlain_upperChar {c : Char} (h : isIdentifierChar c = true) : IsPlain (upperChar c) := by
  rw [upperChar_of_ascii (toNat_lt_of_isIdentifierChar h)]
  exact List.forall_mem_singleton.2 (isIdentifierChar_toUpper h)

/-- An identifier is made of identifier characters. -/
theorem isPlain_of_isIdentifier {text : List Char} (h : isIdentifier text = true) :
    IsPlain text := by
  cases text with
  | nil => exact absurd h Bool.false_ne_true
  | cons c rest =>
    rw [isIdentifier, Bool.and_eq_true] at h
    obtain ⟨hc, hrest⟩ := h
    intro d hd
    rcases List.mem_cons.1 hd with rfl | hd
    · simp only [isIdentifierStart, Bool.or_eq_true] at hc
      rcases hc with (hc | hc) | hc
      · exact isIdentifierChar_of_isAlpha hc
      · simp [isIdentifierChar, hc]
      · simp [isIdentifierChar, hc]
    · exact List.all_eq_true.1 hrest d hd

/-! ## The passes -/

/-- A text with breaks for all other characters. -/
theorem isBroken_spaced (text : List Char) : IsBroken (spaced text) := by
  intro c hc
  obtain ⟨d, -, rfl⟩ := List.mem_map.1 hc
  split
  · exact .inl ‹_›
  · exact .inr rfl

/-- A break in front of a text. -/
theorem IsBroken.cons {text : List Char} (h : IsBroken text) : IsBroken (' ' :: text) := by
  intro c hc
  rcases List.mem_cons.1 hc with rfl | hc
  · exact .inr rfl
  · exact h c hc

/-- The first pass leaves identifier characters and breaks. -/
theorem isBroken_withBreaks (title : List Char) : IsBroken (withBreaks title) := by
  unfold withBreaks
  split
  · split
    · exact fun c hc => nomatch hc
    · exact IsBroken.cons fun c hc => nomatch hc
  · split
    · exact (isBroken_spaced _).cons
    split
    · exact (isBroken_spaced _).cons
    · exact isBroken_spaced title

/-- The second pass leaves identifier characters and breaks. -/
theorem IsBroken.joinUnderscores {text : List Char} (h : IsBroken text) (atStart : Bool) :
    IsBroken (joinUnderscores atStart text) := by
  induction atStart, text using joinUnderscores.induct with
  | case1 atStart => exact h
  | case2 atStart c => exact h
  | case3 atStart c d rest hjoined ih =>
    rw [Naming.joinUnderscores, if_pos hjoined]
    rw [Bool.and_eq_true] at hjoined
    have hrest : IsBroken rest :=
      fun e he => h e (List.mem_cons_of_mem _ (List.mem_cons_of_mem _ he))
    have hd : isIdentifierChar d = true :=
      isIdentifierChar_of_isAlpha (isAlpha_of_isLower hjoined.2)
    intro e he
    rcases List.mem_append.1 he with he | he
    · split at he
      · rw [List.mem_singleton.1 he]
        exact .inl rfl
      · exact absurd he List.not_mem_nil
    · rcases List.mem_cons.1 he with rfl | he
      · exact .inl (isIdentifierChar_toUpper hd)
      · exact ih hrest e he
  | case4 atStart c d rest hapart ih =>
    rw [Naming.joinUnderscores, if_neg hapart]
    intro e he
    rcases List.mem_cons.1 he with rfl | he
    · exact h e List.mem_cons_self
    · exact ih (fun f hf => h f (List.mem_cons_of_mem _ hf)) e he

/-- The third pass drops the breaks. -/
theorem IsBroken.dropBreaks {text : List Char} (h : IsBroken text) (previous : Option Char) :
    IsPlain (dropBreaks previous text) := by
  induction text generalizing previous with
  | nil => exact fun c hc => nomatch hc
  | cons c rest ih =>
    have hrest : IsBroken rest := fun d hd => h d (List.mem_cons_of_mem _ hd)
    rw [Naming.dropBreaks]
    by_cases hb : isBlank c = true
    · rw [if_pos hb]
      exact ih hrest (some c)
    · rw [if_neg hb]
      have hc : isIdentifierChar c = true := by
        rcases h c List.mem_cons_self with hc | rfl
        · exact hc
        · exact absurd (by decide) hb
      intro d hd
      rcases List.mem_cons.1 hd with rfl | hd
      · split
        · exact isIdentifierChar_toUpper hc
        · exact hc
      · exact ih hrest (some c) d hd

/-- A capital at the start leaves identifier characters. -/
theorem IsPlain.upperFirst {text : List Char} (h : IsPlain text) : IsPlain (upperFirst text) := by
  cases text with
  | nil => exact h
  | cons c rest =>
    intro d hd
    rcases List.mem_append.1 hd with hd | hd
    · exact isPlain_upperChar (h c List.mem_cons_self) d hd
    · exact h d (List.mem_cons_of_mem _ hd)

/-- The name of a type is made of identifier characters. -/
theorem isPlain_typeName (title : String) : IsPlain (typeName title).toList := by
  unfold typeName
  rw [String.toList_ofList]
  exact (((isBroken_withBreaks title.toList).joinUnderscores true).dropBreaks none).upperFirst

end ProgramConnector.Naming
