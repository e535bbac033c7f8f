import ProgramConnector.Text.CaseMap

/-!
# Lowercase of longer texts

No character is lost when a text changes its case. Only the capital sigma looks at its neighbours,
so the lowercase of a text without one is made character by character, and a text that is its own
lowercase has none.
-/

namespace ProgramConnector.Text

/-- A character maps to at least one character. -/
theorem mapCase_ne_nil {runs : List CaseRun} {expansions : List (Nat × List Nat)}
    (h : ∀ expansion ∈ expansions, expansion.2 ≠ []) (c : Char) :
    mapCase runs expansions c ≠ [] := by
  unfold mapCase
  cases runs.find? (·.maps c.toNat) with
  | some run => exact List.cons_ne_nil _ _
  | none =>
    cases he : expansions.find? (·.1 == c.toNat) with
    | none => exact List.cons_ne_nil _ _
    | some expansion =>
      have hne := h expansion (List.mem_of_find?_eq_some he)
      simpa using hne

/-- The lowercase of a character is not empty. -/
theorem lowerChar_ne_nil (c : Char) : lowerChar c ≠ [] :=
  mapCase_ne_nil (by decide) c

/-- The uppercase of a character is not empty. -/
theorem upperChar_ne_nil (c : Char) : upperChar c ≠ [] :=
  mapCase_ne_nil (by decide) c

/-- A capital goes to the first part of a text. -/
theorem upperFirst_append_of_ne_nil {text : List Char} (h : text ≠ []) (rest : List Char) :
    upperFirst (text ++ rest) = upperFirst text ++ rest := by
  cases text with
  | nil => exact absurd rfl h
  | cons c more => exact (List.append_assoc _ _ _).symm

/-- A text with a capital is not empty. -/
theorem upperFirst_ne_nil {text : List Char} (h : text ≠ []) : upperFirst text ≠ [] := by
  cases text with
  | nil => exact absurd rfl h
  | cons c more => exact fun hnil => upperChar_ne_nil c (List.append_eq_nil_iff.1 hnil).1

/-- The lowercase of a character between others. -/
def lowerAt (before : List Char) (c : Char) (rest : List Char) : List Char :=
  if c == 'Σ' then
    if reachesCased before && !reachesCased rest then ['ς'] else ['σ']
  else lowerChar c

/-- The lowercase of a text starts with that of its first character. -/
theorem lowerFrom_cons (before : List Char) (c : Char) (rest : List Char) :
    lowerFrom before (c :: rest) = lowerAt before c rest ++ lowerFrom (c :: before) rest := rfl

/-- A character is not lost between others. -/
theorem lowerAt_ne_nil (before : List Char) (c : Char) (rest : List Char) :
    lowerAt before c rest ≠ [] := by
  unfold lowerAt
  split
  · split <;> exact List.cons_ne_nil _ _
  · exact lowerChar_ne_nil c

/-- A character other than a capital sigma does not look at its neighbours. -/
theorem lowerAt_of_ne {c : Char} (h : c ≠ 'Σ') (before rest : List Char) :
    lowerAt before c rest = lowerChar c := by
  have hb : (c == 'Σ') = false := by simp [h]
  simp only [lowerAt, hb, Bool.false_eq_true, if_false]

/-- A text does not get shorter in lowercase. -/
theorem length_le_lowerFrom (before text : List Char) :
    text.length ≤ (lowerFrom before text).length := by
  induction text generalizing before with
  | nil => simp
  | cons c rest ih =>
    have hrest := ih (c :: before)
    have hc := List.length_pos_iff.2 (lowerAt_ne_nil before c rest)
    rw [lowerFrom_cons, List.length_append, List.length_cons]
    omega

/-- A character that is the lowercase of its capital has one capital. -/
theorem upperChar_length {c : Char} (h : lower (upperChar c) = [c]) : (upperChar c).length = 1 := by
  have hle := length_le_lowerFrom [] (upperChar c)
  have hpos := List.length_pos_iff.2 (upperChar_ne_nil c)
  have hlength := congrArg List.length h
  rw [List.length_singleton] at hlength
  unfold lower at hlength
  omega

/-- A text without a capital sigma is put in lowercase character by character. -/
theorem lowerFrom_of_not_mem {text : List Char} (h : 'Σ' ∉ text) (before : List Char) :
    lowerFrom before text = text.flatMap lowerChar := by
  induction text generalizing before with
  | nil => rfl
  | cons c rest ih =>
    rw [List.mem_cons, not_or] at h
    rw [lowerFrom_cons, lowerAt_of_ne (Ne.symm h.1), ih h.2, List.flatMap_cons]

/-- A text that is its own lowercase has no capital sigma. -/
theorem not_mem_of_lowerFrom_eq {before text : List Char} (h : lowerFrom before text = text) :
    'Σ' ∉ text := by
  induction text generalizing before with
  | nil => simp
  | cons c rest ih =>
    rw [lowerFrom_cons] at h
    have hc := List.length_pos_iff.2 (lowerAt_ne_nil before c rest)
    have hrest := length_le_lowerFrom (c :: before) rest
    have hlength := congrArg List.length h
    rw [List.length_append, List.length_cons] at hlength
    have hone : (lowerAt before c rest).length = [c].length := by
      rw [List.length_singleton]
      omega
    obtain ⟨hfirst, htail⟩ := List.append_inj (h : _ = [c] ++ rest) hone
    rw [List.mem_cons, not_or]
    refine ⟨fun hs => ?_, ih htail⟩
    subst hs
    unfold lowerAt at hfirst
    split at hfirst
    · split at hfirst <;> exact absurd hfirst (by decide)
    · exact absurd rfl ‹_›

/-- A word that is its own lowercase, or its own lowercase with a capital, is in lowercase behind
its first character. -/
theorem lowerFrom_tail {c : Char} {rest : List Char}
    (h : lower (c :: rest) = c :: rest ∨ upperFirst (lower (c :: rest)) = c :: rest) :
    lowerFrom [c] rest = rest := by
  have hrest := length_le_lowerFrom [c] rest
  have hfirst := lowerAt_ne_nil [] c rest
  unfold lower at h
  rw [lowerFrom_cons] at h
  cases hl : lowerAt [] c rest with
  | nil => exact absurd hl hfirst
  | cons first more =>
    rw [hl, List.cons_append] at h
    have hmore : more ++ lowerFrom [c] rest = rest := by
      rcases h with h | h
      · exact (List.cons.inj h).2
      · have hu := List.length_pos_iff.2 (upperChar_ne_nil first)
        have hlength := congrArg List.length h
        simp only [upperFirst, List.length_append, List.length_cons] at hlength
        have hone : (upperChar first).length = [c].length := by
          rw [List.length_singleton]
          omega
        exact (List.append_inj (h : _ = [c] ++ rest) hone).2
    have hlength := congrArg List.length hmore
    rw [List.length_append] at hlength
    have hnil : more = [] := List.length_eq_zero_iff.1 (by omega)
    rw [hnil, List.nil_append] at hmore
    exact hmore

/-- A text without a capital sigma behind such a word is put in lowercase by itself, and the word
too. -/
theorem lower_append {word text : List Char} (hne : word ≠ [])
    (h : lower word = word ∨ upperFirst (lower word) = word) (hs : 'Σ' ∉ text) :
    lower (word ++ text) = lower word ++ text.flatMap lowerChar := by
  cases word with
  | nil => exact absurd rfl hne
  | cons c rest =>
    have hmem := not_mem_of_lowerFrom_eq (lowerFrom_tail h)
    have hboth : 'Σ' ∉ rest ++ text := by
      rw [List.mem_append, not_or]
      exact ⟨hmem, hs⟩
    have hfirst : lowerAt [] c (rest ++ text) = lowerAt [] c rest := rfl
    rw [List.cons_append, lower, lower, lowerFrom_cons, lowerFrom_cons, hfirst,
      lowerFrom_of_not_mem hboth, lowerFrom_of_not_mem hmem, List.flatMap_append,
      List.append_assoc]

/-- A cased letter ends the search for one, whatever it is. -/
theorem reachesCased_append {c c' : Char} (hc : caseIgnorable.contains c = false)
    (hc' : caseIgnorable.contains c' = false) (hcased : cased.contains c = cased.contains c')
    (text rest rest' : List Char) :
    reachesCased (text ++ c :: rest) = reachesCased (text ++ c' :: rest') := by
  induction text with
  | nil => simp only [reachesCased, List.nil_append, List.dropWhile_cons, hc, hc', hcased,
      Bool.false_eq_true, if_false]
  | cons x text ih =>
    unfold reachesCased at ih ⊢
    rw [List.cons_append, List.cons_append, List.dropWhile_cons, List.dropWhile_cons]
    cases caseIgnorable.contains x with
    | true => exact ih
    | false => rfl

/-- In front of a cased letter a text has one lowercase, whatever the letter is. -/
theorem exists_lowerFrom_append (c' : Char) (hc' : caseIgnorable.contains c' = false)
    (before text : List Char) :
    ∃ lowered, (text ≠ [] → lowered ≠ []) ∧ ∀ c rest, caseIgnorable.contains c = false →
      cased.contains c = cased.contains c' → 'Σ' ∉ c :: rest →
      lowerFrom before (text ++ c :: rest) = lowered ++ (c :: rest).flatMap lowerChar := by
  induction text generalizing before with
  | nil =>
    exact ⟨[], fun h => absurd rfl h, fun c rest _ _ hs => lowerFrom_of_not_mem hs before⟩
  | cons x text ih =>
    obtain ⟨lowered, -, hl⟩ := ih (x :: before)
    refine ⟨lowerAt before x (text ++ [c']) ++ lowered, fun _ h => ?_, fun c rest hc hcased hs => ?_⟩
    · exact lowerAt_ne_nil before x _ (List.append_eq_nil_iff.1 h).1
    · have hreach := reachesCased_append hc hc' hcased text rest []
      have hat : lowerAt before x (text ++ c :: rest) = lowerAt before x (text ++ [c']) := by
        unfold lowerAt
        rw [hreach]
      rw [List.cons_append, lowerFrom_cons, hl c rest hc hcased hs, hat, List.append_assoc]

end ProgramConnector.Text
