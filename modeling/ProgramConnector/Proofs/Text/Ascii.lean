import ProgramConnector.Text.CaseMap

/-!
# Characters of ASCII

What holds of all characters of ASCII is checked one by one. Only the first runs of the case tables
reach into ASCII, so the case mapping of its characters is the usual one.
-/

namespace ProgramConnector.Text

/-- What holds of the first code points holds of the characters of ASCII. -/
theorem of_all_ascii {p : Char → Bool}
    (h : ((List.range 128).all fun n => p (Char.ofNat n)) = true) {c : Char}
    (hc : c.toNat < 128) : p c = true := by
  have hp := List.all_eq_true.1 h c.toNat (List.mem_range.2 hc)
  rwa [Char.ofNat_toNat] at hp

section Ascii

variable {c : Char}

/-- A small letter is a letter. -/
theorem isAlpha_of_isLower (h : c.isLower = true) : c.isAlpha = true :=
  Bool.or_eq_true_iff.2 (.inr h)

/-- A capital is a letter. -/
theorem isAlpha_of_isUpper (h : c.isUpper = true) : c.isAlpha = true :=
  Bool.or_eq_true_iff.2 (.inl h)

/-- A letter is a letter or a digit. -/
theorem isAlphanum_of_isAlpha (h : c.isAlpha = true) : c.isAlphanum = true :=
  Bool.or_eq_true_iff.2 (.inl h)

/-- A digit is a letter or a digit. -/
theorem isAlphanum_of_isDigit (h : c.isDigit = true) : c.isAlphanum = true :=
  Bool.or_eq_true_iff.2 (.inr h)

/-- The letters and numbers of ASCII. -/
theorem isAlphanumeric_of_ascii (h : c.toNat < 128) : isAlphanumeric c = c.isAlphanum :=
  beq_iff_eq.1
    (of_all_ascii (p := fun c => isAlphanumeric c == c.isAlphanum) (by decide) h)

/-- The numbers of ASCII are its digits. -/
theorem isNumeric_of_ascii (h : c.toNat < 128) : isNumeric c = c.isDigit :=
  beq_iff_eq.1 (of_all_ascii (p := fun c => isNumeric c == c.isDigit) (by decide) h)

/-- A character of ASCII is mapped by the first run when the other entries of the tables start
behind ASCII. -/
theorem mapCase_of_ascii {run : CaseRun} {rest : List CaseRun}
    {expansions : List (Nat × List Nat)} (hrest : ∀ other ∈ rest, 128 ≤ other.first)
    (hexpansions : ∀ expansion ∈ expansions, 128 ≤ expansion.1) (h : c.toNat < 128) :
    mapCase (run :: rest) expansions c =
      if run.maps c.toNat then [Char.ofNat (Int.toNat (c.toNat + run.shift))] else [c] := by
  have hothers : rest.find? (·.maps c.toNat) = none := by
    refine List.find?_eq_none.2 fun other ho hmaps => ?_
    simp only [CaseRun.maps, Bool.and_eq_true, decide_eq_true_eq] at hmaps
    have hfirst := hrest other ho
    omega
  have hnone : expansions.find? (·.1 == c.toNat) = none := by
    refine List.find?_eq_none.2 fun expansion he hcode => ?_
    have hfirst := hexpansions expansion he
    rw [beq_iff_eq] at hcode
    omega
  unfold mapCase
  rw [List.find?_cons]
  cases hrun : run.maps c.toNat with
  | true => rfl
  | false =>
    dsimp only
    rw [hothers, hnone]
    rfl

set_option maxRecDepth 2000 in
/-- The lowercase of a character of ASCII. -/
theorem lowerChar_of_ascii (h : c.toNat < 128) : lowerChar c = [c.toLower] := by
  have hrest : ∀ other ∈ lowerRuns.tail, 128 ≤ other.first := by decide
  refine (mapCase_of_ascii hrest (by decide) h).trans (beq_iff_eq.1 (of_all_ascii (p := fun c =>
    (if CaseRun.maps ⟨65, 90, 1, 32⟩ c.toNat then [Char.ofNat (Int.toNat (c.toNat + 32))]
      else [c]) == [c.toLower]) (by decide) h))

set_option maxRecDepth 2000 in
/-- The uppercase of a character of ASCII. -/
theorem upperChar_of_ascii (h : c.toNat < 128) : upperChar c = [c.toUpper] := by
  have hrest : ∀ other ∈ upperRuns.tail, 128 ≤ other.first := by decide
  refine (mapCase_of_ascii hrest (by decide) h).trans (beq_iff_eq.1 (of_all_ascii (p := fun c =>
    (if CaseRun.maps ⟨97, 122, 1, -32⟩ c.toNat then [Char.ofNat (Int.toNat (c.toNat + -32))]
      else [c]) == [c.toUpper]) (by decide) h))

end Ascii

end ProgramConnector.Text
