import ProgramConnector.Proofs.Naming.FunctionNames
import ProgramConnector.Proofs.Naming.TypeNames

/-!
# Names without separators

A character of ASCII that may not stand in an identifier ends a name. Words hold none, and no letter
has one in its lowercase or uppercase, so the names that are derived from a title hold none either,
whatever the title is.
-/

namespace ProgramConnector.Naming

open Text

/-- A character of ASCII that may not stand in an identifier. -/
def separates (c : Char) : Bool := c.toNat < 128 && !isIdentifierChar c

/-- A text that no character separates. -/
def IsSolid (text : List Char) : Prop := ∀ c ∈ text, separates c = false

/-- Letters and numbers do not separate. -/
theorem separates_of_isAlphanumeric {c : Char} (h : isAlphanumeric c = true) :
    separates c = false := by
  by_cases hascii : c.toNat < 128
  · rw [isAlphanumeric_of_ascii hascii] at h
    simp [separates, isIdentifierChar, h]
  · simp [separates, hascii]

/-! ## Case mapping -/

/-- Whether no character of a run is mapped to one that separates. -/
def solidRun (run : CaseRun) : Bool :=
  (List.range (run.last + 1 - run.first)).all fun offset =>
    !separates (Char.ofNat (Int.toNat (((run.first + offset : Nat) : Int) + run.shift)))

/-- Whether no character of an expansion separates. -/
def solidExpansion (expansion : Nat × List Nat) : Bool :=
  expansion.2.all fun code => !separates (Char.ofNat code)

section CaseMapping

variable {runs : List CaseRun} {expansions : List (Nat × List Nat)} {c : Char}

/-- A character that does not separate is mapped to such characters when the tables have no
others. -/
theorem isSolid_mapCase (hruns : runs.all solidRun = true)
    (hexpansions : expansions.all solidExpansion = true) (h : separates c = false) :
    IsSolid (mapCase runs expansions c) := by
  unfold mapCase
  cases hrun : runs.find? (·.maps c.toNat) with
  | some run =>
    intro d hd
    rw [List.mem_singleton.1 hd]
    have hmaps := List.find?_some hrun
    simp only [CaseRun.maps, Bool.and_eq_true, decide_eq_true_eq] at hmaps
    obtain ⟨⟨hfirst, hlast⟩, -⟩ := hmaps
    have hoffset : c.toNat - run.first < run.last + 1 - run.first := by omega
    have hall := List.all_eq_true.1 (List.all_eq_true.1 hruns run (List.mem_of_find?_eq_some hrun))
      (c.toNat - run.first) (List.mem_range.2 hoffset)
    rw [Nat.add_sub_cancel' hfirst] at hall
    exact Bool.not_eq_true' _ ▸ hall
  | none =>
    cases hexpansion : expansions.find? (·.1 == c.toNat) with
    | some expansion =>
      have hall := List.all_eq_true.1 hexpansions expansion (List.mem_of_find?_eq_some hexpansion)
      intro d hd
      obtain ⟨code, hcode, rfl⟩ := List.mem_map.1 hd
      exact Bool.not_eq_true' _ ▸ List.all_eq_true.1 hall code hcode
    | none =>
      intro d hd
      rw [List.mem_singleton.1 hd]
      exact h

set_option maxRecDepth 2000 in
/-- The lowercase of a character that does not separate holds no separator. -/
theorem isSolid_lowerChar (h : separates c = false) : IsSolid (lowerChar c) :=
  isSolid_mapCase (by decide) (by decide) h

set_option maxRecDepth 2000 in
/-- The uppercase of a character that does not separate holds no separator. -/
theorem isSolid_upperChar (h : separates c = false) : IsSolid (upperChar c) :=
  isSolid_mapCase (by decide) (by decide) h

end CaseMapping

section Texts

variable {text more : List Char}

/-- Two texts that no character separates hold no separator together. -/
theorem IsSolid.append (h : IsSolid text) (h' : IsSolid more) : IsSolid (text ++ more) :=
  List.forall_mem_append.2 ⟨h, h'⟩

/-- A text that no character separates holds no separator in lowercase. -/
theorem IsSolid.lowerFrom (h : IsSolid text) (before : List Char) :
    IsSolid (lowerFrom before text) := by
  induction text generalizing before with
  | nil => exact h
  | cons c rest ih =>
    obtain ⟨hc, hrest⟩ := List.forall_mem_cons.1 h
    rw [lowerFrom_cons]
    refine IsSolid.append ?_ (ih hrest (c :: before))
    by_cases hsigma : c = 'Σ'
    · rw [lowerAt, hsigma]
      simp only [beq_self_eq_true, if_true]
      split <;> exact List.forall_mem_singleton.2 (by decide)
    · rw [lowerAt_of_ne hsigma]
      exact isSolid_lowerChar hc

/-- A capital at the start of a text that no character separates brings no separator. -/
theorem IsSolid.upperFirst (h : IsSolid text) : IsSolid (upperFirst text) := by
  cases text with
  | nil => exact h
  | cons c rest =>
    obtain ⟨hc, hrest⟩ := List.forall_mem_cons.1 h
    exact (isSolid_upperChar hc).append hrest

end Texts

/-! ## Names -/

/-- No character separates a word. -/
theorem isSolid_of_mem_words {text word : List Char} (h : word ∈ words text) : IsSolid word := by
  intro c hc
  rcases (mem_wordsFrom h).2 c hc with hnil | ⟨-, hletter⟩
  · exact absurd hnil List.not_mem_nil
  · exact separates_of_isAlphanumeric hletter

/-- No character separates a text in camel case. -/
theorem isSolid_camelChars (text : List Char) : IsSolid (camelChars text) := by
  unfold camelChars
  cases hwords : words text with
  | nil => exact fun c hc => absurd hc List.not_mem_nil
  | cons first rest =>
    have hword : ∀ word ∈ first :: rest, IsSolid (lower word) := by
      intro word hw
      rw [← hwords] at hw
      exact (isSolid_of_mem_words hw).lowerFrom []
    refine (hword first List.mem_cons_self).append fun c hc => ?_
    obtain ⟨word, hw, hc⟩ := List.mem_flatMap.1 hc
    exact (hword word (List.mem_cons_of_mem _ hw)).upperFirst c hc

/-- No character separates a text in Pascal case. -/
theorem isSolid_pascalCase (text : String) : IsSolid (pascalCase text).toList := by
  rw [pascalCase, String.toList_ofList]
  exact (isSolid_camelChars text.toList).upperFirst

/-- No character separates the name of a function. -/
theorem isSolid_functionName (title : String) : IsSolid (functionName title).toList := by
  rw [functionName, camelCase, String.toList_ofList]
  exact isSolid_camelChars title.toList

/-- The name of an output type ends as its suffix does. -/
theorem suffix_outputType (title : String) :
    ['u', 't'] <:+ (DerivedNames.ofTitle title).outputType.toList := by
  have hchars : (DerivedNames.ofTitle title).outputType.toList =
      typeChars (functionName title).toList outputSuffix := by
    change (pascalCase (functionName title ++ "Output")).toList = _
    rw [pascalCase, String.toList_ofList, String.toList_append]
    rfl
  obtain ⟨stem, hstem⟩ := exists_typeChars (functionName title).toList
  rw [hchars, hstem outputSuffix (.inr rfl)]
  refine List.IsSuffix.trans ?_ (List.suffix_append _ _)
  cases (readName (functionName title).toList).merges with
  | false => decide
  | true => decide

end ProgramConnector.Naming
