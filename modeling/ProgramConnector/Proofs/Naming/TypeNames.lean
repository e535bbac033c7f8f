import ProgramConnector.Proofs.Naming.Reading
import ProgramConnector.Proofs.Text.Lowercase

/-!
# Names of types and names of functions

The name of a type is made from the name of a function by a second split into words. The split may
put letters together that were words of their own in the title, so that functions with different
names get the same types. Where it leaves the name of the function as it is, the function can be read
back from either of its types. Two programs have the same input type exactly when they have the same
output type.
-/

namespace ProgramConnector.Naming

open Text

/-- Words in camel case: the first in lowercase, each later one capitalized. -/
def camelWords : List (List Char) → List (List Char)
  | [] => []
  | first :: rest => lower first :: rest.map capitalize

/-- A text in camel case is made of its words in camel case. -/
theorem camelChars_eq_flatten (text : List Char) :
    camelChars text = (camelWords (words text)).flatten := by
  unfold camelChars
  cases words text with
  | nil => rfl
  | cons first rest => simp only [camelWords, List.flatten_cons, List.flatMap_def]

/-- The last word in camel case, behind others. -/
theorem camelWords_append {words : List (List Char)} (hne : words ≠ []) (word : List Char) :
    camelWords (words ++ [word]) = camelWords words ++ [capitalize word] := by
  cases words with
  | nil => exact absurd rfl hne
  | cons first rest => simp only [camelWords, List.cons_append, List.map_append, List.map_cons,
      List.map_nil]

/-- The characters of a text that are split into words. -/
def plainText (text : List Char) : List Char := (deburr text).filter fun c => !isApostrophe c

/-- What is read of a function's name in front of a suffix. -/
def readName (name : List Char) : Reading := read inputSuffix .running [] (plainText name)

/-- The words of a name with a suffix. -/
theorem words_suffix {suffix : List Char} (hs : IsTypeSuffix suffix) (name : List Char) :
    words (name ++ suffix) = (readName name).words ++
      if (readName name).merges then [(readName name).current.reverse ++ suffix]
      else finished (readName name).current ++ [suffix] := by
  have hplain : plainText (name ++ suffix) = plainText name ++ suffix := by
    unfold plainText deburr
    rw [List.flatMap_append, List.filter_append]
    rcases hs with rfl | rfl <;> rfl
  have hread : read suffix .running [] (plainText name) = readName name :=
    read_suffix hs .running [] (plainText name)
  have hstate : (readName name).state ≠ .inOrdinal :=
    read_state_ne .running [] (plainText name) fun h => nomatch h
  change wordsFrom .running [] (plainText (name ++ suffix)) = _
  rw [hplain, wordsFrom_append, hread, wordsFrom_suffix hs hstate]

/-- A suffix is capitalized. -/
theorem capitalize_suffix {suffix : List Char} (hs : IsTypeSuffix suffix) :
    capitalize suffix = suffix := by
  rcases hs with rfl | rfl <;> decide

/-- A suffix is not in lowercase. -/
theorem lower_suffix_ne {suffix : List Char} (hs : IsTypeSuffix suffix) :
    suffix.flatMap lowerChar ≠ suffix := by
  rcases hs with rfl | rfl <;> decide

/-- The name of a type for a function and a suffix. -/
def typeChars (name suffix : List Char) : List Char := upperFirst (camelChars (name ++ suffix))

/-- A capital goes to the first part of a text, or to the suffix behind nothing. -/
theorem upperFirst_append {suffix : List Char} (hs : IsTypeSuffix suffix) (text : List Char) :
    upperFirst (text ++ suffix) = upperFirst text ++ suffix := by
  by_cases h : text = []
  · subst h
    rcases hs with rfl | rfl <;> decide
  · exact upperFirst_append_of_ne_nil h suffix

/-- The end of a type name: the suffix, in lowercase where it goes on with a word. -/
def suffixEnd (merges : Bool) (suffix : List Char) : List Char :=
  if merges then suffix.flatMap lowerChar else suffix

/-- A suffix goes on with a word only where there is one. -/
theorem current_ne_nil {name : List Char} (hm : (readName name).merges = true) :
    (readName name).current ≠ [] := by
  intro hnil
  rw [Reading.merges, hnil] at hm
  exact Bool.false_ne_true hm

/-- The suffix goes on with the last word in camel case. -/
theorem camelChars_merged {name : List Char} (hm : (readName name).merges = true) :
    ∃ stem, stem ≠ [] ∧ ∀ suffix, IsTypeSuffix suffix →
      camelChars (name ++ suffix) = stem ++ suffix.flatMap lowerChar := by
  obtain ⟨lowered, hne, hlowered⟩ := exists_lowerFrom_append 'I' (by decide) []
    (readName name).current.reverse
  have hcurrent : (readName name).current.reverse ≠ [] :=
    fun hnil => current_ne_nil hm (List.reverse_eq_nil_iff.1 hnil)
  have hl : ∀ suffix, IsTypeSuffix suffix →
      lower ((readName name).current.reverse ++ suffix) = lowered ++ suffix.flatMap lowerChar := by
    intro suffix hs
    rcases hs with rfl | rfl
    · exact hlowered 'I' _ (by decide) (by decide) (by decide)
    · exact hlowered 'O' _ (by decide) (by decide) (by decide)
  have hc : ∀ suffix, IsTypeSuffix suffix →
      capitalize ((readName name).current.reverse ++ suffix) =
        upperFirst lowered ++ suffix.flatMap lowerChar := by
    intro suffix hs
    rw [capitalize, hl suffix hs, upperFirst_append_of_ne_nil (hne hcurrent)]
  by_cases hwords : (readName name).words = []
  · refine ⟨lowered, hne hcurrent, fun suffix hs => ?_⟩
    rw [camelChars_eq_flatten, words_suffix hs, hm, if_pos rfl, hwords, List.nil_append,
      camelWords, hl suffix hs]
    simp only [List.map_nil, List.flatten_cons, List.flatten_nil, List.append_nil]
  · refine ⟨(camelWords (readName name).words).flatten ++ upperFirst lowered, fun h => ?_,
      fun suffix hs => ?_⟩
    · exact upperFirst_ne_nil (hne hcurrent) (List.append_eq_nil_iff.1 h).2
    · rw [camelChars_eq_flatten, words_suffix hs, hm, if_pos rfl, camelWords_append hwords,
        hc suffix hs, List.flatten_append, List.append_assoc]
      simp only [List.flatten_cons, List.flatten_nil, List.append_nil]

/-- The suffix is a word by itself. -/
theorem typeChars_separate {name : List Char} (hm : (readName name).merges = false)
    {suffix : List Char} (hs : IsTypeSuffix suffix) :
    typeChars name suffix = upperFirst (camelWords ((readName name).words ++
      finished (readName name).current)).flatten ++ suffix := by
  have hcapital : upperFirst (lower suffix) = suffix := capitalize_suffix hs
  rw [typeChars, camelChars_eq_flatten, words_suffix hs, hm, if_neg Bool.false_ne_true,
    ← List.append_assoc]
  by_cases hwords : (readName name).words ++ finished (readName name).current = []
  · rw [hwords]
    simp only [List.nil_append, camelWords, List.map_nil, List.flatten_cons, List.flatten_nil,
      List.append_nil]
    exact hcapital
  · rw [camelWords_append hwords, List.flatten_append, capitalize_suffix hs]
    simp only [List.flatten_cons, List.flatten_nil, List.append_nil]
    exact upperFirst_append hs _

/-- The type of a function is the same text for every suffix, and then the suffix. -/
theorem exists_typeChars (name : List Char) : ∃ stem, ∀ suffix, IsTypeSuffix suffix →
    typeChars name suffix = stem ++ suffixEnd (readName name).merges suffix := by
  cases hm : (readName name).merges with
  | false => exact ⟨_, fun suffix hs => typeChars_separate hm hs⟩
  | true =>
    obtain ⟨stem, hne, hstem⟩ := camelChars_merged hm
    refine ⟨upperFirst stem, fun suffix hs => ?_⟩
    rw [typeChars, hstem suffix hs, upperFirst_append_of_ne_nil hne]
    rfl

/-! ## Settled names -/

/-- A name that a second split leaves as it is, and whose first character can be read back from its
capital. -/
structure IsSettled (name : List Char) : Prop where
  /-- Its words make up the name. -/
  flatten : (words name).flatten = name
  /-- Its words are in camel case. -/
  camel : camelWords (words name) = words name
  /-- Its first character is the lowercase of its capital. -/
  first : ∀ c ∈ name.head?, lower (upperChar c) = [c]

section Settled

variable {name : List Char}

/-- A word of a settled name is its own lowercase, or its own lowercase with a capital. -/
theorem IsSettled.word (h : IsSettled name) {word : List Char} (hw : word ∈ words name) :
    lower word = word ∨ upperFirst (lower word) = word := by
  have hcamel := h.camel
  cases hws : words name with
  | nil =>
    rw [hws] at hw
    exact nomatch hw
  | cons first rest =>
    rw [hws] at hw hcamel
    obtain ⟨hfirst, hrest⟩ := List.cons.inj hcamel
    rcases List.mem_cons.1 hw with rfl | hw
    · exact .inl hfirst
    · have hall := List.map_inj_left.1 (hrest.trans (List.map_id rest).symm)
      exact .inr (hall word hw)

/-- No word of a settled name ends with a capital behind its first character. -/
theorem IsSettled.word_ne (h : IsSettled name) {before : List Char} (hne : before ≠ []) {d : Char}
    (hd : lowerChar d ≠ [d]) : before ++ [d] ∉ words name := by
  intro hw
  cases before with
  | nil => exact hne rfl
  | cons c rest =>
    have hmember : c :: (rest ++ [d]) ∈ words name := hw
    have htail := lowerFrom_tail (h.word hmember)
    have hmem := not_mem_of_lowerFrom_eq htail
    rw [lowerFrom_of_not_mem hmem, List.flatMap_append] at htail
    have hlast : [d].flatMap lowerChar = [d] := by
      have hlength := congrArg List.length htail
      have hrest := length_le_lowerFrom [c] rest
      have hpos := List.length_pos_iff.2 (lowerChar_ne_nil d)
      rw [lowerFrom_of_not_mem fun hs => hmem (List.mem_append_left _ hs)] at hrest
      simp only [List.length_append, List.flatMap_cons, List.flatMap_nil, List.length_singleton,
        List.append_nil] at hlength
      exact (List.append_inj htail (by omega)).2
    rw [List.flatMap_cons, List.flatMap_nil, List.append_nil] at hlast
    exact hd hlast

/-- The words of a settled name are those that are read in front of a suffix. -/
theorem IsSettled.words_eq (h : IsSettled name) :
    words name = (readName name).words ++ finished (readName name).current := by
  have hread : read [] .running [] (plainText name) = readName name := by
    rcases read_nil .running [] (plainText name) with hr | ⟨word, hw, before, d, hne, hd, rfl⟩
    · exact hr
    · refine absurd hw (h.word_ne hne ?_)
      have hcapitals : lowerChar 'T' ≠ ['T'] ∧ lowerChar 'D' ≠ ['D'] ∧ lowerChar 'H' ≠ ['H'] := by
        decide +kernel
      rw [List.mem_cons, List.mem_cons, List.mem_singleton] at hd
      rcases hd with rfl | rfl | rfl
      · exact hcapitals.1
      · exact hcapitals.2.1
      · exact hcapitals.2.2
  change wordsFrom .running [] (plainText name) = _
  rw [wordsFrom_eq_read, hread]

/-- A suffix goes on with the last word of a settled name. -/
theorem IsSettled.camelChars_merged (h : IsSettled name) (hm : (readName name).merges = true)
    {suffix : List Char} (hs : IsTypeSuffix suffix) :
    camelChars (name ++ suffix) = name ++ suffix.flatMap lowerChar := by
  have hcurrent := current_ne_nil hm
  have hne : (readName name).current.reverse ≠ [] :=
    fun hnil => hcurrent (List.reverse_eq_nil_iff.1 hnil)
  have hwords := h.words_eq
  have hname := h.flatten
  have hcamel := h.camel
  rw [finished, if_neg (by simpa using hcurrent)] at hwords
  have hfixed := h.word (hwords ▸ List.mem_append_right _ (List.mem_singleton.2 rfl))
  have hsigma : 'Σ' ∉ suffix := by rcases hs with rfl | rfl <;> decide
  have happend := lower_append hne hfixed hsigma
  rw [hwords] at hname hcamel
  rw [camelChars_eq_flatten, words_suffix hs, hm, if_pos rfl]
  generalize (readName name).current.reverse = word at *
  by_cases hnil : (readName name).words = []
  · rw [hnil, List.nil_append] at hcamel hname ⊢
    have hlower : lower word = word := (List.cons.inj hcamel).1
    rw [← hname, camelWords, happend, hlower]
    simp only [List.map_nil, List.flatten_cons, List.flatten_nil, List.append_nil]
  · rw [camelWords_append hnil] at hcamel ⊢
    obtain ⟨hbefore, hlast⟩ := List.append_inj' hcamel rfl
    have hcapital : upperFirst (lower word) = word := (List.cons.inj hlast).1
    have hlowered : lower word ≠ [] := by
      intro hl
      rw [hl] at hcapital
      exact hne hcapital.symm
    rw [hbefore, capitalize, happend, upperFirst_append_of_ne_nil hlowered, hcapital]
    simp only [List.flatten_append, List.flatten_cons, List.flatten_nil, List.append_nil] at hname ⊢
    rw [← List.append_assoc, hname]

/-- The types of a settled name start with the name and a capital. -/
theorem IsSettled.typeChars_eq (h : IsSettled name) {suffix : List Char}
    (hs : IsTypeSuffix suffix) :
    typeChars name suffix = upperFirst name ++ suffixEnd (readName name).merges suffix := by
  cases hm : (readName name).merges with
  | false =>
    rw [typeChars_separate hm hs, ← h.words_eq, h.camel, h.flatten]
    rfl
  | true =>
    have hne : name ≠ [] := by
      intro hnil
      rw [hnil] at hm
      exact absurd hm (by decide)
    rw [typeChars, h.camelChars_merged hm hs, upperFirst_append_of_ne_nil hne]
    rfl

/-- A settled name can be read back from the name with a capital. -/
theorem IsSettled.eq_of_upperFirst {name' : List Char} (h : IsSettled name) (h' : IsSettled name')
    (heq : upperFirst name = upperFirst name') : name = name' := by
  cases name with
  | nil =>
    by_contra hne
    exact upperFirst_ne_nil (Ne.symm hne) heq.symm
  | cons c rest =>
    cases name' with
    | nil => exact absurd heq (upperFirst_ne_nil (List.cons_ne_nil c rest))
    | cons c' rest' =>
      have hc := h.first c rfl
      have hc' := h'.first c' rfl
      have hone := upperChar_length hc
      have hone' := upperChar_length hc'
      obtain ⟨hupper, hrest⟩ := List.append_inj heq (hone.trans hone'.symm)
      rw [hupper, hc'] at hc
      rw [(List.cons.inj hc).1, hrest]

end Settled

/-! ## The types of programs -/

/-- The end of a type name is as long as the suffix. -/
theorem length_suffixEnd {suffix : List Char} (hs : IsTypeSuffix suffix) (merges : Bool) :
    (suffixEnd merges suffix).length = suffix.length := by
  rcases hs with rfl | rfl <;> cases merges <;> decide

/-- The end of a type name shows whether the suffix goes on with a word. -/
theorem suffixEnd_injective {suffix : List Char} (hs : IsTypeSuffix suffix) {merges merges' : Bool}
    (h : suffixEnd merges suffix = suffixEnd merges' suffix) : merges = merges' := by
  cases merges with
  | false =>
    cases merges' with
    | false => rfl
    | true => exact absurd h.symm (lower_suffix_ne hs)
  | true =>
    cases merges' with
    | false => exact absurd h (lower_suffix_ne hs)
    | true => rfl

/-- Functions whose types are the same with one suffix have the same types with every suffix. -/
theorem typeChars_congr {name name' suffix suffix' : List Char} (hs : IsTypeSuffix suffix)
    (hs' : IsTypeSuffix suffix') (h : typeChars name suffix = typeChars name' suffix) :
    typeChars name suffix' = typeChars name' suffix' := by
  obtain ⟨stem, hstem⟩ := exists_typeChars name
  obtain ⟨stem', hstem'⟩ := exists_typeChars name'
  rw [hstem suffix hs, hstem' suffix hs] at h
  have hlength := (length_suffixEnd hs (readName name).merges).trans
    (length_suffixEnd hs (readName name').merges).symm
  obtain ⟨hstems, hends⟩ := List.append_inj' h hlength
  rw [hstem suffix' hs', hstem' suffix' hs', hstems, suffixEnd_injective hs hends]

/-- Settled functions with the same types have the same name. -/
theorem IsSettled.eq_of_typeChars {name name' suffix : List Char} (h : IsSettled name)
    (h' : IsSettled name') (hs : IsTypeSuffix suffix)
    (heq : typeChars name suffix = typeChars name' suffix) : name = name' := by
  rw [h.typeChars_eq hs, h'.typeChars_eq hs] at heq
  have hlength := (length_suffixEnd hs (readName name).merges).trans
    (length_suffixEnd hs (readName name').merges).symm
  exact h.eq_of_upperFirst h' (List.append_inj' heq hlength).1

section Titles

variable {title title' : String}

/-- The input types of two programs are the same when the characters are. -/
theorem inputType_eq_iff_typeChars :
    (DerivedNames.ofTitle title).inputType = (DerivedNames.ofTitle title').inputType ↔
      typeChars (functionName title).toList inputSuffix =
        typeChars (functionName title').toList inputSuffix := by
  change String.ofList (upperFirst (camelChars (functionName title ++ "Input").toList)) =
    String.ofList (upperFirst (camelChars (functionName title' ++ "Input").toList)) ↔ _
  rw [String.toList_append, String.toList_append, String.ofList_inj]
  rfl

/-- The output types of two programs are the same when the characters are. -/
theorem outputType_eq_iff_typeChars :
    (DerivedNames.ofTitle title).outputType = (DerivedNames.ofTitle title').outputType ↔
      typeChars (functionName title).toList outputSuffix =
        typeChars (functionName title').toList outputSuffix := by
  change String.ofList (upperFirst (camelChars (functionName title ++ "Output").toList)) =
    String.ofList (upperFirst (camelChars (functionName title' ++ "Output").toList)) ↔ _
  rw [String.toList_append, String.toList_append, String.ofList_inj]
  rfl

/-- Two programs have the same input type exactly when they have the same output type. -/
theorem inputType_eq_iff_outputType_eq :
    (DerivedNames.ofTitle title).inputType = (DerivedNames.ofTitle title').inputType ↔
      (DerivedNames.ofTitle title).outputType = (DerivedNames.ofTitle title').outputType := by
  rw [inputType_eq_iff_typeChars, outputType_eq_iff_typeChars]
  constructor
  · exact typeChars_congr (.inl rfl) (.inr rfl)
  · exact typeChars_congr (.inr rfl) (.inl rfl)

/-- Programs whose functions have different and settled names have different types. -/
theorem types_ne_of_isSettled (hne : functionName title ≠ functionName title')
    (h : IsSettled (functionName title).toList) (h' : IsSettled (functionName title').toList) :
    (DerivedNames.ofTitle title).inputType ≠ (DerivedNames.ofTitle title').inputType ∧
      (DerivedNames.ofTitle title).outputType ≠ (DerivedNames.ofTitle title').outputType := by
  have hinput : (DerivedNames.ofTitle title).inputType ≠ (DerivedNames.ofTitle title').inputType := by
    intro heq
    have hchars := h.eq_of_typeChars h' (.inl rfl) (inputType_eq_iff_typeChars.1 heq)
    exact hne (String.toList_inj.1 hchars)
  exact ⟨hinput, fun heq => hinput (inputType_eq_iff_outputType_eq.2 heq)⟩

end Titles

/-- The functions of two titles with numbers have settled names. -/
theorem types_ne_of_isSettled_numbers :
    functionName "Sum Numbers (From 1 to 5)" = "sumNumbersFrom1To5" ∧
    functionName "Top 1st Place" = "top1stPlace" ∧
    (DerivedNames.ofTitle "Sum Numbers (From 1 to 5)").inputType ≠
      (DerivedNames.ofTitle "Top 1st Place").inputType ∧
    (DerivedNames.ofTitle "Sum Numbers (From 1 to 5)").outputType ≠
      (DerivedNames.ofTitle "Top 1st Place").outputType := by
  have hsum : functionName "Sum Numbers (From 1 to 5)" = "sumNumbersFrom1To5" := by decide +kernel
  have htop : functionName "Top 1st Place" = "top1stPlace" := by decide +kernel
  have hne : functionName "Sum Numbers (From 1 to 5)" ≠ functionName "Top 1st Place" := by
    rw [hsum, htop]
    decide
  have hs : IsSettled (functionName "Sum Numbers (From 1 to 5)").toList := by
    rw [hsum]
    refine ⟨rfl, rfl, fun c hc => ?_⟩
    obtain rfl := Option.some.inj hc
    rfl
  have ht : IsSettled (functionName "Top 1st Place").toList := by
    rw [htop]
    refine ⟨rfl, rfl, fun c hc => ?_⟩
    obtain rfl := Option.some.inj hc
    rfl
  exact ⟨hsum, htop, types_ne_of_isSettled hne hs ht⟩

/-- Three pairs of titles with different functions and the same types: letters that were words are
put together, an accent is dropped only by the second split, and two letters have one capital. -/
theorem types_eq_of_regrouped :
    (functionName "a b c" ≠ functionName "a bc" ∧
      (DerivedNames.ofTitle "a b c").inputType = (DerivedNames.ofTitle "a bc").inputType ∧
      (DerivedNames.ofTitle "a b c").outputType = (DerivedNames.ofTitle "a bc").outputType) ∧
    (functionName "\u212B" ≠ functionName "a" ∧
      (DerivedNames.ofTitle "\u212B").inputType = (DerivedNames.ofTitle "a").inputType ∧
      (DerivedNames.ofTitle "\u212B").outputType = (DerivedNames.ofTitle "a").outputType) ∧
    (functionName "ςx" ≠ functionName "σx" ∧
      (DerivedNames.ofTitle "ςx").inputType = (DerivedNames.ofTitle "σx").inputType ∧
      (DerivedNames.ofTitle "ςx").outputType = (DerivedNames.ofTitle "σx").outputType) := by
  have hwords : DerivedNames.ofTitle "a b c" = ⟨"aBC", "ABcInput", "ABcOutput"⟩ ∧
      DerivedNames.ofTitle "a bc" = ⟨"aBc", "ABcInput", "ABcOutput"⟩ := by decide +kernel
  have haccent : DerivedNames.ofTitle "\u212B" = ⟨"\u00E5", "AInput", "AOutput"⟩ ∧
      DerivedNames.ofTitle "a" = ⟨"a", "AInput", "AOutput"⟩ := by decide +kernel
  have hcapital : DerivedNames.ofTitle "ςx" = ⟨"ςx", "ΣxInput", "ΣxOutput"⟩ ∧
      DerivedNames.ofTitle "σx" = ⟨"σx", "ΣxInput", "ΣxOutput"⟩ := by decide +kernel
  have hfunction (title : String) : functionName title = (DerivedNames.ofTitle title).function := rfl
  simp only [hfunction, hwords, haccent, hcapital]
  decide

end ProgramConnector.Naming
