import ProgramConnector.Naming.Identifiers
import ProgramConnector.Proofs.Naming.IdentifierChars
import ProgramConnector.Proofs.Naming.Reading
import ProgramConnector.Proofs.Text.Lowercase

/-!
# Names of functions

The words of a text are nonempty and hold letters and numbers only. For a title of ASCII the name of
the function is therefore made of letters and digits: the first word in lowercase, and each later
one with a capital or a digit in front. So it can only be a reserved word, which has small letters
only, when the title has a single word.
-/

namespace ProgramConnector.Naming

open Text

/-! ## Words -/

section Words

variable {state : WordState} {current text word : List Char}

/-- A complete word is not empty, and is the one that was being read. -/
theorem mem_finished (h : word ∈ finished current) : word ≠ [] ∧ ∀ c ∈ word, c ∈ current := by
  unfold finished at h
  split at h
  · exact absurd h List.not_mem_nil
  · rename_i hsome
    rw [List.mem_singleton.1 h]
    exact ⟨by simpa using hsome, fun c hc => List.mem_reverse.1 hc⟩

/-- Words are not empty, and hold letters and numbers of the text. -/
theorem mem_wordsFrom (h : word ∈ wordsFrom state current text) :
    word ≠ [] ∧ ∀ c ∈ word, c ∈ current ∨ c ∈ text ∧ isAlphanumeric c = true := by
  induction text generalizing state current with
  | nil =>
    obtain ⟨hne, hc⟩ := mem_finished h
    exact ⟨hne, fun c hm => .inl (hc c hm)⟩
  | cons d rest ih =>
    -- What is said of the rest is said of the text, when the word at hand is not left behind.
    have hrest : ∀ {next : WordState} {now : List Char}, (∀ c ∈ now, c ∈ current ∨ c = d ∧
        isAlphanumeric d = true) → word ∈ wordsFrom next now rest →
        word ≠ [] ∧ ∀ c ∈ word, c ∈ current ∨ c ∈ d :: rest ∧ isAlphanumeric c = true := by
      intro next now hnow hw
      obtain ⟨hne, hword⟩ := ih hw
      refine ⟨hne, fun c hm => ?_⟩
      rcases hword c hm with hc | ⟨hc, ha⟩
      · rcases hnow c hc with hc | ⟨rfl, ha⟩
        · exact .inl hc
        · exact .inr ⟨List.mem_cons_self, ha⟩
      · exact .inr ⟨List.mem_cons_of_mem _ hc, ha⟩
    cases hd : isAlphanumeric d with
    | false =>
      rw [wordsFrom_separator hd] at h
      rcases List.mem_append.1 h with h | h
      · obtain ⟨hne, hc⟩ := mem_finished h
        exact ⟨hne, fun c hm => .inl (hc c hm)⟩
      · exact hrest (fun c hc => absurd hc List.not_mem_nil) h
    | true =>
      cases current with
      | nil =>
        rw [wordsFrom_start hd] at h
        exact hrest (fun c hc => .inr ⟨List.mem_singleton.1 hc, hd⟩) h
      | cons last before =>
        cases he : extend? state last d rest with
        | some next =>
          rw [wordsFrom_extend hd he] at h
          refine hrest (fun c hc => ?_) h
          rcases List.mem_cons.1 hc with rfl | hc
          · exact .inr ⟨rfl, hd⟩
          · exact .inl hc
        | none =>
          rw [wordsFrom_boundary hd he] at h
          rcases List.mem_cons.1 h with rfl | h
          · refine ⟨by simp, fun c hm => .inl (List.mem_reverse.1 hm)⟩
          · exact hrest (fun c hc => .inr ⟨List.mem_singleton.1 hc, hd⟩) h

end Words

/-! ## Texts of ASCII -/

section Ascii

variable {c : Char}

/-- A character of ASCII has no accent. -/
theorem plainChar_of_ascii (h : c.toNat < 128) : plainChar c = [c] :=
  beq_iff_eq.1 (of_all_ascii (p := fun c => plainChar c == [c]) (by decide) h)

/-- A letter or digit in lowercase is a small letter or a digit. -/
theorem toLower_of_isAlphanum (h : c.isAlphanum = true) :
    c.toLower.isLower = true ∨ c.toLower.isDigit = true := by
  exact Bool.or_eq_true_iff.1
    (of_isAlphanum (p := fun c => c.toLower.isLower || c.toLower.isDigit) (by decide) h)

/-- A letter or digit in uppercase is a letter or a digit, but no small letter. -/
theorem toUpper_of_isAlphanum (h : c.isAlphanum = true) :
    c.toLower.toUpper.isAlphanum = true ∧ c.toLower.toUpper.isLower = false := by
  have hall := of_isAlphanum
    (p := fun c => c.toLower.toUpper.isAlphanum && !c.toLower.toUpper.isLower) (by decide) h
  rwa [Bool.and_eq_true, Bool.not_eq_true'] at hall

/-- A text of ASCII has no accents. -/
theorem deburr_of_ascii {text : List Char} (h : ∀ c ∈ text, c.toNat < 128) :
    deburr text = text := by
  induction text with
  | nil => rfl
  | cons c rest ih =>
    obtain ⟨hc, hrest⟩ := List.forall_mem_cons.1 h
    rw [deburr, List.flatMap_cons, plainChar_of_ascii hc]
    exact congrArg (c :: ·) (ih hrest)

/-- The words of a text of ASCII are made of letters and digits. -/
theorem mem_words_of_ascii {text word : List Char} (h : ∀ c ∈ text, c.toNat < 128)
    (hw : word ∈ words text) : word ≠ [] ∧ ∀ c ∈ word, c.isAlphanum = true := by
  rw [words, deburr_of_ascii h] at hw
  obtain ⟨hne, hword⟩ := mem_wordsFrom hw
  refine ⟨hne, fun c hc => ?_⟩
  rcases hword c hc with hnil | ⟨hmem, ha⟩
  · exact absurd hnil List.not_mem_nil
  · rwa [isAlphanumeric_of_ascii (h c (List.mem_of_mem_filter hmem))] at ha

/-- The lowercase of letters and digits. -/
theorem lower_of_isAlphanum {word : List Char} (h : ∀ c ∈ word, c.isAlphanum = true) :
    lower word = word.map Char.toLower := by
  have hsigma : 'Σ' ∉ word := fun hs => absurd (h 'Σ' hs) (by decide)
  rw [lower, lowerFrom_of_not_mem hsigma]
  clear hsigma
  induction word with
  | nil => rfl
  | cons c rest ih =>
    obtain ⟨hc, hrest⟩ := List.forall_mem_cons.1 h
    rw [List.flatMap_cons, ih hrest, lowerChar_of_ascii (toNat_lt_of_isAlphanum hc)]
    rfl

/-- The capitalized form of letters and digits. -/
theorem capitalize_of_isAlphanum {c : Char} {rest : List Char}
    (h : ∀ d ∈ c :: rest, d.isAlphanum = true) :
    capitalize (c :: rest) = c.toLower.toUpper :: rest.map Char.toLower := by
  have hc : c.toLower.toNat < 128 := by
    have hall := of_all_ascii (p := fun c => decide (c.toLower.toNat < 128)) (by decide)
      (toNat_lt_of_isAlphanum (h c List.mem_cons_self))
    exact of_decide_eq_true hall
  rw [capitalize, lower_of_isAlphanum h, List.map_cons, upperFirst, upperChar_of_ascii hc]
  rfl

end Ascii

/-! ## Names -/

section Names

variable {text : List Char}

/-- A title of ASCII in camel case starts with its first word in lowercase, and goes on with the
later words, each of which starts with a capital or a digit. -/
theorem camelChars_of_ascii (h : ∀ c ∈ text, c.toNat < 128) {first : List Char}
    {rest : List (List Char)} (hwords : words text = first :: rest) :
    camelChars text = first.map Char.toLower ++ rest.flatMap capitalize := by
  have hfirst : first ∈ words text := by
    rw [hwords]
    exact List.mem_cons_self
  rw [camelChars, hwords]
  dsimp only
  rw [lower_of_isAlphanum (mem_words_of_ascii h hfirst).2]

/-- A letter or digit stays one in lowercase. -/
theorem isAlphanum_toLower {c : Char} (h : c.isAlphanum = true) : c.toLower.isAlphanum = true := by
  rcases toLower_of_isAlphanum h with hc | hc
  · simp [Char.isAlphanum, isAlpha_of_isLower hc]
  · simp [Char.isAlphanum, hc]

/-- A title of ASCII in camel case is made of letters and digits. -/
theorem isAlphanum_of_mem_camelChars (h : ∀ c ∈ text, c.toNat < 128) :
    ∀ c ∈ camelChars text, c.isAlphanum = true := by
  have hlower : ∀ word : List Char, (∀ c ∈ word, c.isAlphanum = true) →
      ∀ c ∈ word.map Char.toLower, c.isAlphanum = true := by
    intro word hword c hc
    obtain ⟨d, hd, rfl⟩ := List.mem_map.1 hc
    exact isAlphanum_toLower (hword d hd)
  cases hwords : words text with
  | nil =>
    rw [camelChars, hwords]
    exact fun c hc => absurd hc List.not_mem_nil
  | cons first rest =>
    have hword : ∀ word ∈ first :: rest, word ≠ [] ∧ ∀ c ∈ word, c.isAlphanum = true := by
      rw [← hwords]
      exact fun word hw => mem_words_of_ascii h hw
    rw [camelChars_of_ascii h hwords]
    intro c hc
    rcases List.mem_append.1 hc with hc | hc
    · exact hlower first (hword first List.mem_cons_self).2 c hc
    · obtain ⟨word, hw, hc⟩ := List.mem_flatMap.1 hc
      obtain ⟨hne, hchars⟩ := hword word (List.mem_cons_of_mem _ hw)
      cases word with
      | nil => exact absurd rfl hne
      | cons d others =>
        rw [capitalize_of_isAlphanum hchars] at hc
        rcases List.mem_cons.1 hc with rfl | hc
        · exact (toUpper_of_isAlphanum (hchars d List.mem_cons_self)).1
        · exact hlower others (fun e he => hchars e (List.mem_cons_of_mem _ he)) c hc

/-- A title of ASCII that gives small letters only has a single word. -/
theorem words_eq_singleton (h : ∀ c ∈ text, c.toNat < 128) (hne : camelChars text ≠ [])
    (hsmall : ∀ c ∈ camelChars text, c.isLower = true) : ∃ word, words text = [word] := by
  cases hwords : words text with
  | nil =>
    rw [camelChars, hwords] at hne
    exact absurd rfl hne
  | cons first rest =>
    cases rest with
    | nil => exact ⟨first, rfl⟩
    | cons second others =>
      have hmem : second ∈ words text := by
        rw [hwords]
        exact List.mem_cons_of_mem _ List.mem_cons_self
      obtain ⟨hsome, hchars⟩ := mem_words_of_ascii h hmem
      cases second with
      | nil => exact absurd rfl hsome
      | cons c more =>
        have hcapital : c.toLower.toUpper ∈ camelChars text := by
          rw [camelChars_of_ascii h hwords, List.flatMap_cons, capitalize_of_isAlphanum hchars]
          exact List.mem_append_right _ (List.mem_append_left _ List.mem_cons_self)
        have hupper := (toUpper_of_isAlphanum (hchars c List.mem_cons_self)).2
        rw [hsmall _ hcapital] at hupper
        exact nomatch hupper

end Names

/-! ## Reserved words -/

/-- The words that a module cannot bind: the keywords, the words reserved in strict code and in
modules, and the two names that strict code keeps to itself. -/
def reservedWords : List String :=
  ["break", "case", "catch", "class", "const", "continue", "debugger", "default", "delete", "do",
   "else", "enum", "export", "extends", "false", "finally", "for", "function", "if", "import",
   "in", "instanceof", "new", "null", "return", "super", "switch", "this", "throw", "true", "try",
   "typeof", "var", "void", "while", "with",
   "implements", "interface", "let", "package", "private", "protected", "public", "static", "yield",
   "await", "eval", "arguments"]

/-- A name that a module can bind: an identifier that is not reserved. -/
def isBindable (name : String) : Bool :=
  isIdentifier name.toList && !reservedWords.contains name

/-- Reserved words are not empty and have small letters only. -/
theorem reservedWord_spec {name : String} (h : name ∈ reservedWords) :
    name.toList ≠ [] ∧ ∀ c ∈ name.toList, c.isLower = true := by
  have hall : reservedWords.all fun name =>
      !name.toList.isEmpty && name.toList.all Char.isLower := by decide
  have hname := List.all_eq_true.1 hall name h
  rw [Bool.and_eq_true, Bool.not_eq_true', List.isEmpty_eq_false_iff] at hname
  exact ⟨hname.1, List.all_eq_true.1 hname.2⟩

/-- The function of a title of ASCII has a reserved word for its name exactly when the title has a
single word that is reserved in lowercase. -/
theorem functionName_mem_reservedWords_iff {title : String}
    (h : ∀ c ∈ title.toList, c.toNat < 128) : functionName title ∈ reservedWords ↔
      ∃ word, words title.toList = [word] ∧
        String.ofList (word.map Char.toLower) ∈ reservedWords := by
  have hsingle : ∀ word, words title.toList = [word] →
      functionName title = String.ofList (word.map Char.toLower) := by
    intro word hwords
    rw [functionName, camelCase, camelChars_of_ascii h hwords, List.flatMap_nil, List.append_nil]
  constructor
  · intro hreserved
    obtain ⟨hne, hsmall⟩ := reservedWord_spec hreserved
    rw [functionName, camelCase, String.toList_ofList] at hne hsmall
    obtain ⟨word, hwords⟩ := words_eq_singleton h hne hsmall
    exact ⟨word, hwords, hsingle word hwords ▸ hreserved⟩
  · rintro ⟨word, hwords, hreserved⟩
    rw [hsingle word hwords]
    exact hreserved

end ProgramConnector.Naming
