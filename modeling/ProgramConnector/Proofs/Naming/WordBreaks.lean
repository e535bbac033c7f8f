import Mathlib.Data.List.Chain
import ProgramConnector.Proofs.Naming.IdentifierChars
import ProgramConnector.Proofs.Naming.Reading

/-!
# Where words end

Splitting a text into words loses no letter and no number. A word ends only at a separator, between
letters and numbers, where lowercase turns to uppercase, at the last capital of a run of capitals
that goes on in lowercase, and behind an ordinal number. So every word is made of letters, of
numbers, or is a number with its ordinal suffix, and lowercase never turns to uppercase inside of
it.
-/

namespace ProgramConnector.Naming

open Text

/-! ## Words and the places between them -/

/-- The letters that make an ordinal of a number, by its last digit. -/
def ordinalSuffix (digit : Char) : List Char :=
  if digit = '1' then ['s', 't']
  else if digit = '2' then ['n', 'd']
  else if digit = '3' then ['r', 'd']
  else ['t', 'h']

/-- An ordinal suffix for a digit, in lowercase or in uppercase. -/
def IsOrdinalSuffix (digit : Char) (suffix : List Char) : Prop :=
  suffix = ordinalSuffix digit ∨ suffix = (ordinalSuffix digit).map Char.toUpper

/-- A number that ends in a digit of ASCII, with the ordinal suffix of that digit. -/
inductive IsOrdinal : List Char → Prop
  /-- Its parts. -/
  | mk {front suffix : List Char} {digit : Char} (numeric : ∀ c ∈ front, isNumeric c = true)
      (isDigit : digit.isDigit = true) (isSuffix : IsOrdinalSuffix digit suffix) :
    IsOrdinal (front ++ digit :: suffix)

/-- Lowercase that turns to uppercase between neighbours. -/
def StepsUp (a b : Char) : Prop := isLowercase a = true ∧ isUppercase b = true

/-- What a word is. -/
structure IsWord (word : List Char) : Prop where
  /-- It is not empty. -/
  ne_nil : word ≠ []
  /-- It is made of letters and numbers. -/
  alphanumeric : ∀ c ∈ word, isAlphanumeric c = true
  /-- It has no number, or numbers only, or it is an ordinal number. -/
  uniform : (∀ c ∈ word, isNumeric c = false) ∨ (∀ c ∈ word, isNumeric c = true) ∨ IsOrdinal word
  /-- Lowercase does not turn to uppercase inside of it. -/
  level : word.IsChain fun a b => ¬StepsUp a b

/-- A word may end in front of a text. -/
inductive Breaks : List Char → List Char → Prop
  /-- The text ends. -/
  | done {word : List Char} : Breaks word []
  /-- A separator follows. -/
  | separator {word rest : List Char} {c : Char} (separates : isAlphanumeric c = false) :
    Breaks word (c :: rest)
  /-- A number follows a letter, or a letter a number. -/
  | number {front rest : List Char} {last c : Char} (differs : isNumeric last ≠ isNumeric c) :
    Breaks (front ++ [last]) (c :: rest)
  /-- Lowercase turns to uppercase. -/
  | capital {front rest : List Char} {last c : Char} (stepsUp : StepsUp last c) :
    Breaks (front ++ [last]) (c :: rest)
  /-- The last capital of a run of capitals follows, and then lowercase. -/
  | acronym {front rest : List Char} {last c d : Char} (last_upper : isUppercase last = true)
      (upper : isUppercase c = true) (lower : isLowercase d = true) :
    Breaks (front ++ [last]) (c :: d :: rest)
  /-- The word is an ordinal number. -/
  | ordinal {word rest : List Char} (isOrdinal : IsOrdinal word) : Breaks word rest

/-- A text is split into words: what is between them is neither a letter nor a number, and each
word ends where it may. -/
inductive Splits : List Char → List (List Char) → Prop
  /-- Nothing is left. -/
  | done : Splits [] []
  /-- A separator is left out. -/
  | separator {c : Char} {rest : List Char} {words : List (List Char)}
      (separates : isAlphanumeric c = false) (more : Splits rest words) : Splits (c :: rest) words
  /-- A word ends. -/
  | word {word rest : List Char} {words : List (List Char)} (isWord : IsWord word)
      (breaks : Breaks word rest) (more : Splits rest words) :
    Splits (word ++ rest) (word :: words)

namespace Splits

variable {text : List Char} {words : List (List Char)}

/-- The words of a text put together are its letters and numbers. -/
theorem flatten_eq (h : Splits text words) : words.flatten = text.filter isAlphanumeric := by
  induction h with
  | done => rfl
  | separator separates _ ih => rw [List.filter_cons_of_neg (by simp [separates]), ih]
  | word isWord _ _ ih =>
    rw [List.flatten_cons, List.filter_append, ih, List.filter_eq_self.2 isWord.alphanumeric]

/-- What a text is split into are words. -/
theorem isWord_of_mem (h : Splits text words) {word : List Char} (hw : word ∈ words) :
    IsWord word := by
  induction h with
  | done => exact absurd hw List.not_mem_nil
  | separator _ _ ih => exact ih hw
  | word isWord _ _ ih =>
    rcases List.mem_cons.1 hw with rfl | hw
    · exact isWord
    · exact ih hw

end Splits

/-! ## Ordinal suffixes -/

section Ordinals

variable {digit : Char} {suffix : List Char}

/-- The letters of an ordinal suffix are those of its digit. -/
theorem ordinalLetters?_spec {a b : Char} (h : ordinalLetters? digit = some (a, b)) :
    digit.isDigit = true ∧ ordinalSuffix digit = [a, b] := by
  unfold ordinalLetters? at h
  unfold ordinalSuffix
  by_cases hone : digit = '1'
  · subst hone
    cases h
    exact ⟨rfl, rfl⟩
  by_cases htwo : digit = '2'
  · subst htwo
    cases h
    exact ⟨rfl, rfl⟩
  by_cases hthree : digit = '3'
  · subst hthree
    cases h
    exact ⟨rfl, rfl⟩
  simp only [beq_iff_eq, hone, htwo, hthree, if_false] at h ⊢
  split at h
  · rename_i hdigit
    cases h
    exact ⟨hdigit, rfl⟩
  · exact nomatch h

/-- A text that starts with an ordinal suffix starts with the two letters of one. -/
theorem exists_of_startsOrdinal {c : Char} {rest : List Char}
    (h : startsOrdinal digit (c :: rest) = true) :
    ∃ d more, rest = d :: more ∧ digit.isDigit = true ∧ IsOrdinalSuffix digit [c, d] := by
  cases rest with
  | nil =>
    unfold startsOrdinal at h
    split at h
    · rename_i hnil
      exact nomatch hnil
    · exact nomatch h
  | cons d more =>
    unfold startsOrdinal at h
    cases ho : ordinalLetters? digit with
    | none => simp [ho] at h
    | some letters =>
      obtain ⟨a, b⟩ := letters
      obtain ⟨hdigit, hsuffix⟩ := ordinalLetters?_spec ho
      refine ⟨d, more, rfl, hdigit, ?_⟩
      simp only [ho] at h
      unfold IsOrdinalSuffix
      rw [hsuffix]
      split at h
      · rename_i hsmall
        simp only [Bool.and_eq_true, beq_iff_eq] at hsmall
        exact .inl (by rw [hsmall.1, hsmall.2])
      split at h
      · rename_i hlarge
        simp only [Bool.and_eq_true, beq_iff_eq] at hlarge
        exact .inr (by rw [hlarge.1, hlarge.2]; rfl)
      · exact nomatch h

/-- The second letter of an ordinal suffix is a letter, and lowercase does not turn to uppercase
between the two. -/
theorem IsOrdinalSuffix.letters {a b : Char} (h : IsOrdinalSuffix digit [a, b]) :
    isAlphanumeric b = true ∧ ¬StepsUp a b := by
  unfold IsOrdinalSuffix ordinalSuffix at h
  unfold StepsUp
  split_ifs at h
  all_goals
    rcases h with h | h
    · cases h
      decide
    · cases h
      decide

/-- A digit of ASCII is not in lowercase. -/
theorem isLowercase_of_isDigit (h : digit.isDigit = true) : isLowercase digit = false := by
  have hall := of_isAlphanum (p := fun c => !c.isDigit || !isLowercase c) (by decide)
    (isAlphanum_of_isDigit h)
  rw [h, Bool.not_true, Bool.false_or, Bool.not_eq_true'] at hall
  exact hall

end Ordinals

/-! ## The word that is being read -/

/-- What is known of the word that is being read, last character first, in front of the rest. -/
structure Grows (state : WordState) (current rest : List Char) : Prop where
  /-- It is made of letters and numbers. -/
  alphanumeric : ∀ c ∈ current, isAlphanumeric c = true
  /-- Lowercase does not turn to uppercase inside of it. -/
  level : current.IsChain fun b a => ¬StepsUp a b
  /-- It has no number or numbers only. -/
  running : state = .running →
    (∀ c ∈ current, isNumeric c = false) ∨ ∀ c ∈ current, isNumeric c = true
  /-- The first letter of an ordinal suffix is read, and the second one follows. -/
  inOrdinal : state = .inOrdinal → ∃ front digit a b more, current = a :: digit :: front ∧
    rest = b :: more ∧ (∀ c ∈ front, isNumeric c = true) ∧ digit.isDigit = true ∧
    IsOrdinalSuffix digit [a, b]
  /-- It is an ordinal number. -/
  closed : state = .closed → IsOrdinal current.reverse

namespace Grows

variable {state next : WordState} {last c : Char} {current before rest : List Char}

/-- Nothing is read. -/
theorem nil (rest : List Char) : Grows .running [] rest :=
  ⟨fun _ hc => absurd hc List.not_mem_nil, .nil,
    fun _ => .inl fun _ hc => absurd hc List.not_mem_nil, nofun, nofun⟩

/-- A letter or number starts a word. -/
theorem singleton (hc : isAlphanumeric c = true) (rest : List Char) : Grows .running [c] rest := by
  refine ⟨List.forall_mem_singleton.2 hc, .singleton c, fun _ => ?_, nofun, nofun⟩
  rw [List.forall_mem_singleton, List.forall_mem_singleton]
  exact (Bool.eq_false_or_eq_true (isNumeric c)).symm

/-- A word that does not go on is one. -/
theorem isWord (h : Grows state current rest) (hne : current ≠ []) (hstate : state ≠ .inOrdinal) :
    IsWord current.reverse := by
  refine ⟨by simpa using hne, fun c hc => h.alphanumeric c (List.mem_reverse.1 hc), ?_,
    List.isChain_reverse.2 h.level⟩
  cases state with
  | running =>
    rcases h.running rfl with hn | hn
    · exact .inl fun c hc => hn c (List.mem_reverse.1 hc)
    · exact .inr (.inl fun c hc => hn c (List.mem_reverse.1 hc))
  | inOrdinal => exact absurd rfl hstate
  | closed => exact .inr (.inr (h.closed rfl))

/-- In front of the end or of a separator a word is not inside of an ordinal suffix. -/
theorem ne_inOrdinal (h : Grows state current rest)
    (hrest : ∀ c more, rest = c :: more → isAlphanumeric c = false) : state ≠ .inOrdinal := by
  intro hstate
  obtain ⟨_, digit, a, b, more, -, hmore, -, -, hsuffix⟩ := h.inOrdinal hstate
  have hb := hsuffix.letters.1
  rw [hrest b more hmore] at hb
  exact nomatch hb

/-- The word that is being read goes on as such. -/
theorem extend (h : Grows state (last :: before) (c :: rest)) (hc : isAlphanumeric c = true)
    (he : extend? state last c rest = some next) : Grows next (c :: last :: before) rest := by
  have halphanumeric : ∀ d ∈ c :: last :: before, isAlphanumeric d = true :=
    List.forall_mem_cons.2 ⟨hc, h.alphanumeric⟩
  cases state with
  | closed => exact absurd he.symm (Option.some_ne_none next)
  | inOrdinal =>
    obtain rfl : WordState.closed = next := Option.some.inj he
    obtain ⟨front, digit, a, b, more, hcurrent, hrest, hfront, hdigit, hsuffix⟩ := h.inOrdinal rfl
    cases hcurrent
    cases hrest
    refine ⟨halphanumeric, .cons_cons hsuffix.letters.2 h.level, fun hs => absurd hs (by decide),
      fun hs => absurd hs (by decide), fun _ => ?_⟩
    have hword : (c :: last :: digit :: front).reverse = front.reverse ++ digit :: [last, c] := by
      simp
    rw [hword]
    exact .mk (fun d hd => hfront d (List.mem_reverse.1 hd)) hdigit hsuffix
  | running =>
    rw [extend?] at he
    split at he
    · -- A letter follows a number: only an ordinal suffix keeps the word going.
      rename_i hnumber
      rw [Bool.and_eq_true, Bool.not_eq_true'] at hnumber
      split at he
      · rename_i hstarts
        obtain rfl : WordState.inOrdinal = next := Option.some.inj he
        obtain ⟨d, more, rfl, hdigit, hsuffix⟩ := exists_of_startsOrdinal hstarts
        have hlower : isLowercase last = false := isLowercase_of_isDigit hdigit
        refine ⟨halphanumeric, .cons_cons (fun hstep => ?_) h.level,
          fun hs => absurd hs (by decide), fun _ => ?_, fun hs => absurd hs (by decide)⟩
        · rw [StepsUp, hlower] at hstep
          exact Bool.false_ne_true hstep.1
        · refine ⟨before, last, c, d, more, rfl, rfl, ?_, hdigit, hsuffix⟩
          rcases h.running rfl with hn | hn
          · rw [hn last List.mem_cons_self] at hnumber
            exact absurd hnumber.1 Bool.false_ne_true
          · exact fun e he => hn e (List.mem_cons_of_mem _ he)
      · exact absurd he.symm (Option.some_ne_none next)
    split at he
    · exact absurd he.symm (Option.some_ne_none next)
    split at he
    · exact absurd he.symm (Option.some_ne_none next)
    split at he
    · exact absurd he.symm (Option.some_ne_none next)
    rename_i hsame hstep _
    obtain rfl : WordState.running = next := Option.some.inj he
    have hkind : isNumeric last = isNumeric c := by simpa using hsame
    refine ⟨halphanumeric, .cons_cons (fun hup => hstep ?_) h.level, fun _ => ?_,
      fun hs => absurd hs (by decide), fun hs => absurd hs (by decide)⟩
    · rw [hup.1, hup.2]
      rfl
    · rcases h.running rfl with hn | hn
      · exact .inl (List.forall_mem_cons.2 ⟨hkind ▸ hn last List.mem_cons_self, hn⟩)
      · exact .inr (List.forall_mem_cons.2 ⟨hkind ▸ hn last List.mem_cons_self, hn⟩)

/-- Where the word that is being read does not go on, it may end. -/
theorem breaks (h : Grows state (last :: before) (c :: rest))
    (he : extend? state last c rest = none) : Breaks (last :: before).reverse (c :: rest) := by
  cases state with
  | closed => exact .ordinal (h.closed rfl)
  | inOrdinal => exact absurd he (Option.some_ne_none _)
  | running =>
    rw [List.reverse_cons]
    rw [extend?] at he
    split at he
    · rename_i hnumber
      rw [Bool.and_eq_true, Bool.not_eq_true'] at hnumber
      refine .number ?_
      rw [hnumber.1, hnumber.2]
      decide
    split at he
    · rename_i hdiffers
      exact .number (bne_iff_ne.1 hdiffers)
    split at he
    · rename_i hup
      exact .capital (Bool.and_eq_true_iff.1 hup)
    split at he
    · rename_i hacronym
      rw [Bool.and_eq_true, Bool.and_eq_true] at hacronym
      cases rest with
      | nil => exact absurd hacronym.2 Bool.false_ne_true
      | cons d more => exact .acronym hacronym.1.1 hacronym.1.2 hacronym.2
    · exact absurd he (Option.some_ne_none _)

end Grows

/-! ## Splitting a text -/

/-- A text is split into its words, given the word that is being read. The induction is on the rest
of the text, and what is known of the word at hand carries it. -/
theorem splits_wordsFrom {state : WordState} {current text : List Char}
    (h : Grows state current text) :
    Splits (current.reverse ++ text) (wordsFrom state current text) := by
  induction text generalizing state current with
  | nil =>
    cases current with
    | nil => exact .done
    | cons last before =>
      have hstate := h.ne_inOrdinal fun c more hnil => nomatch hnil
      exact .word (h.isWord (List.cons_ne_nil _ _) hstate) .done .done
  | cons c rest ih =>
    cases hc : isAlphanumeric c with
    | false =>
      rw [wordsFrom_separator hc]
      have hrest : Splits (c :: rest) (wordsFrom .running [] rest) := .separator hc (ih (.nil rest))
      cases current with
      | nil => exact hrest
      | cons last before =>
        have hstate := h.ne_inOrdinal fun d more hcons => (List.cons.inj hcons).1 ▸ hc
        exact .word (h.isWord (List.cons_ne_nil _ _) hstate) (.separator hc) hrest
    | true =>
      cases current with
      | nil =>
        rw [wordsFrom_start hc]
        exact ih (.singleton hc rest)
      | cons last before =>
        cases he : extend? state last c rest with
        | some next =>
          rw [wordsFrom_extend hc he]
          have hmore := ih (h.extend hc he)
          rw [List.reverse_cons, List.append_assoc] at hmore
          exact hmore
        | none =>
          rw [wordsFrom_boundary hc he]
          have hstate : state ≠ .inOrdinal := by
            rintro rfl
            exact nomatch he
          exact .word (h.isWord (List.cons_ne_nil _ _) hstate) (h.breaks he)
            (ih (.singleton hc rest))

/-- An apostrophe is no letter and no number. -/
theorem isAlphanumeric_of_isApostrophe {c : Char} (h : isApostrophe c = true) :
    isAlphanumeric c = false := by
  rw [isApostrophe, Bool.or_eq_true, beq_iff_eq, beq_iff_eq] at h
  rcases h with rfl | rfl
  · decide
  · decide +kernel

/-- Splitting a text without its accents and apostrophes loses no letter and no number, gives words
only, and splits only where a word may end. -/
theorem words_lossless (text : List Char) :
    (words text).flatten = (deburr text).filter isAlphanumeric ∧
    (∀ word ∈ words text, IsWord word) ∧
    Splits ((deburr text).filter fun c => !isApostrophe c) (words text) := by
  have hsplits : Splits ((deburr text).filter fun c => !isApostrophe c) (words text) :=
    splits_wordsFrom (.nil _)
  refine ⟨?_, fun word hw => hsplits.isWord_of_mem hw, hsplits⟩
  rw [hsplits.flatten_eq, List.filter_filter]
  refine List.filter_congr fun c _ => ?_
  cases hc : isApostrophe c with
  | false => simp
  | true => simp [isAlphanumeric_of_isApostrophe hc]

example : words "1STplace 22nd XMLHttp".toList =
    ["1ST".toList, "place".toList, "22nd".toList, "XML".toList, "Http".toList] := by decide

end ProgramConnector.Naming
