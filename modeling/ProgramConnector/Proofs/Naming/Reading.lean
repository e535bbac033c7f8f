import Mathlib.Data.List.Basic
import ProgramConnector.Naming.Identifiers

/-!
# Words in front of a suffix

The words of a text in front of more text: the complete ones, and the word that is still being read
at the end. What a text reads depends on what follows it only where an ordinal suffix may end. In
front of the two suffixes of type names a text reads the same, and the suffix is a word by itself
unless the last letter before it has no case.
-/

namespace ProgramConnector.Naming

open Text

/-- What is read of a text in front of more text. -/
structure Reading where
  /-- The complete words. -/
  words : List (List Char)
  /-- How the word at hand goes on. -/
  state : WordState
  /-- The word at hand, last character first. -/
  current : List Char

/-- A complete word in front of what is read. -/
def Reading.behind (before : List (List Char)) (reading : Reading) : Reading :=
  { reading with words := before ++ reading.words }

/-- What is read of a text in front of `next`, given the word that is being read. -/
def read (next : List Char) (state : WordState) (current : List Char) : List Char → Reading
  | [] => ⟨[], state, current⟩
  | c :: rest =>
    if isAlphanumeric c then
      match current with
      | [] => read next .running [c] rest
      | last :: _ =>
        match extend? state last c (rest ++ next) with
        | some following => read next following (c :: current) rest
        | none => (read next .running [c] rest).behind [current.reverse]
    else (read next .running [] rest).behind (finished current)

section Steps

variable {next rest before : List Char} {state following : WordState} {last c : Char}

/-- A separator completes the word at hand. -/
theorem wordsFrom_separator (hc : isAlphanumeric c = false) (current : List Char) :
    wordsFrom state current (c :: rest) = finished current ++ wordsFrom .running [] rest := by
  rw [wordsFrom.eq_def]
  simp only [hc, Bool.false_eq_true, if_false]

/-- A letter or number starts a word. -/
theorem wordsFrom_start (hc : isAlphanumeric c = true) :
    wordsFrom state [] (c :: rest) = wordsFrom .running [c] rest := by
  rw [wordsFrom.eq_def]
  simp only [hc, if_true]

/-- The word at hand goes on. -/
theorem wordsFrom_extend (hc : isAlphanumeric c = true)
    (he : extend? state last c rest = some following) :
    wordsFrom state (last :: before) (c :: rest) =
      wordsFrom following (c :: last :: before) rest := by
  rw [wordsFrom.eq_def]
  simp only [hc, he, if_true]

/-- The word at hand is complete and another one starts. -/
theorem wordsFrom_boundary (hc : isAlphanumeric c = true)
    (he : extend? state last c rest = none) :
    wordsFrom state (last :: before) (c :: rest) =
      (last :: before).reverse :: wordsFrom .running [c] rest := by
  rw [wordsFrom.eq_def]
  simp only [hc, he, if_true]

/-- Reading a separator. -/
theorem read_separator (hc : isAlphanumeric c = false) (current : List Char) :
    read next state current (c :: rest) =
      (read next .running [] rest).behind (finished current) := by
  rw [read.eq_def]
  simp only [hc, Bool.false_eq_true, if_false]

/-- Reading the first character of a word. -/
theorem read_start (hc : isAlphanumeric c = true) :
    read next state [] (c :: rest) = read next .running [c] rest := by
  rw [read.eq_def]
  simp only [hc, if_true]

/-- Reading one character more of a word. -/
theorem read_extend (hc : isAlphanumeric c = true)
    (he : extend? state last c (rest ++ next) = some following) :
    read next state (last :: before) (c :: rest) =
      read next following (c :: last :: before) rest := by
  rw [read.eq_def]
  simp only [hc, he, if_true]

/-- Reading the first character of the next word. -/
theorem read_boundary (hc : isAlphanumeric c = true)
    (he : extend? state last c (rest ++ next) = none) :
    read next state (last :: before) (c :: rest) =
      (read next .running [c] rest).behind [(last :: before).reverse] := by
  rw [read.eq_def]
  simp only [hc, he, if_true]

end Steps

/-- The words of a text with more text behind it. -/
theorem wordsFrom_append (next text : List Char) (state : WordState) (current : List Char) :
    wordsFrom state current (text ++ next) = (read next state current text).words ++
      wordsFrom (read next state current text).state (read next state current text).current
        next := by
  induction text generalizing state current with
  | nil => rfl
  | cons c rest ih =>
    rw [List.cons_append]
    cases hc : isAlphanumeric c with
    | false =>
      rw [wordsFrom_separator hc, read_separator hc, ih .running []]
      exact (List.append_assoc _ _ _).symm
    | true =>
      cases current with
      | nil => rw [wordsFrom_start hc, read_start hc, ih .running [c]]
      | cons last before =>
        cases he : extend? state last c (rest ++ next) with
        | some following =>
          rw [wordsFrom_extend hc he, read_extend hc he, ih following (c :: last :: before)]
        | none =>
          rw [wordsFrom_boundary hc he, read_boundary hc he, ih .running [c]]
          rfl

/-- The words of a text are those that are read with nothing behind it. -/
theorem wordsFrom_eq_read (text : List Char) (state : WordState) (current : List Char) :
    wordsFrom state current text =
      (read [] state current text).words ++ finished (read [] state current text).current := by
  have h := wordsFrom_append [] text state current
  rw [List.append_nil] at h
  exact h

/-! ## The suffixes of type names -/

/-- The suffix of an input type. -/
def inputSuffix : List Char := ['I', 'n', 'p', 'u', 't']

/-- The suffix of an output type. -/
def outputSuffix : List Char := ['O', 'u', 't', 'p', 'u', 't']

/-- A suffix of the name of a type. -/
def IsTypeSuffix (suffix : List Char) : Prop := suffix = inputSuffix ∨ suffix = outputSuffix

/-- The second letter of an ordinal suffix. -/
theorem ordinalLetters?_eq_some {digit a b : Char} (h : ordinalLetters? digit = some (a, b)) :
    b = 't' ∨ b = 'd' ∨ b = 'h' := by
  unfold ordinalLetters? at h
  split at h
  · exact .inl (Prod.mk.inj (Option.some.inj h)).2.symm
  split at h
  · exact .inr (.inl (Prod.mk.inj (Option.some.inj h)).2.symm)
  split at h
  · exact .inr (.inl (Prod.mk.inj (Option.some.inj h)).2.symm)
  split at h
  · exact .inr (.inr (Prod.mk.inj (Option.some.inj h)).2.symm)
  · exact nomatch h

/-- A text whose second character is in no ordinal suffix starts with none. -/
theorem startsOrdinal_eq_false {d : Char} (hd : d ∉ ['t', 'd', 'h', 'T', 'D', 'H'])
    (digit c : Char) (rest : List Char) : startsOrdinal digit (c :: d :: rest) = false := by
  cases ho : ordinalLetters? digit with
  | none => simp only [startsOrdinal, ho]
  | some letters =>
    obtain ⟨a, b⟩ := letters
    have hsmall : (d == b) = false := by
      rcases ordinalLetters?_eq_some ho with rfl | rfl | rfl <;> simp_all
    have hcapital : (d == b.toUpper) = false := by
      rcases ordinalLetters?_eq_some ho with rfl | rfl | rfl <;> simp_all
    simp only [startsOrdinal, ho, hsmall, hcapital, Bool.and_false, Bool.false_eq_true, if_false]

/-- Whether an ordinal suffix is complete is all that the text behind it decides. -/
theorem startsOrdinal_congr {rest rest' : List Char}
    (h : ∀ isUpper, endsOrdinal isUpper rest = endsOrdinal isUpper rest') (digit c d : Char) :
    startsOrdinal digit (c :: d :: rest) = startsOrdinal digit (c :: d :: rest') := by
  unfold startsOrdinal
  cases ordinalLetters? digit with
  | none => rfl
  | some letters => simp only [h]

/-- In front of nothing two letters are an ordinal suffix as they are in front of a type suffix,
unless they are capitals. -/
theorem startsOrdinal_pair (digit c d : Char) :
    startsOrdinal digit [c, d] = startsOrdinal digit (c :: d :: inputSuffix) ∨
      startsOrdinal digit [c, d] = true ∧ d ∈ ['T', 'D', 'H'] := by
  unfold startsOrdinal
  cases ho : ordinalLetters? digit with
  | none => exact .inl rfl
  | some letters =>
    obtain ⟨a, b⟩ := letters
    by_cases hsmall : (c == a && d == b) = true
    · simp only [hsmall, if_true]
      exact .inl rfl
    by_cases hcapital : (c == a.toUpper && d == b.toUpper) = true
    · simp only [hsmall, hcapital, if_true]
      refine .inr ⟨rfl, ?_⟩
      rw [Bool.and_eq_true, beq_iff_eq, beq_iff_eq] at hcapital
      rw [hcapital.2]
      rcases ordinalLetters?_eq_some ho with rfl | rfl | rfl <;> decide
    · simp only [hsmall, hcapital]
      exact .inl rfl

/-- How a word goes on depends on the text behind by an ordinal suffix and by a small letter. -/
theorem extend?_congr {last c : Char} {rest rest' : List Char}
    (hordinal : startsOrdinal last (c :: rest) = startsOrdinal last (c :: rest'))
    (hhead : rest.head?.any isLowercase = rest'.head?.any isLowercase) (state : WordState) :
    extend? state last c rest = extend? state last c rest' := by
  cases state with
  | inOrdinal => rfl
  | closed => rfl
  | running => simp only [extend?, hordinal, hhead]

/-- In front of a suffix a word goes on as it does in front of any other one. -/
theorem extend?_suffix {suffix : List Char} (hs : IsTypeSuffix suffix) (state : WordState)
    (last c : Char) (rest : List Char) :
    extend? state last c (rest ++ suffix) = extend? state last c (rest ++ inputSuffix) := by
  rcases hs with rfl | rfl
  · rfl
  cases rest with
  | nil =>
    refine extend?_congr ?_ (by decide) state
    rw [List.nil_append, List.nil_append, outputSuffix, inputSuffix,
      startsOrdinal_eq_false (by decide), startsOrdinal_eq_false (by decide)]
  | cons d more =>
    rw [List.cons_append, List.cons_append]
    refine extend?_congr (startsOrdinal_congr (fun isUpper => ?_) last c d) ?_ state
    · cases more with
      | nil => cases isUpper <;> decide
      | cons e more => rfl
    · rfl

/-- In front of nothing a word goes on as in front of a suffix, unless an ordinal suffix of capitals
ends the text. -/
theorem extend?_nil (state : WordState) (last c : Char) (rest : List Char) :
    extend? state last c rest = extend? state last c (rest ++ inputSuffix) ∨
      extend? state last c rest = some .inOrdinal ∧ ∃ d ∈ ['T', 'D', 'H'], rest = [d] := by
  cases rest with
  | nil =>
    refine .inl (extend?_congr ?_ (by decide) state)
    rw [List.nil_append, inputSuffix, startsOrdinal_eq_false (by decide)]
    unfold startsOrdinal
    cases ordinalLetters? last <;> rfl
  | cons d more =>
    cases more with
    | cons e more =>
      rw [List.cons_append]
      refine .inl (extend?_congr (startsOrdinal_congr (fun _ => ?_) last c d) ?_ state)
      · rfl
      · rfl
    | nil =>
      rcases startsOrdinal_pair last c d with h | ⟨h, hd⟩
      · exact .inl (extend?_congr h rfl state)
      cases state with
      | inOrdinal => exact .inl rfl
      | closed => exact .inl rfl
      | running =>
        by_cases hn : (isNumeric last && !isNumeric c) = true
        · refine .inr ⟨?_, d, hd, rfl⟩
          simp only [extend?, hn, h, if_true]
        · refine .inl ?_
          simp only [extend?, hn]
          rfl

/-- A word goes on with an ordinal suffix only when the second letter of the suffix is there. -/
theorem ne_nil_of_extend? {state : WordState} {last c : Char} {rest : List Char}
    (h : extend? state last c (rest ++ inputSuffix) = some .inOrdinal) : rest ≠ [] := by
  rintro rfl
  have ho : startsOrdinal last (c :: inputSuffix) = false := startsOrdinal_eq_false (by decide) _ _ _
  cases state with
  | inOrdinal => exact absurd h (by simp [extend?])
  | closed => exact absurd h (by simp [extend?])
  | running =>
    simp only [extend?, List.nil_append, ho, Bool.false_eq_true, if_false] at h
    repeat' split at h
    all_goals exact nomatch h

/-! ## What is read of a text -/

/-- In front of a suffix a text is read as in front of any other one. -/
theorem read_suffix {suffix : List Char} (hs : IsTypeSuffix suffix) (state : WordState)
    (current text : List Char) :
    read suffix state current text = read inputSuffix state current text := by
  induction text generalizing state current with
  | nil => rfl
  | cons c rest ih =>
    cases hc : isAlphanumeric c with
    | false => rw [read_separator hc, read_separator hc, ih]
    | true =>
      cases current with
      | nil => rw [read_start hc, read_start hc, ih]
      | cons last before =>
        have hx := extend?_suffix hs state last c rest
        cases he : extend? state last c (rest ++ inputSuffix) with
        | some following =>
          rw [he] at hx
          rw [read_extend hc hx, read_extend hc he, ih]
        | none =>
          rw [he] at hx
          rw [read_boundary hc hx, read_boundary hc he, ih]

/-- A text does not end inside of an ordinal suffix. -/
theorem read_state_ne (state : WordState) (current text : List Char)
    (h : state = .inOrdinal → text ≠ []) :
    (read inputSuffix state current text).state ≠ .inOrdinal := by
  induction text generalizing state current with
  | nil => exact fun hs => h hs rfl
  | cons c rest ih =>
    have hrunning : ∀ current, (read inputSuffix .running current rest).state ≠ .inOrdinal :=
      fun current => ih .running current (fun hr => nomatch hr)
    cases hc : isAlphanumeric c with
    | false =>
      rw [read_separator hc]
      exact hrunning []
    | true =>
      cases current with
      | nil =>
        rw [read_start hc]
        exact hrunning [c]
      | cons last before =>
        cases he : extend? state last c (rest ++ inputSuffix) with
        | some following =>
          rw [read_extend hc he]
          refine ih following _ fun hf => ?_
          subst hf
          exact ne_nil_of_extend? he
        | none =>
          rw [read_boundary hc he]
          exact hrunning [c]

/-- In front of nothing a text is read as in front of a suffix, unless one of its words ends with
the capitals of an ordinal suffix. -/
theorem read_nil (state : WordState) (current text : List Char) :
    read [] state current text = read inputSuffix state current text ∨
      ∃ word ∈ wordsFrom state current text, ∃ before d, before ≠ [] ∧ d ∈ ['T', 'D', 'H'] ∧
        word = before ++ [d] := by
  induction text generalizing state current with
  | nil => exact .inl rfl
  | cons c rest ih =>
    cases hc : isAlphanumeric c with
    | false =>
      rw [read_separator hc, read_separator hc, wordsFrom_separator hc]
      rcases ih .running [] with h | ⟨word, hw, hend⟩
      · exact .inl (by rw [h])
      · exact .inr ⟨word, List.mem_append_right _ hw, hend⟩
    | true =>
      cases current with
      | nil =>
        rw [read_start hc, read_start hc, wordsFrom_start hc]
        exact ih .running [c]
      | cons last before =>
        rcases extend?_nil state last c rest with hx | ⟨hx, d, hd, rfl⟩
        · cases he : extend? state last c rest with
          | some following =>
            rw [he] at hx
            rw [read_extend hc (by rw [List.append_nil]; exact he), read_extend hc hx.symm,
              wordsFrom_extend hc he]
            exact ih following _
          | none =>
            rw [he] at hx
            rw [read_boundary hc (by rw [List.append_nil]; exact he), read_boundary hc hx.symm,
              wordsFrom_boundary hc he]
            rcases ih .running [c] with h | ⟨word, hw, hend⟩
            · exact .inl (by rw [h])
            · exact .inr ⟨word, List.mem_cons_of_mem _ hw, hend⟩
        · have hdn : isAlphanumeric d = true := by
            rcases hd with _ | ⟨_, _ | ⟨_, _ | ⟨_, hd⟩⟩⟩
            · decide
            · decide
            · decide
            · exact nomatch hd
          refine .inr ⟨(d :: c :: last :: before).reverse, ?_, (c :: last :: before).reverse, d, ?_,
            hd, List.reverse_cons⟩
          · rw [wordsFrom_extend hc hx, wordsFrom_extend hdn rfl]
            exact List.mem_singleton.2 rfl
          · exact fun h => nomatch List.reverse_eq_nil_iff.1 h

/-! ## Words in front of a suffix -/

/-- A word goes on with letters that are no capitals. -/
theorem wordsFrom_letters {last : Char} (hlast : isNumeric last = false) {text : List Char}
    (h : ∀ c ∈ text, isAlphanumeric c = true ∧ isNumeric c = false ∧ isUppercase c = false)
    (before : List Char) :
    wordsFrom .running (last :: before) text = [(last :: before).reverse ++ text] := by
  induction text generalizing last before with
  | nil => rw [List.append_nil]; rfl
  | cons c rest ih =>
    obtain ⟨hc, hn, hu⟩ := h c List.mem_cons_self
    have he : extend? .running last c rest = some .running := by
      simp [extend?, hlast, hn, hu]
    rw [wordsFrom_extend hc he, ih hn fun d hd => h d (List.mem_cons_of_mem _ hd),
      List.reverse_cons, List.append_assoc]
    rfl

/-- The letters of suffixes behind the first one are no numbers and no capitals. -/
theorem suffix_letters {c : Char} (h : c ∈ ['n', 'p', 'u', 't']) :
    isAlphanumeric c = true ∧ isNumeric c = false ∧ isUppercase c = false := by
  rw [List.mem_cons, List.mem_cons, List.mem_cons, List.mem_singleton] at h
  rcases h with rfl | rfl | rfl | rfl
  · exact ⟨rfl, rfl, rfl⟩
  · exact ⟨rfl, rfl, rfl⟩
  · exact ⟨rfl, rfl, rfl⟩
  · exact ⟨rfl, rfl, rfl⟩

/-- Whether a suffix goes on with the word at hand: its last letter has no case. -/
def Reading.merges (reading : Reading) : Bool :=
  match reading.current with
  | [] => false
  | last :: _ => reading.state == .running && !isNumeric last && !isLowercase last &&
      !isUppercase last

/-- What the words of a text depend on in a suffix behind it: a capital that starts no ordinal
suffix, and small letters behind it. -/
structure SuffixLetters (first : Char) (small : List Char) : Prop where
  /-- The capital is a letter. -/
  alphanumeric : isAlphanumeric first = true
  /-- The capital is no digit. -/
  notNumeric : isNumeric first = false
  /-- The capital is in uppercase. -/
  uppercase : isUppercase first = true
  /-- A lowercase letter follows. -/
  lowercase : small.head?.any isLowercase = true
  /-- No ordinal suffix starts here. -/
  notOrdinal : ∀ last, startsOrdinal last (first :: small) = false
  /-- The word goes on with letters that are no capitals. -/
  letters : ∀ c ∈ small, isAlphanumeric c = true ∧ isNumeric c = false ∧ isUppercase c = false

/-- A suffix is a capital with small letters behind it. -/
theorem IsTypeSuffix.letters {suffix : List Char} (h : IsTypeSuffix suffix) :
    ∃ first small, suffix = first :: small ∧ SuffixLetters first small := by
  rcases h with rfl | rfl
  · exact ⟨'I', ['n', 'p', 'u', 't'], rfl, rfl, rfl, rfl, rfl,
      fun last => startsOrdinal_eq_false (by decide) last _ _, fun c hc => suffix_letters hc⟩
  · refine ⟨'O', ['u', 't', 'p', 'u', 't'], rfl, rfl, rfl, rfl, rfl,
      fun last => startsOrdinal_eq_false (by decide) last _ _, fun c hc => suffix_letters ?_⟩
    simp only [List.mem_cons, List.not_mem_nil, or_false] at hc ⊢
    tauto

/-- A running word goes on with the capital of a suffix exactly when they are one word. -/
theorem SuffixLetters.extend? {first : Char} {small : List Char} (h : SuffixLetters first small)
    (words : List (List Char)) (last : Char) (before : List Char) :
    extend? .running last first small =
      if Reading.merges ⟨words, .running, last :: before⟩ then some .running else none := by
  have hnumeric := h.notNumeric
  have hupper := h.uppercase
  have hhead := h.lowercase
  have hordinal := h.notOrdinal last
  cases hn : isNumeric last <;> cases hl : isLowercase last <;> cases hu : isUppercase last <;>
    simp_all [Naming.extend?, Reading.merges]

/-- A suffix is a word by itself, or the end of the word at hand. -/
theorem wordsFrom_suffix {suffix : List Char} (hs : IsTypeSuffix suffix) {reading : Reading}
    (hstate : reading.state ≠ .inOrdinal) :
    wordsFrom reading.state reading.current suffix =
      if reading.merges then [reading.current.reverse ++ suffix]
      else finished reading.current ++ [suffix] := by
  obtain ⟨first, small, rfl, h⟩ := hs.letters
  obtain ⟨words, state, current⟩ := reading
  have hword : wordsFrom .running [first] small = [first :: small] :=
    wordsFrom_letters h.notNumeric h.letters []
  cases current with
  | nil =>
    rw [wordsFrom_start h.alphanumeric, hword]
    rfl
  | cons last before =>
    cases state with
    | inOrdinal => exact absurd rfl hstate
    | closed =>
      rw [wordsFrom_boundary h.alphanumeric rfl, hword]
      rfl
    | running =>
      have he := h.extend? words last before
      by_cases hmerges : Reading.merges ⟨words, .running, last :: before⟩ = true
      · rw [if_pos hmerges] at he ⊢
        rw [wordsFrom_extend h.alphanumeric he, wordsFrom_letters h.notNumeric h.letters,
          List.reverse_cons, List.append_assoc]
        rfl
      · rw [if_neg hmerges] at he ⊢
        rw [wordsFrom_boundary h.alphanumeric he, hword]
        rfl

end ProgramConnector.Naming
