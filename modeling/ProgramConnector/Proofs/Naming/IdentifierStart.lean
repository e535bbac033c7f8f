import ProgramConnector.Proofs.Naming.IdentifierChars

/-!
# The first character of declared names

The passes that make the name of a type keep whether the first identifier character can start an
identifier; only the first character of the title that is not blank is dropped when it cannot. So
the name of a type is an identifier unless a digit is first among the identifier characters behind
a character that was dropped.
-/

namespace ProgramConnector.Naming

open Text

/-- Whether the first identifier character of a text, if there is one, can start an identifier. -/
def firstStarts? (text : List Char) : Option Bool :=
  (text.find? isIdentifierChar).map isIdentifierStart

/-- Whether the name of a type for a title starts with a digit: the first character that is not
blank cannot start an identifier and is dropped, and the next identifier character is a digit. -/
def startsWithDigit (title : List Char) : Bool :=
  match title.dropWhile isBlank with
  | [] => false
  | c :: rest => !isIdentifierStart c && (rest.find? isIdentifierChar).any Char.isDigit

section Characters

variable {c : Char}

/-- What starts an identifier may stand in one. -/
theorem isIdentifierChar_of_isIdentifierStart (h : isIdentifierStart c = true) :
    isIdentifierChar c = true := by
  simp only [isIdentifierStart, Bool.or_eq_true] at h
  rcases h with (h | h) | h
  · exact isIdentifierChar_of_isAlpha h
  · simp [isIdentifierChar, h]
  · simp [isIdentifierChar, h]

/-- An identifier character starts an identifier unless it is a digit. -/
theorem isIdentifierStart_eq_not_isDigit (h : isIdentifierChar c = true) :
    isIdentifierStart c = !c.isDigit := by
  have hall := of_all_range
    (p := fun c => !isIdentifierChar c || isIdentifierStart c == !c.isDigit) (by decide) h
  rw [h, Bool.not_true, Bool.false_or] at hall
  exact beq_iff_eq.1 hall

/-- The capital of an identifier character starts an identifier when the character does. -/
theorem isIdentifierStart_toUpper (h : isIdentifierChar c = true) :
    isIdentifierStart c.toUpper = isIdentifierStart c := by
  have hall := of_all_range
    (p := fun c => !isIdentifierChar c || isIdentifierStart c.toUpper == isIdentifierStart c)
    (by decide) h
  rw [h, Bool.not_true, Bool.false_or] at hall
  exact beq_iff_eq.1 hall

/-- The uppercase of an identifier character starts with a character that starts an identifier when
the character does. -/
theorem head?_upperChar (h : isIdentifierChar c = true) (rest : List Char) :
    (upperChar c ++ rest).head?.map isIdentifierStart = some (isIdentifierStart c) := by
  rw [upperChar_of_ascii (toNat_lt_of_isIdentifierChar h)]
  exact congrArg some (isIdentifierStart_toUpper h)

/-- No identifier character is blank. -/
theorem isBlank_eq_false_of_isIdentifierChar (h : isIdentifierChar c = true) :
    isBlank c = false := by
  have hall := of_all_range (p := fun c => !isIdentifierChar c || !isBlank c) (by decide) h
  rw [h, Bool.not_true, Bool.false_or] at hall
  exact Bool.not_eq_true' _ ▸ hall

end Characters

/-- A text is an identifier when it is made of identifier characters and the first one can start
one. -/
theorem isIdentifier_iff {text : List Char} (h : IsPlain text) :
    isIdentifier text = true ↔ text.head?.map isIdentifierStart = some true := by
  cases text with
  | nil => simp [isIdentifier]
  | cons c rest =>
    have hrest : rest.all isIdentifierChar = true :=
      List.all_eq_true.2 fun d hd => h d (List.mem_cons_of_mem _ hd)
    simp [isIdentifier, hrest]

/-! ## The passes -/

/-- A character in front that may not stand in an identifier is passed over. -/
theorem firstStarts?_cons_of_not {c : Char} (h : isIdentifierChar c = false) (rest : List Char) :
    firstStarts? (c :: rest) = firstStarts? rest := by
  rw [firstStarts?, List.find?_cons, h]
  rfl

/-- An identifier character in front is the first one. -/
theorem firstStarts?_cons_of_isIdentifierChar {c : Char} (h : isIdentifierChar c = true)
    (rest : List Char) : firstStarts? (c :: rest) = some (isIdentifierStart c) := by
  rw [firstStarts?, List.find?_cons, h]
  rfl

/-- Breaks for other characters leave the first identifier character. -/
theorem firstStarts?_spaced (text : List Char) :
    firstStarts? (spaced text) = firstStarts? text := by
  induction text with
  | nil => rfl
  | cons c rest ih =>
    rw [spaced, List.map_cons]
    cases hc : isIdentifierChar c with
    | true =>
      rw [if_pos rfl, firstStarts?_cons_of_isIdentifierChar hc,
        firstStarts?_cons_of_isIdentifierChar hc]
    | false =>
      rw [if_neg Bool.false_ne_true, firstStarts?_cons_of_not hc,
        firstStarts?_cons_of_not (by decide)]
      exact ih

/-- The first pass drops one character that is not blank, if it cannot start an identifier. -/
theorem firstStarts?_withBreaks (title : List Char) :
    firstStarts? (withBreaks title) =
      match title.dropWhile isBlank with
      | [] => none
      | c :: rest => if isIdentifierStart c then some true else firstStarts? rest := by
  have hbreak : isIdentifierChar ' ' = false := by decide
  unfold withBreaks
  cases hd : title.dropWhile isBlank with
  | nil =>
    dsimp only
    split
    · rfl
    · exact firstStarts?_cons_of_not hbreak []
  | cons c rest =>
    dsimp only
    cases hc : isIdentifierStart c with
    | false =>
      rw [Bool.not_false, if_pos rfl, if_neg Bool.false_ne_true, firstStarts?_cons_of_not hbreak,
        firstStarts?_spaced]
    | true =>
      have hfirst : firstStarts? (c :: rest) = some true := by
        rw [firstStarts?_cons_of_isIdentifierChar (isIdentifierChar_of_isIdentifierStart hc), hc]
      rw [Bool.not_true, if_neg Bool.false_ne_true, if_pos rfl]
      split
      · rw [firstStarts?_cons_of_not hbreak, firstStarts?_spaced, hfirst]
      · rename_i hhead
        -- Nothing is dropped in front of a title that does not start with a blank.
        have htitle : title = c :: rest := by
          cases title with
          | nil => exact nomatch hd
          | cons d others =>
            have hblank : isBlank d = false := by simpa using hhead
            rw [← hd, List.dropWhile_cons, hblank]
            rfl
        rw [firstStarts?_spaced, htitle, hfirst]

/-- The second pass leaves the kind of the first identifier character. -/
theorem firstStarts?_joinUnderscores (atStart : Bool) (text : List Char) :
    firstStarts? (joinUnderscores atStart text) = firstStarts? text := by
  induction atStart, text using joinUnderscores.induct with
  | case1 atStart => rfl
  | case2 atStart c => rfl
  | case3 atStart c d rest hjoined ih =>
    rw [joinUnderscores, if_pos hjoined]
    rw [Bool.and_eq_true, beq_iff_eq] at hjoined
    obtain ⟨rfl, hd⟩ := hjoined
    have hchar : isIdentifierChar d = true :=
      isIdentifierChar_of_isAlpha (isAlpha_of_isLower hd)
    have hstart : isIdentifierStart d = true := by
      simp [isIdentifierStart, isAlpha_of_isLower hd]
    rw [firstStarts?_cons_of_isIdentifierChar (by decide)]
    cases atStart with
    | true => exact firstStarts?_cons_of_isIdentifierChar (by decide) _
    | false =>
      refine (firstStarts?_cons_of_isIdentifierChar (isIdentifierChar_toUpper hchar) _).trans ?_
      rw [isIdentifierStart_toUpper hchar, hstart]
      rfl
  | case4 atStart c d rest hapart ih =>
    rw [joinUnderscores, if_neg hapart]
    cases hc : isIdentifierChar c with
    | true =>
      rw [firstStarts?_cons_of_isIdentifierChar hc, firstStarts?_cons_of_isIdentifierChar hc]
    | false => rw [firstStarts?_cons_of_not hc, firstStarts?_cons_of_not hc, ih]

/-- The third pass starts with the first identifier character, maybe as a capital. -/
theorem IsBroken.head?_dropBreaks {text : List Char} (h : IsBroken text) (previous : Option Char) :
    (Naming.dropBreaks previous text).head?.map isIdentifierStart = firstStarts? text := by
  induction text generalizing previous with
  | nil => rfl
  | cons c rest ih =>
    rw [Naming.dropBreaks]
    rcases h c List.mem_cons_self with hc | rfl
    · rw [isBlank_eq_false_of_isIdentifierChar hc, if_neg Bool.false_ne_true,
        firstStarts?_cons_of_isIdentifierChar hc]
      split
      · exact congrArg some (isIdentifierStart_toUpper hc)
      · rfl
    · rw [if_pos (by decide), firstStarts?_cons_of_not (by decide)]
      exact ih (fun d hd => h d (List.mem_cons_of_mem _ hd)) _

/-- A capital at the start leaves the kind of the first character. -/
theorem IsPlain.head?_upperFirst {text : List Char} (h : IsPlain text) :
    (Text.upperFirst text).head?.map isIdentifierStart = text.head?.map isIdentifierStart := by
  cases text with
  | nil => rfl
  | cons c rest => exact head?_upperChar (h c List.mem_cons_self) rest

/-- What the name of a type starts with. -/
theorem head?_typeName (title : String) :
    (typeName title).toList.head?.map isIdentifierStart =
      match title.toList.dropWhile isBlank with
      | [] => none
      | c :: rest => if isIdentifierStart c then some true else firstStarts? rest := by
  have hb := isBroken_withBreaks title.toList
  rw [typeName, String.toList_ofList, ((hb.joinUnderscores true).dropBreaks none).head?_upperFirst,
    (hb.joinUnderscores true).head?_dropBreaks, firstStarts?_joinUnderscores,
    firstStarts?_withBreaks]

/-- The name of a type starts with a digit exactly when its title says so. -/
theorem head?_typeName_eq_some_false (title : String) :
    (typeName title).toList.head?.map isIdentifierStart = some false ↔
      startsWithDigit title.toList = true := by
  rw [head?_typeName, startsWithDigit]
  cases title.toList.dropWhile isBlank with
  | nil => simp
  | cons c rest =>
    dsimp only
    cases isIdentifierStart c with
    | true => simp
    | false =>
      rw [if_neg Bool.false_ne_true, firstStarts?]
      cases hf : rest.find? isIdentifierChar with
      | none => simp
      | some d =>
        have hd := isIdentifierStart_eq_not_isDigit (List.find?_some hf)
        simp [hd]

end ProgramConnector.Naming
