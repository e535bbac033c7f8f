import ProgramConnector.Proofs.Json.TextReading
import ProgramConnector.Proofs.TypeScript.TextParts

/-!
# Scanning expressions

Whether an expression is compound is decided by a scan that keeps the number of open brackets and
whether it is inside of quotes. A text is balanced when the scan comes out of it as it went in and
meets no bar and no ampersand outside; it is enclosed when that holds inside of brackets. Texts are
put together from balanced and enclosed ones.
-/

namespace ProgramConnector.TypeScript

namespace ScanState

/-- The state behind a character, or nothing where a bar or an ampersand is met outside of brackets
and quotes. -/
def step : ScanState → Char → Option ScanState
  | .escaped depth, _ => some (.quoted depth)
  | .quoted depth, c =>
    if c == '\\' then some (.escaped depth)
    else if c == '"' then some (.code depth)
    else some (.quoted depth)
  | .code depth, c =>
    if c == '"' then some (.quoted depth)
    else if c == '\x7b' || c == '[' || c == '(' || c == '<' then some (.code (depth + 1))
    else if c == '\x7d' || c == ']' || c == ')' || c == '>' then some (.code (depth - 1))
    else if (c == '|' || c == '&') && depth == 0 then none
    else some (.code depth)

/-- The state behind a text, or nothing where a bar or an ampersand is met outside of brackets and
quotes. -/
def after (state : ScanState) (text : List Char) : Option ScanState := text.foldlM step state

/-- The first character is scanned first. -/
theorem after_cons (state : ScanState) (c : Char) (text : List Char) :
    state.after (c :: text) = (state.step c).bind fun next => next.after text := rfl

/-- A text is scanned part by part. -/
theorem after_append (state : ScanState) (text more : List Char) :
    state.after (text ++ more) = (state.after text).bind fun next => next.after more := by
  unfold after
  rw [List.foldlM_append]
  rfl

end ScanState

/-- The scan meets a bar or an ampersand outside when no state is left. -/
theorem compoundFrom_eq_isNone (state : ScanState) (text : List Char) :
    compoundFrom state text = (state.after text).isNone := by
  induction text generalizing state with
  | nil => cases state <;> rfl
  | cons c rest ih =>
    rw [ScanState.after_cons]
    cases state with
    | escaped depth => exact ih (.quoted depth)
    | quoted depth =>
      simp only [compoundFrom, ScanState.step]
      split
      · exact ih (.escaped depth)
      split
      · exact ih (.code depth)
      · exact ih (.quoted depth)
    | code depth =>
      simp only [compoundFrom, ScanState.step]
      split
      · exact ih (.quoted depth)
      split
      · exact ih (.code (depth + 1))
      split
      · exact ih (.code (depth - 1))
      split
      · rfl
      · exact ih (.code depth)

/-- An expression is compound when the scan leaves no state. -/
theorem isCompound_eq_isNone (expression : String) :
    isCompound expression = ((ScanState.code 0).after expression.toList).isNone :=
  compoundFrom_eq_isNone (.code 0) expression.toList

/-! ## Balanced and enclosed texts -/

/-- The scan comes out of a text as it went in, at a depth of open brackets. -/
def BalancedAt (depth : Nat) (text : List Char) : Prop :=
  (ScanState.code depth).after text = some (.code depth)

/-- The scan comes out of a text as it went in, at every depth. -/
def Balanced (text : List Char) : Prop := ∀ depth, BalancedAt depth text

/-- The scan comes out of a text as it went in, inside of brackets. -/
def Enclosed (text : List Char) : Prop := ∀ depth, BalancedAt (depth + 1) text

section Texts

variable {text more : List Char} {depth : Nat}

/-- Nothing is balanced. -/
theorem balancedAt_nil (depth : Nat) : BalancedAt depth [] := rfl

/-- Two balanced texts are balanced. -/
theorem BalancedAt.append (h : BalancedAt depth text) (h' : BalancedAt depth more) :
    BalancedAt depth (text ++ more) := by
  unfold BalancedAt at *
  rw [ScanState.after_append, h]
  exact h'

/-- Balanced texts are put together from balanced ones. -/
theorem isAdditive_balancedAt (depth : Nat) : IsAdditive (BalancedAt depth) where
  nil := balancedAt_nil depth
  append := BalancedAt.append

/-- A balanced text is enclosed. -/
theorem Balanced.enclosed (h : Balanced text) : Enclosed text := fun depth => h (depth + 1)

/-- Brackets around an enclosed text. -/
theorem Enclosed.bracketed (h : Enclosed text) {opening closing : Char}
    (hopen : ∀ depth, (ScanState.code depth).step opening = some (.code (depth + 1)))
    (hclose : ∀ depth, (ScanState.code (depth + 1)).step closing = some (.code depth)) :
    Balanced (opening :: (text ++ [closing])) := by
  intro depth
  unfold BalancedAt
  have ht := h depth
  unfold BalancedAt at ht
  rw [ScanState.after_cons, hopen, Option.bind_some, ScanState.after_append, ht, Option.bind_some,
    ScanState.after_cons, hclose]
  rfl

/-- A character that the scan passes over. -/
def isUnmarked (c : Char) : Bool :=
  c ∉ ['"', '\x7b', '[', '(', '<', '\x7d', ']', ')', '>', '|', '&']

/-- The scan passes over an unmarked character. -/
theorem step_of_isUnmarked {c : Char} (h : isUnmarked c = true) (depth : Nat) :
    (ScanState.code depth).step c = some (.code depth) := by
  simp only [isUnmarked, List.mem_cons, List.not_mem_nil, or_false, not_or, decide_eq_true_eq] at h
  simp [ScanState.step, h]

/-- A text without marks. -/
def IsUnmarked (text : List Char) : Prop := ∀ c ∈ text, isUnmarked c = true

/-- A text without marks is balanced. -/
theorem IsUnmarked.balanced (h : IsUnmarked text) : Balanced text := by
  intro depth
  induction text with
  | nil => exact balancedAt_nil depth
  | cons c rest ih =>
    unfold BalancedAt
    rw [ScanState.after_cons, step_of_isUnmarked (h c List.mem_cons_self)]
    exact ih fun d hd => h d (List.mem_cons_of_mem _ hd)

/-- A text can be checked for marks. -/
theorem isUnmarked_of_all (h : text.all isUnmarked = true) : IsUnmarked text :=
  List.all_eq_true.1 h

/-- Identifier characters are no marks. -/
theorem isUnmarked_of_isPlain (h : Naming.IsPlain text) : IsUnmarked text := by
  intro c hc
  have hall := Naming.of_all_range (p := fun c => !Naming.isIdentifierChar c || isUnmarked c)
    (by decide) (h c hc)
  rw [h c hc, Bool.not_true, Bool.false_or] at hall
  exact hall

end Texts

/-! ## Printed values -/

/-- A character that stands for itself inside of quotes. -/
theorem step_quoted {c : Char} (hquote : c ≠ '"') (hslash : c ≠ '\\') (depth : Nat) :
    (ScanState.quoted depth).step c = some (.quoted depth) := by
  simp [ScanState.step, hquote, hslash]

/-- The scan stays inside of quotes in an escaped character. -/
theorem after_escapedChar (c : Char) (depth : Nat) :
    (ScanState.quoted depth).after (Json.escapedChar c) = some (.quoted depth) := by
  have hdigit : ∀ n, (ScanState.quoted depth).step (Json.hexDigit n) = some (.quoted depth) :=
    fun n => step_quoted (Json.hexDigit_ne (by decide) n) (Json.hexDigit_ne (by decide) n) depth
  rcases Json.escapedChar_cases c with ⟨letter, -, -, heq⟩ | ⟨-, heq⟩ | ⟨hquote, hslash, -, heq⟩
  · rw [heq]
    rfl
  · have hend : (ScanState.quoted depth).after
        [Json.hexDigit (c.toNat / 16), Json.hexDigit c.toNat] = some (.quoted depth) := by
      rw [ScanState.after_cons, hdigit, Option.bind_some, ScanState.after_cons, hdigit]
      rfl
    rw [heq]
    exact hend
  · rw [heq, ScanState.after_cons, step_quoted hquote hslash]
    rfl

/-- The scan stays inside of quotes in escaped characters. -/
theorem after_flatMap_escapedChar (text : List Char) (depth : Nat) :
    (ScanState.quoted depth).after (text.flatMap Json.escapedChar) = some (.quoted depth) := by
  induction text with
  | nil => rfl
  | cons c rest ih =>
    rw [List.flatMap_cons, ScanState.after_append, after_escapedChar, Option.bind_some, ih]

/-- A printed text is balanced. -/
theorem balanced_printText (text : List Char) : Balanced (Json.printText text) := by
  intro depth
  unfold BalancedAt Json.printText
  have hopen : (ScanState.code depth).step '"' = some (.quoted depth) := rfl
  rw [List.cons_append, ScanState.after_cons, hopen, Option.bind_some, ScanState.after_append,
    after_flatMap_escapedChar]
  rfl

/-- A character of a printed number. -/
def isNumeralChar (c : Char) : Bool := c.isDigit || c ∈ ['.', 'e', '+', '-']

/-- A text of the characters of numbers. -/
def IsNumeral (text : List Char) : Prop := ∀ c ∈ text, isNumeralChar c = true

section Numerals

variable {text more : List Char}

/-- Two such texts make up one. -/
theorem IsNumeral.append (h : IsNumeral text) (h' : IsNumeral more) : IsNumeral (text ++ more) :=
  fun c hc => (List.mem_append.1 hc).elim (h c) (h' c)

/-- One more character of a number in front. -/
theorem IsNumeral.cons {c : Char} (hc : isNumeralChar c = true) (h : IsNumeral text) :
    IsNumeral (c :: text) := by
  intro d hd
  rcases List.mem_cons.1 hd with rfl | hd
  · exact hc
  · exact h d hd

/-- Less of such a text is one. -/
theorem IsNumeral.mono (h : IsNumeral text) (hsub : more ⊆ text) : IsNumeral more :=
  fun c hc => h c (hsub hc)

/-- A text can be checked for such characters. -/
theorem isNumeral_of_all (h : text.all isNumeralChar = true) : IsNumeral text :=
  List.all_eq_true.1 h

/-- Digits are characters of numbers. -/
theorem isNumeral_toDigits (n : Nat) : IsNumeral (Nat.toDigits 10 n) := by
  intro c hc
  simp [isNumeralChar, Nat.isDigit_of_mem_toDigits (by decide) (by decide) hc]

/-- Zeros are characters of numbers. -/
theorem isNumeral_zeros (count : Nat) : IsNumeral (List.replicate count '0') := by
  intro c hc
  rw [List.eq_of_mem_replicate hc]
  decide

/-- Positional notation is made of them. -/
theorem isNumeral_positional (x : DecimalNumeral) : IsNumeral (x.positional ['.', '0']) := by
  have hdigits : IsNumeral x.digitChars := isNumeral_toDigits x.digits
  have hending : IsNumeral ['.', '0'] := isNumeral_of_all (by decide)
  unfold DecimalNumeral.positional
  dsimp only
  split
  · exact (hdigits.append (isNumeral_zeros _)).append hending
  split
  · exact (hdigits.mono (List.take_subset _ _)).append
      (.cons (by decide) (hdigits.mono (List.drop_subset _ _)))
  · exact .cons (by decide) (.cons (by decide) ((isNumeral_zeros _).append hdigits))

/-- Scientific notation is made of them. -/
theorem isNumeral_scientific (x : DecimalNumeral) : IsNumeral x.scientific := by
  have hdigits : IsNumeral x.digitChars := isNumeral_toDigits x.digits
  unfold DecimalNumeral.scientific
  dsimp only
  refine IsNumeral.append ?_ (.cons (by decide) ?_)
  · cases hx : x.digitChars with
    | nil => exact isNumeral_of_all rfl
    | cons d rest =>
      rw [hx] at hdigits
      cases rest with
      | nil => exact hdigits
      | cons e more =>
        have hd := hdigits d List.mem_cons_self
        exact .cons hd (.cons (by decide) fun c hc => hdigits c (List.mem_cons_of_mem _ hc))
  · split
    · exact .cons (by decide) (isNumeral_toDigits _)
    · exact .cons (by decide) (isNumeral_toDigits _)

/-- A number is made of them. -/
theorem isNumeral_printNumber (value : Number) : IsNumeral (Json.printNumber value) := by
  cases value with
  | whole value =>
    cases value with
    | ofNat n => exact isNumeral_toDigits n
    | negSucc n => exact .cons (by decide) (isNumeral_toDigits (n + 1))
  | double value =>
    unfold Json.printNumber Binary64.documentText
    dsimp only
    have hsign : IsNumeral (if value.negative then ['-'] else []) := by
      split
      · exact isNumeral_of_all (by decide)
      · exact isNumeral_of_all rfl
    split
    · exact hsign.append (isNumeral_of_all (by decide))
    split
    · exact hsign.append (isNumeral_positional _)
    · exact hsign.append (isNumeral_scientific _)

/-- A digit is an identifier character, and any other character of a number is one of four. -/
theorem cases_of_isNumeralChar {c : Char} (h : isNumeralChar c = true) :
    Naming.isIdentifierChar c = true ∨ c ∈ ['.', 'e', '+', '-'] := by
  rw [isNumeralChar, Bool.or_eq_true, decide_eq_true_eq] at h
  rcases h with hd | hc
  · exact .inl (by simp [Naming.isIdentifierChar, Char.isAlphanum, hd])
  · exact .inr hc

/-- A number has no marks. -/
theorem isUnmarked_printNumber (value : Number) : IsUnmarked (Json.printNumber value) := by
  have hfour : IsUnmarked ['.', 'e', '+', '-'] := isUnmarked_of_all (by decide)
  intro c hc
  rcases cases_of_isNumeralChar (isNumeral_printNumber value c hc) with hplain | hmark
  · exact isUnmarked_of_isPlain (List.forall_mem_singleton.2 hplain) c (List.mem_singleton.2 rfl)
  · exact hfour c hmark

end Numerals

/-- A literal type is balanced. -/
theorem balanced_literal {any : String} (hany : Balanced any.toList) (value : Json) :
    Balanced (literal any value).toList :=
  literal_of_parts hany (fun _ h => (isUnmarked_of_isPlain h).balanced)
    (fun number => (isUnmarked_printNumber number).balanced) balanced_printText value

/-- A property name is balanced as it is declared. -/
theorem balanced_propertyKey (name : String) : Balanced (propertyKey name).toList :=
  propertyKey_of_parts (fun _ h => (isUnmarked_of_isPlain h).balanced) balanced_printText name

end ProgramConnector.TypeScript
