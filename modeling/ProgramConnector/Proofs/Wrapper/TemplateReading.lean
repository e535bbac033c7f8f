import ProgramConnector.Proofs.Wrapper.FunctionReading

/-!
# Reading the code of a function

A template literal is read up to the backtick that closes it. A backslash takes the next character
with it, and a dollar sign with a brace behind it opens a substitution. The literal of a function is
read to its end, exactly the escaped code is in it, and different codes are escaped differently.
-/

namespace ProgramConnector.Wrapper

/-! ## Template literals -/

/-- How reading a template literal stops. -/
inductive TemplateStop where
  /-- At the backtick that closes the literal. -/
  | closed
  /-- At a dollar sign that opens a substitution. -/
  | substitution
  /-- At the end of the text. -/
  | unfinished
deriving DecidableEq

/-- What reading a template literal gives. -/
structure TemplateReading where
  /-- The characters of the literal that were read. -/
  consumed : List Char
  /-- How reading stopped. -/
  stop : TemplateStop
  /-- The characters behind the ones that were read, without a backtick that closes the literal. -/
  rest : List Char
deriving DecidableEq

/-- More characters in front of those that were read. -/
def TemplateReading.prepend (front : List Char) (reading : TemplateReading) : TemplateReading :=
  { reading with consumed := front ++ reading.consumed }

/-- Reads a template literal from behind its opening backtick. -/
def readTemplate : List Char → TemplateReading
  | [] => ⟨[], .unfinished, []⟩
  | '\x60' :: rest => ⟨[], .closed, rest⟩
  | ['\\'] => ⟨['\\'], .unfinished, []⟩
  | '\\' :: taken :: rest => (readTemplate rest).prepend ['\\', taken]
  | '$' :: '\x7b' :: rest => ⟨[], .substitution, '$' :: '\x7b' :: rest⟩
  | c :: rest => (readTemplate rest).prepend [c]

/-- The text that a literal without substitutions stands for, as far as backslashes go: each is
dropped, and the next character is kept. -/
def unescape : List Char → List Char
  | [] => []
  | ['\\'] => []
  | '\\' :: taken :: rest => taken :: unescape rest
  | c :: rest => c :: unescape rest

section Escaping

/-- An escaped character has a backslash in front of it, or means nothing in a literal. -/
theorem escapedCodeChar_cases (c : Char) : escapedCodeChar c = ['\\', c] ∨
    escapedCodeChar c = [c] ∧ c ≠ '\\' ∧ c ≠ '\x60' ∧ c ≠ '$' := by
  unfold escapedCodeChar
  split
  · exact .inl rfl
  · rename_i h
    simp only [Bool.or_eq_true, beq_iff_eq, not_or] at h
    exact .inr ⟨rfl, h.1.1, h.1.2, h.2⟩

/-- An escaped character is read as one that belongs to the literal. -/
theorem readTemplate_escapedCodeChar (c : Char) (text : List Char) :
    readTemplate (escapedCodeChar c ++ text) =
      (readTemplate text).prepend (escapedCodeChar c) := by
  rcases escapedCodeChar_cases c with h | ⟨h, hbackslash, hbacktick, hdollar⟩
  · rw [h]
    rfl
  · rw [h, List.singleton_append, readTemplate]
    · exact hbacktick
    · exact fun hc _ => hbackslash hc
    · exact fun _ _ hc _ => hbackslash hc
    · exact fun _ hc _ => hdollar hc

/-- Escaped code is read up to the backtick behind it. -/
theorem readTemplate_escapeCode (code : String) (behind : List Char) :
    readTemplate ((escapeCode code).toList ++ '\x60' :: behind) =
      ⟨(escapeCode code).toList, .closed, behind⟩ := by
  rw [escapeCode, String.toList_ofList]
  induction code.toList with
  | nil => rfl
  | cons c rest ih =>
    rw [List.flatMap_cons, List.append_assoc, readTemplate_escapedCodeChar, ih]
    rfl

example : readTemplate ((escapeCode "\\").toList ++ ['\x60', ';']) = ⟨['\\', '\\'], .closed, [';']⟩ := by
  rfl

/-- An escaped character stands for itself. -/
theorem unescape_escapedCodeChar (c : Char) (text : List Char) :
    unescape (escapedCodeChar c ++ text) = c :: unescape text := by
  rcases escapedCodeChar_cases c with h | ⟨h, hbackslash, -, -⟩
  · rw [h]
    rfl
  · rw [h, List.singleton_append, unescape]
    · exact fun hc _ => hbackslash hc
    · exact fun _ _ hc _ => hbackslash hc

/-- Escaped code stands for the code. -/
theorem unescape_escapeCode (code : String) : unescape (escapeCode code).toList = code.toList := by
  rw [escapeCode, String.toList_ofList]
  induction code.toList with
  | nil => rfl
  | cons c rest ih => rw [List.flatMap_cons, unescape_escapedCodeChar, ih]

/-- Different codes are escaped differently. -/
theorem escapeCode_injective : Function.Injective escapeCode := by
  intro code other h
  have hlist : code.toList = other.toList := by
    rw [← unescape_escapeCode code, ← unescape_escapeCode other, h]
  exact String.toList_injective hlist

end Escaping

/-! ## The literal of a function -/

/-- What stands in front of the code of a function. -/
def frontText (program : Program) (options : Options) : String :=
  docBlock program options ++ ("export async function " ++
    (program.names.function ++ parameterText) ++ (program.names.inputType ++ resultText) ++
    (program.names.outputType ++ openingText))

/-- What stands behind the code of a function. -/
def backText (names : DerivedNames) : String :=
  requestText ++ (names.inputType ++ separatorText) ++ (names.outputType ++ closingText)

section Literal

variable (program : Program) (options : Options)

/-- A function is its code, escaped, between two texts. -/
theorem render_eq : render program options =
    frontText program options ++ escapeCode program.code ++ backText program.names := by
  unfold render frontText backText
  rw [functionText_eq]
  simp only [String.append_assoc]

/-- The text in front of the code ends with the backtick that opens the literal. -/
theorem suffix_frontText :
    "const code = \x60".toList <:+ (frontText program options).toList := by
  have hopening : "const code = \x60".toList <:+ openingText.toList := by decide +kernel
  unfold frontText
  simp only [String.toList_append]
  exact ((hopening.trans (List.suffix_append _ _)).trans (List.suffix_append _ _)).trans
    (List.suffix_append _ _)

/-- The text behind the code starts with the backtick that closes the literal. -/
theorem exists_backText (names : DerivedNames) :
    ∃ behind, (backText names).toList = '\x60' :: behind := by
  have hrequest : requestText.toList.head? = some '\x60' := by decide +kernel
  obtain ⟨rest, hrest⟩ := List.head?_eq_some_iff.1 hrequest
  unfold backText
  simp only [String.toList_append, hrest, List.cons_append]
  exact ⟨_, rfl⟩

/-- Reading the literal of a function takes exactly the escaped code and stops at the backtick that
stands behind it, whatever the code is, and different codes give different literals. -/
theorem readTemplate_render :
    render program options =
      frontText program options ++ escapeCode program.code ++ backText program.names ∧
    "const code = \x60".toList <:+ (frontText program options).toList ∧
    (backText program.names).toList = '\x60' :: (backText program.names).toList.tail ∧
    readTemplate ((render program options).toList.drop (frontText program options).length) =
      ⟨(escapeCode program.code).toList, .closed, (backText program.names).toList.tail⟩ ∧
    Function.Injective escapeCode := by
  have hrender := render_eq program options
  obtain ⟨behind, hbehind⟩ := exists_backText program.names
  refine ⟨hrender, suffix_frontText program options, ?_, ?_, escapeCode_injective⟩
  · rw [hbehind, List.tail_cons]
  · have hdrop : (render program options).toList.drop (frontText program options).length =
        (escapeCode program.code).toList ++ (backText program.names).toList := by
      rw [hrender, String.append_assoc, String.toList_append, String.toList_append,
        ← String.length_toList, List.drop_left]
    rw [hdrop, hbehind, List.tail_cons]
    exact readTemplate_escapeCode program.code behind

end Literal

end ProgramConnector.Wrapper
