import ProgramConnector.Proofs.Wrapper.TemplateReading

/-!
# The value of a template literal

Whoever runs a template literal reads its escapes back, and reads every carriage return in it, with
or without a line feed behind it, as one line feed. The escapes of embedded code are undone exactly;
its carriage returns are not escaped and do not come back.
-/

namespace ProgramConnector.Wrapper

/-- Whether a character behind a backslash stands for itself: a backslash, a backtick or a dollar
sign. -/
def standsForItself (c : Char) : Bool := c == '\\' || c == '\x60' || c == '$'

/-- The value of a template literal, read from behind its opening backtick. There is none where the
literal does not end, where a substitution opens, or where an escape is of another kind. -/
def templateValue? : List Char → Option (List Char)
  | [] => none
  | '\x60' :: _ => some []
  | '\\' :: taken :: rest =>
    if standsForItself taken then (templateValue? rest).map (taken :: ·) else none
  | '$' :: '\x7b' :: _ => none
  | '\r' :: '\n' :: rest => (templateValue? rest).map ('\n' :: ·)
  | '\r' :: rest => (templateValue? rest).map ('\n' :: ·)
  | c :: rest => (templateValue? rest).map (c :: ·)

/-- A text with a line feed for every carriage return, and for every carriage return with a line
feed behind it. -/
def withLineFeeds : List Char → List Char
  | [] => []
  | '\r' :: '\n' :: rest => '\n' :: withLineFeeds rest
  | '\r' :: rest => '\n' :: withLineFeeds rest
  | c :: rest => c :: withLineFeeds rest

section LineFeeds

/-- No carriage return is left. -/
theorem not_mem_withLineFeeds (text : List Char) : '\r' ∉ withLineFeeds text := by
  induction text using withLineFeeds.induct with
  | case1 => exact List.not_mem_nil
  | case2 rest ih =>
    rw [withLineFeeds, List.mem_cons]
    rintro (h | h)
    · exact absurd h (by decide)
    · exact ih h
  | case3 rest hrest ih =>
    rw [withLineFeeds, List.mem_cons]
    · rintro (h | h)
      · exact absurd h (by decide)
      · exact ih h
    · exact hrest
  | case4 c rest hpair hreturn ih =>
    rw [withLineFeeds, List.mem_cons]
    · rintro (h | h)
      · exact hreturn h.symm
      · exact ih h
    · exact hpair
    · exact hreturn

/-- A text without carriage returns stays as it is. -/
theorem withLineFeeds_of_not_mem {text : List Char} (h : '\r' ∉ text) :
    withLineFeeds text = text := by
  induction text with
  | nil => rfl
  | cons c rest ih =>
    rw [List.mem_cons, not_or] at h
    obtain ⟨hc, hrest⟩ := h
    rw [withLineFeeds, ih hrest]
    · exact fun _ hreturn _ => hc hreturn.symm
    · exact fun hreturn => hc hreturn.symm

/-- Exactly the texts without carriage returns stay as they are. -/
theorem withLineFeeds_eq_self_iff {text : List Char} : withLineFeeds text = text ↔ '\r' ∉ text := by
  constructor
  · intro h
    rw [← h]
    exact not_mem_withLineFeeds text
  · exact withLineFeeds_of_not_mem

end LineFeeds

section Value

/-- An escaped character that is no carriage return is read back. -/
theorem templateValue?_escapedCodeChar {c : Char} (h : c ≠ '\r') (text : List Char) :
    templateValue? (escapedCodeChar c ++ text) = (templateValue? text).map (c :: ·) := by
  by_cases hself : standsForItself c = true
  · have hescaped : escapedCodeChar c = ['\\', c] := if_pos hself
    rw [hescaped]
    exact if_pos hself
  · have hescaped : escapedCodeChar c = [c] := if_neg hself
    simp only [standsForItself, Bool.or_eq_true, beq_iff_eq, not_or] at hself
    obtain ⟨⟨hbackslash, hbacktick⟩, hdollar⟩ := hself
    rw [hescaped, List.singleton_append, templateValue?]
    · exact hbacktick
    · exact fun _ _ hc _ => hbackslash hc
    · exact fun _ hc _ => hdollar hc
    · exact fun _ hc _ => h hc
    · exact h

/-- A carriage return is read as a line feed, unless a line feed follows. -/
theorem templateValue?_return {text : List Char} (h : ∀ rest, text ≠ '\n' :: rest) :
    templateValue? ('\r' :: text) = (templateValue? text).map ('\n' :: ·) := by
  rw [templateValue?]
  exact h

/-- No line feed comes first in escaped code with a backtick behind it when none comes first in the
code. -/
theorem ne_lineFeed_of_escaped {code : List Char} (h : ∀ rest, code = '\n' :: rest → False)
    (behind rest : List Char) :
    code.flatMap escapedCodeChar ++ '\x60' :: behind ≠ '\n' :: rest := by
  cases code with
  | nil => exact fun heq => absurd (List.cons.inj heq).1 (by decide)
  | cons c more =>
    rw [List.flatMap_cons, List.append_assoc]
    rcases escapedCodeChar_cases c with hescaped | ⟨hescaped, -⟩
    · rw [hescaped]
      exact fun heq => absurd (List.cons.inj heq).1 (by decide)
    · rw [hescaped]
      intro heq
      have hc : c = '\n' := (List.cons.inj heq).1
      exact h more (by rw [hc])

/-- The value of escaped code is the code with line feeds for its carriage returns. -/
theorem templateValue?_escaped (code behind : List Char) :
    templateValue? (code.flatMap escapedCodeChar ++ '\x60' :: behind) =
      some (withLineFeeds code) := by
  induction code using withLineFeeds.induct with
  | case1 => rfl
  | case2 rest ih =>
    have hread : templateValue? (('\r' :: '\n' :: rest).flatMap escapedCodeChar ++ '\x60' :: behind) =
        (templateValue? (rest.flatMap escapedCodeChar ++ '\x60' :: behind)).map ('\n' :: ·) := rfl
    rw [hread, ih, withLineFeeds]
    rfl
  | case3 rest hrest ih =>
    have hread : templateValue? (('\r' :: rest).flatMap escapedCodeChar ++ '\x60' :: behind) =
        (templateValue? (rest.flatMap escapedCodeChar ++ '\x60' :: behind)).map ('\n' :: ·) :=
      templateValue?_return (ne_lineFeed_of_escaped hrest behind)
    rw [hread, ih, withLineFeeds]
    · rfl
    · exact hrest
  | case4 c rest hpair hreturn ih =>
    rw [List.flatMap_cons, List.append_assoc, templateValue?_escapedCodeChar hreturn, ih,
      withLineFeeds]
    · rfl
    · exact hpair
    · exact hreturn

end Value

/-! ## The value of the literal of a function -/

variable (program : Program) (options : Options)

/-- Behind the text in front of the code stand the escaped code and a backtick. -/
theorem drop_frontText : ∃ behind,
    (render program options).toList.drop (frontText program options).length =
      (escapeCode program.code).toList ++ '\x60' :: behind := by
  obtain ⟨behind, hbehind⟩ := exists_backText program.names
  have hrender : (render program options).toList = (frontText program options).toList ++
      ((escapeCode program.code).toList ++ '\x60' :: behind) := by
    rw [render_eq, String.append_assoc, String.toList_append, String.toList_append, hbehind]
  refine ⟨behind, ?_⟩
  rw [hrender, ← String.length_toList, List.drop_left]

/-- The literal behind the front text of a function always has a value: the code, with line feeds
for its carriage returns. So the value is the code exactly when the code has no carriage return. -/
theorem templateValue?_render :
    "const code = \x60".toList <:+ (frontText program options).toList ∧
    frontText program options ++ escapeCode program.code ++ backText program.names =
      render program options ∧
    templateValue? ((render program options).toList.drop (frontText program options).length) =
      some (withLineFeeds program.code.toList) ∧
    (templateValue? ((render program options).toList.drop (frontText program options).length) =
      some program.code.toList ↔ '\r' ∉ program.code.toList) := by
  obtain ⟨behind, hdrop⟩ := drop_frontText program options
  have hvalue : templateValue? ((render program options).toList.drop
      (frontText program options).length) = some (withLineFeeds program.code.toList) := by
    rw [hdrop, escapeCode, String.toList_ofList]
    exact templateValue?_escaped program.code.toList behind
  refine ⟨suffix_frontText program options, (render_eq program options).symm, hvalue, ?_⟩
  rw [hvalue, Option.some.injEq]
  exact withLineFeeds_eq_self_iff

/-- A carriage return in code comes back as a line feed. -/
example : templateValue? ((escapeCode "a\rb").toList ++ ['\x60']) = some ['a', '\n', 'b'] := by
  rfl

end ProgramConnector.Wrapper
