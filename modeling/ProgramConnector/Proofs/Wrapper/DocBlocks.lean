import ProgramConnector.Proofs.TypeScript.CommentBlocks
import ProgramConnector.Proofs.Wrapper.FunctionReading

/-!
# The comment of a function

The comment of a function is the one of its description with its tags behind, so what holds of the
comment of a text holds of it: it is closed once, and it has one line per line of the description.
A line that reads as a tag is there when the tag is, and when a line of the description reads so.
-/

namespace ProgramConnector.Wrapper

open Text TypeScript

/-- The tags of a function. -/
def tagLines (program : Program) (options : Options) : List (List Char) :=
  (if program.readonlyOr options.readonlyDefault then ["@readonly".toList] else []) ++
    (if options.allowRelaxedTypes then ["@allowrelaxedtypes".toList] else [])

section Blocks

variable {text : String} {program : Program} {entry : ProgramConfiguration} {options : Options}

/-- A tag is one of the two. -/
theorem eq_of_mem_tagLines {line : List Char} (h : line ∈ tagLines program options) :
    line = "@readonly".toList ∨ line = "@allowrelaxedtypes".toList := by
  unfold tagLines at h
  rcases List.mem_append.1 h with h | h
  · split at h
    · exact .inl (List.mem_singleton.1 h)
    · exact absurd h List.not_mem_nil
  · split at h
    · exact .inr (List.mem_singleton.1 h)
    · exact absurd h List.not_mem_nil

/-- The readonly tag is there when the flag is set. -/
theorem readonly_mem_tagLines : "@readonly".toList ∈ tagLines program options ↔
    program.readonlyOr options.readonlyDefault = true := by
  unfold tagLines
  cases program.readonlyOr options.readonlyDefault <;> cases options.allowRelaxedTypes <;> decide

/-- The tag for relaxed types is there when the option is set. -/
theorem relaxed_mem_tagLines : "@allowrelaxedtypes".toList ∈ tagLines program options ↔
    options.allowRelaxedTypes = true := by
  unfold tagLines
  cases program.readonlyOr options.readonlyDefault <;> cases options.allowRelaxedTypes <;> decide

/-- The lines of the comment are those of the description, if there is one, and the tags. -/
theorem docLines_eq (program : Program) (options : Options) : docLines program options =
    (program.description.map commentLines).getD [] ++ tagLines program options :=
  List.append_assoc ..

/-- A description that is not empty is one of the program. -/
theorem description_eq (hconfiguration : program.configuration = some entry)
    (hdescription : entry.description = some text) (hne : text ≠ "") :
    program.description = some text := by
  unfold Program.description
  rw [hconfiguration, Option.bind_some, hdescription, Option.filter_some, if_pos]
  simpa using hne

/-- No line of the comment has a line feed. -/
theorem not_mem_of_mem_docLines {line : List Char} (h : line ∈ docLines program options) :
    '\n' ∉ line := by
  rw [docLines_eq] at h
  rcases List.mem_append.1 h with h | h
  · cases hd : program.description with
    | none =>
      rw [hd] at h
      exact absurd h List.not_mem_nil
    | some description =>
      rw [hd] at h
      exact not_mem_of_mem_commentLines h
  · rcases eq_of_mem_tagLines h with rfl | rfl <;> decide

/-- A comment with lines is a block of them. -/
theorem docBlock_of_ne_nil (h : docLines program options ≠ []) :
    docBlock program options = commentBlock "" (docLines program options) := by
  unfold docBlock
  dsimp only
  rw [if_neg (by simpa using h)]

/-- With a description that is not empty there are lines. -/
theorem docLines_ne_nil (h : program.description = some text) (hne : text ≠ "") :
    docLines program options ≠ [] := by
  have htext : text.toList ≠ [] := by simpa using hne
  have hlines : commentLines text ≠ [] := by
    rw [commentLines_eq]
    exact mt List.map_eq_nil_iff.1 (lines_ne_nil htext)
  rw [docLines_eq, h]
  exact List.append_ne_nil_of_left_ne_nil hlines _

/-- The comment of a text behind white space is closed once, at its end, and has a line for each
line of the text, in order. The comment of a function with a text for its description is closed
once, at its end, and has these lines and then its tags; without tags it is the comment of the
text. -/
theorem docBlock_agrees_with_docComment (text : String) :
    (∀ pad : String, IsBlankText pad.toList →
      ClosesOnce (docComment text pad).toList ∧
      marginTexts (docComment text pad).toList =
        (lines text.toList).map (fun line => marginText (shownLine line)) ++ [['/']]) ∧
    (∀ (program : Program) (entry : ProgramConfiguration) (options : Options),
      program.configuration = some entry → entry.description = some text → text ≠ "" →
      ClosesOnce (docBlock program options).toList ∧
      marginTexts (docBlock program options).toList =
        (lines text.toList).map (fun line => marginText (shownLine line)) ++
          (tagLines program options).map marginText ++ [['/']] ∧
      (program.readonlyOr options.readonlyDefault = false → options.allowRelaxedTypes = false →
        docBlock program options = docComment text "")) := by
  have hshown : (commentLines text).map marginText =
      (lines text.toList).map fun line => marginText (shownLine line) := by
    rw [commentLines_eq, List.map_map]
    rfl
  constructor
  · intro pad hpad
    refine ⟨closesOnce_commentBlock hpad.not_mem fun line => not_endsComment_of_mem_commentLines,
      ?_⟩
    rw [← hshown]
    exact marginTexts_commentBlock hpad fun line => not_mem_of_mem_commentLines
  · intro program entry options hconfiguration hentry hne
    have hpad : IsBlankText "".toList := isBlankText_nil
    have hdescription := description_eq hconfiguration hentry hne
    have hlines : docLines program options = commentLines text ++ tagLines program options := by
      rw [docLines_eq, hdescription]
      rfl
    rw [docBlock_of_ne_nil (docLines_ne_nil hdescription hne)]
    refine ⟨closesOnce_commentBlock hpad.not_mem
      fun line => not_endsComment_of_mem_docLines, ?_, ?_⟩
    · rw [marginTexts_commentBlock hpad fun line => not_mem_of_mem_docLines, hlines,
        List.map_append, hshown]
    · intro hreadonly hrelaxed
      have htags : tagLines program options = [] := by simp [tagLines, hreadonly, hrelaxed]
      rw [hlines, htags, List.append_nil]
      rfl

end Blocks

/-- A program with an explicit readonly flag and a description. -/
def describedProgram (readonly : Bool) (description : String) : Program where
  file := "sum.json"
  artifact := { identifier := "sum", title := "sum numbers", artifactType := "automation" }
  configuration := some { readonly := some readonly, description := some description }

/-- A description with the closing sequence and with a line that starts with a slash is the text of
one comment, in front of a member and in front of a function. -/
theorem docBlock_agrees_with_docComment_quoted :
    ClosesOnce (docComment "Ends at **/ \n\n/ and goes on." "\t").toList ∧
      marginTexts (docBlock (describedProgram true "Ends at **/ \n\n/ and goes on.") {}).toList =
        [" Ends at **\\/".toList, [], " / and goes on.".toList, " @readonly".toList,
          ['/']] ∧
      docBlock (describedProgram false "Ends at **/ \n\n/ and goes on.") {} =
        docComment "Ends at **/ \n\n/ and goes on." "" := by
  obtain ⟨hcomment, hblock⟩ := docBlock_agrees_with_docComment "Ends at **/ \n\n/ and goes on."
  have htab : IsBlankText "\t".toList := isBlankText_of_all (by decide)
  have hne : "Ends at **/ \n\n/ and goes on." ≠ "" := by decide
  obtain ⟨-, hlines, -⟩ := hblock (describedProgram true _) _ {} rfl rfl hne
  obtain ⟨-, -, hplain⟩ := hblock (describedProgram false _) _ {} rfl rfl hne
  refine ⟨(hcomment "\t" htab).1, hlines.trans ?_, hplain rfl rfl⟩
  decide +kernel

/-! ## Tags -/

/-- Whether the description of a program has a line that is the given one up to white space behind
it. -/
def Describes (program : Program) (line : List Char) : Prop :=
  ∃ text, program.description = some text ∧ ∃ written ∈ lines text.toList, trimEnd written = line

instance (program : Program) (line : List Char) : Decidable (Describes program line) :=
  match h : program.description with
  | none => isFalse fun ⟨_, htext, _⟩ => nomatch h.symm.trans htext
  | some text =>
    decidable_of_iff (∃ written ∈ lines text.toList, trimEnd written = line)
      ⟨fun hline => ⟨text, h, hline⟩, fun ⟨_, htext, hline⟩ => by
        rwa [← Option.some.inj (h.symm.trans htext)] at hline⟩

section Tags

variable {program : Program} {options : Options}

/-- Code with no comment in front starts with none. -/
theorem leadingComment_functionText (names : DerivedNames) (code : String) :
    leadingComment (functionText names code).toList = [] := by
  obtain ⟨rest, hrest⟩ : ∃ rest, (functionText names code).toList = 'e' :: rest := by
    unfold functionText
    simp only [String.toList_append, List.append_assoc]
    exact ⟨_, rfl⟩
  rw [hrest]
  unfold leadingComment
  rw [if_neg (by simp)]

/-- A line behind the margin stands in the comment that the function of a program starts with when
it is one of its lines. -/
theorem mem_leadingComment_iff {line : List Char} (hne : line ≠ []) :
    ' ' :: '*' :: ' ' :: line ∈ lines (leadingComment (render program options).toList) ↔
      line ∈ docLines program options := by
  unfold render
  by_cases hnil : docLines program options = []
  · have hblock : docBlock program options = "" := by
      unfold docBlock
      rw [hnil]
      rfl
    rw [hblock, String.empty_append, leadingComment_functionText, hnil]
    exact ⟨fun h => absurd h List.not_mem_nil, fun h => absurd h List.not_mem_nil⟩
  · have hmargin : ∀ shown : List Char, marginText shown = ' ' :: line ↔ shown = line := by
      intro shown
      unfold marginText
      cases shown with
      | nil => simpa using hne
      | cons c rest => simp
    rw [docBlock_of_ne_nil hnil, String.toList_append, lines_leadingComment
      (fun line => not_endsComment_of_mem_docLines) (fun line => not_mem_of_mem_docLines)]
    simp [hmargin]

/-- A line of the description is shown as a text without stars and backslashes when it is this
text up to white space. -/
theorem mem_commentLines_iff {line : List Char} (hstar : '*' ∉ line) (hslash : '\\' ∉ line) :
    line ∈ (program.description.map commentLines).getD [] ↔ Describes program line := by
  unfold Describes
  cases program.description with
  | none => simp
  | some text =>
    rw [Option.map_some, Option.getD_some, commentLines_eq, List.mem_map]
    simp [shownLine_eq_iff hstar hslash]

/-- The comment that the function of a program starts with has a readonly line when the flag is
set or the description has such a line, and likewise for relaxed types. -/
theorem tag_mem_leadingComment (program : Program) (options : Options) :
    (" * @readonly".toList ∈ lines (leadingComment (render program options).toList) ↔
      program.readonlyOr options.readonlyDefault = true ∨
        Describes program "@readonly".toList) ∧
    (" * @allowrelaxedtypes".toList ∈ lines (leadingComment (render program options).toList) ↔
      options.allowRelaxedTypes = true ∨ Describes program "@allowrelaxedtypes".toList) ∧
    (program.configuration.bind (·.readonly) = some false →
      ¬Describes program "@readonly".toList →
      " * @readonly".toList ∉ lines (leadingComment (render program options).toList)) := by
  have hread : ∀ tag : List Char, '*' ∉ tag → '\\' ∉ tag → tag ≠ [] →
      (' ' :: '*' :: ' ' :: tag ∈ lines (leadingComment (render program options).toList) ↔
        tag ∈ tagLines program options ∨ Describes program tag) := by
    intro tag hstar hslash hne
    rw [mem_leadingComment_iff hne, docLines_eq, List.mem_append,
      mem_commentLines_iff hstar hslash, or_comm]
  have hreadonly := hread "@readonly".toList (by decide) (by decide) (by decide)
  have hrelaxed := hread "@allowrelaxedtypes".toList (by decide) (by decide) (by decide)
  rw [readonly_mem_tagLines] at hreadonly
  rw [relaxed_mem_tagLines] at hrelaxed
  refine ⟨hreadonly, hrelaxed, fun hfalse hno hmem => ?_⟩
  rcases hreadonly.1 hmem with htrue | hyes
  · unfold Program.readonlyOr at htrue
    rw [hfalse] at htrue
    exact nomatch htrue
  · exact hno hyes

/-- Without a readonly line in the description an explicit flag decides. -/
theorem tag_mem_leadingComment_described :
    " * @readonly".toList ∉ lines (leadingComment (render
      (describedProgram false "Adds @readonly numbers.\n@readonly, or not") {}).toList) ∧
    " * @readonly".toList ∈ lines (leadingComment (render
      (describedProgram true "Adds numbers.") {}).toList) :=
  ⟨(tag_mem_leadingComment _ {}).2.2 rfl (by decide +kernel),
    (tag_mem_leadingComment _ {}).1.2 (.inl rfl)⟩

/-- A description that is the tag gives the line of the tag though the flag is explicitly off. -/
theorem readonly_line_of_description :
    (describedProgram false "@readonly").readonlyOr true = false ∧
    ¬(" * @readonly".toList ∈ lines (leadingComment (render
        (describedProgram false "@readonly") {}).toList) ↔
      (describedProgram false "@readonly").readonlyOr true = true) := by
  have htag : "@readonly".toList ∈ docLines (describedProgram false "@readonly") {} := by
    decide +kernel
  exact ⟨rfl, fun h => nomatch h.1 ((mem_leadingComment_iff (by decide)).2 htag)⟩

end Tags

end ProgramConnector.Wrapper
