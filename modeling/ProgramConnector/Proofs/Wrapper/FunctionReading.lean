import ProgramConnector.Proofs.TypeScript.CommentText
import ProgramConnector.Proofs.Wrapper.ModuleReading
import ProgramConnector.Wrapper.Basic

/-!
# Reading the functions module

Reading comes out of the comment of a function and of its code as it went in, whatever the
description and the code are. So the module binds the names of its header, and behind them the name
of every function.
-/

namespace ProgramConnector.Wrapper

open Naming TypeScript

/-! ## Comments -/

section Comments

variable {depth : Nat} {word : List Char} {words : List String}

/-- A comment stays open in a text that does not end it. -/
theorem exists_reads_comment {text : List Char} (h : ¬ EndsComment text) (star : Bool)
    (hstar : star = true → text.head? ≠ some '/') : ∃ star',
      Reads ⟨.comment star, depth, word, words⟩ text ⟨.comment star', depth, word, words⟩ := by
  induction text generalizing star with
  | nil => exact ⟨star, fun earlier => rfl⟩
  | cons c rest ih =>
    rw [endsComment_cons_iff, not_or, not_and] at h
    have hopen : (star && c == '/') = false := by
      cases star with
      | false => rfl
      | true => simpa using hstar rfl
    have hstep : Reads ⟨.comment star, depth, word, words⟩ [c]
        ⟨.comment (c == '*'), depth, word, words⟩ := by
      refine reads_of_after ?_
      simp [ModuleScan.after, ModuleScan.step, Position.next, hopen]
    obtain ⟨star', hrest⟩ := ih h.2 (c == '*') fun hc => h.1 (beq_iff_eq.1 hc)
    exact ⟨star', hstep.append hrest⟩

/-- A comment stays open in a line that does not end it. -/
theorem reads_commentLine {line : List Char} (h : ¬ EndsComment line) :
    Reads ⟨.comment false, 0, [], []⟩ (commentLine "" line).toList
      ⟨.comment false, 0, [], []⟩ := by
  unfold commentLine
  split
  · exact reads_of_after rfl
  · obtain ⟨star, hline⟩ : ∃ star,
        Reads ⟨.comment false, 0, [], []⟩ line ⟨.comment star, 0, [], []⟩ :=
      exists_reads_comment h false fun hstar => nomatch hstar
    have hfeed : Reads ⟨.comment star, 0, [], []⟩ "\n".toList ⟨.comment false, 0, [], []⟩ := by
      cases star <;> exact reads_of_after rfl
    rw [String.toList_append, String.toList_append, String.toList_ofList]
    have hmargin : Reads ⟨.comment false, 0, [], []⟩ ("" ++ " * ").toList
        ⟨.comment false, 0, [], []⟩ := reads_of_after rfl
    exact (hmargin.append hline).append hfeed

/-- No line of the comment of a function ends it. -/
theorem not_endsComment_of_mem_docLines {program : Program} {options : Options} {line : List Char}
    (h : line ∈ docLines program options) : ¬ EndsComment line := by
  unfold docLines at h
  rcases List.mem_append.1 h with h | h
  · rcases List.mem_append.1 h with h | h
    · cases hd : program.description with
      | none =>
        rw [hd] at h
        exact absurd h List.not_mem_nil
      | some description =>
        rw [hd] at h
        exact not_endsComment_of_mem_commentLines h
    · split at h
      · rw [List.mem_singleton.1 h]
        unfold EndsComment
        decide +kernel
      · exact absurd h List.not_mem_nil
  · split at h
    · rw [List.mem_singleton.1 h]
      unfold EndsComment
      decide +kernel
    · exact absurd h List.not_mem_nil

/-- Reading comes out of the comment of a function as it went in. -/
theorem reads_docBlock (program : Program) (options : Options) :
    Reads {} (docBlock program options).toList {} := by
  unfold docBlock
  dsimp only
  split
  · exact fun earlier => rfl
  · unfold commentBlock
    simp only [String.toList_append, String.toList_join, List.flatMap_def]
    have hopen : Reads {} ("".toList ++ "/**\n".toList) ⟨.comment false, 0, [], []⟩ :=
      reads_of_after rfl
    have hclose : Reads ⟨.comment false, 0, [], []⟩ " */\n".toList {} :=
      reads_of_after rfl
    have hlines : Reads ⟨.comment false, 0, [], []⟩
        ((((docLines program options).map (commentLine "")).map String.toList).flatten)
        ⟨.comment false, 0, [], []⟩ := by
      refine reads_flatten fun part hp => ?_
      obtain ⟨text, htext, rfl⟩ := List.mem_map.1 hp
      obtain ⟨line, hline, rfl⟩ := List.mem_map.1 htext
      exact reads_commentLine (not_endsComment_of_mem_docLines hline)
    have hnone : Reads ⟨.comment false, 0, [], []⟩ "".toList ⟨.comment false, 0, [], []⟩ :=
      fun earlier => rfl
    exact ((hopen.append hlines).append hnone).append hclose

end Comments

/-! ## Code -/

/-- A template goes on behind escaped code. -/
theorem reads_escapeCode (code : String) {depth : Nat} {words : List String} :
    Reads ⟨.template, depth, [], words⟩ (escapeCode code).toList
      ⟨.template, depth, [], words⟩ := by
  rw [escapeCode, String.toList_ofList, List.flatMap_def]
  refine reads_flatten fun part hp => ?_
  obtain ⟨c, -, rfl⟩ := List.mem_map.1 hp
  refine reads_of_after ?_
  unfold escapedCodeChar
  split
  · rfl
  · rename_i hplain
    simp only [Bool.or_eq_true, beq_iff_eq, not_or] at hplain
    simp [ModuleScan.after, ModuleScan.step, Position.next, Position.inTemplate, hplain]

/-! ## Functions -/

/-- Code inside of a bracket. -/
def inside : ModuleScan := ⟨.code, 1, [], []⟩

/-- A template inside of a bracket. -/
def insideTemplate : ModuleScan := ⟨.template, 1, [], []⟩

/-- What stands between the name of a function and that of its input type. -/
def parameterText : String := "(\n" ++ "  headers: sdk.JSONValue,\n" ++ "  input: types."

/-- What stands between the names of the types of a function. -/
def resultText : String := "\n" ++ "): Promise<utils.ProgramOutput<types."

/-- What stands between the output type of a function and its code. -/
def openingText : String := ">> \x7b\n" ++ "  const code = \x60"

/-- What stands between the code of a function and the input type of its request. -/
def requestText : String :=
  "\x60;\n" ++ "  const body = utils.prepareExecuteProgramBody(\n" ++ "    headers,\n" ++
  "    input,\n" ++ "    code,\n" ++ "    buildVersion\n" ++ "  );\n" ++
  "  const response = await utils.makeExecuteProgramRequest<\n" ++ "    types."

/-- What stands between the two types of a request. -/
def separatorText : String := ",\n" ++ "    types."

/-- What stands behind the output type of a request. -/
def closingText : String :=
  "\n" ++ "  >(body, apiKey, executeProgramEndpoint);\n" ++ "  return response;\n" ++ "\x7d\n"

/-- A function is its names and its code with fixed texts behind them. -/
theorem functionText_eq (names : DerivedNames) (code : String) : functionText names code =
    "export async function " ++ (names.function ++ parameterText) ++
      (names.inputType ++ resultText) ++ (names.outputType ++ openingText) ++ escapeCode code ++
      requestText ++ (names.inputType ++ separatorText) ++ (names.outputType ++ closingText) := by
  unfold functionText parameterText resultText openingText requestText separatorText closingText
  -- Literals stay apart, since both sides put them together in the same order.
  simp only [-String.reduceAppend, String.append_assoc]

/-- Reading goes inside of the brackets of the parameters. -/
theorem reads_parameterText : Reads {} parameterText.toList inside := by
  unfold parameterText
  simp only [-String.reduceAppend, String.toList_append]
  exact .of_eq (.literal (.literal (reads_literal rfl) rfl) rfl) rfl

/-- Reading comes out of the brackets of the parameters. -/
theorem reads_resultText : Reads inside resultText.toList
    {words := ["Promise", "utils", "ProgramOutput", "types"]} := by
  unfold resultText
  simp only [-String.reduceAppend, String.toList_append]
  exact .of_eq (.literal (reads_literal rfl) rfl) rfl

/-- Reading goes inside of the braces of the function, and into the template. -/
theorem reads_openingText : Reads {} openingText.toList insideTemplate := by
  unfold openingText
  simp only [-String.reduceAppend, String.toList_append]
  exact .of_eq (.literal (reads_literal rfl) rfl) rfl

set_option maxRecDepth 2000 in
/-- Reading comes out of the template. -/
theorem reads_requestText : Reads insideTemplate requestText.toList inside := by
  unfold requestText
  simp only [-String.reduceAppend, String.toList_append]
  exact .of_eq (.literal (.literal (.literal (.literal (.literal (.literal (.literal (.literal
    (reads_literal rfl) rfl) rfl) rfl) rfl) rfl) rfl) rfl) rfl) rfl

/-- Reading stays inside of the braces of the function. -/
theorem reads_separatorText : Reads inside separatorText.toList inside := by
  unfold separatorText
  simp only [-String.reduceAppend, String.toList_append]
  exact .of_eq (.literal (reads_literal rfl) rfl) rfl

set_option maxRecDepth 2000 in
/-- Reading comes out of the braces of the function. -/
theorem reads_closingText : Reads inside closingText.toList {} := by
  unfold closingText
  simp only [-String.reduceAppend, String.toList_append]
  exact .of_eq (.literal (.literal (.literal (reads_literal rfl) rfl) rfl) rfl) rfl

/-- The words of a function outside of brackets. -/
def functionWords (names : DerivedNames) : List String :=
  ["export", "async", "function", names.function, "Promise", "utils", "ProgramOutput", "types",
    names.outputType]

/-- Reading a function leaves its words. -/
theorem reads_functionText {names : DerivedNames} (code : String)
    (hfunction : IsSolid names.function.toList) (hinput : IsSolid names.inputType.toList)
    (houtput : IsSolid names.outputType.toList) (hname : names.function.toList ≠ [])
    (hresult : names.outputType.toList ≠ []) :
    Reads {} (functionText names code).toList {words := functionWords names} := by
  let front := ["export", "async", "function"]
  let middle := ["Promise", "utils", "ProgramOutput", "types"]
  have hopen : Reads {} "export async function ".toList {words := front} :=
    .of_eq (reads_literal rfl) rfl
  have hparameters : Reads {words := front} (names.function.toList ++ parameterText.toList)
      (inside.behind (front ++ [names.function])) :=
    reads_name_outside hfunction hname (by decide +kernel) reads_parameterText
  have hpromise : Reads inside (names.inputType.toList ++ resultText.toList) {words := middle} :=
    reads_name_inside hinput (by decide +kernel) reads_resultText
  have hbrace : Reads {words := middle} (names.outputType.toList ++ openingText.toList)
      (insideTemplate.behind (middle ++ [names.outputType])) :=
    reads_name_outside houtput hresult (by decide +kernel) reads_openingText
  have hcode : Reads insideTemplate (escapeCode code).toList insideTemplate := reads_escapeCode code
  have htypes : Reads inside (names.inputType.toList ++ separatorText.toList) inside :=
    reads_name_inside hinput (by decide +kernel) reads_separatorText
  have hclose : Reads inside (names.outputType.toList ++ closingText.toList) {} :=
    reads_name_inside houtput (by decide +kernel) reads_closingText
  rw [functionText_eq]
  simp only [String.toList_append]
  -- The words of the signature stay in front while the body is read, which leaves none itself.
  have hbody : ∀ {text : List Char} {scan next : ModuleScan}, Reads scan text next →
      Reads ((scan.behind (middle ++ [names.outputType])).behind (front ++ [names.function])) text
        ((next.behind (middle ++ [names.outputType])).behind (front ++ [names.function])) :=
    fun h => (h.behind _).behind _
  have hsignature := (hopen.append hparameters).append (hpromise.behind _)
  have hrequest := ((hsignature.append (hbrace.behind _)).append (hbody hcode)).append
    (hbody reads_requestText)
  exact (hrequest.append (hbody htypes)).append (hbody hclose)

/-- Reading a function with its comment leaves the words of the function. -/
theorem reads_render {program : Program} (options : Options)
    (hname : program.names.function.toList ≠ []) :
    Reads {} (render program options).toList {words := functionWords program.names} := by
  have hresult : program.names.outputType.toList ≠ [] := by
    intro hnil
    have hsuffix := suffix_outputType program.title
    change _ <:+ program.names.outputType.toList at hsuffix
    rw [hnil] at hsuffix
    exact absurd hsuffix (by decide)
  rw [render, String.toList_append]
  exact (reads_docBlock program options).append (reads_functionText program.code
    (isSolid_functionName program.title) (isSolid_pascalCase _) (isSolid_pascalCase _) hname
    hresult)

/-! ## Modules -/

/-- The names that the header of a module binds. -/
def headerNames : List String :=
  ["sdk", "types", "utils", "buildVersion", "apiKey", "executeProgramEndpoint"]

/-- The words of the header of a module outside of brackets. -/
def headerWords : List String :=
  ["import", "as", "sdk", "from", "import", "as", "types", "from", "import", "as", "utils", "from",
    "const", "buildVersion", "process", "env", "const", "apiKey", "utils", "mustEnv", "const",
    "executeProgramEndpoint", "utils", "mustEnv"]

set_option maxRecDepth 4000 in
/-- Reading the header of a module leaves its words. -/
theorem reads_header : Reads {} header.toList {words := headerWords} := by
  unfold header
  simp only [-String.reduceAppend, String.toList_append]
  exact .of_eq (.literal (.literal (.literal (.literal (.literal (.literal (.literal (.literal
    (.literal (reads_literal rfl) rfl) rfl) rfl) rfl) rfl) rfl) rfl) rfl) rfl) rfl

section Modules

variable {programs : List Program}

/-- Reading functions leaves the words of each. -/
theorem reads_functions (options : Options)
    (h : ∀ program ∈ programs, program.names.function.toList ≠ []) :
    Reads {} ("\n".intercalate (programs.map fun program => render program options)).toList
      {words := programs.flatMap fun program => functionWords program.names} := by
  induction programs with
  | nil => exact fun earlier => rfl
  | cons program rest ih =>
    obtain ⟨hprogram, hrest⟩ := List.forall_mem_cons.1 h
    have hfirst := reads_render options hprogram
    cases rest with
    | nil => simpa using hfirst
    | cons other rest =>
      have hline : Reads {} "\n".toList {} := reads_of_after rfl
      have hothers := (hline.append (ih hrest)).behind (functionWords program.names)
      rw [List.map_cons, List.map_cons, String.intercalate_cons_cons, String.toList_append,
        String.toList_append, List.append_assoc, List.flatMap_cons]
      rw [List.map_cons] at hothers
      exact hfirst.append hothers

/-- A word that does not bind leaves the names behind it. -/
theorem boundNames_cons {word : String} (h : ∀ name, binds word name = false)
    (rest : List String) : boundNames (word :: rest) = boundNames rest := by
  cases rest with
  | nil => rfl
  | cons name rest => rw [boundNames, h name, if_neg Bool.false_ne_true]

/-- The header binds its names. -/
theorem boundNames_headerWords (rest : List String) :
    boundNames (headerWords ++ rest) = headerNames ++ boundNames rest := by
  cases rest with
  | nil => rfl
  | cons word rest => rfl

/-- The name of an output type binds nothing. -/
theorem binds_outputType (title name : String) :
    binds (DerivedNames.ofTitle title).outputType name = false := by
  have hsuffix := suffix_outputType title
  have hbinders : ∀ word ∈ "import" :: binders, ¬ ['u', 't'] <:+ word.toList := by decide +kernel
  have hnot : ∀ word ∈ "import" :: binders, (DerivedNames.ofTitle title).outputType ≠ word := by
    intro word hword heq
    rw [heq] at hsuffix
    exact hbinders word hword hsuffix
  rw [List.forall_mem_cons] at hnot
  have hmem : (DerivedNames.ofTitle title).outputType ∉ binders := fun hm => hnot.2 _ hm rfl
  simp [binds, hmem, hnot.1]

/-- A function binds its name. -/
theorem boundNames_functionWords (names : DerivedNames) (rest : List String) :
    boundNames (functionWords names ++ rest) =
      names.function :: boundNames (names.outputType :: rest) := rfl

/-- Functions bind their names. -/
theorem boundNames_functions (programs : List Program) :
    boundNames (programs.flatMap fun program => functionWords program.names) =
      programs.map fun program => program.names.function := by
  induction programs with
  | nil => rfl
  | cons program rest ih =>
    have hresult : ∀ name, binds program.names.outputType name = false :=
      binds_outputType program.title
    rw [List.flatMap_cons, List.map_cons, ← ih, boundNames_functionWords, boundNames_cons hresult]

/-- The functions module binds the names of its header and of its functions. -/
theorem topLevelNames?_renderModule (options : Options)
    (h : ∀ program ∈ programs, program.names.function.toList ≠ []) :
    topLevelNames? (renderModule programs options) =
      some (headerNames ++ programs.map fun program => program.names.function) := by
  have hread := reads_header.append ((reads_functions options h).behind headerWords) []
  rw [← String.toList_append] at hread
  have hafter : ModuleScan.after {} (renderModule programs options).toList =
      {words := headerWords ++ programs.flatMap fun program => functionWords program.names} := hread
  unfold topLevelNames?
  rw [hafter]
  change some (boundNames (headerWords ++ _)) = _
  rw [boundNames_headerWords, boundNames_functions]

end Modules

end ProgramConnector.Wrapper
