import ProgramConnector.Proofs.Wrapper.FunctionReading

/-!
# A module without its comments

Comments are taken out of a module character by character, each with the end of the line that it
closes on. What is left is told apart into code and the inside of quotes and templates. Taking the
comments out of a functions module leaves its header and its functions, so what is left of it does
not depend on the configuration of its programs, nor on the options.
-/

namespace ProgramConnector.Wrapper

open Naming TypeScript

/-- The position behind a character of code. -/
def Position.inCode (c : Char) : Position :=
  if c == '"' || c == '\'' then .quoted c
  else if c == '\x60' then .template
  else if c == '/' then .slash
  else .code

/-- A character that is in no comment. -/
structure Kept where
  /-- The character. -/
  char : Char
  /-- Whether it is code, and not in quotes or in a template. -/
  code : Bool
deriving DecidableEq

/-- Where comments are being taken out. -/
structure Spot where
  /-- Where the next character is read. -/
  position : Position := .code
  /-- Whether a comment ends right here. -/
  ended : Bool := false
deriving DecidableEq

namespace Spot

/-- The spot behind a character. -/
def next (spot : Spot) (c : Char) : Spot :=
  match spot.position with
  | .code => if spot.ended && c == '\n' then {} else ⟨.inCode c, false⟩
  | .comment star => ⟨Position.next (.comment star) c, star && c == '/'⟩
  | position => ⟨position.next c, false⟩

/-- What is known to stay once a character is read. A slash is held back until it is known whether
it starts a comment. -/
def kept (spot : Spot) (c : Char) : List Kept :=
  match spot.position with
  | .code =>
    if (spot.ended && c == '\n') || c == '/' then [] else [⟨c, Position.inCode c == .code⟩]
  | .slash => if c == '*' then [] else [⟨'/', false⟩, ⟨c, false⟩]
  | .comment _ => []
  | _ => [⟨c, false⟩]

/-- The spot behind a text. -/
def after (spot : Spot) (text : List Char) : Spot := text.foldl next spot

/-- The characters of a text that are in no comment. -/
def keptOf (spot : Spot) : List Char → List Kept
  | [] => []
  | c :: rest => spot.kept c ++ (spot.next c).keptOf rest

/-- What is kept of two texts. -/
theorem keptOf_append (spot : Spot) (text more : List Char) :
    spot.keptOf (text ++ more) = spot.keptOf text ++ (spot.after text).keptOf more := by
  induction text generalizing spot with
  | nil => rfl
  | cons c rest ih =>
    have hrest := ih (spot.next c)
    rw [List.cons_append, keptOf, keptOf, hrest, List.append_assoc]
    rfl

end Spot

/-- A text without its comments. -/
def withoutComments (text : String) : String :=
  String.ofList ((Spot.keptOf {} text.toList).map Kept.char)

/-- The code of what is kept. -/
def codeIn (kept : List Kept) : List Char := (kept.filter Kept.code).map Kept.char

/-- The code of two parts. -/
theorem codeIn_append (kept more : List Kept) :
    codeIn (kept ++ more) = codeIn kept ++ codeIn more := by
  rw [codeIn, List.filter_append, List.map_append]
  rfl

/-- The code of a text, without its comments, quotes and templates. -/
def codeOf (text : String) : List Char := codeIn (Spot.keptOf {} text.toList)

/-- The characters of a text, all code or none. -/
def marked (code : Bool) (text : List Char) : List Kept := text.map fun c => ⟨c, code⟩

/-- Taking comments out of a text, from one spot to another, leaves these characters. -/
structure Leaves (spot : Spot) (text : List Char) (left : List Kept) (next : Spot) : Prop where
  /-- The characters. -/
  kept : spot.keptOf text = left
  /-- The spot behind the text. -/
  after : spot.after text = next

section Leaves

variable {spot middle next : Spot} {text more : List Char} {left left' : List Kept}

/-- Taking comments out of two texts. -/
theorem Leaves.append (h : Leaves spot text left middle) (h' : Leaves middle more left' next) :
    Leaves spot (text ++ more) (left ++ left') next := by
  have hkept := Spot.keptOf_append spot text more
  rw [h.kept, h.after, h'.kept] at hkept
  have hafter : spot.after (text ++ more) = (spot.after text).after more := List.foldl_append
  rw [h.after, h'.after] at hafter
  exact ⟨hkept, hafter⟩

/-- Nothing leaves nothing. -/
theorem leaves_nil (spot : Spot) : Leaves spot [] [] spot := ⟨rfl, rfl⟩

/-- One character is read. -/
theorem leaves_singleton (spot : Spot) (c : Char) : Leaves spot [c] (spot.kept c) (spot.next c) :=
  ⟨List.append_nil _, rfl⟩

/-- Taking comments out of parts that lead back to where they started. -/
theorem leaves_flatten {parts : List (List Char)} {result : List Char → List Kept}
    (h : ∀ part ∈ parts, Leaves spot part (result part) spot) :
    Leaves spot parts.flatten (parts.flatMap result) spot := by
  induction parts with
  | nil => exact leaves_nil spot
  | cons part rest ih =>
    obtain ⟨hpart, hrest⟩ := List.forall_mem_cons.1 h
    exact hpart.append (ih hrest)

/-- Taking comments out of a text that is spelled out. -/
theorem leaves_literal {literal : String} {chars : List Char} (h : literal = String.ofList chars)
    (hkept : spot.keptOf chars = left) (hafter : spot.after chars = next) :
    Leaves spot literal.toList left next := by
  rw [h, String.toList_ofList]
  exact ⟨hkept, hafter⟩

/-- A text of code that is spelled out stays. -/
theorem leaves_codeLiteral {literal : String} {chars : List Char}
    (h : literal = String.ofList chars) (hkept : Spot.keptOf {} chars = marked true chars)
    (hafter : Spot.after {} chars = {}) :
    Leaves {} literal.toList (marked true literal.toList) {} := by
  rw [h, String.toList_ofList]
  exact ⟨hkept, hafter⟩

/-- A text of two parts is marked part by part. -/
theorem marked_append (code : Bool) (text more : List Char) :
    marked code (text ++ more) = marked code text ++ marked code more := List.map_append

/-- Two texts of code stay, and are code. -/
theorem leaves_code (h : Leaves {} text (marked true text) {})
    (h' : Leaves {} more (marked true more) {}) :
    Leaves {} (text ++ more) (marked true (text ++ more)) {} := by
  rw [marked_append]
  exact h.append h'

/-- A text of code stays with one behind it that is spelled out. -/
theorem Leaves.codeLiteral {literal : String} {chars : List Char}
    (htext : Leaves {} text (marked true text) {}) (h : literal = String.ofList chars)
    (hkept : Spot.keptOf {} chars = marked true chars) (hafter : Spot.after {} chars = {}) :
    Leaves {} (text ++ literal.toList) (marked true (text ++ literal.toList)) {} :=
  leaves_code htext (leaves_codeLiteral h hkept hafter)

/-- A text that no character separates stays, and is code. -/
theorem leaves_solid (h : IsSolid text) : Leaves {} text (marked true text) {} := by
  induction text with
  | nil => exact leaves_nil {}
  | cons c rest ih =>
    obtain ⟨hc, hrest⟩ := List.forall_mem_cons.1 h
    have hne {d : Char} (hd : separates d = true) : (c == d) = false := by
      rw [beq_eq_false_iff_ne]
      rintro rfl
      exact absurd (hc.symm.trans hd) Bool.false_ne_true
    have hquote : (c == '"') = false := hne (by decide)
    have happostrophe : (c == '\'') = false := hne (by decide)
    have hbacktick : (c == '\x60') = false := hne (by decide)
    have hslash : (c == '/') = false := hne (by decide)
    have hcode : Position.inCode c = .code := by
      simp [Position.inCode, hquote, happostrophe, hbacktick, hslash]
    have hkept : Spot.kept {} c = [⟨c, true⟩] := by simp [Spot.kept, hslash, hcode]
    have hnext : Spot.next {} c = {} := by simp [Spot.next, hcode]
    have hfirst := leaves_singleton {} c
    rw [hkept, hnext] at hfirst
    exact hfirst.append (ih hrest)

end Leaves

/-! ## The comment of a function -/

section Comments

/-- A comment stays open in a text that does not end it, and nothing is kept. -/
theorem exists_leaves_comment {text : List Char} (h : ¬ EndsComment text) (star : Bool)
    (hstar : star = true → text.head? ≠ some '/') : ∃ star',
      Leaves ⟨.comment star, false⟩ text [] ⟨.comment star', false⟩ := by
  induction text generalizing star with
  | nil => exact ⟨star, leaves_nil _⟩
  | cons c rest ih =>
    rw [endsComment_cons_iff, not_or, not_and] at h
    have hopen : (star && c == '/') = false := by
      cases star with
      | false => rfl
      | true => simpa using hstar rfl
    have hnext : Spot.next ⟨.comment star, false⟩ c = ⟨.comment (c == '*'), false⟩ := by
      simp [Spot.next, Position.next, hopen]
    have hfirst := leaves_singleton ⟨.comment star, false⟩ c
    rw [hnext] at hfirst
    obtain ⟨star', hrest⟩ := ih h.2 (c == '*') fun hc => h.1 (beq_iff_eq.1 hc)
    exact ⟨star', hfirst.append hrest⟩

/-- A comment stays open in a line that does not end it. -/
theorem leaves_commentLine {line : List Char} (h : ¬ EndsComment line) :
    Leaves ⟨.comment false, false⟩ (commentLine "" line).toList [] ⟨.comment false, false⟩ := by
  unfold commentLine
  rw [String.empty_append, String.empty_append]
  split
  · exact leaves_literal rfl rfl rfl
  · obtain ⟨star, hline⟩ : ∃ star,
        Leaves ⟨.comment false, false⟩ line [] ⟨.comment star, false⟩ :=
      exists_leaves_comment h false fun hstar => nomatch hstar
    have hmargin : Leaves ⟨.comment false, false⟩ " * ".toList []
        ⟨.comment false, false⟩ := leaves_literal rfl rfl rfl
    have hfeed : Leaves ⟨.comment star, false⟩ "\n".toList [] ⟨.comment false, false⟩ := by
      cases star <;> exact leaves_literal rfl rfl rfl
    have hchars : (String.ofList line).toList = line := String.toList_ofList
    rw [String.toList_append, String.toList_append, hchars]
    exact (hmargin.append hline).append hfeed

/-- Nothing is kept of the comment of a function. -/
theorem leaves_docBlock (program : Program) (options : Options) :
    Leaves {} (docBlock program options).toList [] {} := by
  unfold docBlock
  dsimp only
  split
  · exact leaves_nil {}
  · unfold commentBlock
    simp only [String.toList_append, String.toList_join, List.flatMap_def]
    have hopen : Leaves {} "/**\n".toList [] ⟨.comment false, false⟩ := leaves_literal rfl rfl rfl
    have hclose : Leaves ⟨.comment false, false⟩ " */\n".toList [] {} := leaves_literal rfl rfl rfl
    have hlines : Leaves ⟨.comment false, false⟩
        ((((docLines program options).map (commentLine "")).map String.toList).flatten)
        ((((docLines program options).map (commentLine "")).map String.toList).flatMap
          fun _ => []) ⟨.comment false, false⟩ := by
      refine leaves_flatten fun part hp => ?_
      obtain ⟨text, htext, rfl⟩ := List.mem_map.1 hp
      obtain ⟨line, hline, rfl⟩ := List.mem_map.1 htext
      exact leaves_commentLine (not_endsComment_of_mem_docLines hline)
    rw [List.flatMap_eq_nil_iff.2 fun _ _ => rfl] at hlines
    have hnone : Leaves ⟨.comment false, false⟩ "".toList [] ⟨.comment false, false⟩ :=
      leaves_nil _
    exact ((hopen.append hlines).append hnone).append hclose

end Comments

/-! ## The text of a function -/

/-- A template goes on behind escaped code, which is kept. -/
theorem leaves_escapeCode (code : String) :
    Leaves ⟨.template, false⟩ (escapeCode code).toList (marked false (escapeCode code).toList)
      ⟨.template, false⟩ := by
  rw [escapeCode, String.toList_ofList, List.flatMap_def]
  have hparts : Leaves ⟨.template, false⟩ (code.toList.map escapedCodeChar).flatten
      ((code.toList.map escapedCodeChar).flatMap (marked false)) ⟨.template, false⟩ := by
    refine leaves_flatten fun part hp => ?_
    obtain ⟨c, -, rfl⟩ := List.mem_map.1 hp
    unfold escapedCodeChar
    split
    · exact ⟨rfl, rfl⟩
    · rename_i hplain
      simp only [Bool.or_eq_true, beq_iff_eq, not_or] at hplain
      have hnext : Spot.next ⟨.template, false⟩ c = ⟨.template, false⟩ := by
        simp [Spot.next, Position.next, Position.inTemplate, hplain]
      have hfirst := leaves_singleton ⟨.template, false⟩ c
      rw [hnext] at hfirst
      exact hfirst
  unfold marked at hparts ⊢
  rw [List.map_flatten, ← List.flatMap_def]
  exact hparts

/-- What stands between the output type of a function and its template. -/
def constantText : String := ">> \x7b\n" ++ "  const code = "

/-- What stands between the template of a function and the input type of its request. -/
def bodyText : String :=
  ";\n" ++ "  const body = utils.prepareExecuteProgramBody(\n" ++ "    headers,\n" ++
    "    input,\n" ++ "    code,\n" ++ "    buildVersion\n" ++ "  );\n" ++
    "  const response = await utils.makeExecuteProgramRequest<\n" ++ "    types."

/-- What stands in front of the template of a function. -/
def signatureText (names : DerivedNames) : String :=
  "export async function " ++ (names.function ++ parameterText) ++
    (names.inputType ++ resultText) ++ (names.outputType ++ constantText)

/-- What stands behind the template of a function. -/
def callText (names : DerivedNames) : String :=
  bodyText ++ (names.inputType ++ separatorText) ++ (names.outputType ++ closingText)

/-- The template of a function. -/
def templateText (code : String) : String := "\x60" ++ escapeCode code ++ "\x60"

/-- A function is its template between two texts of code. -/
theorem functionText_eq_template (names : DerivedNames) (code : String) :
    functionText names code = signatureText names ++ templateText code ++ callText names := by
  have hopening : openingText = constantText ++ "\x60" := by rfl
  have hrequest : requestText = "\x60" ++ bodyText := by rfl
  rw [functionText_eq, hopening, hrequest]
  unfold signatureText callText templateText
  simp only [String.append_assoc]

/-- What is kept of a function: its template, and the code around it. -/
def keptOfFunction (names : DerivedNames) (code : String) : List Kept :=
  marked true (signatureText names).toList ++ marked false (templateText code).toList ++
    marked true (callText names).toList

section Functions

variable {names : DerivedNames} {text : List Char}

/-- A name and a text of code behind it stay, and are code. -/
theorem leaves_name {name : String} (h : IsSolid name.toList)
    (htext : Leaves {} text (marked true text) {}) :
    Leaves {} (name.toList ++ text) (marked true (name.toList ++ text)) {} :=
  leaves_code (leaves_solid h) htext

/-- The text of the parameters stays. -/
theorem leaves_parameterText :
    Leaves {} parameterText.toList (marked true parameterText.toList) {} := by
  unfold parameterText
  simp only [-String.reduceAppend, String.toList_append]
  exact ((leaves_codeLiteral rfl rfl rfl).codeLiteral rfl rfl rfl).codeLiteral rfl rfl rfl

/-- The text between the types of a function stays. -/
theorem leaves_resultText : Leaves {} resultText.toList (marked true resultText.toList) {} := by
  unfold resultText
  simp only [-String.reduceAppend, String.toList_append]
  exact (leaves_codeLiteral rfl rfl rfl).codeLiteral rfl rfl rfl

/-- The text in front of the template itself stays. -/
theorem leaves_constantText :
    Leaves {} constantText.toList (marked true constantText.toList) {} := by
  unfold constantText
  simp only [-String.reduceAppend, String.toList_append]
  exact (leaves_codeLiteral rfl rfl rfl).codeLiteral rfl rfl rfl

set_option maxRecDepth 2000 in
/-- The text of the request stays. -/
theorem leaves_bodyText : Leaves {} bodyText.toList (marked true bodyText.toList) {} := by
  unfold bodyText
  simp only [-String.reduceAppend, String.toList_append]
  exact leaves_codeLiteral rfl rfl rfl
    |>.codeLiteral rfl rfl rfl |>.codeLiteral rfl rfl rfl |>.codeLiteral rfl rfl rfl
    |>.codeLiteral rfl rfl rfl |>.codeLiteral rfl rfl rfl |>.codeLiteral rfl rfl rfl
    |>.codeLiteral rfl rfl rfl |>.codeLiteral rfl rfl rfl

/-- The text between the types of the request stays. -/
theorem leaves_separatorText :
    Leaves {} separatorText.toList (marked true separatorText.toList) {} := by
  unfold separatorText
  simp only [-String.reduceAppend, String.toList_append]
  exact (leaves_codeLiteral rfl rfl rfl).codeLiteral rfl rfl rfl

set_option maxRecDepth 2000 in
/-- The text at the end of a function stays. -/
theorem leaves_closingText : Leaves {} closingText.toList (marked true closingText.toList) {} := by
  unfold closingText
  simp only [-String.reduceAppend, String.toList_append]
  exact leaves_codeLiteral rfl rfl rfl
    |>.codeLiteral rfl rfl rfl |>.codeLiteral rfl rfl rfl |>.codeLiteral rfl rfl rfl

/-- The text in front of the template stays, and is code. -/
theorem leaves_signatureText (hfunction : IsSolid names.function.toList)
    (hinput : IsSolid names.inputType.toList) (houtput : IsSolid names.outputType.toList) :
    Leaves {} (signatureText names).toList (marked true (signatureText names).toList) {} := by
  have hopen : Leaves {} "export async function ".toList
      (marked true "export async function ".toList) {} := leaves_codeLiteral rfl rfl rfl
  unfold signatureText
  simp only [String.toList_append]
  exact leaves_code (leaves_code (leaves_code hopen (leaves_name hfunction leaves_parameterText))
    (leaves_name hinput leaves_resultText)) (leaves_name houtput leaves_constantText)

/-- The text behind the template stays, and is code. -/
theorem leaves_callText (hinput : IsSolid names.inputType.toList)
    (houtput : IsSolid names.outputType.toList) :
    Leaves {} (callText names).toList (marked true (callText names).toList) {} := by
  unfold callText
  simp only [String.toList_append]
  exact leaves_code (leaves_code leaves_bodyText (leaves_name hinput leaves_separatorText))
    (leaves_name houtput leaves_closingText)

/-- The template of a function stays, and is no code. -/
theorem leaves_templateText (code : String) :
    Leaves {} (templateText code).toList (marked false (templateText code).toList) {} := by
  have hopen : Leaves {} "\x60".toList (marked false "\x60".toList) ⟨.template, false⟩ :=
    leaves_literal rfl rfl rfl
  have hclose : Leaves ⟨.template, false⟩ "\x60".toList (marked false "\x60".toList) {} :=
    leaves_literal rfl rfl rfl
  unfold templateText
  rw [String.toList_append, String.toList_append, marked_append, marked_append]
  exact (hopen.append (leaves_escapeCode code)).append hclose

/-- A function stays as it is but for its comment. -/
theorem leaves_render (program : Program) (options : Options) :
    Leaves {} (render program options).toList (keptOfFunction program.names program.code) {} := by
  have hfunction : IsSolid program.names.function.toList := isSolid_functionName program.title
  have hinput : IsSolid program.names.inputType.toList := isSolid_pascalCase _
  have houtput : IsSolid program.names.outputType.toList := isSolid_pascalCase _
  have htext := ((leaves_signatureText hfunction hinput houtput).append
    (leaves_templateText program.code)).append (leaves_callText hinput houtput)
  have hrender := (leaves_docBlock program options).append htext
  rw [List.nil_append] at hrender
  rw [render, functionText_eq_template, String.toList_append, String.toList_append,
    String.toList_append, keptOfFunction]
  exact hrender

/-- The characters that are kept of a function are its text. -/
theorem map_char_keptOfFunction (names : DerivedNames) (code : String) :
    (keptOfFunction names code).map Kept.char = (functionText names code).toList := by
  have hmarked (code : Bool) (text : List Char) : (marked code text).map Kept.char = text := by
    unfold marked
    rw [List.map_map]
    exact List.map_id text
  rw [functionText_eq_template, keptOfFunction, List.map_append, List.map_append, hmarked, hmarked,
    hmarked, String.toList_append, String.toList_append]

/-- The code that is kept of a function is what stands around its template. -/
theorem codeIn_keptOfFunction (names : DerivedNames) (code : String) :
    codeIn (keptOfFunction names code) =
      (signatureText names).toList ++ (callText names).toList := by
  have hcode (text : List Char) : codeIn (marked true text) = text := by
    unfold codeIn marked
    induction text with
    | nil => rfl
    | cons c rest ih => simpa using ih
  have hnone (text : List Char) : codeIn (marked false text) = [] := by
    have hfilter : (marked false text).filter Kept.code = [] := by
      refine List.filter_eq_nil_iff.2 fun kept hkept => ?_
      obtain ⟨c, -, rfl⟩ := List.mem_map.1 hkept
      exact Bool.false_ne_true
    rw [codeIn, hfilter]
    rfl
  rw [keptOfFunction, codeIn_append, codeIn_append, hcode, hnone, hcode, List.append_nil]

end Functions

/-! ## Modules -/

/-- A text that has no comment, and ends in code. -/
structure Stays (text : List Char) : Prop where
  /-- All characters are kept. -/
  chars : (Spot.keptOf {} text).map Kept.char = text
  /-- The end is code. -/
  after : Spot.after {} text = {}

/-- Two texts without comments. -/
theorem Stays.append {text more : List Char} (h : Stays text) (h' : Stays more) :
    Stays (text ++ more) := by
  have hleaves : Leaves {} text (Spot.keptOf {} text) {} := ⟨rfl, h.after⟩
  have hmore : Leaves {} more (Spot.keptOf {} more) {} := ⟨rfl, h'.after⟩
  have hboth := hleaves.append hmore
  refine ⟨?_, hboth.after⟩
  rw [hboth.kept, List.map_append, h.chars, h'.chars]

/-- A text without comments that is spelled out. -/
theorem stays_literal {literal : String} {chars : List Char} (h : literal = String.ofList chars)
    (hchars : (Spot.keptOf {} chars).map Kept.char = chars) (hafter : Spot.after {} chars = {}) :
    Stays literal.toList := by
  rw [h, String.toList_ofList]
  exact ⟨hchars, hafter⟩

/-- A text without comments with one behind it that is spelled out. -/
theorem Stays.literal {text : List Char} {literal : String} {chars : List Char} (htext : Stays text)
    (h : literal = String.ofList chars) (hchars : (Spot.keptOf {} chars).map Kept.char = chars)
    (hafter : Spot.after {} chars = {}) : Stays (text ++ literal.toList) :=
  htext.append (stays_literal h hchars hafter)

set_option maxRecDepth 2000 in
/-- There is no comment in the header of a module. -/
theorem stays_header : Stays header.toList := by
  unfold header
  simp only [-String.reduceAppend, String.toList_append]
  exact stays_literal rfl rfl rfl
    |>.literal rfl rfl rfl |>.literal rfl rfl rfl |>.literal rfl rfl rfl
    |>.literal rfl rfl rfl |>.literal rfl rfl rfl |>.literal rfl rfl rfl
    |>.literal rfl rfl rfl |>.literal rfl rfl rfl |>.literal rfl rfl rfl

/-- What is kept of a functions module. -/
def keptOfModule (programs : List Program) : List Kept :=
  Spot.keptOf {} header.toList ++ List.intercalate [⟨'\n', true⟩]
    (programs.map fun program => keptOfFunction program.names program.code)

/-- What is kept of functions is kept of each. -/
theorem leaves_functions (programs : List Program) (options : Options) :
    Leaves {} ("\n".intercalate (programs.map fun program => render program options)).toList
      (List.intercalate [⟨'\n', true⟩]
        (programs.map fun program => keptOfFunction program.names program.code)) {} := by
  induction programs with
  | nil => exact leaves_nil {}
  | cons program rest ih =>
    have hfirst := leaves_render program options
    cases rest with
    | nil => simpa using hfirst
    | cons other rest =>
      have hline : Leaves {} "\n".toList [⟨'\n', true⟩] {} := leaves_literal rfl rfl rfl
      have hboth := (hfirst.append hline).append ih
      rw [List.map_cons, List.map_cons, String.intercalate_cons_cons, String.toList_append,
        String.toList_append, List.map_cons, List.map_cons, List.intercalate_cons_cons]
      rw [List.map_cons, List.map_cons] at hboth
      exact hboth

/-- What is kept of a module depends on the names and the code of its programs alone. -/
theorem keptOf_renderModule (programs : List Program) (options : Options) :
    Spot.keptOf {} (renderModule programs options).toList = keptOfModule programs := by
  have hheader : Leaves {} header.toList (Spot.keptOf {} header.toList) {} :=
    ⟨rfl, stays_header.after⟩
  have hmodule := hheader.append (leaves_functions programs options)
  rw [renderModule, String.toList_append]
  exact hmodule.kept

/-- A functions module without its comments is its header and its functions without theirs. -/
theorem withoutComments_renderModule (programs : List Program) (options : Options) :
    withoutComments (renderModule programs options) =
      header ++ "\n".intercalate
        (programs.map fun program => functionText program.names program.code) := by
  have hfunctions : (List.intercalate [(⟨'\n', true⟩ : Kept)]
      (programs.map fun program => keptOfFunction program.names program.code)).map Kept.char =
      ("\n".intercalate
        (programs.map fun program => functionText program.names program.code)).toList := by
    induction programs with
    | nil => rfl
    | cons program rest ih =>
      have hfirst := map_char_keptOfFunction program.names program.code
      cases rest with
      | nil => simp [hfirst]
      | cons other rest =>
        rw [List.map_cons, List.map_cons, List.intercalate_cons_cons, List.map_cons, List.map_cons,
          String.intercalate_cons_cons, String.toList_append, String.toList_append,
          List.map_append, List.map_append, hfirst]
        rw [List.map_cons, List.map_cons] at ih
        rw [ih]
        rfl
  rw [withoutComments, keptOf_renderModule, keptOfModule, List.map_append, stays_header.chars,
    hfunctions, ← String.toList_append, String.ofList_toList]

end ProgramConnector.Wrapper
