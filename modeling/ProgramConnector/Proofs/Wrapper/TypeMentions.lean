import ProgramConnector.Proofs.Wrapper.CommentRemoval

/-!
# Types that a module mentions

A functions module imports the types module under a name of its own and mentions a type behind that
name and a dot. Only code mentions types: what stands in comments, quotes and templates does not. So
a functions module mentions the two types of each of its functions, in the signature and again in
the request, and no other type.
-/

namespace ProgramConnector.Wrapper

open Naming TypeScript

/-- Whether a character ends a word that may hold dots. -/
def breaksWord (c : Char) : Bool := separates c && c != '.'

/-- The type that a word mentions. -/
def mention? : List Char → Option String
  | 't' :: 'y' :: 'p' :: 'e' :: 's' :: '.' :: name => some (String.ofList name)
  | _ => none

/-- The types that are mentioned in code, behind a part of a word, last character first. -/
def mentionsFrom (word : List Char) : List Char → List String
  | [] => (mention? word.reverse).toList
  | c :: rest =>
    if breaksWord c then (mention? word.reverse).toList ++ mentionsFrom [] rest
    else mentionsFrom (c :: word) rest

/-- The types that a text mentions, in order. -/
def mentionedTypes (text : String) : List String := mentionsFrom [] (codeOf text)

/-- Code that mentions these types, between two parts of words. -/
def Mentions (word text : List Char) (types : List String) (next : List Char) : Prop :=
  ∀ rest, mentionsFrom word (text ++ rest) = types ++ mentionsFrom next rest

/-- The name of the types module with its dot, last character first. -/
def typesWord : List Char := "types.".toList.reverse

/-- The name of the types module, spelled out. -/
theorem typesWord_eq : typesWord = ['.', 's', 'e', 'p', 'y', 't'] := by
  have hspelled : "types.".toList = ['t', 'y', 'p', 'e', 's', '.'] := String.toList_ofList
  rw [typesWord, hspelled]
  rfl

section Mentions

variable {word middle next text more : List Char} {types types' : List String} {name : String}

/-- The types that are mentioned in two texts. -/
theorem Mentions.append (h : Mentions word text types middle)
    (h' : Mentions middle more types' next) :
    Mentions word (text ++ more) (types ++ types') next := by
  intro rest
  rw [List.append_assoc, h, h', List.append_assoc]

/-- Code that mentions no type in front of other code. -/
theorem Mentions.behind (h : Mentions [] text [] []) (h' : Mentions [] more types next) :
    Mentions [] (text ++ more) types next := by
  intro rest
  rw [List.append_assoc, h, h']
  rfl

/-- The types that are mentioned in code that is spelled out. -/
theorem mentions_literal {literal : String} {chars : List Char} (h : literal = String.ofList chars)
    (hread : ∀ rest, mentionsFrom word (chars ++ rest) = types ++ mentionsFrom next rest) :
    Mentions word literal.toList types next := by
  rw [h, String.toList_ofList]
  exact hread

/-- A word is complete in front of a character that ends it. -/
theorem mentionsFrom_of_break (hbreak : text.head?.any breaksWord = true) :
    mentionsFrom word text = (mention? word.reverse).toList ++ mentionsFrom [] text := by
  cases text with
  | nil => exact nomatch hbreak
  | cons c rest =>
    have hc : breaksWord c = true := hbreak
    have hword : mentionsFrom word (c :: rest) =
        (mention? word.reverse).toList ++ mentionsFrom [] rest := if_pos hc
    have hnone : mentionsFrom [] (c :: rest) = mentionsFrom [] rest := if_pos hc
    rw [hword, hnone]

/-- A name is part of a word. -/
theorem mentions_solid (h : IsSolid text) (word : List Char) :
    Mentions word text [] (text.reverse ++ word) := by
  induction text generalizing word with
  | nil => exact fun rest => rfl
  | cons c text ih =>
    obtain ⟨hc, hrest⟩ := List.forall_mem_cons.1 h
    have hstays : ¬ breaksWord c = true := by simp [breaksWord, hc]
    intro rest
    have hfirst : mentionsFrom word (c :: (text ++ rest)) =
        mentionsFrom (c :: word) (text ++ rest) := if_neg hstays
    rw [List.cons_append, hfirst, ih hrest (c :: word), List.reverse_cons, List.append_assoc]
    rfl

/-- A name alone mentions no type. -/
theorem mention?_of_isSolid (h : IsSolid text) : mention? text = none := by
  have hdot : separates '.' = true := by decide
  unfold mention?
  split
  · have hin : separates '.' = false := h '.' (by simp)
    exact absurd (hin.symm.trans hdot) Bool.false_ne_true
  · rfl

/-- A name behind the name of the types module mentions a type. -/
theorem mention?_type (name : String) : mention? ("types.".toList ++ name.toList) = some name := by
  have hspelled : "types.".toList = ['t', 'y', 'p', 'e', 's', '.'] := String.toList_ofList
  rw [hspelled]
  exact congrArg some String.ofList_toList

/-- A name is complete in front of a text that starts with the end of a word. -/
theorem mentions_word (h : IsSolid name.toList) (hbreak : text.head?.any breaksWord = true)
    (htext : Mentions [] text [] next) (word : List Char) :
    Mentions word (name.toList ++ text) (mention? (word.reverse ++ name.toList)).toList next := by
  intro rest
  have hstart : (text ++ rest).head?.any breaksWord = true := by
    cases text with
    | nil => exact nomatch hbreak
    | cons c text => exact hbreak
  have hcomplete : (name.toList.reverse ++ word).reverse = word.reverse ++ name.toList := by
    rw [List.reverse_append, List.reverse_reverse]
  rw [List.append_assoc, mentions_solid h word, mentionsFrom_of_break hstart, hcomplete, htext]
  rfl

/-- A name that stands alone mentions no type. -/
theorem mentions_name (h : IsSolid name.toList) (hbreak : text.head?.any breaksWord = true)
    (htext : Mentions [] text [] next) : Mentions [] (name.toList ++ text) [] next := by
  have hword := mentions_word h hbreak htext []
  rw [List.reverse_nil, List.nil_append, mention?_of_isSolid h] at hword
  exact hword

/-- A name behind the name of the types module and in front of a text mentions a type. -/
theorem mentions_type (h : IsSolid name.toList) (hbreak : text.head?.any breaksWord = true)
    (htext : Mentions [] text [] next) : Mentions typesWord (name.toList ++ text) [name] next := by
  have hword := mentions_word h hbreak htext typesWord
  rw [typesWord, List.reverse_reverse, mention?_type] at hword
  exact hword

end Mentions

/-! ## Functions -/

section Functions

variable {names : DerivedNames}

/-- The text of the parameters leads to a type. -/
theorem mentions_parameterText : Mentions [] parameterText.toList [] typesWord := by
  rw [typesWord_eq]
  unfold parameterText
  simp only [-String.reduceAppend, String.toList_append]
  exact .behind (.behind (mentions_literal rfl fun _ => rfl) (mentions_literal rfl fun _ => rfl))
    (mentions_literal rfl fun _ => rfl)

/-- The text between the types of a function leads from one to the other. -/
theorem mentions_resultText : Mentions [] resultText.toList [] typesWord := by
  rw [typesWord_eq]
  unfold resultText
  simp only [-String.reduceAppend, String.toList_append]
  exact .behind (mentions_literal rfl fun _ => rfl) (mentions_literal rfl fun _ => rfl)

/-- The text in front of the template mentions no type. -/
theorem mentions_constantText : Mentions [] constantText.toList [] [] := by
  unfold constantText
  simp only [-String.reduceAppend, String.toList_append]
  exact .behind (mentions_literal rfl fun _ => rfl) (mentions_literal rfl fun _ => rfl)

/-- The text of the request leads to a type. -/
theorem mentions_bodyText : Mentions [] bodyText.toList [] typesWord := by
  rw [typesWord_eq]
  unfold bodyText
  simp only [-String.reduceAppend, String.toList_append]
  exact .behind (.behind (.behind (.behind (.behind (.behind (.behind (.behind
    (mentions_literal rfl fun _ => rfl) (mentions_literal rfl fun _ => rfl))
    (mentions_literal rfl fun _ => rfl)) (mentions_literal rfl fun _ => rfl))
    (mentions_literal rfl fun _ => rfl)) (mentions_literal rfl fun _ => rfl))
    (mentions_literal rfl fun _ => rfl)) (mentions_literal rfl fun _ => rfl))
    (mentions_literal rfl fun _ => rfl)

/-- The text between the types of the request leads from one to the other. -/
theorem mentions_separatorText : Mentions [] separatorText.toList [] typesWord := by
  rw [typesWord_eq]
  unfold separatorText
  simp only [-String.reduceAppend, String.toList_append]
  exact .behind (mentions_literal rfl fun _ => rfl) (mentions_literal rfl fun _ => rfl)

/-- The text at the end of a function mentions no type. -/
theorem mentions_closingText : Mentions [] closingText.toList [] [] := by
  unfold closingText
  simp only [-String.reduceAppend, String.toList_append]
  exact .behind (.behind (.behind (mentions_literal rfl fun _ => rfl)
    (mentions_literal rfl fun _ => rfl)) (mentions_literal rfl fun _ => rfl))
    (mentions_literal rfl fun _ => rfl)

/-- The code of a function mentions its types in its signature, and again in its request. -/
theorem mentions_function (hfunction : IsSolid names.function.toList)
    (hinput : IsSolid names.inputType.toList) (houtput : IsSolid names.outputType.toList) :
    Mentions [] ((signatureText names).toList ++ (callText names).toList)
      [names.inputType, names.outputType, names.inputType, names.outputType] [] := by
  have hopen : Mentions [] "export async function ".toList [] [] :=
    mentions_literal rfl fun _ => rfl
  have hparameters : Mentions [] (names.function.toList ++ parameterText.toList) [] typesWord :=
    mentions_name hfunction (by decide +kernel) mentions_parameterText
  have hresult : Mentions typesWord (names.inputType.toList ++ resultText.toList)
      [names.inputType] typesWord :=
    mentions_type hinput (by decide +kernel) mentions_resultText
  have hconstant : Mentions typesWord (names.outputType.toList ++ constantText.toList)
      [names.outputType] [] :=
    mentions_type houtput (by decide +kernel) mentions_constantText
  have hseparator : Mentions typesWord (names.inputType.toList ++ separatorText.toList)
      [names.inputType] typesWord :=
    mentions_type hinput (by decide +kernel) mentions_separatorText
  have hclosing : Mentions typesWord (names.outputType.toList ++ closingText.toList)
      [names.outputType] [] :=
    mentions_type houtput (by decide +kernel) mentions_closingText
  have hsignature : Mentions [] (signatureText names).toList
      [names.inputType, names.outputType] [] := by
    unfold signatureText
    simp only [String.toList_append]
    exact ((hopen.behind hparameters).append hresult).append hconstant
  have hcall : Mentions [] (callText names).toList [names.inputType, names.outputType] [] := by
    unfold callText
    simp only [String.toList_append]
    exact (mentions_bodyText.append hseparator).append hclosing
  exact hsignature.append hcall

end Functions

/-! ## Modules -/

/-- A text that starts and ends in code, and mentions no type. -/
structure IsUnmentioning (text : List Char) : Prop where
  /-- The end is code. -/
  after : Spot.after {} text = {}
  /-- No type is mentioned. -/
  code : Mentions [] (codeIn (Spot.keptOf {} text)) [] []

/-- Two such texts. -/
theorem IsUnmentioning.append {text more : List Char} (h : IsUnmentioning text)
    (h' : IsUnmentioning more) : IsUnmentioning (text ++ more) := by
  constructor
  · have hafter : Spot.after {} (text ++ more) = (Spot.after {} text).after more :=
      List.foldl_append
    rw [hafter, h.after, h'.after]
  · rw [Spot.keptOf_append, h.after, codeIn_append]
    exact h.code.behind h'.code

/-- Such a text that is spelled out. -/
theorem isUnmentioning_literal {literal : String} {chars : List Char}
    (h : literal = String.ofList chars) (hafter : Spot.after {} chars = {})
    (hcode : ∀ rest, mentionsFrom [] (codeIn (Spot.keptOf {} chars) ++ rest) =
      mentionsFrom [] rest) : IsUnmentioning literal.toList := by
  rw [h, String.toList_ofList]
  exact ⟨hafter, hcode⟩

set_option maxRecDepth 2000 in
/-- The header of a module mentions no type. -/
theorem isUnmentioning_header : IsUnmentioning header.toList := by
  unfold header
  simp only [-String.reduceAppend, String.toList_append]
  exact .append (.append (.append (.append (.append (.append (.append (.append (.append
    (isUnmentioning_literal rfl rfl fun _ => rfl) (isUnmentioning_literal rfl rfl fun _ => rfl))
    (isUnmentioning_literal rfl rfl fun _ => rfl)) (isUnmentioning_literal rfl rfl fun _ => rfl))
    (isUnmentioning_literal rfl rfl fun _ => rfl)) (isUnmentioning_literal rfl rfl fun _ => rfl))
    (isUnmentioning_literal rfl rfl fun _ => rfl)) (isUnmentioning_literal rfl rfl fun _ => rfl))
    (isUnmentioning_literal rfl rfl fun _ => rfl)) (isUnmentioning_literal rfl rfl fun _ => rfl)

/-- The types of a program, as its function mentions them. -/
def mentionedBy (program : Program) : List String :=
  [program.names.inputType, program.names.outputType,
    program.names.inputType, program.names.outputType]

/-- What is kept of a function mentions the types of its program. -/
theorem mentions_keptOfFunction (program : Program) :
    Mentions [] (codeIn (keptOfFunction program.names program.code)) (mentionedBy program) [] := by
  rw [codeIn_keptOfFunction]
  exact mentions_function (isSolid_functionName program.title) (isSolid_pascalCase _)
    (isSolid_pascalCase _)

/-- What is kept of functions mentions the types of their programs. -/
theorem mentions_functions (programs : List Program) :
    Mentions [] (codeIn (List.intercalate [⟨'\n', true⟩]
      (programs.map fun program => keptOfFunction program.names program.code)))
      (programs.flatMap mentionedBy) [] := by
  induction programs with
  | nil => exact fun rest => rfl
  | cons program rest ih =>
    have hfirst := mentions_keptOfFunction program
    cases rest with
    | nil => simpa using hfirst
    | cons other rest =>
      have hline : Mentions [] (codeIn [⟨'\n', true⟩]) [] [] := fun rest => rfl
      rw [List.map_cons, List.map_cons, List.intercalate_cons_cons, codeIn_append, codeIn_append,
        List.append_assoc, List.flatMap_cons]
      rw [List.map_cons] at ih
      exact hfirst.append (hline.behind ih)

/-- A functions module mentions the types of its programs, in order, and no others. -/
theorem mentionedTypes_renderModule (programs : List Program) (options : Options) :
    mentionedTypes (renderModule programs options) = programs.flatMap mentionedBy := by
  have hcode : codeOf (renderModule programs options) = codeIn (keptOfModule programs) := by
    rw [codeOf, keptOf_renderModule]
  have hmodule :
      Mentions [] (codeIn (keptOfModule programs)) (programs.flatMap mentionedBy) [] := by
    rw [keptOfModule, codeIn_append]
    exact isUnmentioning_header.code.behind (mentions_functions programs)
  have hend : mentionsFrom [] (codeIn (keptOfModule programs) ++ []) =
      programs.flatMap mentionedBy ++ mentionsFrom [] [] := hmodule []
  have hnone : mentionsFrom [] [] = [] := by rfl
  rw [List.append_nil, hnone, List.append_nil] at hend
  rw [mentionedTypes, hcode, hend]

end ProgramConnector.Wrapper
