import ProgramConnector.Proofs.Naming.IdentifierChars
import ProgramConnector.Proofs.TypeScript.TypeTree

/-!
# Texts put together

What holds of nothing, and of two texts together when it holds of each, holds of a text that is put
together from parts when it holds of the parts. The texts of types are put together in a few ways:
lists with separators, levels of indentation, literals, property names, member lines, and what stands
in brackets.
-/

namespace ProgramConnector.TypeScript

/-- What holds of nothing and goes over from two texts to both together. -/
structure IsAdditive (P : List Char → Prop) : Prop where
  /-- It holds of nothing. -/
  nil : P []
  /-- It holds of two texts together. -/
  append : ∀ {text more : List Char}, P text → P more → P (text ++ more)

/-- What holds of every character is additive. -/
theorem isAdditive_forall_mem (p : Char → Prop) :
    IsAdditive fun text => ∀ c ∈ text, p c where
  nil := fun _ hc => absurd hc List.not_mem_nil
  append := fun h h' c hc => (List.mem_append.1 hc).elim (h c) (h' c)

section Parts

variable {P : List Char → Prop}

/-- Texts that are put together. -/
theorem IsAdditive.join (hP : IsAdditive P) {parts : List String}
    (h : ∀ part ∈ parts, P part.toList) : P (String.join parts).toList := by
  induction parts with
  | nil => exact hP.nil
  | cons part rest ih =>
    obtain ⟨hpart, hrest⟩ := List.forall_mem_cons.1 h
    rw [String.join_cons, String.toList_append]
    exact hP.append hpart (ih hrest)

/-- Texts with a separator between them. -/
theorem IsAdditive.intercalate (hP : IsAdditive P) {separator : String} {parts : List String}
    (hs : P separator.toList) (h : ∀ part ∈ parts, P part.toList) :
    P (separator.intercalate parts).toList := by
  induction parts with
  | nil => exact hP.nil
  | cons part rest ih =>
    obtain ⟨hpart, hrest⟩ := List.forall_mem_cons.1 h
    cases rest with
    | nil =>
      rw [String.intercalate_singleton]
      exact hpart
    | cons other rest =>
      rw [String.intercalate_cons_cons, String.toList_append, String.toList_append]
      exact hP.append (hP.append hpart hs) (ih hrest)

/-- Indentation at any level. -/
theorem IsAdditive.pad (hP : IsAdditive P) {profile : Profile} (h : P profile.indent.toList)
    (level : Nat) : P (profile.pad level).toList := by
  refine hP.join fun part hp => ?_
  rw [List.eq_of_mem_replicate hp]
  exact h

/-- A property name is an identifier or a printed text. -/
theorem propertyKey_of_parts (hname : ∀ text, Naming.IsPlain text → P text)
    (htext : ∀ text, P (Json.printText text)) (name : String) : P (propertyKey name).toList := by
  unfold propertyKey
  split
  · exact hname name.toList (Naming.isPlain_of_isIdentifier ‹_›)
  · have hchars : (Json.str name).toText.toList = Json.printText name.toList :=
      String.toList_ofList
    rw [hchars]
    exact htext name.toList

/-- A literal type is a word, a number, a printed text or the type of everything. -/
theorem literal_of_parts {any : String} (hany : P any.toList)
    (hname : ∀ text, Naming.IsPlain text → P text)
    (hnumber : ∀ number, P (Json.printNumber number)) (htext : ∀ text, P (Json.printText text))
    (value : Json) : P (literal any value).toList := by
  have hword : ∀ word : String, word.toList.all Naming.isIdentifierChar = true →
      P word.toList :=
    fun word h => hname word.toList (List.all_eq_true.1 h)
  cases value with
  | arr elements => exact hany
  | obj members => exact hany
  | null => exact hword "null" (by decide)
  | bool value =>
    cases value with
    | true => exact hword "true" (by decide)
    | false => exact hword "false" (by decide)
  | num number =>
    have hchars : (literal any (.num number)).toList = Json.printNumber number :=
      String.toList_ofList
    rw [hchars]
    exact hnumber number
  | str text =>
    have hchars : (literal any (.str text)).toList = Json.printText text.toList :=
      String.toList_ofList
    rw [hchars]
    exact htext text.toList

/-- A member line is its indentation, its comment, its name and its type, with marks between
them. -/
theorem MemberHead.line_of_parts (hP : IsAdditive P) {pad type : String} (head : MemberHead)
    (hcomment : ∀ text name isRequired, head = .property (some text) name isRequired →
      P (docComment text pad).toList)
    (hpad : P pad.toList) (hkey : ∀ name, P (propertyKey name).toList)
    (hsignature : P "[k: string]: ".toList) (hoptional : P "?".toList) (hcolon : P ": ".toList)
    (htype : P type.toList) (hend : P ";\n".toList) : P (head.line pad type).toList := by
  cases head with
  | further =>
    simp only [MemberHead.line, String.toList_append]
    exact hP.append (hP.append (hP.append hpad hsignature) htype) hend
  | property comment name isRequired =>
    have habove : P ((comment.map fun text => docComment text pad).getD "").toList := by
      cases comment with
      | none => exact hP.nil
      | some text => exact hcomment text name isRequired rfl
    have hmark : P (if isRequired then "" else "?").toList := by
      cases isRequired with
      | true => exact hP.nil
      | false => exact hoptional
    have hname := hP.append (hP.append (hP.append habove hpad) (hkey name)) hmark
    simp only [MemberHead.line, String.toList_append]
    exact hP.append (hP.append (hP.append hname hcolon) htype) hend

end Parts

/-! ## Brackets -/

/-- A text in parentheses. -/
theorem toList_parentheses (text : String) :
    ("(" ++ text ++ ")").toList = '(' :: (text.toList ++ [')']) := by
  rw [String.toList_append, String.toList_append]
  rfl

namespace TypeTree

/-- A tuple stands in brackets. -/
theorem toList_text_tuple (setting : Setting) (places : List TypeTree) (level : Nat) :
    ((TypeTree.tuple places).text setting level).toList =
      '[' :: ((", ".intercalate (texts setting places level)).toList ++ [']']) := by
  rw [text, String.toList_append, String.toList_append]
  rfl

/-- An object stands in braces, and what is between them is put together from a line feed, the lines
of the members and the indentation of the closing brace. -/
theorem exists_toList_text_object (setting : Setting) (members : List (MemberHead × TypeTree))
    (level : Nat) : ∃ inside : List Char,
      ((TypeTree.object members).text setting level).toList =
        '\x7b' :: (inside ++ ['\x7d']) ∧
      ∀ P, IsAdditive P → P ['\n'] → P (setting.profile.pad level).toList →
        (∀ line ∈ lineTexts setting members (level + 1), P line.toList) → P inside := by
  rw [text]
  split
  · exact ⟨[], rfl, fun P hP _ _ _ => hP.nil⟩
  · refine ⟨'\n' :: ((String.join (lineTexts setting members (level + 1))).toList ++
      (setting.profile.pad level).toList), ?_, fun P hP hfeed hpad hlines => ?_⟩
    · simp only [String.toList_append, List.cons_append, List.append_assoc]
      rfl
    · exact hP.append hfeed (hP.append (hP.join hlines) hpad)

end TypeTree

end ProgramConnector.TypeScript
