import ProgramConnector.Proofs.TypeScript.MemberReading
import ProgramConnector.Proofs.TypeScript.Scanning

/-!
# Whole types

No type that is written for a schema ends before its own end, where the types of the profile do not
and the names are whole: what stands in brackets, in quotes and in comments is passed over, and each
of them is closed.
-/

namespace ProgramConnector.TypeScript

open Text Wrapper

/-! ## Whole texts -/

/-- A text in which no type ends inside of brackets. -/
def IsInside (text : List Char) : Prop := ∀ depth, IsWholeAt (depth + 1) text

section Texts

variable {text more : List Char} {depth : Nat}

/-- Nothing is whole. -/
theorem isWholeAt_nil (depth : Nat) : IsWholeAt depth [] := rfl

/-- Two whole texts are whole. -/
theorem IsWholeAt.append (h : IsWholeAt depth text) (h' : IsWholeAt depth more) :
    IsWholeAt depth (text ++ more) := by
  unfold IsWholeAt at *
  rw [TypeSpot.after?_append, h]
  exact h'

/-- Whole texts are put together from whole ones. -/
theorem isAdditive_isWholeAt (depth : Nat) : IsAdditive (IsWholeAt depth) where
  nil := isWholeAt_nil depth
  append := IsWholeAt.append

/-- Brackets around a text in which no type ends inside. -/
theorem IsInside.bracketed (h : IsInside text) {opening closing : Char}
    (hopen : ∀ depth, TypeSpot.next? ⟨.code, depth⟩ opening = some ⟨.code, depth + 1⟩)
    (hclose : ∀ depth, TypeSpot.next? ⟨.code, depth + 1⟩ closing = some ⟨.code, depth⟩) :
    IsWhole (opening :: (text ++ [closing])) := by
  intro depth
  have ht := h depth
  unfold IsWholeAt at ht ⊢
  rw [TypeSpot.after?_cons, hopen, Option.bind_some, TypeSpot.after?_append, ht, Option.bind_some,
    TypeSpot.after?_cons, hclose]
  rfl

/-- The characters that reading a type does not pass over: brackets, what opens quotes and comments,
and the end of a type. -/
def typeMarks : List Char :=
  ['(', ')', '[', ']', '\x7b', '\x7d', '"', '\'', '\x60', '/', ';']

/-- A character that reading a type passes over. -/
def isFlat (c : Char) : Bool := c ∉ typeMarks

/-- A flat character is passed over. -/
theorem next?_of_isFlat {c : Char} (h : isFlat c = true) (depth : Nat) :
    TypeSpot.next? ⟨.code, depth⟩ c = some ⟨.code, depth⟩ := by
  simp only [isFlat, typeMarks, List.mem_cons, List.not_mem_nil, or_false, not_or,
    decide_eq_true_eq] at h
  simp [TypeSpot.next?, Position.inCode, h]

/-- A text of flat characters is whole. -/
theorem isWhole_of_flat (h : ∀ c ∈ text, isFlat c = true) : IsWhole text := by
  intro depth
  induction text with
  | nil => exact isWholeAt_nil depth
  | cons c rest ih =>
    obtain ⟨hc, hrest⟩ := List.forall_mem_cons.1 h
    unfold IsWholeAt
    rw [TypeSpot.after?_cons, next?_of_isFlat hc]
    exact ih hrest

/-- A text can be checked for flat characters. -/
theorem isWhole_of_all (h : text.all isFlat = true) : IsWhole text :=
  isWhole_of_flat (List.all_eq_true.1 h)

/-- Identifier characters are flat. -/
theorem isFlat_of_isIdentifierChar {c : Char} (h : Naming.isIdentifierChar c = true) :
    isFlat c = true := by
  have hall := Naming.of_all_range (p := fun c => !Naming.isIdentifierChar c || isFlat c)
    (by decide) h
  rw [h, Bool.not_true, Bool.false_or] at hall
  exact hall

/-- Identifiers are whole. -/
theorem isWhole_of_isPlain (h : Naming.IsPlain text) : IsWhole text :=
  isWhole_of_flat fun c hc => isFlat_of_isIdentifierChar (h c hc)

/-- White space is whole. -/
theorem IsBlankText.isWhole (h : IsBlankText text) : IsWhole text := by
  have hnone : typeMarks.all (fun mark => !isBlank mark) = true := by decide
  refine isWhole_of_flat fun c hc => ?_
  unfold isFlat
  rw [decide_eq_true_eq]
  intro hmark
  have hblank := List.all_eq_true.1 hnone c hmark
  rw [h c hc] at hblank
  exact Bool.false_ne_true hblank

/-- Numbers are whole. -/
theorem isWhole_printNumber (value : Number) : IsWhole (Json.printNumber value) := by
  have hfour : ['.', 'e', '+', '-'].all isFlat = true := by decide
  refine isWhole_of_flat fun c hc => ?_
  rcases cases_of_isNumeralChar (isNumeral_printNumber value c hc) with hplain | hmark
  · exact isFlat_of_isIdentifierChar hplain
  · exact List.all_eq_true.1 hfour c hmark

/-! ## Quotes and comments -/

/-- A character that stays inside of quotes. -/
theorem next?_quoted {c : Char} (hquote : c ≠ '"') (hslash : c ≠ '\\') (hfeed : c ≠ '\n')
    (depth : Nat) : TypeSpot.next? ⟨.quoted '"', depth⟩ c = some ⟨.quoted '"', depth⟩ := by
  simp [TypeSpot.next?, Position.next, hquote, hslash, hfeed]

/-- Reading stays inside of quotes in an escaped character. -/
theorem after?_escapedChar (c : Char) (depth : Nat) :
    TypeSpot.after? ⟨.quoted '"', depth⟩ (Json.escapedChar c) = some ⟨.quoted '"', depth⟩ := by
  have hdigit : ∀ n, TypeSpot.next? ⟨.quoted '"', depth⟩ (Json.hexDigit n) =
      some ⟨.quoted '"', depth⟩ :=
    fun n => next?_quoted (Json.hexDigit_ne (by decide) n) (Json.hexDigit_ne (by decide) n)
      (Json.hexDigit_ne (by decide) n) depth
  rcases Json.escapedChar_cases c with ⟨letter, -, -, heq⟩ | ⟨-, heq⟩ | ⟨hquote, hslash, hcode, heq⟩
  · rw [heq]
    rfl
  · have hend : TypeSpot.after? ⟨.quoted '"', depth⟩
        [Json.hexDigit (c.toNat / 16), Json.hexDigit c.toNat] = some ⟨.quoted '"', depth⟩ := by
      rw [TypeSpot.after?_cons, hdigit, Option.bind_some, TypeSpot.after?_cons, hdigit]
      rfl
    rw [heq]
    exact hend
  · have hfeed : c ≠ '\n' := by
      rintro rfl
      exact hcode (by decide)
    rw [heq, TypeSpot.after?_cons, next?_quoted hquote hslash hfeed]
    rfl

/-- A printed text is whole. -/
theorem isWhole_printText (text : List Char) : IsWhole (Json.printText text) := by
  intro depth
  have hbody : TypeSpot.after? ⟨.quoted '"', depth⟩ (text.flatMap Json.escapedChar) =
      some ⟨.quoted '"', depth⟩ := by
    induction text with
    | nil => rfl
    | cons c rest ih =>
      rw [List.flatMap_cons, TypeSpot.after?_append, after?_escapedChar, Option.bind_some, ih]
  have hopen : TypeSpot.next? ⟨.code, depth⟩ '"' = some ⟨.quoted '"', depth⟩ := rfl
  unfold IsWholeAt Json.printText
  rw [List.cons_append, TypeSpot.after?_cons, hopen, Option.bind_some, TypeSpot.after?_append,
    hbody]
  rfl

/-- A property name is whole as it is declared. -/
theorem isWhole_propertyKey (name : String) : IsWhole (propertyKey name).toList :=
  propertyKey_of_parts (fun _ h => isWhole_of_isPlain h) isWhole_printText name

/-- A literal type is whole. -/
theorem isWhole_literal {any : String} (hany : IsWhole any.toList) (value : Json) :
    IsWhole (literal any value).toList :=
  literal_of_parts hany (fun _ h => isWhole_of_isPlain h) isWhole_printNumber isWhole_printText
    value

/-- A comment is read up to the sequence that ends it. -/
theorem after?_comment {body : List Char} (h : ¬EndsComment (body ++ ['*'])) {star : Bool}
    (hstar : star = true → (body ++ ['*']).head? ≠ some '/') (depth : Nat) :
    TypeSpot.after? ⟨.comment star, depth⟩ (body ++ ['*', '/']) = some ⟨.code, depth⟩ := by
  induction body generalizing star with
  | nil => cases star <;> rfl
  | cons c body ih =>
    rw [List.cons_append, endsComment_cons_iff, not_or, not_and] at h
    have hopen : (star && c == '/') = false := by
      cases star with
      | false => rfl
      | true => simpa using hstar rfl
    have hnext : TypeSpot.next? ⟨.comment star, depth⟩ c = some ⟨.comment (c == '*'), depth⟩ := by
      simp [TypeSpot.next?, Position.next, hopen]
    rw [List.cons_append, TypeSpot.after?_cons, hnext, Option.bind_some]
    exact ih h.2 fun hc => h.1 (beq_iff_eq.1 hc)

/-- The comment of a text is whole behind white space. -/
theorem isWhole_docComment {pad : String} (hpad : IsBlankText pad.toList) (text : String) :
    IsWhole (docComment text pad).toList := by
  intro depth
  have hbody := not_endsComment_commentBody hpad.not_mem fun line (hline : line ∈
    commentLines text) => not_endsComment_of_mem_commentLines hline
  have hstar : ¬EndsComment ('*' :: commentBody pad (commentLines text) ++ ['*']) := by
    rw [List.cons_append, endsComment_cons_iff, not_or]
    exact ⟨fun hhead => absurd (Option.some.inj hhead.2) (by decide), hbody⟩
  have hread := after?_comment hstar (fun hfalse : false = true => nomatch hfalse) depth
  have hcomment : IsWholeAt depth (['/', '*', '*'] ++
      (commentBody pad (commentLines text) ++ ['*', '/'])) := hread
  have hfeed : IsWholeAt depth ['\n'] := rfl
  have htext : (docComment text pad).toList = pad.toList ++ ((['/', '*', '*'] ++
      (commentBody pad (commentLines text) ++ ['*', '/'])) ++ ['\n']) := by
    unfold docComment
    rw [toList_commentBlock]
    simp
  rw [htext]
  exact (hpad.isWhole depth).append (hcomment.append hfeed)

end Texts

/-! ## Types of schemas -/

/-- What a reader of members relies on: the types of the profile are whole, and so is the name of
the root; indentation is white space. -/
structure Setting.IsReadable (setting : Setting) : Prop where
  /-- The types of scalars, and that of everything. -/
  types : ∀ tag, IsWhole (setting.profile.scalarType tag).toList
  /-- One level of indentation. -/
  indent : IsBlankText setting.profile.indent.toList
  /-- The root. -/
  rootName : IsWhole setting.rootName.toList

section Trees

variable {setting : Setting}

/-- The type of everything is that of an unknown tag. -/
theorem Setting.IsReadable.any (h : setting.IsReadable) :
    IsWhole setting.profile.types.any.toList := h.types "any"

/-- The default types are whole, and so are names of identifier characters. -/
theorem Setting.isReadable_of_default (htypes : setting.profile.types = {})
    (hindent : IsBlankText setting.profile.indent.toList)
    (hroot : Naming.IsPlain setting.rootName.toList) : setting.IsReadable := by
  refine ⟨fun tag => ?_, hindent, isWhole_of_isPlain hroot⟩
  unfold Profile.scalarType
  rw [htypes]
  repeat' split
  all_goals exact isWhole_of_all (by decide)

/-- Indentation is white space at every level. -/
theorem Setting.IsReadable.pad (h : setting.IsReadable) (level : Nat) :
    IsBlankText (setting.profile.pad level).toList :=
  (isAdditive_forall_mem _).pad h.indent level

/-- A whole type is whole in parentheses and without. -/
theorem isWhole_parenthesized {type : String} (h : IsWhole type.toList) :
    IsWhole (parenthesized type).toList := by
  have hinside : IsInside type.toList := fun depth => h (depth + 1)
  unfold parenthesized
  split
  · rw [toList_parentheses]
    exact hinside.bracketed (fun _ => rfl) fun _ => rfl
  · exact h

/-- Whole alternatives make up a whole type, and so do parts that hold together. -/
theorem isWhole_joinParts (h : setting.IsReadable) (join : Join) {parts : List String}
    (hparts : ∀ part ∈ parts, IsWhole part.toList) :
    IsWhole (joinParts setting join.separator (distinct parts)).toList := by
  have hseparator : IsWhole join.separator.toList := by
    cases join <;> exact isWhole_of_all (by decide)
  unfold joinParts
  split
  · exact h.any
  · exact fun depth => (isAdditive_isWholeAt _).intercalate (hseparator depth) fun part hp =>
      hparts part (mem_distinct.1 hp) depth

/-- A member line ends no type inside of brackets. -/
theorem MemberHead.isInside_line {pad type : String} (head : MemberHead)
    (hpad : IsBlankText pad.toList) (htype : IsWhole type.toList) :
    IsInside (head.line pad type).toList := by
  intro depth
  exact head.line_of_parts (isAdditive_isWholeAt _)
    (fun text _ _ _ => isWhole_docComment hpad text _) (hpad.isWhole _)
    (fun name => isWhole_propertyKey name _) rfl rfl rfl (htype _) rfl

/-- Braces around member lines. -/
theorem TypeTree.isWhole_object (h : setting.IsReadable) {members : List (MemberHead × TypeTree)}
    {level : Nat}
    (hlines : ∀ line ∈ lineTexts setting members (level + 1), IsInside line.toList) :
    IsWhole ((TypeTree.object members).text setting level).toList := by
  obtain ⟨inside, htext, hinside⟩ := TypeTree.exists_toList_text_object setting members level
  have hbody : IsInside inside := fun depth => hinside _ (isAdditive_isWholeAt _) rfl
    ((h.pad level).isWhole _) fun line hl => hlines line hl depth
  rw [htext]
  exact hbody.bracketed (fun _ => rfl) fun _ => rfl

namespace TypeTree

mutual

/-- The text of a type is whole when the names in it are. -/
theorem isWhole_text (h : setting.IsReadable) (tree : TypeTree) (level : Nat)
    (hnames : ∀ name ∈ tree.names, IsWhole name.toList) :
    IsWhole (tree.text setting level).toList := by
  cases tree with
  | any => exact h.any
  | scalar tag => exact h.types tag
  | literals values =>
    cases values with
    | nil =>
      have hnever : IsWhole "never".toList := isWhole_of_all (by decide)
      exact hnever
    | cons value values =>
      have hseparator : IsWhole " | ".toList := isWhole_of_all (by decide)
      intro depth
      refine (isAdditive_isWholeAt _).intercalate (hseparator depth) fun part hp => ?_
      obtain ⟨literal, -, rfl⟩ := List.mem_map.1 (mem_distinct.1 hp)
      exact isWhole_literal h.any literal depth
  | named name => exact hnames name (List.mem_singleton.2 rfl)
  | tagged parts =>
    exact isWhole_joinParts h .alternatives (isWhole_texts h parts level hnames)
  | combined join parts =>
    refine isWhole_joinParts h join fun part hp => ?_
    obtain ⟨text, htext, rfl⟩ := List.mem_map.1 hp
    exact isWhole_parenthesized (isWhole_texts h parts level hnames text htext)
  | untypedList =>
    intro depth
    have hbrackets : IsWholeAt depth "[]".toList := rfl
    rw [text, String.toList_append]
    exact (h.any depth).append hbrackets
  | list element =>
    intro depth
    have hbrackets : IsWholeAt depth "[]".toList := rfl
    rw [text, String.toList_append]
    exact (isWhole_parenthesized (isWhole_text h element level hnames) depth).append hbrackets
  | tuple places =>
    have hinside : IsInside (", ".intercalate (texts setting places level)).toList :=
      fun depth => (isAdditive_isWholeAt _).intercalate rfl fun part hp =>
        isWhole_texts h places level hnames part hp (depth + 1)
    rw [toList_text_tuple]
    exact hinside.bracketed (fun _ => rfl) fun _ => rfl
  | object members => exact isWhole_object h (isInside_lineTexts h members (level + 1) hnames)

/-- The texts of types are whole when the names in them are. -/
theorem isWhole_texts (h : setting.IsReadable) (trees : List TypeTree) (level : Nat)
    (hnames : ∀ name ∈ namesOf trees, IsWhole name.toList) :
    ∀ text ∈ texts setting trees level, IsWhole text.toList := by
  cases trees with
  | nil => exact fun text htext => absurd htext List.not_mem_nil
  | cons tree rest =>
    refine List.forall_mem_cons.2 ⟨isWhole_text h tree level fun name hn => ?_,
      isWhole_texts h rest level fun name hn => ?_⟩
    · exact hnames name (List.mem_append_left _ hn)
    · exact hnames name (List.mem_append_right _ hn)

/-- Member lines end no type inside of brackets when the names in them are whole. -/
theorem isInside_lineTexts (h : setting.IsReadable) (members : List (MemberHead × TypeTree))
    (level : Nat) (hnames : ∀ name ∈ memberNames members, IsWhole name.toList) :
    ∀ line ∈ lineTexts setting members level, IsInside line.toList := by
  cases members with
  | nil => exact fun line hline => absurd hline List.not_mem_nil
  | cons member rest =>
    obtain ⟨head, tree⟩ := member
    refine List.forall_mem_cons.2 ⟨head.isInside_line (h.pad level)
      (isWhole_text h tree level fun name hn => ?_), isInside_lineTexts h rest level
        fun name hn => ?_⟩
    · exact hnames name (List.mem_append_left _ hn)
    · exact hnames name (List.mem_append_right _ hn)

end

end TypeTree

end Trees

end ProgramConnector.TypeScript
