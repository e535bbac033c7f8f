import ProgramConnector.Proofs.Json.TextReading
import ProgramConnector.Proofs.Naming.IdentifierStart
import ProgramConnector.Proofs.TypeScript.CommentBlocks
import ProgramConnector.Proofs.TypeScript.TypeTree
import ProgramConnector.Proofs.Wrapper.CommentRemoval

/-!
# Reading members

The key of a member is read back as the name of its property, whatever characters the name has, so
no two properties share a key. A text of members is read without knowing what it was written for
where it is indented by white space and no type ends before its own end: comments, names, marks and
types come back as they were.
-/

namespace ProgramConnector.TypeScript

open Text Wrapper

/-! ## Keys -/

/-- The name at the start of a text: an identifier stands for itself, and all else is quoted like a
text of a document. -/
def readKey? : List Char → Option (String × List Char)
  | [] => none
  | c :: rest =>
    if c == '"' then (Json.text rest).toOption
    else if Naming.isIdentifierStart c then
      some (String.ofList (c :: rest.takeWhile Naming.isIdentifierChar),
        rest.dropWhile Naming.isIdentifierChar)
    else none

/-- What no identifier goes on with. -/
def EndsKey (rest : List Char) : Prop :=
  ∀ c, rest.head? = some c → Naming.isIdentifierChar c = false

/-- An identifier is read up to its end. -/
theorem readKey?_identifier {key rest : List Char} (h : Naming.isIdentifier key = true)
    (hrest : EndsKey rest) : readKey? (key ++ rest) = some (String.ofList key, rest) := by
  cases key with
  | nil => exact absurd h Bool.false_ne_true
  | cons c key =>
    rw [Naming.isIdentifier, Bool.and_eq_true, List.all_eq_true] at h
    have hquote : (c == '"') = false := by
      rw [beq_eq_false_iff_ne]
      rintro rfl
      exact absurd h.1 (by decide)
    have hstop : rest.takeWhile Naming.isIdentifierChar = [] ∧
        rest.dropWhile Naming.isIdentifierChar = rest := by
      cases rest with
      | nil => exact ⟨rfl, rfl⟩
      | cons d rest => simp [hrest d rfl]
    rw [List.cons_append, readKey?, if_neg (by simp [hquote]), if_pos h.1,
      List.takeWhile_append_of_pos h.2, List.dropWhile_append_of_pos h.2, hstop.1, hstop.2,
      List.append_nil]

/-- The key of a property is read as its name. -/
theorem readKey?_propertyKey (name : String) {rest : List Char} (h : EndsKey rest) :
    readKey? ((propertyKey name).toList ++ rest) = some (name, rest) := by
  unfold propertyKey
  split
  · rw [readKey?_identifier ‹_› h, String.ofList_toList]
  · obtain ⟨printed, hprinted, hread⟩ := Json.text_of_toText name rest
    rw [hprinted, List.cons_append, readKey?, if_pos (by simp), hread]
    rfl

/-- No two properties share a key. -/
theorem propertyKey_injective : Function.Injective propertyKey := by
  intro name other h
  have hnone : EndsKey [] := fun c hc => nomatch hc
  have hname := readKey?_propertyKey name hnone
  rw [h, readKey?_propertyKey other hnone] at hname
  exact (Prod.mk.inj (Option.some.inj hname)).1.symm

/-- A text that starts with a key does not start like an index signature, with white space or with
a comment. -/
theorem head?_of_readKey? {text rest : List Char} {name : String}
    (h : readKey? text = some (name, rest)) : ∃ c more, text = c :: more ∧
      c ≠ '[' ∧ c ≠ '/' ∧ isBlank c = false := by
  cases text with
  | nil => exact nomatch h
  | cons c more =>
    refine ⟨c, more, rfl, ?_⟩
    rw [readKey?] at h
    split at h
    · rename_i hquote
      rw [beq_iff_eq.1 hquote]
      decide
    split at h
    · rename_i hstart
      refine ⟨?_, ?_, Naming.isBlank_eq_false_of_isIdentifierChar
        (Naming.isIdentifierChar_of_isIdentifierStart hstart)⟩
      · rintro rfl
        exact absurd hstart (by decide)
      · rintro rfl
        exact absurd hstart (by decide)
    · exact nomatch h

/-! ## Members -/

/-- What stands behind the key of a property: its mark, its type and other members. -/
def behindKey (isRequired : Bool) (type : String) (rest : List Char) : List Char :=
  (if isRequired then [] else ['?']) ++ ':' :: ' ' :: (type.toList ++ ';' :: '\n' :: rest)

/-- The start of an index signature. -/
def signatureKey : List Char := "[k: string]".toList

/-- No property has the key of an index signature. -/
theorem propertyKey_ne_signatureKey (name : String) : (propertyKey name).toList ≠ signatureKey := by
  intro hkey
  have hnone : EndsKey [] := fun c hc => nomatch hc
  have hread := readKey?_propertyKey name hnone
  rw [hkey] at hread
  exact nomatch hread

/-- The comment above a member, if it has one. -/
def commentAbove (pad : String) (comment : Option String) : List Char :=
  ((comment.map fun text => docComment text pad).getD "").toList

/-- A text is made up of the lines of these members, with the texts of their types: the key of each
property is read as its name. -/
inductive ReadsAs (pad : String) : List Char → List (MemberHead × String) → Prop
  /-- No members. -/
  | nil : ReadsAs pad [] []
  /-- A property and other members. -/
  | property {comment : Option String} {name type : String} {isRequired : Bool}
      {key rest : List Char} {members : List (MemberHead × String)}
      (token : readKey? (key ++ behindKey isRequired type rest) =
        some (name, behindKey isRequired type rest))
      (more : ReadsAs pad rest members) :
      ReadsAs pad (commentAbove pad comment ++ (pad.toList ++ (key ++ behindKey isRequired type rest)))
        ((.property comment name isRequired, type) :: members)
  /-- An index signature and other members. -/
  | further {type : String} {rest : List Char} {members : List (MemberHead × String)}
      (more : ReadsAs pad rest members) :
      ReadsAs pad (pad.toList ++ (signatureKey ++ behindKey true type rest))
        ((.further, type) :: members)

/-- No identifier goes on behind a key. -/
theorem endsKey_behindKey (isRequired : Bool) (type : String) (rest : List Char) :
    EndsKey (behindKey isRequired type rest) := by
  intro c hc
  cases isRequired with
  | true =>
    obtain rfl : ':' = c := Option.some.inj hc
    decide
  | false =>
    obtain rfl : '?' = c := Option.some.inj hc
    decide

/-- The lines of members are made up of them. -/
theorem readsAs_lines (pad : String) (members : List (MemberHead × String)) :
    ReadsAs pad (String.join (members.map fun member => member.1.line pad member.2)).toList
      members := by
  induction members with
  | nil => exact .nil
  | cons member rest ih =>
    obtain ⟨head, type⟩ := member
    rw [List.map_cons, String.join_cons, String.toList_append]
    generalize (String.join (rest.map fun member => member.1.line pad member.2)).toList =
      text at ih
    cases head with
    | property comment name isRequired =>
      have hline : (MemberHead.line pad (.property comment name isRequired) type).toList ++ text =
          commentAbove pad comment ++ (pad.toList ++
            ((propertyKey name).toList ++ behindKey isRequired type text)) := by
        unfold MemberHead.line behindKey commentAbove
        cases isRequired <;> simp
      rw [hline]
      exact .property (readKey?_propertyKey name (endsKey_behindKey isRequired type text)) ih
    | further =>
      have hline : (MemberHead.line pad .further type).toList ++ text =
          pad.toList ++ (signatureKey ++ behindKey true type text) := by
        unfold MemberHead.line behindKey signatureKey
        simp
      rw [hline]
      exact .further ih

/-! ## Types -/

/-- Where in the text of a type a character is read. -/
structure TypeSpot where
  /-- The position in comments and quotes. -/
  position : Position := .code
  /-- How many brackets are open. -/
  depth : Nat := 0
deriving DecidableEq

namespace TypeSpot

/-- The spot behind a character, or nothing where the type ends: at a semicolon outside of brackets,
or at a bracket that closes none. -/
def next? (spot : TypeSpot) (c : Char) : Option TypeSpot :=
  match spot.position with
  | .code =>
    if c == '(' || c == '[' || c == '\x7b' then some ⟨.code, spot.depth + 1⟩
    else if c == ')' || c == ']' || c == '\x7d' then
      if spot.depth == 0 then none else some ⟨.code, spot.depth - 1⟩
    else if c == ';' && spot.depth == 0 then none
    else some ⟨.inCode c, spot.depth⟩
  | position => some ⟨position.next c, spot.depth⟩

/-- The spot behind a text, or nothing where the type ends in it. -/
def after? (spot : TypeSpot) (text : List Char) : Option TypeSpot := text.foldlM next? spot

/-- The first character is read first. -/
theorem after?_cons (spot : TypeSpot) (c : Char) (text : List Char) :
    spot.after? (c :: text) = (spot.next? c).bind fun next => next.after? text := rfl

/-- A text is read part by part. -/
theorem after?_append (spot : TypeSpot) (text more : List Char) :
    spot.after? (text ++ more) = (spot.after? text).bind fun next => next.after? more := by
  unfold after?
  rw [List.foldlM_append]
  rfl

end TypeSpot

/-- A type up to the semicolon that ends it, and what stands behind. -/
def readType? (spot : TypeSpot) : List Char → Option (List Char × List Char)
  | [] => none
  | c :: rest =>
    match spot.next? c with
    | some next => (readType? next rest).map fun read => (c :: read.1, read.2)
    | none => if c == ';' then some ([], rest) else none

/-- Reading comes out of a text as it went in, at a depth of open brackets. -/
def IsWholeAt (depth : Nat) (text : List Char) : Prop :=
  TypeSpot.after? ⟨.code, depth⟩ text = some ⟨.code, depth⟩

/-- A text in which no type ends: reading comes out of it as it went in, at every depth. -/
def IsWhole (text : List Char) : Prop := ∀ depth, IsWholeAt depth text

/-- A type is read up to the semicolon behind it. -/
theorem readType?_append {spot : TypeSpot} {text : List Char} (h : spot.after? text = some {})
    (rest : List Char) : readType? spot (text ++ ';' :: rest) = some (text, rest) := by
  induction text generalizing spot with
  | nil =>
    obtain rfl : spot = {} := Option.some.inj h
    rfl
  | cons c text ih =>
    rw [TypeSpot.after?_cons] at h
    obtain ⟨next, hnext, h⟩ := Option.bind_eq_some_iff.1 h
    rw [List.cons_append, readType?, hnext]
    dsimp only
    rw [ih h]
    rfl

/-! ## Reading a text of members -/

/-- A member as it is read. -/
structure ReadMember where
  /-- The lines of the comment above it, if it has one, as they stand behind the margin. -/
  comment : Option (List (List Char))
  /-- The name of a property; an index signature has none. -/
  name : Option String
  /-- Whether it has the mark of an optional property. -/
  isOptional : Bool
  /-- The text of its type. -/
  type : List Char
deriving DecidableEq

/-- The member that is read where a member line with this head and this type is written. -/
def ReadMember.ofLine : MemberHead × String → ReadMember
  | (.property comment name isRequired, type) =>
    ⟨comment.map fun text => (commentLines text).map marginText, some name, !isRequired,
      type.toList⟩
  | (.further, type) => ⟨none, none, false, type.toList⟩

/-- The name of a member, or none for an index signature. -/
def readName? (text : List Char) : Option (Option String × List Char) :=
  if signatureKey.isPrefixOf text then some (none, text.drop signatureKey.length)
  else (readKey? text).map fun read => (some read.1, read.2)

/-- The mark of an optional property and the colon. -/
def readMark? : List Char → Option (Bool × List Char)
  | ':' :: ' ' :: rest => some (false, rest)
  | '?' :: ':' :: ' ' :: rest => some (true, rest)
  | _ => none

/-- The lines of a comment behind their margin, without its closing. -/
def readComment (comment : List Char) : Option (List (List Char)) :=
  if comment.isEmpty then none else some (marginTexts comment).dropLast

/-- The first member of a text, and what stands behind its semicolon. -/
def readMember? (text : List Char) : Option (ReadMember × List Char) := do
  let start := text.dropWhile isBlank
  let comment := leadingComment start
  let (name, marked) ← readName? ((start.drop comment.length).dropWhile isBlank)
  let (isOptional, typed) ← readMark? marked
  let (type, rest) ← readType? {} typed
  return (⟨readComment comment, name, isOptional, type⟩, rest)

/-- The members of a text, if it has nothing else. -/
def readMembers? (text : List Char) : Option (List ReadMember) :=
  if text.all isBlank then some []
  else
    match readMember? text with
    | none => none
    | some (member, rest) =>
      if rest.length < text.length then (readMembers? rest).map fun members => member :: members
      else none
termination_by text.length

/-- A text that starts with neither a comment nor white space. -/
def StartsMember (text : List Char) : Prop :=
  ∃ c more, text = c :: more ∧ c ≠ '/' ∧ isBlank c = false

section Reading

variable {pad : String} {front text : List Char} {members : List (MemberHead × String)}

/-- The mark of a property and its colon are read. -/
theorem readMark?_behindKey (isRequired : Bool) (type : String) (rest : List Char) :
    readMark? (behindKey isRequired type rest) =
      some (!isRequired, type.toList ++ ';' :: '\n' :: rest) := by
  cases isRequired <;> rfl

/-- Other members come behind the mark and the type of a property. -/
theorem length_lt_behindKey (isRequired : Bool) (type : String) (rest : List Char) :
    rest.length + 1 < (behindKey isRequired type rest).length := by
  unfold behindKey
  simp only [List.length_append, List.length_cons]
  omega

/-- A key is read as the name of a property, and no index signature is. -/
theorem readName?_of_readKey? {name : String} {rest : List Char}
    (h : readKey? text = some (name, rest)) : readName? text = some (some name, rest) := by
  obtain ⟨c, more, rfl, hc, -⟩ := head?_of_readKey? h
  unfold readName?
  rw [if_neg, h]
  · rfl
  · unfold signatureKey
    simpa using fun heq => absurd heq.symm hc

/-- An index signature has no name. -/
theorem readName?_signatureKey (rest : List Char) :
    readName? (signatureKey ++ rest) = some (none, rest) := by
  unfold readName?
  rw [if_pos (by simp), List.drop_left]

/-- A key starts a member. -/
theorem startsMember_of_readKey? {name : String} {rest : List Char}
    (h : readKey? text = some (name, rest)) : StartsMember text := by
  obtain ⟨c, more, rfl, -, hslash, hblank⟩ := head?_of_readKey? h
  exact ⟨c, more, rfl, hslash, hblank⟩

/-- White space in front of a member is dropped. -/
theorem StartsMember.dropWhile_isBlank (h : StartsMember text) (hfront : IsBlankText front) :
    (front ++ text).dropWhile isBlank = text := by
  obtain ⟨c, more, rfl, -, hblank⟩ := h
  rw [List.dropWhile_append_of_pos hfront, List.dropWhile_cons_of_neg (by simp [hblank])]

/-- A text that ends with a member is not white space. -/
theorem StartsMember.not_isBlankText (h : StartsMember text) {whole : List Char}
    (hwhole : text <:+ whole) : ¬IsBlankText whole := by
  obtain ⟨c, more, rfl, -, hblank⟩ := h
  intro hall
  have hc := hall c (hwhole.subset List.mem_cons_self)
  rw [hblank] at hc
  exact Bool.false_ne_true hc

/-- A member starts with no comment where none is above it. -/
theorem StartsMember.leadingComment_eq_nil (h : StartsMember text) : leadingComment text = [] := by
  obtain ⟨c, more, rfl, hslash, -⟩ := h
  unfold leadingComment
  rw [if_neg]
  simpa using fun heq => absurd heq.symm hslash

/-- The comment above a member is read, and the member is what is left without the white space
around it. -/
theorem readComment_commentAbove (hfront : IsBlankText front) (hpad : IsBlankText pad.toList)
    (comment : Option String) (htext : StartsMember text) : ∃ start,
      (front ++ (commentAbove pad comment ++ (pad.toList ++ text))).dropWhile isBlank = start ∧
      readComment (leadingComment start) =
        comment.map (fun text => (commentLines text).map marginText) ∧
      (start.drop (leadingComment start).length).dropWhile isBlank = text := by
  have hblank : IsBlankText (front ++ pad.toList) := hfront.append hpad
  cases comment with
  | none =>
    refine ⟨text, ?_, ?_, ?_⟩
    · have hstart := htext.dropWhile_isBlank hblank
      rwa [List.append_assoc] at hstart
    · rw [htext.leadingComment_eq_nil]
      rfl
    · rw [htext.leadingComment_eq_nil]
      exact htext.dropWhile_isBlank isBlankText_nil
  | some description =>
    have hends : ∀ line ∈ commentLines description, ¬EndsComment line :=
      fun line => not_endsComment_of_mem_commentLines
    have hfeed : ∀ line ∈ commentLines description, '\n' ∉ line :=
      fun line => not_mem_of_mem_commentLines
    have hbehind : IsBlankText ('\n' :: pad.toList) := isBlankText_lineFeed.append hpad
    have hcomment := leadingComment_comment hpad.not_mem hends ('\n' :: pad.toList ++ text)
    generalize hbody : commentBody pad (commentLines description) = body at hcomment
    refine ⟨['/', '*', '*'] ++ (body ++ '*' :: '/' :: ('\n' :: pad.toList ++ text)), ?_, ?_, ?_⟩
    · have hslash : isBlank '/' = false := by decide
      unfold commentAbove docComment
      rw [Option.map_some, Option.getD_some, toList_commentBlock, hbody, List.append_assoc,
        ← List.append_assoc front, List.dropWhile_append_of_pos hblank]
      simp [hslash]
    · have hmargins := marginTexts_comment hpad hfeed
      rw [hbody] at hmargins
      unfold readComment
      rw [hcomment, if_neg (by simp), hmargins, List.dropLast_concat]
      rfl
    · have hwhole : ['/', '*', '*'] ++ (body ++ '*' :: '/' :: ('\n' :: pad.toList ++ text)) =
          (['/', '*', '*'] ++ (body ++ ['*', '/'])) ++ ('\n' :: pad.toList ++ text) := by simp
      rw [hcomment, hwhole, List.drop_left]
      exact htext.dropWhile_isBlank hbehind

/-- A member line is read as it was written. -/
theorem readMember?_line (hfront : IsBlankText front) (hpad : IsBlankText pad.toList)
    (comment : Option String) {key rest : List Char} {name : Option String} {isRequired : Bool}
    {type : String} (hstart : StartsMember (key ++ behindKey isRequired type rest))
    (hname : readName? (key ++ behindKey isRequired type rest) =
      some (name, behindKey isRequired type rest)) (htype : IsWhole type.toList) :
    readMember? (front ++ (commentAbove pad comment ++
        (pad.toList ++ (key ++ behindKey isRequired type rest)))) =
      some (⟨comment.map fun text => (commentLines text).map marginText, name, !isRequired,
        type.toList⟩, '\n' :: rest) := by
  obtain ⟨start, hread, hcomment, hleft⟩ :=
    readComment_commentAbove hfront hpad comment hstart
  unfold readMember?
  dsimp only
  rw [hread, hleft, hname]
  simp only [Option.bind_eq_bind, Option.bind_some, readMark?_behindKey,
    readType?_append (htype 0), hcomment]
  rfl

/-- A text with a member in front has the members that are read behind it. -/
theorem readMembers?_of_readMember? {member : ReadMember} {rest : List Char}
    {more : List ReadMember} (htext : ¬IsBlankText text)
    (hmember : readMember? text = some (member, rest)) (hlength : rest.length < text.length)
    (hmore : readMembers? rest = some more) : readMembers? text = some (member :: more) := by
  rw [readMembers?, if_neg, hmember]
  · dsimp only
    rw [if_pos hlength, hmore]
    rfl
  · rwa [List.all_eq_true]

/-- A text that is made up of member lines is read as these members, where it is indented by white
space and no type ends before its own end. -/
theorem ReadsAs.readMembers?_eq (h : ReadsAs pad text members) (hpad : IsBlankText pad.toList)
    (htypes : ∀ member ∈ members, IsWhole member.2.toList) (hfront : IsBlankText front) :
    readMembers? (front ++ text) = some (members.map ReadMember.ofLine) := by
  induction h generalizing front with
  | nil =>
    rw [List.append_nil, readMembers?, if_pos (List.all_eq_true.2 hfront)]
    rfl
  | @property comment name type isRequired key rest members token more ih =>
    obtain ⟨htype, hrest⟩ := List.forall_mem_cons.1 htypes
    have hstart := startsMember_of_readKey? token
    have hmember := readMember?_line hfront hpad comment hstart (readName?_of_readKey? token) htype
    refine readMembers?_of_readMember? (hstart.not_isBlankText ?_) hmember ?_ (ih hrest isBlankText_lineFeed)
    · have hline := (List.suffix_append pad.toList (key ++ behindKey isRequired type rest)).trans
        (List.suffix_append (commentAbove pad comment) _)
      exact hline.trans (List.suffix_append front _)
    · have hlength := length_lt_behindKey isRequired type rest
      simp only [List.length_append, List.length_cons]
      omega
  | @further type rest members more ih =>
    obtain ⟨htype, hrest⟩ := List.forall_mem_cons.1 htypes
    have hstart : StartsMember (signatureKey ++ behindKey true type rest) :=
      ⟨'[', _, rfl, by decide, by decide⟩
    have hmember := readMember?_line hfront hpad none hstart (readName?_signatureKey _) htype
    refine readMembers?_of_readMember? (hstart.not_isBlankText ?_) hmember ?_ (ih hrest isBlankText_lineFeed)
    · exact (List.suffix_append pad.toList _).trans (List.suffix_append front _)
    · have hlength := length_lt_behindKey true type rest
      simp only [List.length_append, List.length_cons]
      omega

end Reading

end ProgramConnector.TypeScript
