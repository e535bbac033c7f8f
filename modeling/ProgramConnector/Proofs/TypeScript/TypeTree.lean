import Mathlib.Data.List.Forall2
import ProgramConnector.TypeScript.Compiler

/-!
# Type expressions as trees

The parts of a generated type before they are text, and the text that is written for them. A schema
is read as a tree in a finished block without compiling anything: a titled schema stands by the name
that it has in the block, a reference by the name of its target, and all else where it stands.
-/

namespace ProgramConnector.TypeScript

/-- What a member line says in front of its type. -/
inductive MemberHead where
  /-- A property, with the text of the comment above it. -/
  | property (comment : Option String) (name : String) (isRequired : Bool)
  /-- The index signature of further properties. -/
  | further
deriving DecidableEq

/-- A member line with the text of its type. -/
def MemberHead.line (pad : String) (head : MemberHead) (type : String) : String :=
  match head with
  | .property comment name isRequired =>
    (comment.map fun text => docComment text pad).getD "" ++ pad ++ propertyKey name
      ++ (if isRequired then "" else "?") ++ ": " ++ type ++ ";\n"
  | .further => pad ++ "[k: string]: " ++ type ++ ";\n"

/-- How the parts of a combination hold together. -/
inductive Join where
  /-- One of the parts holds. -/
  | alternatives
  /-- All parts hold. -/
  | together
deriving DecidableEq

/-- What stands between the parts of a combination. -/
def Join.separator : Join → String
  | .alternatives => " | "
  | .together => " & "

/-- A type expression. Parts are kept as they are met; repetitions are left out in the text. -/
inductive TypeTree where
  /-- The type of everything. -/
  | any
  /-- The type of a scalar tag. -/
  | scalar (tag : String)
  /-- The literal types of values; of no values it is the type of nothing. -/
  | literals (values : List Json)
  /-- A declared type. -/
  | named (name : String)
  /-- Alternatives by tags. -/
  | tagged (parts : List TypeTree)
  /-- Alternatives, or parts that hold together. -/
  | combined (join : Join) (parts : List TypeTree)
  /-- A list of anything. -/
  | untypedList
  /-- A list of one type. -/
  | list (element : TypeTree)
  /-- A list with one type per place. -/
  | tuple (places : List TypeTree)
  /-- An object where it stands. -/
  | object (members : List (MemberHead × TypeTree))

/-- The body of a declaration. -/
inductive BodyTree where
  /-- An interface with these members. -/
  | interface (members : List (MemberHead × TypeTree))
  /-- Another name for a type. -/
  | expression (type : TypeTree)

namespace TypeTree

mutual

/-- The text of a type at a level of indentation. -/
def text (setting : Setting) : TypeTree → Nat → String
  | .any, _ => setting.profile.types.any
  | .scalar tag, _ => setting.profile.scalarType tag
  | .literals [], _ => "never"
  | .literals (value :: values), _ =>
    " | ".intercalate (distinct ((value :: values).map (literal setting.profile.types.any)))
  | .named name, _ => name
  | .tagged parts, level => joinParts setting " | " (distinct (texts setting parts level))
  | .combined join parts, level =>
    joinParts setting join.separator (distinct ((texts setting parts level).map parenthesized))
  | .untypedList, _ => setting.profile.types.any ++ "[]"
  | .list element, level => parenthesized (element.text setting level) ++ "[]"
  | .tuple places, level => "[" ++ ", ".intercalate (texts setting places level) ++ "]"
  | .object members, level =>
    let lines := String.join (lineTexts setting members (level + 1))
    if lines.isEmpty then "\x7b\x7d"
    else "\x7b\n" ++ lines ++ setting.profile.pad level ++ "\x7d"

/-- The texts of types. -/
def texts (setting : Setting) : List TypeTree → Nat → List String
  | [], _ => []
  | tree :: rest, level => tree.text setting level :: texts setting rest level

/-- The lines of members. -/
def lineTexts (setting : Setting) : List (MemberHead × TypeTree) → Nat → List String
  | [], _ => []
  | (head, tree) :: rest, level =>
    head.line (setting.profile.pad level) (tree.text setting level)
      :: lineTexts setting rest level

end

/-- Types are written one by one. -/
theorem texts_eq_map (setting : Setting) (trees : List TypeTree) (level : Nat) :
    texts setting trees level = trees.map fun tree => tree.text setting level := by
  induction trees with
  | nil => rfl
  | cons tree rest ih => simp only [texts, List.map_cons, ih]

/-- A member line as text. -/
def memberText (setting : Setting) (level : Nat) (member : MemberHead × TypeTree) : String :=
  member.1.line (setting.profile.pad level) (member.2.text setting level)

/-- Members are written one by one. -/
theorem lineTexts_eq_map (setting : Setting) (members : List (MemberHead × TypeTree))
    (level : Nat) : lineTexts setting members level = members.map (memberText setting level) := by
  induction members with
  | nil => rfl
  | cons member rest ih =>
    obtain ⟨head, tree⟩ := member
    simp only [lineTexts, List.map_cons, ih, memberText]

mutual

/-- The declared types that an expression mentions. -/
def names : TypeTree → List String
  | .named name => [name]
  | .tagged parts => namesOf parts
  | .combined _ parts => namesOf parts
  | .list element => element.names
  | .tuple places => namesOf places
  | .object members => memberNames members
  | .any => []
  | .scalar _ => []
  | .literals _ => []
  | .untypedList => []

/-- The declared types that some of the expressions mention. -/
def namesOf : List TypeTree → List String
  | [] => []
  | tree :: rest => tree.names ++ namesOf rest

/-- The declared types that members mention. -/
def memberNames : List (MemberHead × TypeTree) → List String
  | [] => []
  | (_, tree) :: rest => tree.names ++ memberNames rest

end

/-- The names that expressions mention, one expression after the other. -/
theorem namesOf_eq_flatMap (trees : List TypeTree) : namesOf trees = trees.flatMap names := by
  induction trees with
  | nil => rfl
  | cons tree rest ih => rw [namesOf, ih, List.flatMap_cons]

/-- The names that members mention, one member after the other. -/
theorem memberNames_eq_flatMap (members : List (MemberHead × TypeTree)) :
    memberNames members = members.flatMap fun member => member.2.names := by
  induction members with
  | nil => rfl
  | cons member rest ih =>
    obtain ⟨head, tree⟩ := member
    rw [memberNames, ih, List.flatMap_cons]

/-- A name is mentioned by a list of expressions when one of them mentions it. -/
theorem mem_namesOf {name : String} {trees : List TypeTree} :
    name ∈ namesOf trees ↔ ∃ tree ∈ trees, name ∈ tree.names := by
  induction trees with
  | nil => simp [namesOf]
  | cons tree rest ih => simp [namesOf, ih]

/-- A name is mentioned by members when one of their types mentions it. -/
theorem mem_memberNames {name : String} {members : List (MemberHead × TypeTree)} :
    name ∈ memberNames members ↔ ∃ member ∈ members, name ∈ member.2.names := by
  induction members with
  | nil => simp [memberNames]
  | cons member rest ih =>
    obtain ⟨head, tree⟩ := member
    simp [memberNames, ih]

end TypeTree

namespace BodyTree

/-- The body as it is declared. -/
def body (setting : Setting) : BodyTree → Body
  | .interface members => .interface (String.join (TypeTree.lineTexts setting members 1))
  | .expression type => .alias (type.text setting 0)

/-- The declared types that a body mentions. -/
def names : BodyTree → List String
  | .interface members => TypeTree.memberNames members
  | .expression type => type.names

end BodyTree

/-! ## The trees of schemas in a block -/

/-- The keyword that decides the type of a schema object before its tags do, with its value. -/
def leading? (facts : SchemaFacts) : Option (String × Json) :=
  combiningKeywords.findSome? fun name => (facts.keyword? name).map fun value => (name, value)

/-- The comment above a property: its description, unless it is titled. -/
def memberComment (schema : Schema) : Option String :=
  match schema.title, schema.description with
  | none, some text => some text
  | _, _ => none

section Reading

variable (setting : Setting) (block : Block) (below : Schema → TypeTree → Prop)

/-- A reference stands by the name of its target. -/
inductive ReferenceTree : String → TypeTree → Prop
  /-- The root. -/
  | root : ReferenceTree "#" (.named setting.rootName)
  /-- A target that is declared. -/
  | target {reference name : String} (known : (reference, name) ∈ block.references) :
    ReferenceTree reference (.named name)

/-- A property of an object. -/
def PropertyTree (facts : SchemaFacts) (property : String × Schema)
    (member : MemberHead × TypeTree) : Prop :=
  member.1 = .property (memberComment property.2) property.1
      (facts.required.contains property.1) ∧
    below property.2 member.2

/-- The index signature of an object, if it has one. -/
inductive FurtherTree : Extra → List (MemberHead × TypeTree) → Prop
  /-- Further properties of one schema. -/
  | typed {schema : Schema} {tree : TypeTree} (type : below schema tree) :
    FurtherTree (.typed schema) [(.further, tree)]
  /-- Further properties of any type. -/
  | allowed : FurtherTree (.allowed true) [(.further, .any)]
  /-- No further properties. -/
  | forbidden : FurtherTree (.allowed false) []
  /-- What the profile says where the schema says nothing. -/
  | absent : FurtherTree .absent
      (if setting.profile.additionalProperties then [(.further, .any)] else [])

/-- The members of an object: its properties and then an index signature. -/
def MemberTrees (facts : SchemaFacts) (properties : Properties) (extra : Extra)
    (members : List (MemberHead × TypeTree)) : Prop :=
  ∃ listed further, members = listed ++ further ∧
    List.Forall₂ (PropertyTree below facts) (Properties.entries properties) listed ∧
    FurtherTree setting below extra further

/-- A list. -/
inductive ListTree : Items → TypeTree → Prop
  /-- A list of anything. -/
  | untyped : ListTree .absent .untypedList
  /-- A list of one type. -/
  | list {element : Schema} {tree : TypeTree} (type : below element tree) :
    ListTree (.each element) (.list tree)
  /-- A list with one type per place. -/
  | tuple {places : List Schema} {trees : List TypeTree} (types : List.Forall₂ below places trees) :
    ListTree (.tuple places) (.tuple trees)

/-- The alternative of a tag. -/
inductive TagTree (facts : SchemaFacts) (properties : Properties) (items : Items)
    (extra : Extra) : String → TypeTree → Prop
  /-- An object where it stands. -/
  | object {members : List (MemberHead × TypeTree)}
      (types : MemberTrees setting below facts properties extra members) :
    TagTree facts properties items extra "object" (.object members)
  /-- A list. -/
  | array {tree : TypeTree} (type : ListTree below items tree) :
    TagTree facts properties items extra "array" tree
  /-- A scalar. -/
  | scalar {tag : String} (notObject : tag ≠ "object") (notArray : tag ≠ "array") :
    TagTree facts properties items extra tag (.scalar tag)

/-- A member of a combination. -/
def CombinedTree (member : Json) (tree : TypeTree) : Prop :=
  ∃ schema, Schema.ofJson? member = some schema ∧ below schema tree

/-- A schema object without regard to its title. -/
inductive InlineTree (facts : SchemaFacts) (properties : Properties) (items : Items)
    (extra : Extra) : TypeTree → Prop
  /-- A reference. -/
  | reference {reference : String} {tree : TypeTree}
      (leading : leading? facts = some ("$ref", .str reference))
      (type : ReferenceTree setting block reference tree) :
    InlineTree facts properties items extra tree
  /-- A constant. -/
  | constant {value : Json} (leading : leading? facts = some ("const", value)) :
    InlineTree facts properties items extra (.literals [value])
  /-- A list of values. -/
  | enumeration {values : List Json} (leading : leading? facts = some ("enum", .arr values)) :
    InlineTree facts properties items extra (.literals values)
  /-- Alternatives. -/
  | alternatives {keyword : String} {members : List Json} {parts : List TypeTree}
      (leading : leading? facts = some (keyword, .arr members))
      (isUnion : keyword = "anyOf" ∨ keyword = "oneOf")
      (types : List.Forall₂ (CombinedTree below) members parts) :
    InlineTree facts properties items extra (.combined .alternatives parts)
  /-- Parts that hold together. -/
  | together {members : List Json} {parts : List TypeTree}
      (leading : leading? facts = some ("allOf", .arr members))
      (types : List.Forall₂ (CombinedTree below) members parts) :
    InlineTree facts properties items extra (.combined .together parts)
  /-- The tags decide. -/
  | tagged {parts : List TypeTree} (leading : leading? facts = none)
      (types : List.Forall₂ (TagTree setting below facts properties items extra)
        (effectiveTags facts properties items extra) parts) :
    InlineTree facts properties items extra (.tagged parts)

/-- The type of a schema that allows everything or nothing. -/
def boolTree (allowed : Bool) : TypeTree := if allowed then .any else .literals []

/-- A schema where its type is expected. A titled one stands by the name of a schema that is the
same. -/
inductive ExpressionTree : Schema → TypeTree → Prop
  /-- A schema that allows everything or nothing. -/
  | bool (allowed : Bool) : ExpressionTree (.bool allowed) (boolTree allowed)
  /-- A titled schema. -/
  | titled {schema other : Schema} {name : String} (isTitled : schema.title.isSome)
      (known : (other, name) ∈ block.titled) (isSame : other = schema ∨ other.same schema) :
    ExpressionTree schema (.named name)
  /-- An untitled schema object. -/
  | inline {facts : SchemaFacts} {properties : Properties} {items : Items} {extra : Extra}
      {tree : TypeTree} (untitled : facts.title = none)
      (type : InlineTree setting block below facts properties items extra tree) :
    ExpressionTree (.object facts properties items extra) tree

/-- A schema that is declared. -/
inductive DeclaredTree : Schema → BodyTree → Prop
  /-- A schema that allows everything or nothing. -/
  | bool (allowed : Bool) : DeclaredTree (.bool allowed) (.expression (boolTree allowed))
  /-- An object and nothing else. -/
  | interface {facts : SchemaFacts} {properties : Properties} {items : Items} {extra : Extra}
      {members : List (MemberHead × TypeTree)}
      (isInterface : isInterfaceLike facts properties = true)
      (types : MemberTrees setting below facts properties extra members) :
    DeclaredTree (.object facts properties items extra) (.interface members)
  /-- Any other schema object. -/
  | expression {facts : SchemaFacts} {properties : Properties} {items : Items} {extra : Extra}
      {tree : TypeTree} (noInterface : isInterfaceLike facts properties = false)
      (type : InlineTree setting block below facts properties items extra tree) :
    DeclaredTree (.object facts properties items extra) (.expression tree)

end Reading

/-- The tree of a schema where its type is expected, through at most `bound` schemas inside one
another. -/
def HasTree (setting : Setting) (block : Block) : Nat → Schema → TypeTree → Prop
  | 0 => fun _ _ => False
  | bound + 1 => ExpressionTree setting block (HasTree setting block bound)

/-- The tree of a schema that is declared. -/
def HasBody (setting : Setting) (block : Block) (schema : Schema) (tree : BodyTree) : Prop :=
  ∃ bound, DeclaredTree setting block (HasTree setting block bound) schema tree

end ProgramConnector.TypeScript
