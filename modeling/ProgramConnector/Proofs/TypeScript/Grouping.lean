import ProgramConnector.Proofs.TypeScript.BalancedTrees

/-!
# Parentheses around alternatives

The element of a list and the members of a combination are put in parentheses when they have more
than one alternative, unless a comment inside of them misleads the scan: it reads comments like
code, so that a quote or a bracket in a description can hide the rest of the type. Apart from
comments every alternative is balanced.
-/

namespace ProgramConnector.TypeScript

namespace TypeTree

/-- A type stands inside of another one, with their levels of indentation, where it may have to be
put in parentheses: as the element of a list, or as a member of a combination. -/
inductive Grouped : TypeTree → Nat → TypeTree → Nat → Prop
  /-- The element of a list. -/
  | element {element : TypeTree} {level : Nat} : Grouped (.list element) level element level
  /-- A member of a combination. -/
  | member {join : Join} {parts : List TypeTree} {part : TypeTree} {level : Nat}
      (isPart : part ∈ parts) : Grouped (.combined join parts) level part level
  /-- Inside of the alternative of a tag. -/
  | inTagged {parts : List TypeTree} {part inner : TypeTree} {level place : Nat}
      (isPart : part ∈ parts) (inside : Grouped part level inner place) :
    Grouped (.tagged parts) level inner place
  /-- Inside of a member of a combination. -/
  | inCombined {join : Join} {parts : List TypeTree} {part inner : TypeTree} {level place : Nat}
      (isPart : part ∈ parts) (inside : Grouped part level inner place) :
    Grouped (.combined join parts) level inner place
  /-- Inside of the element of a list. -/
  | inList {element inner : TypeTree} {level place : Nat}
      (inside : Grouped element level inner place) : Grouped (.list element) level inner place
  /-- Inside of a place of a tuple. -/
  | inTuple {places : List TypeTree} {part inner : TypeTree} {level place : Nat}
      (isPart : part ∈ places) (inside : Grouped part level inner place) :
    Grouped (.tuple places) level inner place
  /-- Inside of the type of a member. -/
  | inObject {members : List (MemberHead × TypeTree)} {member : MemberHead × TypeTree}
      {inner : TypeTree} {level place : Nat} (isMember : member ∈ members)
      (inside : Grouped member.2 (level + 1) inner place) :
    Grouped (.object members) level inner place

end TypeTree

/-- A type stands inside of the body of a declaration where it may have to be put in parentheses. -/
inductive BodyTree.Grouped : BodyTree → TypeTree → Nat → Prop
  /-- Inside of the type of a member. -/
  | inInterface {members : List (MemberHead × TypeTree)} {member : MemberHead × TypeTree}
      {inner : TypeTree} {place : Nat} (isMember : member ∈ members)
      (inside : TypeTree.Grouped member.2 1 inner place) :
    Grouped (.interface members) inner place
  /-- Inside of the type that gets another name. -/
  | inExpression {type inner : TypeTree} {place : Nat}
      (inside : TypeTree.Grouped type 0 inner place) : Grouped (.expression type) inner place

/-! ## Grouped types are types of schemas -/

section Reading

variable {setting : Setting} {block : Block} {tree : TypeTree} {Q : TypeTree → Prop}

/-- Every type that is grouped inside of a type has a property. -/
def TypeTree.Groups (Q : TypeTree → Prop) (tree : TypeTree) : Prop :=
  ∀ level inner place, tree.Grouped level inner place → Q inner

variable {below : Schema → TypeTree → Prop}
  (hbelow : ∀ schema tree, below schema tree → Q tree ∧ tree.Groups Q)

include hbelow

/-- Inside of the types of members. -/
theorem MemberTrees.groups {facts : SchemaFacts} {properties : Properties} {extra : Extra}
    {members : List (MemberHead × TypeTree)}
    (h : MemberTrees setting below facts properties extra members) :
    ∀ member ∈ members, member.2.Groups Q := by
  intro member hm
  rcases h.exists_schema member hm with hany | ⟨schema, ht⟩
  · rw [hany]
    rintro level inner place ⟨⟩
  · exact (hbelow schema member.2 ht).2

/-- Inside of a list. -/
theorem ListTree.groups {items : Items} (h : ListTree below items tree) : tree.Groups Q := by
  cases h with
  | untyped => rintro level inner place ⟨⟩
  | list type =>
    rintro level inner place (_ | ⟨_⟩ | ⟨_⟩ | ⟨_⟩ | inside)
    · exact (hbelow _ _ type).1
    · exact (hbelow _ _ type).2 level inner place inside
  | tuple types =>
    rintro level inner place (_ | ⟨_⟩ | ⟨_⟩ | ⟨_⟩ | ⟨_⟩ | ⟨isPart, inside⟩)
    obtain ⟨schema, -, ht⟩ := exists_left_of_forall₂ types isPart
    exact (hbelow schema _ ht).2 level inner place inside

/-- Inside of the alternative of a tag. -/
theorem TagTree.groups {facts : SchemaFacts} {properties : Properties} {items : Items}
    {extra : Extra} {tag : String}
    (h : TagTree setting below facts properties items extra tag tree) : tree.Groups Q := by
  cases h with
  | object types =>
    rintro level inner place (_ | ⟨_⟩ | ⟨_⟩ | ⟨_⟩ | ⟨_⟩ | ⟨_⟩ | ⟨isMember, inside⟩)
    exact types.groups hbelow _ isMember (level + 1) inner place inside
  | array type => exact type.groups hbelow
  | scalar notObject notArray => rintro level inner place ⟨⟩

/-- Inside of a combination. -/
theorem TypeTree.groups_combined {join : Join} {parts : List TypeTree}
    (h : ∀ part ∈ parts, ∃ schema, below schema part) :
    (TypeTree.combined join parts).Groups Q := by
  rintro level inner place (_ | isPart | ⟨_⟩ | ⟨isPart, inside⟩)
  · obtain ⟨schema, ht⟩ := h inner isPart
    exact (hbelow schema inner ht).1
  · obtain ⟨schema, ht⟩ := h _ isPart
    exact (hbelow schema _ ht).2 level inner place inside

/-- Inside of a schema object where it stands. -/
theorem InlineTree.groups {facts : SchemaFacts} {properties : Properties} {items : Items}
    {extra : Extra} (h : InlineTree setting block below facts properties items extra tree) :
    tree.Groups Q := by
  cases h with
  | reference leading type => cases type <;> rintro level inner place ⟨⟩
  | constant leading => rintro level inner place ⟨⟩
  | enumeration leading => rintro level inner place ⟨⟩
  | alternatives leading isUnion types =>
    exact TypeTree.groups_combined hbelow (CombinedTree.exists_schema types)
  | together leading types =>
    exact TypeTree.groups_combined hbelow (CombinedTree.exists_schema types)
  | tagged leading types =>
    rintro level inner place (_ | ⟨_⟩ | ⟨isPart, inside⟩)
    obtain ⟨tag, -, htag⟩ := exists_left_of_forall₂ types isPart
    exact htag.groups hbelow level inner place inside

/-- Inside of a schema where its type is expected. -/
theorem ExpressionTree.groups {schema : Schema}
    (h : ExpressionTree setting block below schema tree) : tree.Groups Q := by
  cases h with
  | bool allowed => cases allowed <;> rintro level inner place ⟨⟩
  | titled isTitled known isSame => rintro level inner place ⟨⟩
  | inline untitled type => exact type.groups hbelow

/-- Inside of the body of a declaration. -/
theorem DeclaredTree.groups {schema : Schema} {body : BodyTree}
    (h : DeclaredTree setting block below schema body) {inner : TypeTree} {place : Nat}
    (hg : body.Grouped inner place) : Q inner := by
  cases h with
  | bool allowed =>
    cases hg with
    | inExpression inside => cases allowed <;> cases inside
  | interface isInterface types =>
    cases hg with
    | inInterface isMember inside => exact types.groups hbelow _ isMember 1 inner place inside
  | expression noInterface type =>
    cases hg with
    | inExpression inside => exact type.groups hbelow 0 inner place inside

omit hbelow in
/-- Types that are grouped inside of the type of a schema are types of schemas. -/
theorem HasTree.groups {bound : Nat} {schema : Schema}
    (h : HasTree setting block bound schema tree) :
    tree.Groups fun inner => ∃ bound schema, HasTree setting block bound schema inner := by
  induction bound generalizing schema tree with
  | zero => exact h.elim
  | succ bound ih =>
    exact ExpressionTree.groups (fun known _ ht => ⟨⟨bound, known, ht⟩, ih ht⟩) h

omit hbelow in
/-- Types that are grouped inside of a declared schema are types of schemas. -/
theorem HasBody.groups {schema : Schema} {body : BodyTree} (h : HasBody setting block schema body)
    {inner : TypeTree} {place : Nat} (hg : body.Grouped inner place) :
    ∃ bound schema, HasTree setting block bound schema inner := by
  obtain ⟨bound, h⟩ := h
  exact h.groups (fun known _ ht => ⟨⟨bound, known, ht⟩, ht.groups⟩) hg

end Reading

/-- A grouped type mentions only what the type around it mentions. -/
theorem TypeTree.Grouped.names_subset {tree inner : TypeTree} {level place : Nat}
    (h : tree.Grouped level inner place) : inner.names ⊆ tree.names := by
  intro name hn
  induction h with
  | element => exact hn
  | member isPart => exact mem_namesOf.2 ⟨_, isPart, hn⟩
  | inTagged isPart _ ih => exact mem_namesOf.2 ⟨_, isPart, ih hn⟩
  | inCombined isPart _ ih => exact mem_namesOf.2 ⟨_, isPart, ih hn⟩
  | inList _ ih => exact ih hn
  | inTuple isPart _ ih => exact mem_namesOf.2 ⟨_, isPart, ih hn⟩
  | inObject isMember _ ih => exact mem_memberNames.2 ⟨_, isMember, ih hn⟩

/-- A grouped type mentions only what the body around it mentions. -/
theorem BodyTree.Grouped.names_subset {body : BodyTree} {inner : TypeTree} {place : Nat}
    (h : body.Grouped inner place) : inner.names ⊆ body.names := by
  cases h with
  | inInterface isMember inside =>
    exact fun name hn => TypeTree.mem_memberNames.2 ⟨_, isMember, inside.names_subset hn⟩
  | inExpression inside => exact inside.names_subset

/-! ## Parentheses -/

/-- How a type with several alternatives is written as part of another one. -/
structure TypeTree.IsGrouped (setting : Setting) (tree : TypeTree) (level : Nat) : Prop where
  /-- It is put in parentheses exactly when its alternatives are not hidden: the scan is outside of
  brackets and quotes behind one of them that is not the last. -/
  parenthesized_iff : parenthesized (tree.text setting level) =
      "(" ++ tree.text setting level ++ ")" ↔
    ¬Hidden (.code 0) (tree.alternatives setting level)
  /-- Only a comment that leaves a bracket or a quote open hides them, as long as the indentation
  and the name of the root have no marks. -/
  not_hidden : IsUnmarked setting.profile.indent.toList → IsUnmarked setting.rootName.toList →
    (∀ comment ∈ tree.comments setting level, Enclosed comment.toList) →
    ¬Hidden (.code 0) (tree.alternatives setting level)

section Grouped

variable {setting : Setting} {block : Block} {tree : TypeTree} {level : Nat}

/-- Several balanced alternatives are not hidden. -/
theorem TypeTree.Sound.not_hidden (h : tree.Sound setting level)
    (hseveral : 2 ≤ (tree.alternatives setting level).length) :
    ¬Hidden (.code 0) (tree.alternatives setting level) := by
  unfold TypeTree.Sound at h
  generalize tree.alternatives setting level = alternatives at h hseveral
  rcases alternatives with _ | ⟨first, _ | ⟨second, rest⟩⟩
  · simp at hseveral
  · simp at hseveral
  · exact not_hidden_of_balanced (h first List.mem_cons_self)

/-- The alternatives of the tree of a schema are hidden by its comments only. -/
theorem HasTree.isGrouped {bound : Nat} {schema : Schema}
    (h : HasTree setting block bound schema tree) (htypes : setting.profile.types = {})
    (hnames : ∀ name ∈ tree.names, name = setting.rootName ∨ Naming.IsPlain name.toList)
    (hseveral : 2 ≤ (tree.alternatives setting level).length) : tree.IsGrouped setting level := by
  have hne : tree.alternatives setting level ≠ [] := by
    intro hnil
    simp [hnil] at hseveral
  refine ⟨parenthesized_text_iff setting tree level hne, fun hindent hroot hcomments => ?_⟩
  have hclear : tree.Clear setting level := by
    refine ⟨fun name hn => ?_, hcomments⟩
    rcases hnames name hn with rfl | hplain
    · exact hroot
    · exact isUnmarked_of_isPlain hplain
  exact (h.sound htypes hindent hclear).not_hidden hseveral

/-- Whenever a schema is compiled with the default types, every type with several alternatives that
is the element of a list or a member of a combination is put in parentheses unless a comment inside
of it hides them. -/
theorem isGrouped_of_compile {schema : Schema} {rootName text : String} {profile : Profile}
    (htypes : profile.types = {}) (h : compile schema rootName profile = .ok text) :
    ∃ block, blockOf schema rootName profile = .ok block ∧
      text = renderBlock profile.bannerComment block.declarations ∧
      ∀ declaration ∈ block.declarations, ∃ known body,
        declaration.IsClosed ⟨profile, rootName, schema.toJson⟩ block known body ∧
        ∀ tree level, body.Grouped tree level →
          2 ≤ (tree.alternatives ⟨profile, rootName, schema.toJson⟩ level).length →
          tree.IsGrouped ⟨profile, rootName, schema.toJson⟩ level := by
  obtain ⟨block, hb, ht⟩ := compile_eq_ok h
  refine ⟨block, hb, ht, fun declaration hd => ?_⟩
  obtain ⟨known, body, hclosed⟩ := (isClosed_of_blockOf hb).declared declaration hd
  refine ⟨known, body, hclosed, fun tree level hg hseveral => ?_⟩
  obtain ⟨bound, other, htree⟩ := hclosed.hasBody.groups hg
  exact htree.isGrouped htypes (fun name hn => hclosed.plain name (hg.names_subset hn)) hseveral

end Grouped

/-- A list of shelves and nulls, where the description of a property has a quote. -/
def shelfSchema : Schema :=
  let width : Json := .obj [("type", .str "string"), ("description", .str "5\" wide")]
  let shelf : Json := .obj [("type", .str "object"), ("properties", .obj [("width", width)])]
  let nothing : Json := .obj [("type", .str "null")]
  .object ⟨some (.one "array"), none, []⟩ .absent
    (.each (.object ⟨none, none, [("anyOf", .arr [shelf, nothing])]⟩ .absent .absent .absent))
    .absent

/-- The text of the shelves: the quote hides the end of the object, so that the brackets of the list
bind to its last alternative only. -/
def shelfText : String :=
  "export type Shelf = \x7b\n  /**\n   * 5\" wide\n   */\n  width?: string;\n\x7d | null[];\n"

set_option maxRecDepth 4000 in
/-- The shelves are compiled without parentheses: their comment leaves a quote open. -/
theorem isGrouped_of_compile_shelf : compile shelfSchema "Shelf" {} = .ok shelfText ∧
    ∃ block, blockOf shelfSchema "Shelf" {} = .ok block ∧
      ∀ declaration ∈ block.declarations, ∃ known body,
        declaration.IsClosed ⟨{}, "Shelf", shelfSchema.toJson⟩ block known body ∧
        ∀ tree level, body.Grouped tree level →
          2 ≤ (tree.alternatives ⟨{}, "Shelf", shelfSchema.toJson⟩ level).length →
          tree.IsGrouped ⟨{}, "Shelf", shelfSchema.toJson⟩ level := by
  have h : compile shelfSchema "Shelf" {} = .ok shelfText := by
    rfl
  obtain ⟨block, hb, -, hg⟩ := isGrouped_of_compile rfl h
  exact ⟨h, block, hb, hg⟩

end ProgramConnector.TypeScript
