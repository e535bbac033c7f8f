import ProgramConnector.Proofs.TypeScript.Alternatives
import ProgramConnector.Proofs.TypeScript.ClosedBlock

/-!
# Balanced alternatives

Under the default types every alternative of the tree of a schema is balanced, when its names have
no marks and its comments are enclosed: objects and tuples are written in brackets, texts in quotes,
and all alternatives that are part of another type are put in parentheses.
-/

namespace ProgramConnector.TypeScript

/-- The comment of a member line. -/
def MemberHead.comments (pad : String) : MemberHead → List String
  | .property (some text) _ _ => [docComment text pad]
  | .property none _ _ => []
  | .further => []

namespace TypeTree

mutual

/-- The comments inside of a type. -/
def comments (setting : Setting) : TypeTree → Nat → List String
  | .tagged parts, level => commentsOf setting parts level
  | .combined _ parts, level => commentsOf setting parts level
  | .list element, level => element.comments setting level
  | .tuple places, level => commentsOf setting places level
  | .object members, level => memberComments setting members (level + 1)
  | .any, _ => []
  | .scalar _, _ => []
  | .literals _, _ => []
  | .named _, _ => []
  | .untypedList, _ => []

/-- The comments inside of some types. -/
def commentsOf (setting : Setting) : List TypeTree → Nat → List String
  | [], _ => []
  | tree :: rest, level => tree.comments setting level ++ commentsOf setting rest level

/-- The comments of members. -/
def memberComments (setting : Setting) : List (MemberHead × TypeTree) → Nat → List String
  | [], _ => []
  | (head, tree) :: rest, level =>
    head.comments (setting.profile.pad level) ++ tree.comments setting level ++
      memberComments setting rest level

end

/-- A comment inside of one of some types is inside of them. -/
theorem mem_commentsOf {setting : Setting} {comment : String} {tree : TypeTree}
    {trees : List TypeTree} {level : Nat} (ht : tree ∈ trees)
    (hc : comment ∈ tree.comments setting level) : comment ∈ commentsOf setting trees level := by
  induction trees with
  | nil => exact nomatch ht
  | cons first rest ih =>
    rw [commentsOf, List.mem_append]
    rcases List.mem_cons.1 ht with rfl | ht
    · exact .inl hc
    · exact .inr (ih ht)

/-- A comment of one of the members is inside of them. -/
theorem mem_memberComments {setting : Setting} {comment : String} {member : MemberHead × TypeTree}
    {members : List (MemberHead × TypeTree)} {level : Nat} (hm : member ∈ members)
    (hc : comment ∈ member.1.comments (setting.profile.pad level) ∨
      comment ∈ member.2.comments setting level) :
    comment ∈ memberComments setting members level := by
  induction members with
  | nil => exact nomatch hm
  | cons first rest ih =>
    obtain ⟨head, tree⟩ := first
    rw [memberComments, List.mem_append, List.mem_append]
    rcases List.mem_cons.1 hm with rfl | hm
    · exact .inl hc
    · exact .inr (ih hm)

/-- Nothing in a type misleads the scan: its names have no marks, and its comments are enclosed. -/
structure Clear (setting : Setting) (tree : TypeTree) (level : Nat) : Prop where
  /-- The declared types that are mentioned. -/
  names : ∀ name ∈ tree.names, IsUnmarked name.toList
  /-- The comments above properties. -/
  comments : ∀ comment ∈ tree.comments setting level, Enclosed comment.toList

section Clear

variable {setting : Setting} {tree : TypeTree} {level : Nat}

/-- Nothing misleads the scan in one of some types. -/
theorem clear_of_mem {trees : List TypeTree}
    (hn : ∀ name ∈ namesOf trees, IsUnmarked name.toList)
    (hc : ∀ comment ∈ commentsOf setting trees level, Enclosed comment.toList) (h : tree ∈ trees) :
    tree.Clear setting level :=
  ⟨fun name hm => hn name (mem_namesOf.2 ⟨tree, h, hm⟩),
    fun comment hm => hc comment (mem_commentsOf h hm)⟩

/-- Nothing misleads the scan in the alternative of a tag. -/
theorem Clear.tagged {parts : List TypeTree} (h : (TypeTree.tagged parts).Clear setting level)
    (hm : tree ∈ parts) : tree.Clear setting level :=
  clear_of_mem h.names h.comments hm

/-- Nothing misleads the scan in a member of a combination. -/
theorem Clear.combined {join : Join} {parts : List TypeTree}
    (h : (TypeTree.combined join parts).Clear setting level) (hm : tree ∈ parts) :
    tree.Clear setting level :=
  clear_of_mem h.names h.comments hm

/-- Nothing misleads the scan in a place of a tuple. -/
theorem Clear.tuple {places : List TypeTree} (h : (TypeTree.tuple places).Clear setting level)
    (hm : tree ∈ places) : tree.Clear setting level :=
  clear_of_mem h.names h.comments hm

/-- Nothing misleads the scan in the type of a member and in its comment. -/
theorem Clear.object {members : List (MemberHead × TypeTree)} {member : MemberHead × TypeTree}
    (h : (TypeTree.object members).Clear setting level) (hm : member ∈ members) :
    member.2.Clear setting (level + 1) ∧
      ∀ comment ∈ member.1.comments (setting.profile.pad (level + 1)), Enclosed comment.toList :=
  ⟨⟨fun name hn => h.names name (mem_memberNames.2 ⟨member, hm, hn⟩),
      fun comment hc => h.comments comment (mem_memberComments hm (.inr hc))⟩,
    fun comment hc => h.comments comment (mem_memberComments hm (.inl hc))⟩

end Clear

end TypeTree

/-! ## Texts of balanced parts -/

/-- Separators are passed over inside of brackets. -/
theorem enclosed_separator (join : Join) : Enclosed join.separator.toList := by
  intro depth
  cases join <;> rfl

/-- A balanced text is not compound, and stands for itself inside of another one. -/
theorem parenthesized_of_balanced {text : String} (h : Balanced text.toList) :
    parenthesized text = text := by
  have hscan : (ScanState.code 0).after text.toList = some (.code 0) := h 0
  unfold parenthesized
  rw [isCompound_eq_isNone, hscan]
  rfl

/-- Parentheses around an enclosed text. -/
theorem balanced_parentheses {text : String} (h : Enclosed text.toList) :
    Balanced ("(" ++ text ++ ")").toList := by
  rw [toList_parentheses]
  exact h.bracketed (fun _ => rfl) fun _ => rfl

/-- An enclosed text that is balanced or compound is balanced as a part of another one. -/
theorem balanced_parenthesized {text : String} (h : Enclosed text.toList)
    (hb : Balanced text.toList ∨ parenthesized text = "(" ++ text ++ ")") :
    Balanced (parenthesized text).toList := by
  rcases hb with hb | hb
  · rw [parenthesized_of_balanced hb]
    exact hb
  · rw [hb]
    exact balanced_parentheses h

/-! ## Types below a schema -/

section Parts

variable {setting : Setting} {below : Schema → TypeTree → Prop}

/-- The type of a member is the one of everything, or that of a schema. -/
theorem MemberTrees.exists_schema {facts : SchemaFacts} {properties : Properties} {extra : Extra}
    {members : List (MemberHead × TypeTree)}
    (h : MemberTrees setting below facts properties extra members) :
    ∀ member ∈ members, member.2 = .any ∨ ∃ schema, below schema member.2 := by
  obtain ⟨listed, further, rfl, hl, hf⟩ := h
  have hfurther : ∀ member ∈ further, member.2 = .any ∨ ∃ schema, below schema member.2 := by
    cases hf with
    | typed type => simpa using .inr ⟨_, type⟩
    | allowed => simp
    | forbidden => simp
    | absent => split <;> simp
  intro member hm
  rcases List.mem_append.1 hm with hm | hm
  · obtain ⟨property, -, -, ht⟩ := exists_left_of_forall₂ hl hm
    exact .inr ⟨property.2, ht⟩
  · exact hfurther member hm

/-- A member of a combination is the type of a schema. -/
theorem CombinedTree.exists_schema {members : List Json} {parts : List TypeTree}
    (h : List.Forall₂ (CombinedTree below) members parts) :
    ∀ part ∈ parts, ∃ schema, below schema part := by
  intro part hp
  obtain ⟨member, -, schema, -, ht⟩ := exists_left_of_forall₂ h hp
  exact ⟨schema, ht⟩

end Parts

/-! ## Soundness -/

/-- Every alternative of a type is balanced. -/
def TypeTree.Sound (setting : Setting) (tree : TypeTree) (level : Nat) : Prop :=
  ∀ alternative ∈ tree.alternatives setting level, Balanced alternative.toList

section Sound

variable {setting : Setting} {block : Block} {tree : TypeTree} {level : Nat}

/-- The default type of everything has no marks. -/
theorem isUnmarked_any (htypes : setting.profile.types = {}) :
    IsUnmarked setting.profile.types.any.toList := by
  rw [htypes]
  exact isUnmarked_of_all (by decide)

/-- The default types of scalars have no marks. -/
theorem isUnmarked_scalarType (htypes : setting.profile.types = {}) (tag : String) :
    IsUnmarked (setting.profile.scalarType tag).toList := by
  unfold Profile.scalarType
  rw [htypes]
  split
  · exact isUnmarked_of_all (by decide)
  split
  · exact isUnmarked_of_all (by decide)
  split
  · exact isUnmarked_of_all (by decide)
  split
  · exact isUnmarked_of_all (by decide)
  split
  · exact isUnmarked_of_all (by decide)
  · exact isUnmarked_of_all (by decide)

/-- Indentation without marks has none at any level. -/
theorem isUnmarked_pad (hindent : IsUnmarked setting.profile.indent.toList) (level : Nat) :
    IsUnmarked (setting.profile.pad level).toList :=
  (isAdditive_forall_mem _).pad hindent level

namespace TypeTree

/-- A type with balanced alternatives has none, one that is the whole text, or it is put in
parentheses. -/
theorem Sound.balanced_or_parenthesized (htypes : setting.profile.types = {})
    (h : tree.Sound setting level) :
    Balanced (tree.text setting level).toList ∨
      parenthesized (tree.text setting level) = "(" ++ tree.text setting level ++ ")" := by
  have hempty := text_of_alternatives_eq_nil setting tree level
  have htext := tree.text_eq_intercalate setting level
  have hgroup := parenthesized_text_iff setting tree level
  unfold Sound at h
  generalize tree.alternatives setting level = alternatives at h hempty htext hgroup
  rcases alternatives with _ | ⟨first, _ | ⟨second, rest⟩⟩
  · left
    rcases hempty rfl with ht | ht
    · rw [ht]
      exact (isUnmarked_any htypes).balanced
    · rw [ht]
      exact (isUnmarked_of_all (by decide)).balanced
  · left
    rw [htext (List.cons_ne_nil _ _), String.intercalate_singleton]
    exact h first List.mem_cons_self
  · right
    exact (hgroup (List.cons_ne_nil _ _)).2 (not_hidden_of_balanced (h first List.mem_cons_self))

/-- A type with balanced alternatives is enclosed. -/
theorem Sound.enclosed (htypes : setting.profile.types = {}) (h : tree.Sound setting level) :
    Enclosed (tree.text setting level).toList := by
  by_cases hnil : tree.alternatives setting level = []
  · rcases text_of_alternatives_eq_nil setting tree level hnil with ht | ht
    · rw [ht]
      exact (isUnmarked_any htypes).balanced.enclosed
    · rw [ht]
      exact (isUnmarked_of_all (by decide)).balanced.enclosed
  · intro depth
    rw [tree.text_eq_intercalate setting level hnil]
    exact (isAdditive_balancedAt _).intercalate (enclosed_separator tree.join depth)
      fun part hp => (h part hp).enclosed depth

/-- A type with balanced alternatives is balanced as a part of another one. -/
theorem Sound.balanced_parenthesized (htypes : setting.profile.types = {})
    (h : tree.Sound setting level) :
    Balanced (parenthesized (tree.text setting level)).toList :=
  TypeScript.balanced_parenthesized (h.enclosed htypes) (h.balanced_or_parenthesized htypes)

end TypeTree

/-- A member line is enclosed, with the comment above it. -/
theorem MemberHead.enclosed_line {pad type : String} (head : MemberHead)
    (hpad : IsUnmarked pad.toList)
    (hcomments : ∀ comment ∈ head.comments pad, Enclosed comment.toList)
    (htype : Enclosed type.toList) : Enclosed (head.line pad type).toList := by
  intro depth
  refine head.line_of_parts (isAdditive_balancedAt _) (fun text name isRequired heq => ?_)
    (hpad.balanced _) (fun name => balanced_propertyKey name _) rfl rfl rfl (htype depth) rfl
  subst heq
  exact hcomments (docComment text pad) (List.mem_singleton.2 rfl) depth

/-- Braces around enclosed lines are balanced. -/
theorem TypeTree.balanced_object {members : List (MemberHead × TypeTree)}
    (hindent : IsUnmarked setting.profile.indent.toList)
    (hlines : ∀ line ∈ lineTexts setting members (level + 1), Enclosed line.toList) :
    Balanced ((TypeTree.object members).text setting level).toList := by
  obtain ⟨inside, htext, hinside⟩ := TypeTree.exists_toList_text_object setting members level
  have hbody : Enclosed inside := fun depth => hinside _ (isAdditive_balancedAt _) rfl
    ((isUnmarked_pad hindent level).balanced _) fun line hl => hlines line hl depth
  rw [htext]
  exact hbody.bracketed (fun _ => rfl) fun _ => rfl

variable {below : Schema → TypeTree → Prop} (htypes : setting.profile.types = {})
  (hindent : IsUnmarked setting.profile.indent.toList)
  (hbelow : ∀ schema tree, below schema tree →
    ∀ level, tree.Clear setting level → tree.Sound setting level)

include htypes hbelow in
/-- The type of a member is enclosed. -/
theorem TypeTree.enclosed_of_exists
    (h : tree = .any ∨ ∃ schema, below schema tree) (hc : tree.Clear setting level) :
    Enclosed (tree.text setting level).toList := by
  rcases h with rfl | ⟨schema, ht⟩
  · exact (isUnmarked_any htypes).balanced.enclosed
  · exact (hbelow schema tree ht level hc).enclosed htypes

include htypes hindent hbelow in
/-- An object is balanced. -/
theorem MemberTrees.balanced {facts : SchemaFacts} {properties : Properties} {extra : Extra}
    {members : List (MemberHead × TypeTree)}
    (h : MemberTrees setting below facts properties extra members)
    (hc : (TypeTree.object members).Clear setting level) :
    Balanced ((TypeTree.object members).text setting level).toList := by
  refine TypeTree.balanced_object hindent fun line hl => ?_
  rw [TypeTree.lineTexts_eq_map] at hl
  obtain ⟨member, hm, rfl⟩ := List.mem_map.1 hl
  obtain ⟨htype, hcomments⟩ := hc.object hm
  exact member.1.enclosed_line (isUnmarked_pad hindent (level + 1)) hcomments
    (TypeTree.enclosed_of_exists htypes hbelow (h.exists_schema member hm) htype)

include htypes hbelow in
/-- A list is balanced. -/
theorem ListTree.balanced {items : Items} (h : ListTree below items tree)
    (hc : tree.Clear setting level) : Balanced (tree.text setting level).toList := by
  have hbrackets : Balanced "[]".toList := fun depth => rfl
  cases h with
  | untyped =>
    intro depth
    rw [TypeTree.text, String.toList_append]
    exact ((isUnmarked_any htypes).balanced depth).append (hbrackets depth)
  | @list schema element type =>
    intro depth
    have hs := hbelow schema element type level ⟨hc.names, hc.comments⟩
    rw [TypeTree.text, String.toList_append]
    exact (hs.balanced_parenthesized htypes depth).append (hbrackets depth)
  | @tuple places trees types =>
    have hplaces : Enclosed (", ".intercalate (TypeTree.texts setting trees level)).toList := by
      intro depth
      refine (isAdditive_balancedAt _).intercalate rfl fun place hp => ?_
      rw [TypeTree.texts_eq_map] at hp
      obtain ⟨tree, ht, rfl⟩ := List.mem_map.1 hp
      obtain ⟨schema, -, htype⟩ := exists_left_of_forall₂ types ht
      exact TypeTree.enclosed_of_exists htypes hbelow (.inr ⟨schema, htype⟩) (hc.tuple ht) depth
    rw [TypeTree.toList_text_tuple]
    exact hplaces.bracketed (fun _ => rfl) fun _ => rfl

include htypes hindent hbelow in
/-- The alternative of a tag is balanced. -/
theorem TagTree.balanced {facts : SchemaFacts} {properties : Properties} {items : Items}
    {extra : Extra} {tag : String}
    (h : TagTree setting below facts properties items extra tag tree)
    (hc : tree.Clear setting level) : Balanced (tree.text setting level).toList := by
  cases h with
  | object types => exact types.balanced htypes hindent hbelow hc
  | array type => exact type.balanced htypes hbelow hc
  | scalar notObject notArray => exact (isUnmarked_scalarType htypes tag).balanced

/-- A balanced type that is its only alternative. -/
theorem TypeTree.sound_of_balanced
    (hsingle : tree.alternatives setting level = [tree.text setting level])
    (h : Balanced (tree.text setting level).toList) : tree.Sound setting level := by
  intro alternative ha
  rw [hsingle] at ha
  rw [List.mem_singleton.1 ha]
  exact h

/-- Literal types are balanced. -/
theorem TypeTree.sound_literals (htypes : setting.profile.types = {}) (values : List Json)
    (level : Nat) : (TypeTree.literals values).Sound setting level := by
  intro alternative ha
  obtain ⟨value, -, rfl⟩ := List.mem_map.1 (mem_distinct.1 ha)
  exact balanced_literal (isUnmarked_any htypes).balanced value

/-- A name without marks is balanced. -/
theorem TypeTree.sound_named {name : String} (hc : (TypeTree.named name).Clear setting level) :
    (TypeTree.named name).Sound setting level :=
  sound_of_balanced rfl (hc.names name (List.mem_singleton.2 rfl)).balanced

include htypes hbelow in
/-- The members of a combination are balanced in their parentheses. -/
theorem TypeTree.sound_combined {join : Join} {parts : List TypeTree}
    (h : ∀ part ∈ parts, ∃ schema, below schema part)
    (hc : (TypeTree.combined join parts).Clear setting level) :
    (TypeTree.combined join parts).Sound setting level := by
  intro alternative ha
  obtain ⟨text, ht, rfl⟩ := List.mem_map.1 (mem_distinct.1 ha)
  rw [texts_eq_map] at ht
  obtain ⟨part, hp, rfl⟩ := List.mem_map.1 ht
  obtain ⟨schema, hs⟩ := h part hp
  exact (hbelow schema part hs level (hc.combined hp)).balanced_parenthesized htypes

include htypes hindent hbelow in
/-- A schema object is sound where it stands. -/
theorem InlineTree.sound {facts : SchemaFacts} {properties : Properties} {items : Items}
    {extra : Extra} (h : InlineTree setting block below facts properties items extra tree)
    (hc : tree.Clear setting level) : tree.Sound setting level := by
  cases h with
  | reference leading type =>
    cases type with
    | root => exact TypeTree.sound_named hc
    | target known => exact TypeTree.sound_named hc
  | constant leading => exact TypeTree.sound_literals htypes _ level
  | enumeration leading => exact TypeTree.sound_literals htypes _ level
  | alternatives leading isUnion types =>
    exact TypeTree.sound_combined htypes hbelow (CombinedTree.exists_schema types) hc
  | together leading types =>
    exact TypeTree.sound_combined htypes hbelow (CombinedTree.exists_schema types) hc
  | tagged leading types =>
    intro alternative ha
    have ht := mem_distinct.1 ha
    rw [TypeTree.texts_eq_map] at ht
    obtain ⟨part, hp, rfl⟩ := List.mem_map.1 ht
    obtain ⟨tag, -, htag⟩ := exists_left_of_forall₂ types hp
    exact htag.balanced htypes hindent hbelow (hc.tagged hp)

include htypes hindent hbelow in
/-- A schema is sound where its type is expected. -/
theorem ExpressionTree.sound {schema : Schema} (h : ExpressionTree setting block below schema tree)
    (hc : tree.Clear setting level) : tree.Sound setting level := by
  cases h with
  | bool allowed =>
    cases allowed with
    | true => exact TypeTree.sound_of_balanced rfl (isUnmarked_any htypes).balanced
    | false => exact TypeTree.sound_literals htypes [] level
  | titled isTitled known isSame => exact TypeTree.sound_named hc
  | inline untitled type => exact type.sound htypes hindent hbelow hc

omit hbelow in
include htypes hindent in
/-- The tree of a schema is sound. -/
theorem HasTree.sound {bound : Nat} {schema : Schema} (h : HasTree setting block bound schema tree)
    (hc : tree.Clear setting level) : tree.Sound setting level := by
  induction bound generalizing schema tree level with
  | zero => exact h.elim
  | succ bound ih =>
    exact ExpressionTree.sound htypes hindent (fun _ _ ht _ hclear => ih ht hclear) h hc

end Sound

end ProgramConnector.TypeScript
