import ProgramConnector.Proofs.TypeScript.TypeTree
import ProgramConnector.Proofs.TypeScript.UniqueName

/-!
# How a block grows

A step of compilation adds declarations behind those that are there, with their bodies, and adds
names for schemas and references, each with its declaration. What a block says of a schema stays
true when the block grows. Steps are described by what they yield in the block that they leave, and
these descriptions are composed like the steps.
-/

namespace ProgramConnector.TypeScript

/-- The declared names in order. -/
def Block.names (block : Block) : List String := block.declarations.map (·.name)

/-! ## Trees in a growing block -/

/-- What is read below one schema is read below another block too, and mentions only names with a
property. -/
def TreesKept (P : String → Prop) (below below' : Schema → TypeTree → Prop) : Prop :=
  ∀ schema tree, below schema tree → below' schema tree ∧ ∀ name ∈ tree.names, P name

/-- The names of one block are names of another one, and have a property. -/
structure NamesKept (setting : Setting) (P : String → Prop) (b b' : Block) : Prop where
  /-- The root. -/
  root : P setting.rootName
  /-- The titled schemas. -/
  titled : ∀ entry ∈ b.titled, entry ∈ b'.titled ∧ P entry.2
  /-- The references. -/
  references : ∀ entry ∈ b.references, entry ∈ b'.references ∧ P entry.2

section Kept

variable {setting : Setting} {P : String → Prop} {b b' : Block}
variable {below below' : Schema → TypeTree → Prop}

/-- Related elements stay related, each with its property. -/
theorem forall₂_kept {α β : Type} {R S : α → β → Prop} {Q : β → Prop} {xs : List α} {ys : List β}
    (h : List.Forall₂ R xs ys) (hR : ∀ x y, R x y → S x y ∧ Q y) :
    List.Forall₂ S xs ys ∧ ∀ y ∈ ys, Q y := by
  induction h with
  | nil => exact ⟨.nil, by simp⟩
  | cons hxy _ ih =>
    obtain ⟨hr, hq⟩ := hR _ _ hxy
    exact ⟨.cons hr ih.1, List.forall_mem_cons.2 ⟨hq, ih.2⟩⟩

/-- References are kept. -/
theorem ReferenceTree.kept (h : NamesKept setting P b b') {reference : String} {tree : TypeTree}
    (ht : ReferenceTree setting b reference tree) :
    ReferenceTree setting b' reference tree ∧ ∀ name ∈ tree.names, P name := by
  cases ht with
  | root => exact ⟨.root, by simpa [TypeTree.names] using h.root⟩
  | target known =>
    obtain ⟨hk, hp⟩ := h.references _ known
    exact ⟨.target hk, by simpa [TypeTree.names] using hp⟩

/-- The members of an object are kept. -/
theorem MemberTrees.kept (hb : TreesKept P below below') {facts : SchemaFacts}
    {properties : Properties} {extra : Extra} {members : List (MemberHead × TypeTree)}
    (ht : MemberTrees setting below facts properties extra members) :
    MemberTrees setting below' facts properties extra members ∧
      ∀ name ∈ TypeTree.memberNames members, P name := by
  obtain ⟨listed, further, rfl, hl, hf⟩ := ht
  have hl' := forall₂_kept (S := PropertyTree below' facts)
    (Q := fun member => ∀ name ∈ member.2.names, P name) hl fun property member hm =>
      ⟨⟨hm.1, (hb _ _ hm.2).1⟩, (hb _ _ hm.2).2⟩
  have hf' : FurtherTree setting below' extra further ∧
      ∀ member ∈ further, ∀ name ∈ member.2.names, P name := by
    cases hf with
    | typed type => exact ⟨.typed (hb _ _ type).1, by simpa using (hb _ _ type).2⟩
    | allowed => exact ⟨.allowed, by simp [TypeTree.names]⟩
    | forbidden => exact ⟨.forbidden, by simp⟩
    | absent => exact ⟨.absent, by split <;> simp [TypeTree.names]⟩
  refine ⟨⟨listed, further, rfl, hl'.1, hf'.1⟩, fun name hn => ?_⟩
  obtain ⟨member, hm, hn⟩ := TypeTree.mem_memberNames.1 hn
  rcases List.mem_append.1 hm with hm | hm
  · exact hl'.2 member hm name hn
  · exact hf'.2 member hm name hn

/-- Lists are kept. -/
theorem ListTree.kept (hb : TreesKept P below below') {items : Items} {tree : TypeTree}
    (ht : ListTree below items tree) :
    ListTree below' items tree ∧ ∀ name ∈ tree.names, P name := by
  cases ht with
  | untyped => exact ⟨.untyped, by simp [TypeTree.names]⟩
  | list type => exact ⟨.list (hb _ _ type).1, (hb _ _ type).2⟩
  | tuple types =>
    obtain ⟨ht, hn⟩ := forall₂_kept types hb
    refine ⟨.tuple ht, fun name hm => ?_⟩
    obtain ⟨tree, htree, hm⟩ := TypeTree.mem_namesOf.1 hm
    exact hn tree htree name hm

/-- Alternatives by tags are kept. -/
theorem TagTree.kept (hb : TreesKept P below below') {facts : SchemaFacts}
    {properties : Properties} {items : Items} {extra : Extra} {tag : String} {tree : TypeTree}
    (ht : TagTree setting below facts properties items extra tag tree) :
    TagTree setting below' facts properties items extra tag tree ∧ ∀ name ∈ tree.names, P name := by
  cases ht with
  | object types => exact ⟨.object (types.kept hb).1, (types.kept hb).2⟩
  | array type => exact ⟨.array (type.kept hb).1, (type.kept hb).2⟩
  | scalar notObject notArray => exact ⟨.scalar notObject notArray, by simp [TypeTree.names]⟩

/-- Members of combinations are kept. -/
theorem CombinedTree.kept (hb : TreesKept P below below') {member : Json} {tree : TypeTree}
    (ht : CombinedTree below member tree) :
    CombinedTree below' member tree ∧ ∀ name ∈ tree.names, P name := by
  obtain ⟨schema, hs, ht⟩ := ht
  exact ⟨⟨schema, hs, (hb _ _ ht).1⟩, (hb _ _ ht).2⟩

/-- Schema objects are kept where they stand. -/
theorem InlineTree.kept (h : NamesKept setting P b b') (hb : TreesKept P below below')
    {facts : SchemaFacts} {properties : Properties} {items : Items} {extra : Extra}
    {tree : TypeTree} (ht : InlineTree setting b below facts properties items extra tree) :
    InlineTree setting b' below' facts properties items extra tree ∧
      ∀ name ∈ tree.names, P name := by
  have hof : ∀ parts : List TypeTree, (∀ part ∈ parts, ∀ name ∈ part.names, P name) →
      ∀ name ∈ TypeTree.namesOf parts, P name := fun parts hp name hn => by
    obtain ⟨part, hpart, hn⟩ := TypeTree.mem_namesOf.1 hn
    exact hp part hpart name hn
  cases ht with
  | reference leading type => exact ⟨.reference leading (type.kept h).1, (type.kept h).2⟩
  | constant leading => exact ⟨.constant leading, by simp [TypeTree.names]⟩
  | enumeration leading => exact ⟨.enumeration leading, by simp [TypeTree.names]⟩
  | alternatives leading isUnion types =>
    obtain ⟨ht, hp⟩ := forall₂_kept types fun member tree => CombinedTree.kept hb
    exact ⟨.alternatives leading isUnion ht, hof _ hp⟩
  | together leading types =>
    obtain ⟨ht, hp⟩ := forall₂_kept types fun member tree => CombinedTree.kept hb
    exact ⟨.together leading ht, hof _ hp⟩
  | tagged leading types =>
    obtain ⟨ht, hp⟩ := forall₂_kept types fun tag tree => TagTree.kept hb
    exact ⟨.tagged leading ht, hof _ hp⟩

/-- The type of a truth value mentions no name. -/
theorem names_boolTree (allowed : Bool) : (boolTree allowed).names = [] := by
  cases allowed <;> rfl

/-- Schemas are kept where their types are expected. -/
theorem ExpressionTree.kept (h : NamesKept setting P b b') (hb : TreesKept P below below')
    {schema : Schema} {tree : TypeTree} (ht : ExpressionTree setting b below schema tree) :
    ExpressionTree setting b' below' schema tree ∧ ∀ name ∈ tree.names, P name := by
  cases ht with
  | bool allowed => exact ⟨.bool allowed, by simp [names_boolTree]⟩
  | titled isTitled known isSame =>
    obtain ⟨hk, hp⟩ := h.titled _ known
    exact ⟨.titled isTitled hk isSame, by simpa [TypeTree.names] using hp⟩
  | inline untitled type =>
    exact ⟨.inline untitled (type.kept h hb).1, (type.kept h hb).2⟩

/-- Declared schemas are kept. -/
theorem DeclaredTree.kept (h : NamesKept setting P b b') (hb : TreesKept P below below')
    {schema : Schema} {tree : BodyTree} (ht : DeclaredTree setting b below schema tree) :
    DeclaredTree setting b' below' schema tree ∧ ∀ name ∈ tree.names, P name := by
  cases ht with
  | bool allowed => exact ⟨.bool allowed, by simp [BodyTree.names, names_boolTree]⟩
  | interface isInterface types =>
    exact ⟨.interface isInterface (types.kept hb).1, (types.kept hb).2⟩
  | expression noInterface type =>
    exact ⟨.expression noInterface (type.kept h hb).1, (type.kept h hb).2⟩

/-- Trees are kept at every bound. -/
theorem HasTree.kept (h : NamesKept setting P b b') (bound : Nat) :
    TreesKept P (HasTree setting b bound) (HasTree setting b' bound) := by
  induction bound with
  | zero => exact fun _ _ ht => ht.elim
  | succ bound ih => exact fun _ _ ht => ExpressionTree.kept h ih ht

/-- Bodies are kept, and mention only names with the property. -/
theorem HasBody.kept (h : NamesKept setting P b b') {schema : Schema} {tree : BodyTree}
    (ht : HasBody setting b schema tree) :
    HasBody setting b' schema tree ∧ ∀ name ∈ tree.names, P name := by
  obtain ⟨bound, ht⟩ := ht
  have hk := ht.kept h (HasTree.kept h bound)
  exact ⟨⟨bound, hk.1⟩, hk.2⟩

end Kept

/-! ## Steps that add declarations -/

/-- The schema that a reference leads to. -/
def Setting.target? (setting : Setting) (reference : String) : Option Schema :=
  if reference.toList.head? == some '#' then
    (setting.document.follow? (reference.toList.drop 1)).bind Schema.ofJson?
  else none

/-- A declaration says of its name what a schema says: it has the description of the schema and the
body of its tree. -/
def Declaration.Says (setting : Setting) (block : Block) (declaration : Declaration)
    (schema : Schema) : Prop :=
  declaration.description = schema.description ∧
    ∃ tree, HasBody setting block schema tree ∧ declaration.body = some (tree.body setting)

/-- A schema is declared in a block under a name. -/
def Block.Declares (setting : Setting) (block : Block) (name : String) (schema : Schema) : Prop :=
  ∃ declaration ∈ block.declarations, declaration.name = name ∧
    declaration.Says setting block schema

/-- The schema that is declared under a name of a block. -/
inductive Block.Owns (setting : Setting) (root : Schema) (block : Block) : String → Schema → Prop
  /-- The root. -/
  | root : Owns setting root block setting.rootName root
  /-- A titled schema. -/
  | titled {schema : Schema} {name : String} (known : (schema, name) ∈ block.titled) :
    Owns setting root block name schema
  /-- The target of a reference. -/
  | reference {reference name : String} {schema : Schema}
    (known : (reference, name) ∈ block.references)
    (isTarget : setting.target? reference = some schema) : Owns setting root block name schema

/-- The names of a block: they are those in use, none is declared twice, and every schema and
every reference with a name has it from a declaration. These names are made of identifier
characters. -/
structure Block.WellNamed (block : Block) : Prop where
  /-- The names in use are the declared ones, the last one first. -/
  used : block.used = block.names.reverse
  /-- No name is declared twice. -/
  nodup : block.names.Nodup
  /-- Titled schemas have declared names. -/
  titled : ∀ entry ∈ block.titled, entry.2 ∈ block.names ∧ Naming.IsPlain entry.2.toList
  /-- References have declared names. -/
  references : ∀ entry ∈ block.references, entry.2 ∈ block.names ∧ Naming.IsPlain entry.2.toList

/-- What a successful step does to a block: it adds finished declarations, and names for schemas
and references that have them. -/
structure Block.Extends (setting : Setting) (b b' : Block) : Prop where
  /-- Declarations are added behind those that are there, each with the body of a schema. -/
  declarations : ∃ added, b'.declarations = b.declarations ++ added ∧
    ∀ declaration ∈ added, ∃ schema, declaration.Says setting b' schema
  /-- Titled schemas are added behind those that are there, and are declared. -/
  titled : ∃ added, b'.titled = b.titled ++ added ∧
    ∀ entry ∈ added, b'.Declares setting entry.2 entry.1
  /-- References are added in front of those that are there, and are declared. -/
  references : ∃ added, b'.references = added ++ b.references ∧
    ∀ entry ∈ added, ∃ schema, setting.target? entry.1 = some schema ∧
      b'.Declares setting entry.2 schema

section Growth

variable {setting : Setting} {b b' b'' : Block}

/-- A block that holds all names of another one keeps them. -/
theorem NamesKept.of_subset (ht : ∀ entry ∈ b.titled, entry ∈ b'.titled)
    (hr : ∀ entry ∈ b.references, entry ∈ b'.references) :
    NamesKept setting (fun _ => True) b b' :=
  ⟨trivial, fun entry h => ⟨ht entry h, trivial⟩, fun entry h => ⟨hr entry h, trivial⟩⟩

/-- A name has the same schema when names are kept. -/
theorem Block.Owns.kept (hk : NamesKept setting (fun _ => True) b b') {root schema : Schema}
    {name : String} (h : b.Owns setting root name schema) : b'.Owns setting root name schema := by
  cases h with
  | root => exact .root
  | titled known => exact .titled (hk.titled _ known).1
  | reference known isTarget => exact .reference (hk.references _ known).1 isTarget

/-- What a declaration says stays true when names are kept. -/
theorem Declaration.Says.kept (hk : NamesKept setting (fun _ => True) b b')
    {declaration : Declaration} {schema : Schema} (h : declaration.Says setting b schema) :
    declaration.Says setting b' schema := by
  obtain ⟨hd, tree, ht, hb⟩ := h
  exact ⟨hd, tree, (ht.kept hk).1, hb⟩

/-- A declaration that says what a schema says has a body. -/
theorem Declaration.Says.isSome {declaration : Declaration} {schema : Schema}
    (h : declaration.Says setting b schema) : declaration.body.isSome := by
  obtain ⟨-, tree, -, hb⟩ := h
  simp [hb]

namespace Block

/-- An extension keeps all names. -/
theorem Extends.namesKept (h : b.Extends setting b') : NamesKept setting (fun _ => True) b b' := by
  obtain ⟨titled, ht, -⟩ := h.titled
  obtain ⟨references, hr, -⟩ := h.references
  refine .of_subset (fun entry he => ?_) (fun entry he => ?_)
  · rw [ht]
    exact List.mem_append_left _ he
  · rw [hr]
    exact List.mem_append_right _ he

/-- What a block declares stays declared when its names and its finished declarations are kept. -/
theorem Declares.kept (hk : NamesKept setting (fun _ => True) b b')
    (hd : ∀ declaration ∈ b.declarations, declaration.body.isSome → declaration ∈ b'.declarations)
    {name : String} {schema : Schema} (h : b.Declares setting name schema) :
    b'.Declares setting name schema := by
  obtain ⟨declaration, hm, hn, hs⟩ := h
  exact ⟨declaration, hd declaration hm hs.isSome, hn, hs.kept hk⟩

/-- What a block declares stays declared in an extension. -/
theorem Declares.mono (h : b.Extends setting b') {name : String} {schema : Schema}
    (hd : b.Declares setting name schema) : b'.Declares setting name schema := by
  obtain ⟨added, hb, -⟩ := h.declarations
  refine hd.kept h.namesKept fun declaration hm _ => ?_
  rw [hb]
  exact List.mem_append_left _ hm

/-- A block extends itself. -/
theorem Extends.refl (setting : Setting) (b : Block) : b.Extends setting b :=
  ⟨⟨[], by simp⟩, ⟨[], by simp⟩, ⟨[], by simp⟩⟩

/-- Extensions follow one another. -/
theorem Extends.trans (h : b.Extends setting b') (h' : b'.Extends setting b'') :
    b.Extends setting b'' := by
  obtain ⟨d, hd, hds⟩ := h.declarations
  obtain ⟨d', hd', hds'⟩ := h'.declarations
  obtain ⟨t, ht, hts⟩ := h.titled
  obtain ⟨t', ht', hts'⟩ := h'.titled
  obtain ⟨r, hr, hrs⟩ := h.references
  obtain ⟨r', hr', hrs'⟩ := h'.references
  refine ⟨⟨d ++ d', by rw [hd', hd, List.append_assoc], fun declaration hm => ?_⟩,
    ⟨t ++ t', by rw [ht', ht, List.append_assoc], fun entry hm => ?_⟩,
    ⟨r' ++ r, by rw [hr', hr, List.append_assoc], fun entry hm => ?_⟩⟩
  · rcases List.mem_append.1 hm with hm | hm
    · obtain ⟨schema, hs⟩ := hds declaration hm
      exact ⟨schema, hs.kept h'.namesKept⟩
    · exact hds' declaration hm
  · rcases List.mem_append.1 hm with hm | hm
    · exact (hts entry hm).mono h'
    · exact hts' entry hm
  · rcases List.mem_append.1 hm with hm | hm
    · exact hrs' entry hm
    · obtain ⟨schema, hs, hd⟩ := hrs entry hm
      exact ⟨schema, hs, hd.mono h'⟩

end Block

/-! ## Declaring a schema

A declaration takes its place without a body, the schemas below it are compiled, and then it gets
its body. Between the two steps the block is extended. -/

/-- The block in which a declaration has taken its place, and a schema or a reference its name. -/
def Block.opened (block : Block) (name : String) (description : Option String)
    (titled : List (Schema × String)) (references : List (String × String)) : Block :=
  ⟨block.declarations ++ [⟨name, description, none⟩], name :: block.used, titled, references⟩

/-- The declared names after a declaration was opened. -/
theorem Block.names_opened (block : Block) (name : String) (description : Option String)
    (titled : List (Schema × String)) (references : List (String × String)) :
    (block.opened name description titled references).names = block.names ++ [name] := by
  simp [Block.names, Block.opened]

/-- A body changes no name. -/
theorem Block.names_complete (b : Block) (place : Nat) (body : Body) :
    (b.complete place body).names = b.names := by
  unfold Block.names Block.complete
  apply List.ext_getElem?
  intro i
  simp only [List.getElem?_map, List.getElem?_modify]
  split <;> cases b.declarations[i]? <;> rfl

/-- A body leaves all names as they are. -/
theorem Block.namesKept_complete (setting : Setting) (b : Block) (place : Nat) (body : Body) :
    NamesKept setting (fun _ => True) b (b.complete place body) :=
  .of_subset (fun _ he => he) (fun _ he => he)

/-- A body leaves the block well named. -/
theorem Block.WellNamed.complete (h : b.WellNamed) (place : Nat) (body : Body) :
    (b.complete place body).WellNamed := by
  have hn := Block.names_complete b place body
  refine ⟨?_, ?_, ?_, ?_⟩
  · rw [hn]
    exact h.used
  · rw [hn]
    exact h.nodup
  · rw [hn]
    exact h.titled
  · rw [hn]
    exact h.references

/-- A name that was not in use leaves the block well named. -/
theorem Block.WellNamed.opened (h : b.WellNamed) {name : String} (hfree : name ∉ b.used)
    {description : Option String} {titled : List (Schema × String)}
    {references : List (String × String)}
    (ht : ∀ entry ∈ titled, entry ∈ b.titled ∨ entry.2 = name ∧ Naming.IsPlain name.toList)
    (hr : ∀ entry ∈ references,
      entry ∈ b.references ∨ entry.2 = name ∧ Naming.IsPlain name.toList) :
    (b.opened name description titled references).WellNamed := by
  have hn := Block.names_opened b name description titled references
  refine ⟨?_, ?_, ?_, ?_⟩
  · rw [hn, List.reverse_append]
    exact congrArg (name :: ·) h.used
  · rw [h.used, List.mem_reverse] at hfree
    rw [hn]
    refine List.nodup_append.2 ⟨h.nodup, List.nodup_singleton name, fun other ho last hl => ?_⟩
    rw [List.mem_singleton.1 hl]
    exact fun he => hfree (he ▸ ho)
  · intro entry he
    rw [hn]
    rcases ht entry he with he | ⟨he, hp⟩
    · exact ⟨List.mem_append_left _ (h.titled entry he).1, (h.titled entry he).2⟩
    · rw [he]
      exact ⟨List.mem_append_right _ (List.mem_singleton.2 rfl), hp⟩
  · intro entry he
    rw [hn]
    rcases hr entry he with he | ⟨he, hp⟩
    · exact ⟨List.mem_append_left _ (h.references entry he).1, (h.references entry he).2⟩
    · rw [he]
      exact ⟨List.mem_append_right _ (List.mem_singleton.2 rfl), hp⟩

section Closing

variable {name : String} {schema : Schema} {titled : List (Schema × String)}
  {references : List (String × String)} {tree : BodyTree}

/-- Where a declaration stands in an extension of the block that it was opened in. -/
theorem Block.Extends.declarations_opened
    (h : (b.opened name schema.description titled references).Extends setting b') :
    ∃ added, b'.declarations = b.declarations ++ ⟨name, schema.description, none⟩ :: added ∧
      ∀ declaration ∈ added, ∃ known, declaration.Says setting b' known := by
  obtain ⟨added, hb, hs⟩ := h.declarations
  refine ⟨added, ?_, hs⟩
  rw [hb]
  simp [Block.opened]

/-- The declarations after the one that was opened has its body. -/
theorem Block.declarations_complete {added : List Declaration} {description : Option String}
    (h : b'.declarations = b.declarations ++ ⟨name, description, none⟩ :: added) (body : Body) :
    (b'.complete b.declarations.length body).declarations =
      b.declarations ++ ⟨name, description, some body⟩ :: added := by
  simp [Block.complete, h, List.modify_eq_take_drop]

/-- The declaration that was opened gets its body, and no declaration that has one is touched. -/
theorem Block.Extends.mem_complete
    (h : (b.opened name schema.description titled references).Extends setting b')
    {declaration : Declaration} (hm : declaration ∈ b'.declarations)
    (hbody : declaration.body.isSome) (body : Body) :
    declaration ∈ (b'.complete b.declarations.length body).declarations := by
  obtain ⟨added, hb, -⟩ := h.declarations_opened
  rw [Block.declarations_complete hb]
  rw [hb] at hm
  rcases List.mem_append.1 hm with hm | hm
  · exact List.mem_append_left _ hm
  · rcases List.mem_cons.1 hm with rfl | hm
    · simp at hbody
    · exact List.mem_append_right _ (List.mem_cons_of_mem _ hm)

/-- What is declared while the declaration is open stays declared when it gets its body. -/
theorem Block.Declares.complete
    (h : (b.opened name schema.description titled references).Extends setting b')
    {other : String} {known : Schema} (hd : b'.Declares setting other known) (body : Body) :
    (b'.complete b.declarations.length body).Declares setting other known :=
  hd.kept (Block.namesKept_complete setting b' _ body) fun _ hm hbody => h.mem_complete hm hbody body

/-- The declaration that was opened is made when it gets its body. -/
theorem Block.Extends.declares_complete
    (h : (b.opened name schema.description titled references).Extends setting b')
    (ht : HasBody setting b' schema tree) :
    (b'.complete b.declarations.length (tree.body setting)).Declares setting name schema := by
  obtain ⟨added, hb, -⟩ := h.declarations_opened
  have hk := Block.namesKept_complete setting b' b.declarations.length (tree.body setting)
  refine ⟨⟨name, schema.description, some (tree.body setting)⟩, ?_, rfl, rfl, tree, ?_, rfl⟩
  · rw [Block.declarations_complete hb]
    exact List.mem_append_right _ List.mem_cons_self
  · exact (ht.kept hk).1

/-- Opening a declaration, extending the block and giving the declaration its body is an
extension. -/
theorem Block.Extends.close
    (h : (b.opened name schema.description titled references).Extends setting b')
    (ht : HasBody setting b' schema tree)
    (htitled : ∃ added, titled = b.titled ++ added ∧ ∀ entry ∈ added, entry = (schema, name))
    (hreferences : ∃ added, references = added ++ b.references ∧
      ∀ entry ∈ added, entry.2 = name ∧ setting.target? entry.1 = some schema) :
    b.Extends setting (b'.complete b.declarations.length (tree.body setting)) := by
  have hk := Block.namesKept_complete setting b' b.declarations.length (tree.body setting)
  have hd := h.declares_complete ht
  obtain ⟨added, hb, hs⟩ := h.declarations_opened
  obtain ⟨t, rfl, hts⟩ := htitled
  obtain ⟨r, rfl, hrs⟩ := hreferences
  obtain ⟨t', ht', hts'⟩ := h.titled
  obtain ⟨r', hr', hrs'⟩ := h.references
  refine ⟨⟨_, Block.declarations_complete hb _, ?_⟩, ⟨t ++ t', ?_, fun entry he => ?_⟩,
    ⟨r' ++ r, ?_, fun entry he => ?_⟩⟩
  · intro declaration hm
    rcases List.mem_cons.1 hm with rfl | hm
    · exact ⟨schema, rfl, tree, (ht.kept hk).1, rfl⟩
    · obtain ⟨known, hknown⟩ := hs declaration hm
      exact ⟨known, hknown.kept hk⟩
  · exact ht'.trans (List.append_assoc _ _ _)
  · rcases List.mem_append.1 he with he | he
    · rw [hts entry he]
      exact hd
    · exact (hts' entry he).complete h _
  · exact hr'.trans (List.append_assoc _ _ _).symm
  · rcases List.mem_append.1 he with he | he
    · obtain ⟨known, hk, hdk⟩ := hrs' entry he
      exact ⟨known, hk, hdk.complete h _⟩
    · obtain ⟨hn, hk⟩ := hrs entry he
      rw [hn]
      exact ⟨schema, hk, hd⟩

end Closing

end Growth

end ProgramConnector.TypeScript
