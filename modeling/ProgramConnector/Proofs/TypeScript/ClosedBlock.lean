import ProgramConnector.Proofs.TypeScript.CompileSteps

/-!
# Closed blocks

The block of a schema is closed: it starts with the root under the given name, no name is declared
twice, every declaration has a body, and every declared type that is mentioned in a body or was ever
given to a titled schema or a reference is declared in the same block.
-/

namespace ProgramConnector.TypeScript

/-- What a finished declaration is: the description and the body of a schema, in which only types of
the same block are mentioned. -/
structure Declaration.IsClosed (setting : Setting) (block : Block) (declaration : Declaration)
    (schema : Schema) (tree : BodyTree) : Prop where
  /-- The description is that of the schema. -/
  description : declaration.description = schema.description
  /-- The tree is the one that the schema has in the block. -/
  hasBody : HasBody setting block schema tree
  /-- The body is the text of the tree. -/
  body : declaration.body = some (tree.body setting)
  /-- Every type that is mentioned is declared. -/
  names : ∀ name ∈ tree.names, name ∈ block.names
  /-- Apart from the root these types have names of identifier characters. -/
  plain : ∀ name ∈ tree.names, name = setting.rootName ∨ Naming.IsPlain name.toList

/-- What a finished block is, for the schema that its root declares. -/
structure Block.IsClosed (setting : Setting) (schema : Schema) (block : Block) : Prop where
  /-- The root comes first, under the given name. -/
  root : ∃ declaration rest tree, block.declarations = declaration :: rest ∧
    declaration.name = setting.rootName ∧ declaration.IsClosed setting block schema tree
  /-- No name is declared twice. -/
  nodup : block.names.Nodup
  /-- Every declaration is written. -/
  rendered : ∀ declaration ∈ block.declarations, declaration.render.isSome
  /-- Every declaration is that of a schema, and mentions only types of the block. -/
  declared : ∀ declaration ∈ block.declarations, ∃ known tree,
    declaration.IsClosed setting block known tree
  /-- The name of a titled schema is declared, with the body of that schema. -/
  titled : ∀ entry ∈ block.titled, block.Declares setting entry.2 entry.1
  /-- The name of a reference is declared, with the body of its target. -/
  references : ∀ entry ∈ block.references, ∃ known, setting.target? entry.1 = some known ∧
    block.Declares setting entry.2 known

section Closed

variable {setting : Setting} {block : Block} {schema : Schema}

/-- A declaration with a body is written. -/
theorem Declaration.Says.isSome_render {declaration : Declaration}
    (h : declaration.Says setting block schema) : declaration.render.isSome := by
  have hb := h.isSome
  unfold Declaration.render
  simpa using hb

/-- A block in which all names are declared keeps its own names among the declared ones. -/
theorem Block.WellNamed.namesKept (hw : block.WellNamed) (hroot : setting.rootName ∈ block.names) :
    NamesKept setting (fun name => name ∈ block.names ∧
      (name = setting.rootName ∨ Naming.IsPlain name.toList)) block block := by
  refine ⟨⟨hroot, .inl rfl⟩, fun entry he => ⟨he, ?_⟩, fun entry he => ⟨he, ?_⟩⟩
  · obtain ⟨hn, hp⟩ := hw.titled entry he
    exact ⟨hn, .inr hp⟩
  · obtain ⟨hn, hp⟩ := hw.references entry he
    exact ⟨hn, .inr hp⟩

/-- What is said in a block in which all names are declared mentions only declared types. -/
theorem Declaration.Says.isClosed (hw : block.WellNamed) (hroot : setting.rootName ∈ block.names)
    {declaration : Declaration} (h : declaration.Says setting block schema) :
    ∃ tree, declaration.IsClosed setting block schema tree := by
  obtain ⟨hd, tree, ht, hb⟩ := h
  obtain ⟨-, hn⟩ := ht.kept (hw.namesKept hroot)
  exact ⟨tree, hd, ht, hb, fun name hm => (hn name hm).1, fun name hm => (hn name hm).2⟩

/-- The block in which nothing is declared is well named. -/
theorem Block.wellNamed_empty : Block.WellNamed ⟨[], [], [], []⟩ :=
  ⟨rfl, List.nodup_nil, by simp, by simp⟩

/-- A block that is made has compiled the body of its root while the root was open. -/
theorem blockOf_eq_ok {rootName : String} {profile : Profile}
    (h : blockOf schema rootName profile = .ok block) :
    ∃ body b, (bodyAt ⟨profile, rootName, schema.toJson⟩ (stepBound schema.toJson) schema).run
        (Block.opened ⟨[], [], [], []⟩ rootName schema.description [] []) = .ok (body, b) ∧
      block = b.complete 0 body := by
  change (bodyAt ⟨profile, rootName, schema.toJson⟩ (stepBound schema.toJson) schema).run
    (Block.start rootName schema.description) >>= _ = _ at h
  obtain ⟨result, hrun, h⟩ := bind_eq_ok h
  exact ⟨result.1, result.2, hrun, (Except.ok.inj h).symm⟩

/-- A block that is made was well named while its root was open, and gets the body of the schema's
tree for its root. The names in this tree were gone through. -/
theorem exists_tree_of_blockOf {rootName : String} {profile : Profile}
    (h : blockOf schema rootName profile = .ok block) :
    ∃ b tree, b.WellNamed ∧
      (Block.opened ⟨[], [], [], []⟩ rootName schema.description [] []).Extends
        ⟨profile, rootName, schema.toJson⟩ b ∧
      HasBody ⟨profile, rootName, schema.toJson⟩ b schema tree ∧
      (Block.opened ⟨[], [], [], []⟩ rootName schema.description [] []).GoesThrough
        ⟨profile, rootName, schema.toJson⟩ tree.names b ∧
      block = b.complete 0 (tree.body ⟨profile, rootName, schema.toJson⟩) := by
  obtain ⟨body, b, hrun, rfl⟩ := blockOf_eq_ok h
  have hstart : (Block.opened ⟨[], [], [], []⟩ rootName schema.description [] []).WellNamed :=
    Block.wellNamed_empty.opened (by simp) (by simp) (by simp)
  obtain ⟨hw, hx, tree, ht, rfl, hfound⟩ :=
    (followsInOrder_at ⟨profile, rootName, schema.toJson⟩ (stepBound schema.toJson)).body schema _
      body b hstart hrun
  exact ⟨b, tree, hw, hx, ht, hfound List.mem_cons_self, rfl⟩

/-- A well named block whose declarations, titled schemas and references were all added to the empty
block is closed. -/
theorem Block.WellNamed.isClosed (hw : block.WellNamed)
    (hx : Block.Extends setting ⟨[], [], [], []⟩ block) {declaration : Declaration}
    {rest : List Declaration} (hfirst : block.declarations = declaration :: rest)
    (hname : declaration.name = setting.rootName) (hs : declaration.Says setting block schema) :
    block.IsClosed setting schema := by
  have hroot : setting.rootName ∈ block.names := by
    rw [Block.names, hfirst, ← hname]
    exact List.mem_cons_self
  have hsays : ∀ declaration ∈ block.declarations,
      ∃ known, declaration.Says setting block known := by
    obtain ⟨added, hadded, hknown⟩ := hx.declarations
    rw [hadded]
    exact hknown
  refine ⟨?_, hw.nodup, fun other hm => ?_, fun other hm => ?_, ?_, ?_⟩
  · obtain ⟨tree, hc⟩ := hs.isClosed hw hroot
    exact ⟨declaration, rest, tree, hfirst, hname, hc⟩
  · obtain ⟨known, hk⟩ := hsays other hm
    exact hk.isSome_render
  · obtain ⟨known, hk⟩ := hsays other hm
    exact ⟨known, hk.isClosed hw hroot⟩
  · obtain ⟨added, hadded, hknown⟩ := hx.titled
    rw [hadded]
    exact hknown
  · obtain ⟨added, hadded, hknown⟩ := hx.references
    rw [hadded, List.append_nil]
    exact hknown

/-- The block of a schema is closed. Compiling a schema opens its declaration in the empty block,
compiles the body and closes the declaration. -/
theorem isClosed_of_blockOf {rootName : String} {profile : Profile}
    (h : blockOf schema rootName profile = .ok block) :
    block.IsClosed ⟨profile, rootName, schema.toJson⟩ schema := by
  obtain ⟨b, tree, hw, hx, ht, -, rfl⟩ := exists_tree_of_blockOf h
  generalize hs : (⟨profile, rootName, schema.toJson⟩ : Setting) = setting at hx ht ⊢
  have hname : rootName = setting.rootName := by rw [← hs]
  obtain ⟨added, hadded, -⟩ := hx.declarations_opened
  have hk := Block.namesKept_complete setting b 0 (tree.body setting)
  have hclose := hx.close ht ⟨[], rfl, by simp⟩ ⟨[], rfl, by simp⟩
  have hfirst := Block.declarations_complete hadded (tree.body setting)
  have hsays : Declaration.Says setting (b.complete 0 (tree.body setting))
      ⟨rootName, schema.description, some (tree.body setting)⟩ schema :=
    ⟨rfl, tree, (ht.kept hk).1, rfl⟩
  exact (hw.complete 0 (tree.body setting)).isClosed hclose hfirst hname hsays

/-- A compiled text is that of a block. -/
theorem compile_eq_ok {rootName text : String} {profile : Profile}
    (h : compile schema rootName profile = .ok text) :
    ∃ block, blockOf schema rootName profile = .ok block ∧
      text = renderBlock profile.bannerComment block.declarations := by
  unfold compile declarations at h
  cases hb : blockOf schema rootName profile with
  | error error =>
    rw [hb] at h
    exact nomatch h
  | ok block =>
    rw [hb] at h
    exact ⟨block, rfl, (Except.ok.inj h).symm⟩

/-- Whenever a schema is compiled, the text is that of a closed block: the root comes first under
the given name, names are distinct, no declaration is left out of the text, and all types that are
mentioned or were given to a titled schema or a reference are declared. -/
theorem isClosed_of_compile {rootName text : String} {profile : Profile}
    (h : compile schema rootName profile = .ok text) :
    ∃ block, blockOf schema rootName profile = .ok block ∧
      text = renderBlock profile.bannerComment block.declarations ∧
      block.IsClosed ⟨profile, rootName, schema.toJson⟩ schema := by
  obtain ⟨block, hb, ht⟩ := compile_eq_ok h
  exact ⟨block, hb, ht, isClosed_of_blockOf hb⟩

end Closed

/-- A chain of nodes: its first node refers to a definition that refers to itself, and its last one
has the title of the chain. -/
def chainSchema : Schema :=
  let node : Schema :=
    .object ⟨none, none, [("$ref", .str "#/definitions/node")]⟩ .absent .absent .absent
  let last : Schema :=
    .object ⟨some (.one "object"), some "Chain", []⟩ (.listed [("of", node)]) .absent .absent
  let definition : Json := .obj [("properties", .obj [("next", node.toJson)])]
  .object ⟨some (.one "object"), some "Chain", [("definitions", .obj [("node", definition)])]⟩
    (.listed [("first", node), ("last", last)]) .absent .absent

set_option maxRecDepth 4000 in
/-- The chain is declared under its name, its node is declared once although it refers to itself,
and the last node gets a number. -/
theorem isClosed_of_compile_chain : ∃ block, blockOf chainSchema "Chain" {} = .ok block ∧
    block.names = ["Chain", "Node", "Chain1"] ∧
    block.IsClosed ⟨{}, "Chain", chainSchema.toJson⟩ chainSchema := by
  have h : compile chainSchema "Chain" {} = .ok ("export interface Chain \x7b\n" ++
      "  first?: Node;\n  last?: Chain1;\n\x7d\n\nexport interface Node \x7b\n" ++
      "  next?: Node;\n\x7d\n\nexport interface Chain1 \x7b\n  of?: Node;\n\x7d\n") := by
    rfl
  have hnames : (blockOf chainSchema "Chain" {}).map Block.names =
      .ok ["Chain", "Node", "Chain1"] := by
    rfl
  obtain ⟨block, hb, -, hc⟩ := isClosed_of_compile h
  rw [hb] at hnames
  exact ⟨block, hb, Except.ok.inj hnames, hc⟩

end ProgramConnector.TypeScript
