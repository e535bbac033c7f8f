import ProgramConnector.Proofs.TypeScript.BlockGrowth

/-!
# The order of discovery

The declared names of a block form a graph: under each name the body mentions others, in the order of
its text. A depth-first walk over this graph goes through the names in order, and at a name that it
has not seen before it first goes through those that are mentioned there. A step of compilation
declares what such a walk finds, in the same order.
-/

namespace ProgramConnector.TypeScript

/-- What a depth-first walk through names finds when it has seen some names before. -/
inductive Discovers (mentions : String → List String → Prop) :
    List String → List String → List String → Prop
  /-- There are no names to go through. -/
  | done {seen : List String} : Discovers mentions seen [] []
  /-- A name that was seen is passed by. -/
  | known {seen rest found : List String} {name : String} (isKnown : name ∈ seen)
      (behind : Discovers mentions seen rest found) : Discovers mentions seen (name :: rest) found
  /-- A name that was not seen is found, then what is new among the names that are mentioned there,
  and then what is still new behind it. -/
  | new {seen rest mentioned below found : List String} {name : String} (isNew : name ∉ seen)
      (isMentioned : mentions name mentioned)
      (inside : Discovers mentions (seen ++ [name]) mentioned below)
      (behind : Discovers mentions (seen ++ name :: below) rest found) :
    Discovers mentions seen (name :: rest) (name :: (below ++ found))

namespace Discovers

variable {mentions mentions' : String → List String → Prop}
  {seen names more found behind : List String}

/-- A walk through names that goes on through more names. -/
theorem append (h : Discovers mentions seen names found)
    (h' : Discovers mentions (seen ++ found) more behind) :
    Discovers mentions seen (names ++ more) (found ++ behind) := by
  induction h generalizing behind with
  | done => simpa using h'
  | known isKnown _ ih => exact .known isKnown (ih h')
  | new isNew isMentioned inside _ _ ih =>
    rw [List.cons_append, List.cons_append, List.append_assoc]
    refine .new isNew isMentioned inside (ih ?_)
    simpa using h'

/-- A walk along mentions is one along more mentions. -/
theorem mono (h : Discovers mentions seen names found)
    (hmore : ∀ name mentioned, mentions name mentioned → mentions' name mentioned) :
    Discovers mentions' seen names found := by
  induction h with
  | done => exact .done
  | known isKnown _ ih => exact .known isKnown ih
  | new isNew isMentioned _ _ ihInside ihBehind =>
    exact .new isNew (hmore _ _ isMentioned) ihInside ihBehind

end Discovers

/-- What is mentioned under a declared name: the body is that of the schema with this name, and these
are the names in its tree, in the order of the text. -/
def Block.MentionsAt (setting : Setting) (root : Schema) (block : Block) (name : String)
    (mentioned : List String) : Prop :=
  ∃ declaration ∈ block.declarations, declaration.name = name ∧
    ∃ schema tree, block.Owns setting root name schema ∧ HasBody setting block schema tree ∧
      declaration.body = some (tree.body setting) ∧ tree.names = mentioned

/-- A block goes over into another one by declaring what a depth-first walk through names finds, in
the order of the walk. The root is seen before, so its schema does not matter. -/
def Block.GoesThrough (setting : Setting) (b : Block) (names : List String) (b' : Block) : Prop :=
  ∃ found, b'.names = b.names ++ found ∧
    ∀ root, Discovers (b'.MentionsAt setting root) b.names names found

section Walks

variable {setting : Setting} {root : Schema} {b b' b'' : Block} {names more : List String}
  {name : String}

/-- Mentions are kept with the names and the finished declarations of a block. -/
theorem Block.MentionsAt.kept {mentioned : List String}
    (h : b.MentionsAt setting root name mentioned) (hk : NamesKept setting (fun _ => True) b b')
    (hd : ∀ declaration ∈ b.declarations, declaration.body.isSome →
      declaration ∈ b'.declarations) : b'.MentionsAt setting root name mentioned := by
  obtain ⟨declaration, hm, hn, schema, tree, ho, ht, hb, hnames⟩ := h
  exact ⟨declaration, hd declaration hm (by simp [hb]), hn, schema, tree, ho.kept hk,
    (ht.kept hk).1, hb, hnames⟩

/-- What is declared in a block is declared in its extensions. -/
theorem Block.Extends.names_subset (h : b.Extends setting b') : b.names ⊆ b'.names := by
  obtain ⟨added, hb, -⟩ := h.declarations
  rw [Block.names, Block.names, hb, List.map_append]
  exact List.subset_append_left _ _

/-- What is mentioned in a block is mentioned in its extensions. -/
theorem Block.Extends.mentionsAt (h : b.Extends setting b') {mentioned : List String}
    (hm : b.MentionsAt setting root name mentioned) : b'.MentionsAt setting root name mentioned := by
  obtain ⟨added, hb, -⟩ := h.declarations
  refine hm.kept h.namesKept fun declaration hd _ => ?_
  rw [hb]
  exact List.mem_append_left _ hd

namespace Block.GoesThrough

/-- A block without a step. -/
theorem none : b.GoesThrough setting [] b :=
  ⟨[], (List.append_nil _).symm, fun _ => .done⟩

/-- A declared name, at which there is nothing new. -/
theorem known (h : name ∈ b.names) : b.GoesThrough setting [name] b :=
  ⟨[], (List.append_nil _).symm, fun _ => .known h .done⟩

/-- Steps one after the other go through the names of both. -/
theorem append (h : b.GoesThrough setting names b') (h' : b'.GoesThrough setting more b'')
    (hx : b'.Extends setting b'') : b.GoesThrough setting (names ++ more) b'' := by
  obtain ⟨found, hb, hwalk⟩ := h
  obtain ⟨found', hb', hwalk'⟩ := h'
  rw [hb] at hb' hwalk'
  refine ⟨found ++ found', by rw [hb', List.append_assoc], fun root => ?_⟩
  exact ((hwalk root).mono fun _ _ => hx.mentionsAt).append (hwalk' root)

end Block.GoesThrough

section Opening

variable {schema : Schema} {tree : BodyTree} {titled : List (Schema × String)}
  {references : List (String × String)}

/-- A name that was not declared is found: its declaration is opened, then there is a walk through
the names in the body of its schema, and then the declaration is closed. -/
theorem discovers_opened (hnew : name ∉ b.names)
    (hx : (b.opened name schema.description titled references).Extends setting b')
    (ho : b'.Owns setting root name schema) (ht : HasBody setting b' schema tree)
    {found : List String}
    (hwalk : Discovers (b'.MentionsAt setting root) (b.names ++ [name]) tree.names found) :
    Discovers ((b'.complete b.declarations.length (tree.body setting)).MentionsAt setting root)
      b.names [name] (name :: found) := by
  have hk := Block.namesKept_complete setting b' b.declarations.length (tree.body setting)
  obtain ⟨added, hadded, -⟩ := hx.declarations_opened
  have hmentions : (b'.complete b.declarations.length (tree.body setting)).MentionsAt setting root
      name tree.names := by
    refine ⟨⟨name, schema.description, some (tree.body setting)⟩, ?_, rfl, schema, tree, ho.kept hk,
      (ht.kept hk).1, rfl, rfl⟩
    rw [Block.declarations_complete hadded]
    exact List.mem_append_right _ List.mem_cons_self
  have hinside := hwalk.mono fun _ _ hm => hm.kept hk fun _ hd hbody =>
    hx.mem_complete hd hbody (tree.body setting)
  rw [← List.append_nil found]
  exact .new hnew hmentions hinside .done

/-- A step that declares a name goes through it. -/
theorem Block.GoesThrough.declared (hnew : name ∉ b.names)
    (hx : (b.opened name schema.description titled references).Extends setting b')
    (ho : ∀ root, b'.Owns setting root name schema) (ht : HasBody setting b' schema tree)
    (h : (b.opened name schema.description titled references).GoesThrough setting tree.names b') :
    b.GoesThrough setting [name] (b'.complete b.declarations.length (tree.body setting)) := by
  obtain ⟨found, hb, hwalk⟩ := h
  rw [Block.names_opened] at hb hwalk
  refine ⟨name :: found, ?_, fun root => discovers_opened hnew hx (ho root) ht (hwalk root)⟩
  rw [Block.names_complete, hb]
  simp

end Opening

end Walks

end ProgramConnector.TypeScript
