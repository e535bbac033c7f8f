import ProgramConnector.Proofs.TypeScript.ClosedBlock
import ProgramConnector.Proofs.TypeScript.Simulation

/-!
# Profiles and root names decide nothing

Which declarations a schema needs, and in which order, is decided by the schema alone. The rendering
profile and the name of the root are seen in texts and in names only: two runs that differ in them
declare the same titled schemas and the same references, and each declaration is of the same kind in
both. Under equal root names the declared names are equal as well.
-/

namespace ProgramConnector.TypeScript

/-- Whether a declaration is an interface, once its body is known. -/
def Declaration.isInterface? (declaration : Declaration) : Option Bool :=
  declaration.body.map Body.isInterface

/-- Two declarations are of the same kind: both are written, and both are interfaces or none is. -/
def Declaration.SameKind (declaration declaration' : Declaration) : Prop :=
  ∃ body body', declaration.body = some body ∧ declaration'.body = some body' ∧
    body'.isInterface = body.isInterface

/-- Two blocks have the same shape: their declarations are of the same kinds, as far as they are
known, and belong to the same titled schemas and references. -/
structure Block.SameShape (sameNames : Prop) (b b' : Block) : Prop where
  /-- The declarations are of the same kinds. -/
  kinds : b'.declarations.map Declaration.isInterface? =
    b.declarations.map Declaration.isInterface?
  /-- The same titled schemas are declared. -/
  titled : b'.titled.map Prod.fst = b.titled.map Prod.fst
  /-- The same references are declared. -/
  references : Members.keys b'.references = Members.keys b.references
  /-- The names are equal where they are meant to be. -/
  names : sameNames → b'.names = b.names ∧ b'.used = b.used

section Shapes

variable {sameNames : Prop} {b b' : Block}

/-- Blocks of the same shape have equally many declarations. -/
theorem Block.SameShape.length_eq (h : b.SameShape sameNames b') :
    b'.declarations.length = b.declarations.length := by
  have hlength := congrArg List.length h.kinds
  rwa [List.length_map, List.length_map] at hlength

/-- Runs that are not meant to be the same only have to know the same schemas and references. -/
theorem Block.SameShape.knowsAlike (h : b.SameShape sameNames b') :
    Block.KnowsAlike False b b' :=
  ⟨h.titled, h.references, False.elim⟩

/-- Opening a declaration in both blocks gives blocks of the same shape. -/
theorem Block.SameShape.opened (h : b.SameShape sameNames b') {name name' : String}
    {description : Option String} {titled titled' : List (Schema × String)}
    {references references' : List (String × String)} (hname : sameNames → name' = name)
    (htitled : titled'.map Prod.fst = titled.map Prod.fst)
    (hreferences : Members.keys references' = Members.keys references) :
    (b.opened name description titled references).SameShape sameNames
      (b'.opened name' description titled' references') := by
  refine ⟨?_, htitled, hreferences, fun hs => ?_⟩
  · simp only [Block.opened, List.map_append, h.kinds]
    rfl
  · obtain ⟨hnames, hused⟩ := h.names hs
    simp only [Block.names] at hnames
    simp [Block.names, Block.opened, hnames, hused, hname hs]

/-- The kinds of declarations after the one at a place has its body. -/
theorem Block.kinds_complete (b : Block) (place : Nat) (body : Body) :
    (b.complete place body).declarations.map Declaration.isInterface? =
      (b.declarations.map Declaration.isInterface?).modify place fun _ =>
        some body.isInterface := by
  apply List.ext_getElem?
  intro i
  simp only [Block.complete, List.getElem?_map, List.getElem?_modify]
  split <;> cases b.declarations[i]? <;> rfl

/-- Closing a declaration with bodies of the same kind keeps the shapes the same. -/
theorem Block.SameShape.complete (h : b.SameShape sameNames b') (place : Nat) {same : Prop}
    {body body' : Body} (hbody : Body.Alike same body body') :
    (b.complete place body).SameShape sameNames (b'.complete place body') := by
  refine ⟨?_, h.titled, h.references, fun hs => ?_⟩
  · rw [Block.kinds_complete, Block.kinds_complete, h.kinds, hbody.kind]
  · rw [Block.names_complete, Block.names_complete]
    exact h.names hs

end Shapes

/-! ## Two runs on one document -/

section Runs

variable {setting setting' : Setting}

/-- The relation between the blocks of two runs: the same shape, and the same names under equal root
names. -/
abbrev SameShapeIn (setting setting' : Setting) : Block → Block → Prop :=
  Block.SameShape (setting'.rootName = setting.rootName)

/-- The steps below go side by side in two settings: they fail with the same error, or give bodies
of the same kind and blocks of the same shape. -/
structure SameBelow (setting setting' : Setting) (below below' : Below) : Prop where
  /-- Where a type is expected. -/
  expression : ∀ schema level, Simulates Eq (SameShapeIn setting setting') (Alike False)
    (below.expression schema level) (below'.expression schema level)
  /-- Where a schema is declared. -/
  body : ∀ schema, Simulates Eq (SameShapeIn setting setting') (Body.Alike False)
    (below.body schema) (below'.body schema)

/-- A schema is declared in both runs under names that are equal when the root names are. -/
theorem SameBelow.opened {below below' : Below} (h : SameBelow setting setting' below below')
    {b b' : Block} (hb : SameShapeIn setting setting' b b') {name name' base : String}
    (hname : name = uniqueName b.used base) (hname' : name' = uniqueName b'.used base)
    (schema : Schema) {titled titled' : List (Schema × String)}
    {references references' : List (String × String)}
    (htitled : titled'.map Prod.fst = titled.map Prod.fst)
    (hreferences : Members.keys references' = Members.keys references) :
    SimulatesOpened Eq (SameShapeIn setting setting') False below.body below'.body schema
      (b.opened name schema.description titled references)
      (b'.opened name' schema.description titled' references')
      b.declarations.length b'.declarations.length := by
  refine ⟨_, hb.opened (fun hs => ?_) htitled hreferences, h.body schema, ?_⟩
  · rw [hname', (hb.names hs).2, hname]
  · intro c c' result result' hc hresult
    rw [hb.length_eq]
    exact hc.complete _ hresult

/-- Steps over steps that go side by side in two settings of one document do so too. -/
theorem sameBelow_step {below below' : Below} (h : SameBelow setting setting' below below')
    (hdocument : setting'.document = setting.document) :
    SameBelow setting setting' ⟨expression setting below, declarationBody setting below⟩
      ⟨expression setting' below', declarationBody setting' below'⟩ := by
  have hknows : ∀ b b', SameShapeIn setting setting' b b' → Block.KnowsAlike False b b' :=
    fun b b' hb => hb.knowsAlike
  have hbelow : ∀ schema, SimulatesBelow Eq (SameShapeIn setting setting') False setting setting'
      below below' schema := by
    refine fun schema => ⟨fun part _ level => h.expression part level,
      fun facts reference _ _ => ?_, fun _ _ => rfl, False.elim⟩
    refine resolve_simulates hknows hdocument False.elim (fun _ _ => rfl) ?_
    intro b b' name name' target hb _ _ _ hname hname'
    refine h.opened hb hname hname' target hb.titled ?_
    exact congrArg (reference :: ·) hb.references
  refine ⟨fun schema level => ?_, fun schema => declarationBody_simulates (hbelow schema)⟩
  refine expression_simulates False.elim (fun _ => hbelow schema) (fun title _ => ?_) level
  refine nameTitled_simulates hknows fun b b' name name' hb _ hname hname' => ?_
  refine h.opened hb hname hname' schema ?_ hb.references
  rw [List.map_append, List.map_append, hb.titled]
  rfl

/-- At every bound the steps go side by side in two settings of one document. -/
theorem sameBelow_at (hdocument : setting'.document = setting.document) (bound : Nat) :
    SameBelow setting setting' ⟨expressionAt setting bound, bodyAt setting bound⟩
      ⟨expressionAt setting' bound, bodyAt setting' bound⟩ := by
  induction bound with
  | zero =>
    refine ⟨fun schema level => ?_, fun schema => ?_⟩
    · simp only [expressionAt]
      exact .throw rfl
    · simp only [bodyAt]
      exact .throw rfl
  | succ bound ih => exact sameBelow_step ih hdocument

end Runs

/-! ## The whole run -/

section Blocks

variable (schema : Schema) (rootName rootName' : String) (profile profile' : Profile)

/-- Under two root names and two profiles a schema fails with the same error, or gives blocks of the
same shape. -/
theorem blockOf_sameShape :
    (∃ error, blockOf schema rootName profile = .error error ∧
      blockOf schema rootName' profile' = .error error) ∨
    ∃ block block', blockOf schema rootName profile = .ok block ∧
      blockOf schema rootName' profile' = .ok block' ∧
      block.SameShape (rootName' = rootName) block' := by
  have hstart : Block.SameShape (rootName' = rootName)
      (Block.start rootName schema.description) (Block.start rootName' schema.description) :=
    ⟨rfl, rfl, rfl, fun hs => by rw [hs]; exact ⟨rfl, rfl⟩⟩
  have hdocument : (⟨profile', rootName', schema.toJson⟩ : Setting).document =
      (⟨profile, rootName, schema.toJson⟩ : Setting).document := rfl
  have hends := (sameBelow_at hdocument (stepBound schema.toJson)).body schema _ _ hstart
  dsimp only [blockOf]
  generalize (bodyAt ⟨profile, rootName, schema.toJson⟩ _ schema).run _ = run at hends ⊢
  generalize (bodyAt ⟨profile', rootName', schema.toJson⟩ _ schema).run _ = run' at hends ⊢
  cases hends with
  | error errors => exact .inl ⟨_, rfl, errors ▸ rfl⟩
  | ok values blocks => exact .inr ⟨_, _, rfl, rfl, blocks.complete 0 values⟩

/-- Finished blocks of the same shape have declarations of the same kinds. -/
theorem Block.SameShape.sameKinds {sameNames : Prop} {b b' : Block}
    (h : b.SameShape sameNames b')
    (hb : ∀ declaration ∈ b.declarations, declaration.body.isSome) :
    List.Forall₂ Declaration.SameKind b.declarations b'.declarations := by
  have hkinds : List.Forall₂ (fun declaration declaration' : Declaration =>
      declaration'.isInterface? = declaration.isInterface?) b.declarations b'.declarations := by
    have heq : List.Forall₂ (fun kind kind' : Option Bool => kind' = kind)
        (b.declarations.map Declaration.isInterface?)
        (b'.declarations.map Declaration.isInterface?) := by
      rw [h.kinds]
      exact List.forall₂_same.2 fun _ _ => rfl
    rwa [List.forall₂_map_left_iff, List.forall₂_map_right_iff] at heq
  have hboth := (List.forall₂_and_left (p := fun declaration : Declaration =>
    declaration.body.isSome = true) _ _).2 ⟨hb, hkinds⟩
  refine hboth.imp fun declaration declaration' ⟨hsome, hkind⟩ => ?_
  obtain ⟨body, hbody⟩ := Option.isSome_iff_exists.1 hsome
  rw [Declaration.isInterface?, Declaration.isInterface?, hbody, Option.map_some,
    Option.map_eq_some_iff] at hkind
  obtain ⟨body', hbody', hkind⟩ := hkind
  exact ⟨body, body', hbody, hbody', hkind⟩

/-- Under any two root names and any two profiles, compiling a schema fails with the same error, or
it succeeds with equally many declarations of the same kinds in the same order; under equal root
names the declared names are the same. -/
theorem compile_sameShape :
    (∃ error, compile schema rootName profile = .error error ∧
      compile schema rootName' profile' = .error error) ∨
    ∃ block block',
      (blockOf schema rootName profile = .ok block ∧
        compile schema rootName profile =
          .ok (renderBlock profile.bannerComment block.declarations)) ∧
      (blockOf schema rootName' profile' = .ok block' ∧
        compile schema rootName' profile' =
          .ok (renderBlock profile'.bannerComment block'.declarations)) ∧
      List.Forall₂ Declaration.SameKind block.declarations block'.declarations ∧
      (rootName = rootName' → block.names = block'.names) := by
  unfold compile declarations
  rcases blockOf_sameShape schema rootName rootName' profile profile' with
    ⟨error, he, he'⟩ | ⟨block, block', hb, hb', hshape⟩
  · rw [he, he']
    exact .inl ⟨error, rfl, rfl⟩
  · have hclosed := isClosed_of_blockOf hb
    rw [hb, hb']
    refine .inr ⟨block, block', ⟨rfl, rfl⟩, ⟨rfl, rfl⟩, hshape.sameKinds fun declaration hm => ?_,
      fun hs => (hshape.names hs.symm).1.symm⟩
    obtain ⟨known, tree, hknown⟩ := hclosed.declared declaration hm
    rw [hknown.body]
    rfl

end Blocks

end ProgramConnector.TypeScript
