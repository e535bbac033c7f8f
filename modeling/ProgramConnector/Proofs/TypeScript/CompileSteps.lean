import ProgramConnector.Proofs.Json.Values
import ProgramConnector.Proofs.Results
import ProgramConnector.Proofs.TypeScript.DiscoveryOrder

/-!
# What the steps of compilation yield

Every step that succeeds extends the block, and its text is the text of the tree that its schema has
in the block that it leaves. The declarations that it adds are those that a depth-first walk through
the names in this tree finds, in the order of the walk. The statement is proved for each step over
the steps below it, in the order in which the steps are defined, and then for every bound on the
steps inside one another.
-/

namespace ProgramConnector.TypeScript

variable {α β γ δ ε : Type} {setting : Setting}

/-- A step that succeeds extends a well named block to a well named block, and its value is rendered
from something that can be read in the block that it leaves. -/
def Yields (setting : Setting) (step : Compile β) (read : Block → γ → Prop) (render : γ → β) :
    Prop :=
  ∀ b r b', b.WellNamed → step.run b = .ok (r, b') →
    b'.WellNamed ∧ b.Extends setting b' ∧ ∃ tree, read b' tree ∧ r = render tree

/-- A step that yields something goes through the names that are mentioned there, when the root is
declared before it. -/
def YieldsInOrder (setting : Setting) (step : Compile β) (read : Block → γ → Prop) (render : γ → β)
    (names : γ → List String) : Prop :=
  ∀ b r b', b.WellNamed → step.run b = .ok (r, b') →
    b'.WellNamed ∧ b.Extends setting b' ∧ ∃ tree, read b' tree ∧ r = render tree ∧
      (setting.rootName ∈ b.names → b.GoesThrough setting (names tree) b')

/-- What is read in a block is read in every extension of it. -/
def Stable (setting : Setting) (read : Block → γ → Prop) : Prop :=
  ∀ b b' tree, b.Extends setting b' → read b tree → read b' tree

/-- A step followed by another one succeeds when both do. -/
theorem run_bind_eq_ok {step : Compile α} {next : α → Compile β} {b b'' : Block} {r : β}
    (h : (step >>= next).run b = .ok (r, b'')) :
    ∃ a b', step.run b = .ok (a, b') ∧ (next a).run b' = .ok (r, b'') := by
  rw [StateT.run_bind] at h
  obtain ⟨p, hp, h⟩ := bind_eq_ok h
  exact ⟨p.1, p.2, hp, h⟩

/-- Steps that yield something for the elements of a list. -/
theorem Yields.mapM {step : α → Compile β} {read : Block → α → γ → Prop} {render : γ → β}
    (hs : ∀ a, Yields setting (step a) (fun b => read b a) render)
    (hstable : ∀ a, Stable setting fun b => read b a) (xs : List α) :
    Yields setting (xs.mapM step) (fun b => List.Forall₂ (read b) xs) (List.map render) := by
  induction xs with
  | nil =>
    intro b r b' hw h
    rw [List.mapM_nil] at h
    obtain ⟨rfl, rfl⟩ := Prod.mk.inj (Except.ok.inj h)
    exact ⟨hw, .refl setting _, [], .nil, rfl⟩
  | cons x xs ih =>
    intro b r b'' hw h
    rw [List.mapM_cons] at h
    obtain ⟨value, b', hvalue, h⟩ := run_bind_eq_ok h
    obtain ⟨values, last, hvalues, h⟩ := run_bind_eq_ok h
    obtain ⟨rfl, rfl⟩ := Prod.mk.inj (Except.ok.inj h)
    obtain ⟨hw', hx, tree, ht, rfl⟩ := hs x b value b' hw hvalue
    obtain ⟨hw'', hx', trees, hts, rfl⟩ := ih b' values last hw' hvalues
    exact ⟨hw'', hx.trans hx', tree :: trees, .cons (hstable x b' last tree hx' ht) hts, rfl⟩

namespace YieldsInOrder

variable {read : Block → γ → Prop} {render : γ → β} {names : γ → List String}

/-- The order may be left out. -/
theorem yields {step : Compile β} (hs : YieldsInOrder setting step read render names) :
    Yields setting step read render := by
  intro b r b' hw h
  obtain ⟨hw', hx, tree, ht, hr, -⟩ := hs b r b' hw h
  exact ⟨hw', hx, tree, ht, hr⟩

/-- A value that needs no step. -/
theorem pure {value : β} (tree : γ) (ht : ∀ b, read b tree) (hv : value = render tree)
    (hn : names tree = []) : YieldsInOrder setting (Pure.pure value) read render names := by
  intro b r b' hw h
  obtain ⟨rfl, rfl⟩ := Prod.mk.inj (Except.ok.inj h)
  exact ⟨hw, .refl setting _, tree, ht _, hv, fun _ => hn ▸ .none⟩

/-- A step that fails yields anything. -/
theorem throw (error : CompileError) :
    YieldsInOrder setting (MonadExcept.throw error : Compile β) read render names :=
  fun _ _ _ _ h => nomatch h

/-- Less may be said of what is read. -/
theorem imp {step : Compile β} {readLess : Block → γ → Prop}
    (hs : YieldsInOrder setting step read render names)
    (himp : ∀ b tree, read b tree → readLess b tree) :
    YieldsInOrder setting step readLess render names := by
  intro b r b' hw h
  obtain ⟨hw', hx, tree, ht, hr, hfound⟩ := hs b r b' hw h
  exact ⟨hw', hx, tree, himp b' tree ht, hr, hfound⟩

/-- Steps one after the other: what the first one yields is still read when the second one is done,
and the names of both are gone through in order. -/
theorem bind {step : Compile α} {next : α → Compile β} {read : Block → γ → Prop} {render : γ → α}
    {names : γ → List String} {readNext : Block → δ → Prop} {renderNext : γ → δ → β}
    {namesNext : δ → List String} {readBoth : Block → ε → Prop} {renderBoth : ε → β}
    {namesBoth : ε → List String} (combine : γ → δ → ε)
    (hs : YieldsInOrder setting step read render names) (hstable : Stable setting read)
    (hnext : ∀ tree,
      YieldsInOrder setting (next (render tree)) readNext (renderNext tree) namesNext)
    (hread : ∀ b tree last, read b tree → readNext b last → readBoth b (combine tree last))
    (hrender : ∀ tree last, renderNext tree last = renderBoth (combine tree last))
    (hnames : ∀ tree last, namesBoth (combine tree last) = names tree ++ namesNext last) :
    YieldsInOrder setting (step >>= next) readBoth renderBoth namesBoth := by
  intro b r b'' hw h
  obtain ⟨a, b', hrun, h⟩ := run_bind_eq_ok h
  obtain ⟨hw', hx, tree, ht, rfl, hfirst⟩ := hs b a b' hw hrun
  obtain ⟨hw'', hx', last, hl, rfl, hsecond⟩ := hnext tree b' r b'' hw' h
  refine ⟨hw'', hx.trans hx', combine tree last,
    hread b'' tree last (hstable b' b'' tree hx' ht) hl, hrender tree last, fun hroot => ?_⟩
  rw [hnames]
  exact (hfirst hroot).append (hsecond (hx.names_subset hroot)) hx'

/-- A step whose value is rewritten. -/
theorem map {step : Compile α} {render : γ → α} {f : α → β} {readMapped : Block → δ → Prop}
    {renderMapped : δ → β} {namesMapped : δ → List String}
    (hs : YieldsInOrder setting step read render names) (g : γ → δ)
    (hread : ∀ b tree, read b tree → readMapped b (g tree))
    (hf : ∀ tree, f (render tree) = renderMapped (g tree))
    (hnames : ∀ tree, namesMapped (g tree) = names tree) :
    YieldsInOrder setting (step >>= fun value => Pure.pure (f value)) readMapped renderMapped
      namesMapped := by
  intro b r b'' hw h
  obtain ⟨a, b', hrun, hnext⟩ := run_bind_eq_ok h
  obtain ⟨hw', hx, tree, ht, rfl, hfound⟩ := hs b a b' hw hrun
  obtain ⟨rfl, rfl⟩ := Prod.mk.inj (Except.ok.inj hnext)
  refine ⟨hw', hx, g tree, hread _ tree ht, hf tree, fun hroot => ?_⟩
  rw [hnames]
  exact hfound hroot

/-- Steps for the elements of a list. -/
theorem mapM {step : α → Compile β} {read : Block → α → γ → Prop} {render : γ → β}
    (hs : ∀ a, YieldsInOrder setting (step a) (fun b => read b a) render names)
    (hstable : ∀ a, Stable setting fun b => read b a) (xs : List α) :
    YieldsInOrder setting (xs.mapM step) (fun b => List.Forall₂ (read b) xs) (List.map render)
      fun trees => trees.flatMap names := by
  induction xs with
  | nil =>
    rw [List.mapM_nil]
    exact .pure [] (fun _ => .nil) rfl rfl
  | cons x xs ih =>
    rw [List.mapM_cons]
    have hrest : ∀ tree, YieldsInOrder setting
        (xs.mapM step >>= fun values => Pure.pure (render tree :: values))
        (fun b => List.Forall₂ (read b) xs) (fun rest => render tree :: rest.map render)
        fun rest => rest.flatMap names :=
      fun tree => .map ih id (fun b rest hr => hr) (fun rest => rfl) fun rest => rfl
    exact .bind List.cons (hs x) (hstable x) hrest (fun b tree rest => .cons)
      (fun tree rest => rfl) fun tree rest => List.flatMap_cons

end YieldsInOrder

/-! ## Declared schemas -/

/-- The steps below follow the trees below: they yield the text of a tree where a type is expected,
and a body where a schema is declared. -/
structure Follows (setting : Setting) (below : Below) (tree : Block → Schema → TypeTree → Prop) :
    Prop where
  /-- Trees stay in a growing block. -/
  stable : ∀ b b', b.Extends setting b' → TreesKept (fun _ => True) (tree b) (tree b')
  /-- Where a type is expected. -/
  expression : ∀ schema level, Yields setting (below.expression schema level)
    (fun b => tree b schema) fun t => t.text setting level
  /-- Where a schema is declared. -/
  body : ∀ schema, Yields setting (below.body schema) (fun b => HasBody setting b schema)
    fun t => t.body setting

/-- The steps below follow the trees below, and go through the names in them. -/
structure FollowsInOrder (setting : Setting) (below : Below)
    (tree : Block → Schema → TypeTree → Prop) : Prop where
  /-- Trees stay in a growing block. -/
  stable : ∀ b b', b.Extends setting b' → TreesKept (fun _ => True) (tree b) (tree b')
  /-- Where a type is expected. -/
  expression : ∀ schema level, YieldsInOrder setting (below.expression schema level)
    (fun b => tree b schema) (fun t => t.text setting level) TypeTree.names
  /-- Where a schema is declared. -/
  body : ∀ schema, YieldsInOrder setting (below.body schema) (fun b => HasBody setting b schema)
    (fun t => t.body setting) BodyTree.names

/-- Opening a declaration under a free name, compiling the body and closing the declaration extends
the block, which goes through the name. The name is known for what it was opened for. -/
theorem open_close {body : Schema → Compile Body} {schema : Schema} {name : String} {b : Block}
    {titled : List (Schema × String)} {references : List (String × String)}
    (hbody : YieldsInOrder setting (body schema) (fun b => HasBody setting b schema)
      (fun t => t.body setting) BodyTree.names)
    (hw : b.WellNamed) (hfree : name ∉ b.used) (hplain : Naming.IsPlain name.toList)
    (htitled : ∃ added, titled = b.titled ++ added ∧ ∀ entry ∈ added, entry = (schema, name))
    (hreferences : ∃ added, references = added ++ b.references ∧
      ∀ entry ∈ added, entry.2 = name ∧ setting.target? entry.1 = some schema)
    (howns : ∀ root, (b.opened name schema.description titled references).Owns setting root name
      schema)
    {r : Body} {b' : Block}
    (hrun : (body schema).run (b.opened name schema.description titled references) = .ok (r, b')) :
    (b'.complete b.declarations.length r).WellNamed ∧
      b.Extends setting (b'.complete b.declarations.length r) ∧
      (∀ entry ∈ titled, entry ∈ b'.titled) ∧ (∀ entry ∈ references, entry ∈ b'.references) ∧
      (setting.rootName ∈ b.names →
        b.GoesThrough setting [name] (b'.complete b.declarations.length r)) := by
  have ho : (b.opened name schema.description titled references).WellNamed := by
    obtain ⟨t, rfl, ht⟩ := htitled
    obtain ⟨s, rfl, hs⟩ := hreferences
    refine hw.opened hfree (fun entry he => ?_) (fun entry he => ?_)
    · rcases List.mem_append.1 he with he | he
      · exact .inl he
      · exact .inr ⟨by rw [ht entry he], hplain⟩
    · rcases List.mem_append.1 he with he | he
      · exact .inr ⟨(hs entry he).1, hplain⟩
      · exact .inl he
  obtain ⟨hw', hx, tree, ht, rfl, hfound⟩ := hbody _ r b' ho hrun
  have hk := hx.namesKept
  have hnew : name ∉ b.names := by
    rw [hw.used, List.mem_reverse] at hfree
    exact hfree
  refine ⟨hw'.complete _ _, hx.close ht htitled hreferences, fun entry he => (hk.titled entry he).1,
    fun entry he => (hk.references entry he).1,
    fun hroot => .declared hnew hx (fun root => (howns root).kept hk) ht (hfound ?_)⟩
  rw [Block.names_opened]
  exact List.mem_append_left _ hroot

/-- A declaration that succeeds has compiled the body in the block in which it has its place. -/
theorem declare_eq_ok {body : Schema → Compile Body} {schema : Schema} {name : String}
    {b b' : Block} {u : Unit} (h : (declare body name schema).run b = .ok (u, b')) :
    ∃ r b₁, (body schema).run (b.declare name schema.description) = .ok (r, b₁) ∧
      b' = b₁.complete b.declarations.length r := by
  obtain ⟨_, _, hget, h⟩ := run_bind_eq_ok h
  obtain ⟨rfl, rfl⟩ := Prod.mk.inj (Except.ok.inj hget)
  obtain ⟨_, _, hplace, h⟩ := run_bind_eq_ok h
  obtain ⟨rfl, rfl⟩ := Prod.mk.inj (Except.ok.inj hplace)
  obtain ⟨r, b₁, hbody, h⟩ := run_bind_eq_ok h
  obtain ⟨-, rfl⟩ := Prod.mk.inj (Except.ok.inj h)
  exact ⟨r, b₁, hbody, rfl⟩

/-- A name is taken, entered into the tables and declared: what is compiled is the body, in the
block in which the declaration is open. -/
theorem take_declare_eq_ok {body : Schema → Compile Body} {schema : Schema} {base : String}
    {enter : String → Block → Block} {b b' : Block} {r : String}
    (h : (do
      let name ← takeName base
      modify (enter name)
      declare body name schema
      return name : Compile String).run b = .ok (r, b')) :
    ∃ value b₁,
      (body schema).run
        ((enter r ⟨b.declarations, r :: b.used, b.titled, b.references⟩).declare r
          schema.description) = .ok (value, b₁) ∧
      r = uniqueName b.used base ∧
      b' = b₁.complete
        (enter r ⟨b.declarations, r :: b.used, b.titled, b.references⟩).declarations.length
        value := by
  obtain ⟨name, b₁, htake, h⟩ := run_bind_eq_ok h
  obtain ⟨rfl, rfl⟩ := Prod.mk.inj (Except.ok.inj htake)
  obtain ⟨_, b₂, hmodify, h⟩ := run_bind_eq_ok h
  obtain ⟨-, rfl⟩ := Prod.mk.inj (Except.ok.inj hmodify)
  obtain ⟨_, b₃, hdeclare, h⟩ := run_bind_eq_ok h
  obtain ⟨rfl, rfl⟩ := Prod.mk.inj (Except.ok.inj h)
  obtain ⟨value, b₄, hbody, hb⟩ := declare_eq_ok hdeclare
  exact ⟨value, b₄, hbody, rfl, hb⟩

/-- A titled schema yields its name. -/
theorem nameTitled_yields {below : Below} {tree : Block → Schema → TypeTree → Prop}
    (hb : FollowsInOrder setting below tree) {schema : Schema} {title : String}
    (htitle : schema.title = some title) (level : Nat) :
    YieldsInOrder setting (nameTitled below.body schema title)
      (fun b => ExpressionTree setting b (tree b) schema) (fun t => t.text setting level)
      TypeTree.names := by
  intro b r b' hw h
  have ht : schema.title.isSome := by simp [htitle]
  obtain ⟨_, _, hget, h⟩ := run_bind_eq_ok h
  obtain ⟨rfl, rfl⟩ := Prod.mk.inj (Except.ok.inj hget)
  cases hf : b.titled.find? fun entry => entry.1.same schema with
  | some entry =>
    rw [hf] at h
    obtain ⟨rfl, rfl⟩ := Prod.mk.inj (Except.ok.inj h)
    have hsame := List.find?_some hf
    have hknown := List.mem_of_find?_eq_some hf
    exact ⟨hw, .refl setting b, .named entry.2, .titled ht hknown (.inr hsame), rfl,
      fun _ => .known (hw.titled entry hknown).1⟩
  | none =>
    rw [hf] at h
    obtain ⟨value, b₁, hbody, hr, rfl⟩ := take_declare_eq_ok h
    have hfree : r ∉ b.used := hr ▸ uniqueName_not_mem b.used (Naming.typeName title)
    have hplain : Naming.IsPlain r.toList :=
      hr ▸ isPlain_uniqueName b.used (Naming.isPlain_typeName title)
    have hgiven : (schema, r) ∈ b.titled ++ [(schema, r)] :=
      List.mem_append_right _ List.mem_cons_self
    obtain ⟨hw', hx, hkt, -, hfound⟩ := open_close (hb.body schema) hw hfree hplain
      ⟨[(schema, r)], rfl, by simp⟩ ⟨[], rfl, by simp⟩ (fun _ => .titled hgiven) hbody
    exact ⟨hw', hx, .named r, .titled ht (hkt (schema, r) hgiven) (.inl rfl), rfl, hfound⟩

/-- A reference yields the name of its target. -/
theorem resolve_yields {below : Below} {tree : Block → Schema → TypeTree → Prop}
    (hb : FollowsInOrder setting below tree) (reference : String) (level : Nat) :
    YieldsInOrder setting (resolve setting below reference)
      (fun b => ReferenceTree setting b reference) (fun t => t.text setting level)
      TypeTree.names := by
  intro b r b' hw h
  unfold resolve at h
  by_cases hroot : reference = "#"
  · subst hroot
    obtain ⟨rfl, rfl⟩ := Prod.mk.inj (Except.ok.inj h)
    exact ⟨hw, .refl setting _, .named setting.rootName, .root, rfl, .known⟩
  have hne : (reference == "#") = false := by simp [hroot]
  simp only [hne, Bool.false_eq_true, if_false] at h
  obtain ⟨_, _, hget, h⟩ := run_bind_eq_ok h
  obtain ⟨rfl, rfl⟩ := Prod.mk.inj (Except.ok.inj hget)
  cases hf : Members.find? reference b.references with
  | some name =>
    rw [hf] at h
    obtain ⟨rfl, rfl⟩ := Prod.mk.inj (Except.ok.inj h)
    have hknown := Members.mem_of_find? hf
    exact ⟨hw, .refl setting b, .named name, .target hknown, rfl,
      fun _ => .known (hw.references _ hknown).1⟩
  | none =>
    rw [hf] at h
    dsimp only at h
    split at h
    · exact nomatch h
    · rename_i value hvalue
      split at h
      · exact nomatch h
      · rename_i schema hschema
        have htarget : setting.target? reference = some schema := by
          unfold Setting.target?
          split at hvalue
          · rename_i hsharp
            rw [if_pos hsharp, hvalue]
            exact hschema
          · exact nomatch hvalue
        obtain ⟨body, b₁, hbody, hr, rfl⟩ := take_declare_eq_ok h
        have hfree : r ∉ b.used := hr ▸ uniqueName_not_mem b.used _
        have hplain : Naming.IsPlain r.toList :=
          hr ▸ isPlain_uniqueName b.used (Naming.isPlain_typeName _)
        obtain ⟨hw', hx, -, hkr, hfound⟩ := open_close (hb.body schema) hw hfree hplain
          ⟨[], by simp, by simp⟩ ⟨[(reference, r)], rfl, by simp [htarget]⟩
          (fun _ => .reference List.mem_cons_self htarget) hbody
        exact ⟨hw', hx, .named r, .target (hkr (reference, r) List.mem_cons_self), rfl, hfound⟩

/-! ## Expressions -/

section Expressions

variable {below : Below} {tree : Block → Schema → TypeTree → Prop}

/-- Trees stay in a growing block. -/
theorem FollowsInOrder.stable_tree (hb : FollowsInOrder setting below tree) (schema : Schema) :
    Stable setting fun b => tree b schema :=
  fun b b' t hx ht => (hb.stable b b' hx schema t ht).1

/-- The literal types of values. -/
theorem enumeration_yields (values : Json) (level : Nat) :
    YieldsInOrder setting (enumeration setting values)
      (fun _ (t : TypeTree) => ∃ elements, values = .arr elements ∧ t = .literals elements)
      (fun t => t.text setting level) TypeTree.names := by
  cases values with
  | arr elements =>
    cases elements with
    | nil => exact .pure (.literals []) (fun _ => ⟨[], rfl, rfl⟩) rfl rfl
    | cons first rest =>
      exact .pure (.literals (first :: rest)) (fun _ => ⟨first :: rest, rfl, rfl⟩) rfl rfl
  | _ => exact .throw _

/-- The members of a combination, with the separator between them. -/
theorem combination_yields (hb : FollowsInOrder setting below tree) (keyword : String) (join : Join)
    (level : Nat) (members : Json) :
    YieldsInOrder setting (combination setting below keyword join.separator level members)
      (fun b (t : TypeTree) => ∃ elements parts, members = .arr elements ∧
        t = .combined join parts ∧ List.Forall₂ (CombinedTree (tree b)) elements parts)
      (fun t => t.text setting level) TypeTree.names := by
  cases members with
  | arr elements =>
    have hstable : ∀ member, Stable setting fun b => CombinedTree (tree b) member :=
      fun member b b' t hx ht => (ht.kept (hb.stable b b' hx)).1
    let render (t : TypeTree) : String := parenthesized (t.text setting level)
    refine .map (@YieldsInOrder.mapM _ _ _ setting TypeTree.names _ _ render (fun member => ?_)
      hstable elements) (.combined join) (fun b parts hp => ⟨elements, parts, rfl, rfl, hp⟩)
      (fun parts => ?_) TypeTree.namesOf_eq_flatMap
    · cases hs : Schema.ofJson? member with
      | none => exact .throw _
      | some schema =>
        exact .map (hb.expression schema level) id (fun b t ht => ⟨schema, hs, ht⟩) (fun t => rfl)
          fun t => rfl
    · simp only [TypeTree.text, TypeTree.texts_eq_map, List.map_map]
      rfl
  | _ => exact .throw _

/-- The line of a property is that of its head. -/
theorem propertyLine_eq (pad name : String) (schema : Schema) (isRequired : Bool) (type : String) :
    propertyLine pad name schema isRequired type =
      (MemberHead.property (memberComment schema) name isRequired).line pad type := by
  unfold propertyLine memberComment MemberHead.line
  cases schema.title <;> cases schema.description <;> rfl

/-- The type of further properties. -/
theorem extraType_yields (hb : FollowsInOrder setting below tree) (level : Nat) (extra : Extra) :
    YieldsInOrder setting (extraType setting below level extra)
      (fun b t => FurtherTree setting (tree b) extra
        (t.toList.map fun type => (MemberHead.further, type)))
      (Option.map fun type => type.text setting level)
      fun t => TypeTree.namesOf t.toList := by
  cases extra with
  | typed schema =>
    exact .map (hb.expression schema level) some (fun b t ht => .typed ht) (fun t => rfl)
      fun t => List.append_nil _
  | allowed allowed =>
    cases allowed with
    | true => exact .pure (some .any) (fun _ => .allowed) rfl rfl
    | false => exact .pure none (fun _ => .forbidden) rfl rfl
  | absent =>
    have hf (b : Block) : FurtherTree setting (tree b) .absent
        (if setting.profile.additionalProperties then [(.further, .any)] else []) := .absent
    cases ha : setting.profile.additionalProperties with
    | true =>
      simp only [extraType, ha, if_true] at hf ⊢
      exact .pure (some .any) hf rfl rfl
    | false =>
      simp only [extraType, ha, Bool.false_eq_true, if_false] at hf ⊢
      exact .pure none hf rfl rfl

/-- The lines of an object's members. -/
theorem memberLines_yields (hb : FollowsInOrder setting below tree) (level : Nat) (facts : SchemaFacts)
    (properties : Properties) (extra : Extra) :
    YieldsInOrder setting (memberLines setting below level facts properties extra)
      (fun b => MemberTrees setting (tree b) facts properties extra)
      (fun members => String.join (TypeTree.lineTexts setting members level))
      TypeTree.memberNames := by
  have hproperty : ∀ property : String × Schema, YieldsInOrder setting
      (do
        let type ← below.expression property.2 level
        return propertyLine (setting.profile.pad level) property.1 property.2
          (facts.required.contains property.1) type)
      (fun b => PropertyTree (tree b) facts property) (TypeTree.memberText setting level)
      fun member => member.2.names := by
    intro property
    refine .map (hb.expression property.2 level) (fun t => (.property (memberComment property.2)
      property.1 (facts.required.contains property.1), t)) (fun b t ht => ⟨rfl, ht⟩) (fun t => ?_)
      fun t => rfl
    rw [propertyLine_eq]
    rfl
  have hstable : ∀ property, Stable setting fun b => PropertyTree (tree b) facts property :=
    fun property b b' t hx ht => ⟨ht.1, (hb.stable b b' hx _ _ ht.2).1⟩
  have hlisted : Stable setting fun b =>
      List.Forall₂ (PropertyTree (tree b) facts) (Properties.entries properties) :=
    fun b b' ts hx ht => ht.imp fun property t h => hstable property b b' t hx h
  have hnames : ∀ (listed : List (MemberHead × TypeTree)) (t : Option TypeTree),
      TypeTree.memberNames (listed ++ t.toList.map fun type => (MemberHead.further, type)) =
        (listed.flatMap fun member => member.2.names) ++ TypeTree.namesOf t.toList := by
    intro listed t
    rw [TypeTree.memberNames_eq_flatMap, List.flatMap_append, TypeTree.namesOf_eq_flatMap,
      List.flatMap_map]
  refine .bind
    (fun listed (t : Option TypeTree) => listed ++ t.toList.map fun type => (.further, type))
    (.mapM hproperty hstable _) hlisted (fun listed => ?_)
    (fun b listed t hl hf => ⟨listed, _, rfl, hl, hf⟩) (fun listed t => rfl) hnames
  refine .map (extraType_yields hb level extra) id (fun b t ht => ht) (fun t => ?_) fun t => rfl
  rw [id_eq, TypeTree.lineTexts_eq_map, List.map_append, String.join_append]
  cases t <;> simp [TypeTree.memberText, MemberHead.line]

/-- An object where it stands. -/
theorem objectExpression_yields (hb : FollowsInOrder setting below tree) (level : Nat)
    (facts : SchemaFacts) (properties : Properties) (extra : Extra) :
    YieldsInOrder setting (objectExpression setting below level facts properties extra)
      (fun b (t : TypeTree) => ∃ members, t = .object members ∧
        MemberTrees setting (tree b) facts properties extra members)
      (fun t => t.text setting level) TypeTree.names := by
  intro b r b' hw h
  obtain ⟨lines, b₁, hlines, h⟩ := run_bind_eq_ok h
  obtain ⟨hw', hx, members, ht, rfl, hfound⟩ :=
    memberLines_yields hb (level + 1) facts properties extra b lines b₁ hw hlines
  have hr : r = (TypeTree.object members).text setting level ∧ b₁ = b' := by
    rw [TypeTree.text]
    dsimp only at h ⊢
    split at h
    · rename_i hempty
      obtain ⟨rfl, rfl⟩ := Prod.mk.inj (Except.ok.inj h)
      rw [if_pos hempty]
      exact ⟨rfl, rfl⟩
    · rename_i hsome
      obtain ⟨rfl, rfl⟩ := Prod.mk.inj (Except.ok.inj h)
      rw [if_neg hsome]
      exact ⟨rfl, rfl⟩
  obtain ⟨rfl, rfl⟩ := hr
  exact ⟨hw', hx, .object members, ⟨members, rfl, ht⟩, rfl, hfound⟩

/-- A list. -/
theorem listExpression_yields (hb : FollowsInOrder setting below tree) (level : Nat) (items : Items) :
    YieldsInOrder setting (listExpression setting below level items)
      (fun b => ListTree (tree b) items) (fun t => t.text setting level) TypeTree.names := by
  cases items with
  | absent => exact .pure .untypedList (fun _ => .untyped) rfl rfl
  | each element =>
    exact .map (hb.expression element level) .list (fun b t ht => .list ht) (fun t => rfl)
      fun t => rfl
  | tuple places =>
    refine .map (.mapM (fun place => hb.expression place level) hb.stable_tree places) .tuple
      (fun b trees ht => .tuple ht) (fun trees => ?_) TypeTree.namesOf_eq_flatMap
    rw [TypeTree.text, TypeTree.texts_eq_map]

/-- A schema object by its tags. -/
theorem taggedExpression_yields (hb : FollowsInOrder setting below tree) (level : Nat)
    (facts : SchemaFacts) (properties : Properties) (items : Items) (extra : Extra) :
    YieldsInOrder setting (taggedExpression setting below level facts properties items extra)
      (fun b (t : TypeTree) => ∃ parts, t = .tagged parts ∧
        List.Forall₂ (TagTree setting (tree b) facts properties items extra)
          (effectiveTags facts properties items extra) parts)
      (fun t => t.text setting level) TypeTree.names := by
  have htag : ∀ tag, YieldsInOrder setting
      (if tag == "object" then objectExpression setting below level facts properties extra
        else if tag == "array" then listExpression setting below level items
        else return setting.profile.scalarType tag)
      (fun b => TagTree setting (tree b) facts properties items extra tag)
      (fun t => t.text setting level) TypeTree.names := by
    intro tag
    by_cases ho : tag = "object"
    · subst ho
      refine (objectExpression_yields hb level facts properties extra).imp ?_
      rintro b _ ⟨members, rfl, ht⟩
      exact .object ht
    by_cases ha : tag = "array"
    · subst ha
      exact (listExpression_yields hb level items).imp fun b t ht => .array ht
    · have ho' : (tag == "object") = false := by simp [ho]
      have ha' : (tag == "array") = false := by simp [ha]
      simp only [ho', ha', Bool.false_eq_true, if_false]
      exact .pure (.scalar tag) (fun _ => .scalar ho ha) rfl rfl
  have hstable : ∀ tag, Stable setting fun b =>
      TagTree setting (tree b) facts properties items extra tag :=
    fun tag b b' t hx ht => (ht.kept (hb.stable b b' hx)).1
  refine .map (.mapM htag hstable _) .tagged (fun b parts hp => ⟨parts, rfl, hp⟩) (fun parts => ?_)
    TypeTree.namesOf_eq_flatMap
  rw [TypeTree.text, TypeTree.texts_eq_map]

/-- A schema object without regard to its title. The cases are those of its leading keyword. -/
theorem inlineExpression_yields (hb : FollowsInOrder setting below tree) (level : Nat)
    (facts : SchemaFacts) (properties : Properties) (items : Items) (extra : Extra) :
    YieldsInOrder setting (inlineExpression setting below level facts properties items extra)
      (fun b => InlineTree setting b (tree b) facts properties items extra)
      (fun t => t.text setting level) TypeTree.names := by
  unfold inlineExpression
  cases href : facts.keyword? "$ref" with
  | some reference =>
    have hl : leading? facts = some ("$ref", reference) := by
      simp [leading?, combiningKeywords, href]
    cases reference with
    | str reference => exact (resolve_yields hb reference level).imp fun b t ht => .reference hl ht
    | _ => exact .throw _
  | none =>
  cases hconst : facts.keyword? "const" with
  | some value =>
    have hl : leading? facts = some ("const", value) := by
      simp [leading?, combiningKeywords, href, hconst]
    refine .pure (.literals [value]) (fun b => .constant hl) ?_ rfl
    simp [TypeTree.text, distinct, addDistinct]
  | none =>
  cases henum : facts.keyword? "enum" with
  | some values =>
    have hl : leading? facts = some ("enum", values) := by
      simp [leading?, combiningKeywords, href, hconst, henum]
    refine (enumeration_yields values level).imp ?_
    rintro b _ ⟨elements, rfl, rfl⟩
    exact .enumeration hl
  | none =>
  cases hany : facts.keyword? "anyOf" with
  | some members =>
    have hl : leading? facts = some ("anyOf", members) := by
      simp [leading?, combiningKeywords, href, hconst, henum, hany]
    refine (combination_yields hb "anyOf" .alternatives level members).imp ?_
    rintro b _ ⟨elements, parts, rfl, rfl, ht⟩
    exact .alternatives hl (.inl rfl) ht
  | none =>
  cases hone : facts.keyword? "oneOf" with
  | some members =>
    have hl : leading? facts = some ("oneOf", members) := by
      simp [leading?, combiningKeywords, href, hconst, henum, hany, hone]
    refine (combination_yields hb "oneOf" .alternatives level members).imp ?_
    rintro b _ ⟨elements, parts, rfl, rfl, ht⟩
    exact .alternatives hl (.inr rfl) ht
  | none =>
  cases hall : facts.keyword? "allOf" with
  | some members =>
    have hl : leading? facts = some ("allOf", members) := by
      simp [leading?, combiningKeywords, href, hconst, henum, hany, hone, hall]
    refine (combination_yields hb "allOf" .together level members).imp ?_
    rintro b _ ⟨elements, parts, rfl, rfl, ht⟩
    exact .together hl ht
  | none =>
    have hl : leading? facts = none := by
      simp [leading?, combiningKeywords, href, hconst, henum, hany, hone, hall]
    refine (taggedExpression_yields hb level facts properties items extra).imp ?_
    rintro b _ ⟨parts, rfl, ht⟩
    exact .tagged hl ht

/-- A schema that allows everything or nothing. -/
theorem boolType_eq_text (setting : Setting) (allowed : Bool) (level : Nat) :
    boolType setting allowed = (boolTree allowed).text setting level := by
  cases allowed <;> rfl

/-- A schema where its type is expected. -/
theorem expression_yields (hb : FollowsInOrder setting below tree) (schema : Schema) (level : Nat) :
    YieldsInOrder setting (expression setting below schema level)
      (fun b => ExpressionTree setting b (tree b) schema) (fun t => t.text setting level)
      TypeTree.names := by
  cases schema with
  | bool allowed =>
    exact .pure (boolTree allowed) (fun b => .bool allowed) (boolType_eq_text setting allowed level)
      (names_boolTree allowed)
  | object facts properties items extra =>
    cases ht : facts.title with
    | some title =>
      simp only [expression, ht]
      have htitle : (Schema.object facts properties items extra).title = some title := ht
      exact nameTitled_yields hb htitle level
    | none =>
      simp only [expression, ht]
      exact (inlineExpression_yields hb level facts properties items extra).imp
        fun b t hi => .inline ht hi

/-- A schema that is declared. -/
theorem declarationBody_yields (hb : FollowsInOrder setting below tree) (schema : Schema) :
    YieldsInOrder setting (declarationBody setting below schema)
      (fun b => DeclaredTree setting b (tree b) schema) (fun t => t.body setting)
      BodyTree.names := by
  cases schema with
  | bool allowed =>
    refine .pure (.expression (boolTree allowed)) (fun b => .bool allowed) ?_
      (names_boolTree allowed)
    rw [boolType_eq_text setting allowed 0]
    rfl
  | object facts properties items extra =>
    cases hi : isInterfaceLike facts properties with
    | true =>
      simp only [declarationBody, hi, if_true]
      exact .map (memberLines_yields hb 1 facts properties extra) BodyTree.interface
        (fun b members ht => .interface hi ht) (fun members => rfl) fun members => rfl
    | false =>
      simp only [declarationBody, hi, Bool.false_eq_true, if_false]
      exact .map (inlineExpression_yields hb 0 facts properties items extra) BodyTree.expression
        (fun b t ht => .expression hi ht) (fun t => rfl) fun t => rfl

end Expressions

/-- At every bound the steps follow the trees and go through the names in them. -/
theorem followsInOrder_at (setting : Setting) (bound : Nat) :
    FollowsInOrder setting ⟨expressionAt setting bound, bodyAt setting bound⟩
      fun b => HasTree setting b bound := by
  induction bound with
  | zero =>
    refine ⟨fun b b' hx => HasTree.kept hx.namesKept 0, fun schema level => ?_, fun schema => ?_⟩
    · simp only [expressionAt]
      exact .throw _
    · simp only [bodyAt]
      exact .throw _
  | succ bound ih =>
    refine ⟨fun b b' hx => HasTree.kept hx.namesKept (bound + 1), fun schema level => ?_,
      fun schema => ?_⟩
    · simp only [expressionAt]
      exact expression_yields ih schema level
    · simp only [bodyAt]
      exact (declarationBody_yields ih schema).imp fun b t ht => ⟨bound, ht⟩

/-- At every bound the steps follow the trees. -/
theorem follows_at (setting : Setting) (bound : Nat) :
    Follows setting ⟨expressionAt setting bound, bodyAt setting bound⟩
      fun b => HasTree setting b bound := by
  obtain ⟨hstable, hexpression, hbody⟩ := followsInOrder_at setting bound
  exact ⟨hstable, fun schema level => (hexpression schema level).yields,
    fun schema => (hbody schema).yields⟩

end ProgramConnector.TypeScript
