import ProgramConnector.Proofs.Json.Values
import ProgramConnector.Proofs.Schema.NormalForm
import ProgramConnector.Proofs.TypeScript.BlockGrowth

/-!
# Runs side by side

Two ways to compile a schema are compared step by step. They may differ in the profile, in the name
of the root and in what they do below. Both runs end with a block or both end with an error, and the
blocks and the errors stay related when they are on the parts of a schema, on its reference and
where a schema is declared. Where the two runs are meant to be the same, so are the texts.
-/

namespace ProgramConnector.TypeScript

variable {α β : Type}

/-! ## Runs that end alike -/

/-- Two values are equal where two runs are meant to be the same. -/
def Alike (same : Prop) (value value' : α) : Prop := same → value' = value

/-- What is made of alike values in alike settings is alike. -/
theorem Alike.map {same : Prop} {setting setting' : Setting} {value value' : α}
    (hsetting : same → setting' = setting) (h : Alike same value value') (f : Setting → α → β) :
    Alike same (f setting value) (f setting' value') := by
  intro hs
  rw [hsetting hs, h hs]

/-- Whether a declaration is an interface, and not an alias. -/
def Body.isInterface : Body → Bool
  | .interface _ => true
  | .alias _ => false

/-- Two bodies are of the same kind, and equal where two runs are meant to be the same. -/
structure Body.Alike (same : Prop) (body body' : Body) : Prop where
  /-- Both are interfaces or none is. -/
  kind : body'.isInterface = body.isInterface
  /-- They are equal where the runs are meant to be the same. -/
  eq : TypeScript.Alike same body body'

/-- Two runs end alike: with related values in related blocks, or with related errors. -/
inductive EndAlike (E : CompileError → CompileError → Prop) (R : Block → Block → Prop)
    (V : α → α → Prop) : Except CompileError (α × Block) → Except CompileError (α × Block) → Prop
  /-- Both end with a block. -/
  | ok {value value' : α} {b b' : Block} (values : V value value') (blocks : R b b') :
    EndAlike E R V (.ok (value, b)) (.ok (value', b'))
  /-- Both end with an error. -/
  | error {error error' : CompileError} (errors : E error error') :
    EndAlike E R V (.error error) (.error error')

/-- Two steps go side by side: their runs on related blocks end alike. -/
def Simulates (E : CompileError → CompileError → Prop) (R : Block → Block → Prop)
    (V : α → α → Prop) (step step' : Compile α) : Prop :=
  ∀ b b', R b b' → EndAlike E R V (step.run b) (step'.run b')

variable {E : CompileError → CompileError → Prop} {R : Block → Block → Prop} {same : Prop}

namespace Simulates

variable {V : α → α → Prop} {W : β → β → Prop}

/-- Values that need no step. -/
theorem pure {value value' : α} (h : V value value') :
    Simulates E R V (Pure.pure value) (Pure.pure value') :=
  fun _ _ hb => .ok h hb

/-- Related errors. -/
theorem throw {error error' : CompileError} (h : E error error') :
    Simulates E R V (MonadExcept.throw error) (MonadExcept.throw error') :=
  fun _ _ _ => .error h

/-- Steps one after the other. -/
theorem bind {step step' : Compile α} {next next' : α → Compile β}
    (hs : Simulates E R V step step')
    (hn : ∀ value value', V value value' → Simulates E R W (next value) (next' value')) :
    Simulates E R W (step >>= next) (step' >>= next') := by
  intro b b' hb
  have hends := hs b b' hb
  rw [StateT.run_bind, StateT.run_bind]
  generalize step.run b = run at hends ⊢
  generalize step'.run b' = run' at hends ⊢
  cases hends with
  | ok values blocks => exact hn _ _ values _ _ blocks
  | error errors => exact .error errors

/-- Steps whose values are rewritten. -/
theorem map {step step' : Compile α} (hs : Simulates E R V step step') {f f' : α → β}
    (hf : ∀ value value', V value value' → W (f value) (f' value')) :
    Simulates E R W (step >>= fun value => Pure.pure (f value))
      (step' >>= fun value => Pure.pure (f' value)) :=
  hs.bind fun value value' hv => .pure (hf value value' hv)

/-- Steps for the elements of a list. -/
theorem mapM {step step' : α → Compile β} {xs : List α}
    (hs : ∀ x ∈ xs, Simulates E R (Alike same) (step x) (step' x)) :
    Simulates E R (Alike same) (xs.mapM step) (xs.mapM step') := by
  induction xs with
  | nil =>
    rw [List.mapM_nil, List.mapM_nil]
    exact .pure fun _ => rfl
  | cons x xs ih =>
    rw [List.mapM_cons, List.mapM_cons]
    obtain ⟨hx, hxs⟩ := List.forall_mem_cons.1 hs
    refine hx.bind fun value value' hv => (ih hxs).map fun rest rest' hrest hsame => ?_
    rw [hv hsame, hrest hsame]

end Simulates

/-! ## Declarations -/

section Declarations

variable {setting setting' : Setting} {below below' : Below} {body body' : Schema → Compile Body}
  {schema : Schema} {b : Block}

/-- A step that looks at the block. -/
theorem run_get_bind (next : Block → Compile α) (b : Block) :
    (get >>= next).run b = (next b).run b :=
  rfl

/-- The run of a declaration: the body is compiled while the declaration is open. -/
theorem run_declare (body : Schema → Compile Body) (name : String) (schema : Schema) (b : Block) :
    (declare body name schema).run b =
      ((body schema).run (b.declare name schema.description)).map fun result =>
        ((), result.2.complete b.declarations.length result.1) := by
  change ((body schema >>= fun result => modify fun block =>
    block.complete b.declarations.length result).run (b.declare name schema.description)) = _
  rw [StateT.run_bind]
  cases (body schema).run (b.declare name schema.description) <;> rfl

/-- The run of a declaration under a name that is taken and entered into the tables. -/
theorem run_take_declare (body : Schema → Compile Body) (schema : Schema) (base : String)
    (enter : String → Block → Block) {name : String} {entered : Block}
    (hname : name = uniqueName b.used base)
    (hentered : entered = enter name ⟨b.declarations, name :: b.used, b.titled, b.references⟩) :
    (do
      let name ← takeName base
      modify (enter name)
      declare body name schema
      return name : Compile String).run b =
    ((body schema).run (entered.declare name schema.description)).map fun result =>
      (name, result.2.complete entered.declarations.length result.1) := by
  subst hname hentered
  change (declare body (uniqueName b.used base) schema >>= fun _ =>
    pure (uniqueName b.used base)).run _ = _
  rw [StateT.run_bind, run_declare]
  cases (body schema).run _ <;> rfl

/-- The name of a titled schema is that of a schema that is the same, or the schema is declared. -/
theorem run_nameTitled (body : Schema → Compile Body) (schema : Schema) (title : String)
    (b : Block) :
    (nameTitled body schema title).run b =
      match b.titled.find? fun entry => entry.1.same schema with
      | some entry => .ok (entry.2, b)
      | none =>
        let name := uniqueName b.used (Naming.typeName title)
        ((body schema).run (b.opened name schema.description (b.titled ++ [(schema, name)])
          b.references)).map fun result =>
            (name, result.2.complete b.declarations.length result.1) := by
  rw [nameTitled, run_get_bind]
  cases b.titled.find? fun entry => entry.1.same schema with
  | some entry => rfl
  | none => exact run_take_declare body schema _ _ rfl rfl

/-- The base of the name of a reference's target: its title, or else the last step of the
pointer. -/
def referenceBase (reference : String) (target : Schema) : String :=
  target.title.getD
    (String.ofList ((Text.splitAt '/' (reference.toList.drop 1)).getLast?.getD []))

/-- The value of a document that a reference leads to. -/
def referred? (document : Json) (reference : String) : Option Json :=
  if reference.toList.head? == some '#' then document.follow? (reference.toList.drop 1) else none

/-- The root leads to the document. -/
theorem referred?_root (document : Json) : referred? document "#" = some document := rfl

/-- The target of a reference other than the root, or what is wrong with it: it leads to no value,
or to one that is no schema. -/
def Setting.target (setting : Setting) (reference : String) : Except CompileError Schema :=
  match referred? setting.document reference with
  | none => .error (.unresolved reference)
  | some value =>
    match Schema.ofJson? value with
    | none => .error (.invalidKeyword "$ref" (reference ++ ": " ++ notASchema))
    | some schema => .ok schema

/-- The schema that a reference leads to is read from the value that it leads to. -/
theorem Setting.target?_eq (setting : Setting) (reference : String) :
    setting.target? reference = (referred? setting.document reference).bind Schema.ofJson? := by
  unfold Setting.target? referred?
  split <;> rfl

/-- The target is the schema that a reference leads to. -/
theorem Setting.target_eq_ok_iff {reference : String} :
    setting.target reference = .ok schema ↔ setting.target? reference = some schema := by
  rw [Setting.target, Setting.target?_eq]
  cases referred? setting.document reference with
  | none => simp
  | some value => cases hs : Schema.ofJson? value <;> simp [hs]

/-- What is wrong with a reference is that it leads to no value, or that a keyword does not fit. -/
theorem Setting.target_eq_error {reference : String} {error : CompileError}
    (h : setting.target reference = .error error) :
    (referred? setting.document reference = none ∧ error = .unresolved reference) ∨
      ∃ reason, error = .invalidKeyword "$ref" reason := by
  unfold Setting.target at h
  split at h
  · rename_i hnone
    exact .inl ⟨hnone, (Except.error.inj h).symm⟩
  · split at h
    · exact .inr ⟨_, (Except.error.inj h).symm⟩
    · cases h

/-- A reference other than the root has the name that it was given, or else its target is
declared. -/
theorem run_resolve (setting : Setting) (below : Below) {reference : String}
    (hroot : reference ≠ "#") (b : Block) :
    (resolve setting below reference).run b =
      match Members.find? reference b.references with
      | some name => .ok (name, b)
      | none =>
        match setting.target reference with
        | .error error => .error error
        | .ok target =>
          let name := uniqueName b.used (Naming.typeName (referenceBase reference target))
          ((below.body target).run (b.opened name target.description b.titled
            ((reference, name) :: b.references))).map fun result =>
              (name, result.2.complete b.declarations.length result.1) := by
  have hne : (reference == "#") = false := by simp [hroot]
  simp only [resolve, hne, Bool.false_eq_true, if_false, run_get_bind, Setting.target, referred?]
  cases Members.find? reference b.references with
  | some name => rfl
  | none =>
    cases if reference.toList.head? == some '#' then
        setting.document.follow? (reference.toList.drop 1) else none with
    | none => rfl
    | some value =>
      dsimp only
      cases Schema.ofJson? value with
      | none => rfl
      | some target =>
        exact run_take_declare below.body target _
          (fun name block => { block with references := (reference, name) :: block.references })
          rfl rfl

/-- Two blocks know the same titled schemas and the same references. -/
structure Block.KnowsAlike (same : Prop) (b b' : Block) : Prop where
  /-- The titled schemas. -/
  titled : b'.titled.map Prod.fst = b.titled.map Prod.fst
  /-- The references. -/
  references : Members.keys b'.references = Members.keys b.references
  /-- The blocks are equal where the runs are meant to be the same. -/
  eq : Alike same b b'

/-- A block knows what it knows. -/
theorem Block.KnowsAlike.refl (same : Prop) (b : Block) : Block.KnowsAlike same b b :=
  ⟨rfl, rfl, fun _ => rfl⟩

/-- The schema is declared in both runs: the bodies are compiled side by side from the blocks in
which the declarations are open, and closing them gives related blocks. -/
def SimulatesOpened (E : CompileError → CompileError → Prop) (R : Block → Block → Prop)
    (same : Prop) (body body' : Schema → Compile Body) (schema : Schema) (opened opened' : Block)
    (place place' : Nat) : Prop :=
  ∃ R' : Block → Block → Prop, R' opened opened' ∧
    Simulates E R' (Body.Alike same) (body schema) (body' schema) ∧
    ∀ b b' result result', R' b b' → Body.Alike same result result' →
      R (b.complete place result) (b'.complete place' result')

/-- A schema that is declared in both runs leaves related blocks behind. -/
theorem SimulatesOpened.map {opened opened' : Block} {place place' : Nat} {name name' : String}
    (h : SimulatesOpened E R same body body' schema opened opened' place place')
    (hname : Alike same name name') :
    EndAlike E R (Alike same)
      (((body schema).run opened).map fun result => (name, result.2.complete place result.1))
      (((body' schema).run opened').map fun result =>
        (name', result.2.complete place' result.1)) := by
  obtain ⟨R', hopened, hbody, hclose⟩ := h
  have hends := hbody opened opened' hopened
  generalize (body schema).run opened = run at hends ⊢
  generalize (body' schema).run opened' = run' at hends ⊢
  cases hends with
  | ok values blocks => exact .ok hname (hclose _ _ _ _ blocks values)
  | error errors => exact .error errors

/-- The name of a titled schema, when the schema is declared in both runs. -/
theorem nameTitled_simulates {title : String}
    (hknows : ∀ b b', R b b' → Block.KnowsAlike same b b')
    (h : ∀ b b' name name', R b b' → (∀ entry ∈ b.titled, entry.1.same schema = false) →
      name = uniqueName b.used (Naming.typeName title) →
      name' = uniqueName b'.used (Naming.typeName title) →
      SimulatesOpened E R same body body' schema
        (b.opened name schema.description (b.titled ++ [(schema, name)]) b.references)
        (b'.opened name' schema.description (b'.titled ++ [(schema, name')]) b'.references)
        b.declarations.length b'.declarations.length) :
    Simulates E R (Alike same) (nameTitled body schema title) (nameTitled body' schema title) := by
  intro b b' hb
  obtain ⟨htitled, -, hsame⟩ := hknows b b' hb
  have hfound : (b'.titled.find? fun entry => entry.1.same schema).map Prod.fst =
      (b.titled.find? fun entry => entry.1.same schema).map Prod.fst := by
    have hmap := congrArg (List.find? fun known => known.same schema) htitled
    rwa [List.find?_map, List.find?_map] at hmap
  rw [run_nameTitled, run_nameTitled]
  cases hf : b.titled.find? fun entry => entry.1.same schema with
  | some entry =>
    cases hf' : b'.titled.find? fun entry => entry.1.same schema with
    | some entry' =>
      refine .ok (fun hs => ?_) hb
      rw [hsame hs, hf] at hf'
      rw [Option.some.inj hf']
    | none =>
      rw [hf, hf'] at hfound
      cases hfound
  | none =>
    rw [hf, Option.map_none, Option.map_eq_none_iff] at hfound
    rw [hfound]
    refine (h b b' _ _ hb (fun entry he => ?_) rfl rfl).map fun hs => by rw [hsame hs]
    simpa using List.find?_eq_none.1 hf entry he

/-- A reference, when its target is declared in both runs. -/
theorem resolve_simulates {reference : String}
    (hknows : ∀ b b', R b b' → Block.KnowsAlike same b b')
    (hdocument : setting'.document = setting.document) (hsetting : same → setting' = setting)
    (herror : ∀ error, setting.target reference = .error error → E error error)
    (h : ∀ b b' name name' target, R b b' → reference ≠ "#" →
      setting.target? reference = some target → reference ∉ Members.keys b.references →
      name = uniqueName b.used (Naming.typeName (referenceBase reference target)) →
      name' = uniqueName b'.used (Naming.typeName (referenceBase reference target)) →
      SimulatesOpened E R same below.body below'.body target
        (b.opened name target.description b.titled ((reference, name) :: b.references))
        (b'.opened name' target.description b'.titled ((reference, name') :: b'.references))
        b.declarations.length b'.declarations.length) :
    Simulates E R (Alike same) (resolve setting below reference)
      (resolve setting' below' reference) := by
  by_cases hroot : reference = "#"
  · subst hroot
    exact .pure fun hs => by rw [hsetting hs]
  intro b b' hb
  obtain ⟨-, hkeys, hsame⟩ := hknows b b' hb
  have htarget : setting'.target reference = setting.target reference := by
    unfold Setting.target
    rw [hdocument]
  rw [run_resolve setting below hroot, run_resolve setting' below' hroot, htarget]
  cases hf : Members.find? reference b.references with
  | some name =>
    cases hf' : Members.find? reference b'.references with
    | some name' =>
      refine .ok (fun hs => ?_) hb
      rw [hsame hs, hf] at hf'
      rw [Option.some.inj hf']
    | none =>
      rw [Members.find?_eq_none_iff, hkeys, ← Members.find?_eq_none_iff, hf] at hf'
      cases hf'
  | none =>
    have hnew := Members.find?_eq_none_iff.1 hf
    rw [Members.find?_eq_none_iff.2 (hkeys ▸ hnew)]
    cases ht : setting.target reference with
    | error error => exact .error (herror error ht)
    | ok target =>
      exact (h b b' _ _ target hb hroot (Setting.target_eq_ok_iff.1 ht) hnew rfl rfl).map
        fun hs => by rw [hsame hs]

end Declarations

/-! ## Expressions -/

/-- The schemas whose types are written inside of the type of a schema: those directly below it, and
the members of its combinations. -/
inductive HasPart : Schema → Schema → Prop
  /-- Directly below. -/
  | child {schema part : Schema} (isChild : part ∈ schema.children) : HasPart schema part
  /-- A member of a combination. -/
  | member {facts : SchemaFacts} {properties : Properties} {items : Items} {extra : Extra}
    {keyword : String} {elements : List Json} {element : Json} {part : Schema}
    (isKeyword : facts.keyword? keyword = some (.arr elements)) (isElement : element ∈ elements)
    (isSchema : Schema.ofJson? element = some part) :
    HasPart (.object facts properties items extra) part

/-- The steps below go side by side where the type of a schema needs them, apart from its title: on
its parts and on its reference. -/
structure SimulatesBelow (E : CompileError → CompileError → Prop) (R : Block → Block → Prop)
    (same : Prop) (setting setting' : Setting) (below below' : Below) (schema : Schema) : Prop where
  /-- Its parts. -/
  parts : ∀ part, HasPart schema part → ∀ level,
    Simulates E R (Alike same) (below.expression part level) (below'.expression part level)
  /-- Its reference. -/
  reference : ∀ facts reference, schema.facts? = some facts →
    facts.keyword? "$ref" = some (.str reference) →
    Simulates E R (Alike same) (resolve setting below reference)
      (resolve setting' below' reference)
  /-- A keyword whose value does not fit is the same error in both runs. -/
  invalid : ∀ keyword reason, E (.invalidKeyword keyword reason) (.invalidKeyword keyword reason)
  /-- The settings are equal where the runs are meant to be the same. -/
  settings : same → setting' = setting

section Expressions

variable {setting setting' : Setting} {below below' : Below} {facts : SchemaFacts}
  {properties : Properties} {items : Items} {extra : Extra} {schema : Schema}

/-- The literal types of values. -/
theorem enumeration_simulates (hsettings : same → setting' = setting)
    (hinvalid : ∀ keyword reason,
      E (.invalidKeyword keyword reason) (.invalidKeyword keyword reason)) (values : Json) :
    Simulates E R (Alike same) (enumeration setting values) (enumeration setting' values) := by
  cases values with
  | arr elements =>
    cases elements with
    | nil => exact .pure fun _ => rfl
    | cons first rest => exact .pure fun hs => by rw [hsettings hs]
  | _ => exact .throw (hinvalid _ _)

/-- The members of a combination. -/
theorem combination_simulates
    (h : SimulatesBelow E R same setting setting' below below'
      (.object facts properties items extra))
    {keyword : String} {members : Json} (hmembers : facts.keyword? keyword = some members)
    (separator : String) (level : Nat) :
    Simulates E R (Alike same) (combination setting below keyword separator level members)
      (combination setting' below' keyword separator level members) := by
  cases members with
  | arr elements =>
    refine .map (.mapM fun element he => ?_) fun parts parts' hparts =>
      hparts.map h.settings fun setting parts => joinParts setting separator (distinct parts)
    cases hs : Schema.ofJson? element with
    | none => exact .throw (h.invalid _ _)
    | some part =>
      exact .map (h.parts part (.member hmembers he hs) level) fun text text' ht =>
        ht.map h.settings fun _ => parenthesized
  | _ => exact .throw (h.invalid _ _)

/-- The type of further properties. -/
theorem extraType_simulates
    (h : SimulatesBelow E R same setting setting' below below'
      (.object facts properties items extra)) (level : Nat) :
    Simulates E R (Alike same) (extraType setting below level extra)
      (extraType setting' below' level extra) := by
  cases extra with
  | absent => exact .pure fun hs => by rw [h.settings hs]
  | allowed allowed =>
    cases allowed with
    | false => exact .pure fun _ => rfl
    | true => exact .pure fun hs => by rw [h.settings hs]
  | typed further =>
    exact .map (h.parts further (.child (List.mem_append_right _ List.mem_cons_self)) level)
      fun text text' ht => ht.map h.settings fun _ => some

/-- The schemas of the properties are below their object. -/
theorem mem_children_of_entry {entry : String × Schema}
    (h : entry ∈ Properties.entries properties) :
    entry.2 ∈ (Schema.object facts properties items extra).children := by
  refine List.mem_append_left _ (List.mem_append_left _ ?_)
  cases properties with
  | absent => exact absurd h List.not_mem_nil
  | listed entries => exact List.mem_map_of_mem h

/-- The lines of an object's members. -/
theorem memberLines_simulates
    (h : SimulatesBelow E R same setting setting' below below'
      (.object facts properties items extra)) (level : Nat) :
    Simulates E R (Alike same) (memberLines setting below level facts properties extra)
      (memberLines setting' below' level facts properties extra) := by
  refine .bind (V := Alike same) (.mapM fun entry he => ?_) fun lines lines' hlines => ?_
  · refine .map (h.parts entry.2 (.child (mem_children_of_entry he)) level) fun text text' ht => ?_
    exact ht.map h.settings fun setting text =>
      propertyLine (setting.profile.pad level) entry.1 entry.2 (facts.required.contains entry.1)
        text
  · refine .map (extraType_simulates h level) fun type type' htype hs => ?_
    rw [hlines hs, htype hs, h.settings hs]

/-- An object where it stands. -/
theorem objectExpression_simulates
    (h : SimulatesBelow E R same setting setting' below below'
      (.object facts properties items extra)) (level : Nat) :
    Simulates E R (Alike same) (objectExpression setting below level facts properties extra)
      (objectExpression setting' below' level facts properties extra) := by
  refine .bind (memberLines_simulates h (level + 1)) fun members members' hmembers => ?_
  have hpure : ∀ (setting : Setting) (members : String),
      (if members.isEmpty then return "\x7b\x7d" else
        return "\x7b\n" ++ members ++ setting.profile.pad level ++ "\x7d" : Compile String) =
      Pure.pure (if members.isEmpty then "\x7b\x7d" else
        "\x7b\n" ++ members ++ setting.profile.pad level ++ "\x7d") := by
    intro setting members
    split <;> rfl
  refine (hpure setting members).symm ▸ (hpure setting' members').symm ▸ .pure ?_
  exact hmembers.map h.settings fun setting members => if members.isEmpty then "\x7b\x7d" else
    "\x7b\n" ++ members ++ setting.profile.pad level ++ "\x7d"

/-- A list. -/
theorem listExpression_simulates
    (h : SimulatesBelow E R same setting setting' below below'
      (.object facts properties items extra)) (level : Nat) :
    Simulates E R (Alike same) (listExpression setting below level items)
      (listExpression setting' below' level items) := by
  have hitems : ∀ part ∈ items.schemas, ∀ level, Simulates E R (Alike same)
      (below.expression part level) (below'.expression part level) :=
    fun part hp => h.parts part (.child (List.mem_append_left _ (List.mem_append_right _ hp)))
  cases items with
  | absent => exact .pure fun hs => by rw [h.settings hs]
  | each element =>
    exact .map (hitems element List.mem_cons_self level) fun text text' ht =>
      ht.map h.settings fun _ text => parenthesized text ++ "[]"
  | tuple places =>
    exact .map (.mapM fun place hp => hitems place hp level) fun texts texts' ht =>
      ht.map h.settings fun _ texts => "[" ++ ", ".intercalate texts ++ "]"

/-- A schema object by its tags. -/
theorem taggedExpression_simulates
    (h : SimulatesBelow E R same setting setting' below below'
      (.object facts properties items extra)) (level : Nat) :
    Simulates E R (Alike same) (taggedExpression setting below level facts properties items extra)
      (taggedExpression setting' below' level facts properties items extra) := by
  refine .map (.mapM fun tag _ => ?_) fun parts parts' hparts =>
    hparts.map h.settings fun setting parts => joinParts setting " | " (distinct parts)
  split
  · exact objectExpression_simulates h level
  split
  · exact listExpression_simulates h level
  · exact .pure fun hs => by rw [h.settings hs]

/-- A schema object without regard to its title. -/
theorem inlineExpression_simulates
    (h : SimulatesBelow E R same setting setting' below below'
      (.object facts properties items extra)) (level : Nat) :
    Simulates E R (Alike same) (inlineExpression setting below level facts properties items extra)
      (inlineExpression setting' below' level facts properties items extra) := by
  unfold inlineExpression
  split
  · rename_i reference href
    cases reference with
    | str reference => exact h.reference facts reference rfl href
    | _ => exact .throw (h.invalid _ _)
  split
  · exact .pure fun hs => by rw [h.settings hs]
  split
  · exact enumeration_simulates h.settings h.invalid _
  split
  · exact combination_simulates h ‹_› _ level
  split
  · exact combination_simulates h ‹_› _ level
  split
  · exact combination_simulates h ‹_› _ level
  · exact taggedExpression_simulates h level

/-- A schema where its type is expected. -/
theorem expression_simulates (hsettings : same → setting' = setting)
    (huntitled : schema.title = none →
      SimulatesBelow E R same setting setting' below below' schema)
    (htitled : ∀ title, schema.title = some title →
      Simulates E R (Alike same) (nameTitled below.body schema title)
        (nameTitled below'.body schema title)) (level : Nat) :
    Simulates E R (Alike same) (expression setting below schema level)
      (expression setting' below' schema level) := by
  cases schema with
  | bool allowed => exact .pure fun hs => by rw [hsettings hs]
  | object facts properties items extra =>
    cases ht : facts.title with
    | some title =>
      simp only [expression, ht]
      exact htitled title ht
    | none =>
      simp only [expression, ht]
      exact inlineExpression_simulates (huntitled ht) level

/-- A schema that is declared. -/
theorem declarationBody_simulates
    (h : SimulatesBelow E R same setting setting' below below' schema) :
    Simulates E R (Body.Alike same) (declarationBody setting below schema)
      (declarationBody setting' below' schema) := by
  cases schema with
  | bool allowed => exact .pure ⟨rfl, fun hs => by rw [h.settings hs]⟩
  | object facts properties items extra =>
    simp only [declarationBody]
    split
    · exact .map (memberLines_simulates h 1) fun lines lines' hlines =>
        ⟨rfl, hlines.map h.settings fun _ => Body.interface⟩
    · exact .map (inlineExpression_simulates h 0) fun text text' htext =>
        ⟨rfl, htext.map h.settings fun _ => Body.alias⟩

end Expressions

end ProgramConnector.TypeScript
