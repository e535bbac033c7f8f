import ProgramConnector.Proofs.TypeScript.Simulation

/-!
# Steps that agree

Two ways to compile the schemas below make no difference for a schema when they agree on its parts,
on its reference and on its declaration. Agreement is meant on the blocks with a property that every
step keeps, so that a step that is compared with itself keeps the property. Steps that agree are
steps that go side by side in equal blocks.
-/

namespace ProgramConnector.TypeScript

variable {α : Type} {fine : CompileError → Prop} {inv : Block → Prop}

/-- A run ends in a block with a property, or with an error that is fine. -/
def Ends (fine : CompileError → Prop) (inv : Block → Prop) :
    Except CompileError (α × Block) → Prop
  | .ok result => inv result.2
  | .error error => fine error

/-- Two steps agree: on every block with a property their runs are the same, and end in a block with
the property or with a fine error. -/
def Agree (fine : CompileError → Prop) (inv : Block → Prop) (step step' : Compile α) : Prop :=
  ∀ b, inv b → step'.run b = step.run b ∧ Ends fine inv (step.run b)

/-- Less may be said of where a run ends. -/
theorem Ends.imp {inv' : Block → Prop} {run : Except CompileError (α × Block)}
    (h : Ends fine inv' run) (himp : ∀ b, inv' b → inv b) : Ends fine inv run := by
  cases run with
  | error error => exact h
  | ok result => exact himp result.2 h

/-- Errors are the same in both runs, and fine. -/
def SameError (fine : CompileError → Prop) (error error' : CompileError) : Prop :=
  error' = error ∧ fine error

/-- Blocks are the same in both runs, and have a property. -/
def SameBlock (inv : Block → Prop) (b b' : Block) : Prop := b' = b ∧ inv b

/-- The same block knows what it knows. -/
theorem SameBlock.knowsAlike {same : Prop} {b b' : Block} (h : SameBlock inv b b') :
    Block.KnowsAlike same b b' := by
  rw [h.1]
  exact .refl same b

namespace Agree

variable {V : α → α → Prop}

/-- Steps that agree go side by side. -/
theorem simulates {step step' : Compile α} (h : Agree fine inv step step')
    (hV : ∀ value, V value value) : Simulates (SameError fine) (SameBlock inv) V step step' := by
  rintro _ b ⟨rfl, hb⟩
  obtain ⟨heq, hends⟩ := h b hb
  rw [heq]
  cases hrun : step.run b with
  | error error =>
    rw [hrun] at hends
    exact .error ⟨rfl, hends⟩
  | ok result =>
    rw [hrun] at hends
    exact .ok (hV result.1) ⟨rfl, hends⟩

/-- Steps that go side by side with equal values agree. -/
theorem of_simulates {step step' : Compile α}
    (h : Simulates (SameError fine) (SameBlock inv) V step step')
    (hV : ∀ value value', V value value' → value' = value) : Agree fine inv step step' := by
  intro b hb
  have hends := h b b ⟨rfl, hb⟩
  generalize step.run b = run at hends ⊢
  generalize step'.run b = run' at hends ⊢
  cases hends with
  | ok values blocks =>
    obtain ⟨rfl, hinv⟩ := blocks
    rw [hV _ _ values]
    exact ⟨rfl, hinv⟩
  | error errors =>
    obtain ⟨rfl, hfine⟩ := errors
    exact ⟨rfl, hfine⟩

/-- The same fine error. -/
theorem throw {error : CompileError} (h : fine error) :
    Agree fine inv (MonadExcept.throw error : Compile α) (MonadExcept.throw error) :=
  fun _ _ => ⟨rfl, h⟩

end Agree

/-! ## Schemas -/

section Schemas

variable {setting : Setting} {below below' : Below} {body body' : Schema → Compile Body}
  {schema : Schema}

/-- A schema can be declared: its bodies agree on the block in which its declaration is open, and
closing the declaration gives the property back. -/
def AgreeOpened (fine : CompileError → Prop) (inv : Block → Prop)
    (body body' : Schema → Compile Body) (schema : Schema) (opened : Block) : Prop :=
  ∃ inv' : Block → Prop, inv' opened ∧ Agree fine inv' (body schema) (body' schema) ∧
    ∀ b place result, inv' b → inv (b.complete place result)

/-- A schema is declared in two runs on the same block, with a property while it is open that gives
the property back when it is closed. -/
theorem simulatesOpened_same {E : CompileError → CompileError → Prop} {inv' : Block → Prop}
    {opened : Block} (hopened : inv' opened)
    (hbody : Simulates E (SameBlock inv') (Body.Alike True) (body schema) (body' schema))
    (hclose : ∀ b place result, inv' b → inv (b.complete place result)) (place : Nat) :
    SimulatesOpened E (SameBlock inv) True body body' schema opened opened place place := by
  refine ⟨SameBlock inv', ⟨rfl, hopened⟩, hbody, ?_⟩
  rintro _ b result result' ⟨rfl, hb⟩ ⟨-, hresult⟩
  rw [hresult trivial]
  exact ⟨rfl, hclose _ place result hb⟩

/-- A schema that can be declared is declared in both runs. -/
theorem AgreeOpened.simulates {opened : Block} (h : AgreeOpened fine inv body body' schema opened)
    (place : Nat) :
    SimulatesOpened (SameError fine) (SameBlock inv) True body body' schema opened opened place
      place := by
  obtain ⟨inv', hopened, hbody, hclose⟩ := h
  exact simulatesOpened_same hopened (hbody.simulates fun _ => ⟨rfl, fun _ => rfl⟩) hclose place

/-- The name of a titled schema, when the schema can be declared. -/
theorem nameTitled_agree {title : String}
    (h : ∀ b name, inv b → (∀ entry ∈ b.titled, entry.1.same schema = false) →
      name = uniqueName b.used (Naming.typeName title) →
      AgreeOpened fine inv body body' schema
        (b.opened name schema.description (b.titled ++ [(schema, name)]) b.references)) :
    Agree fine inv (nameTitled body schema title) (nameTitled body' schema title) := by
  refine .of_simulates (V := Alike True) (nameTitled_simulates (fun _ _ hb => hb.knowsAlike) ?_)
    fun _ _ hv => hv trivial
  rintro _ b _ name ⟨rfl, hb⟩ hnew rfl rfl
  exact (h _ _ hb hnew rfl).simulates _

/-- A reference, when its target can be declared. -/
theorem resolve_agree {reference : String}
    (hfine : ∀ error, setting.target reference = .error error → fine error)
    (h : ∀ b name target, inv b → reference ≠ "#" →
      setting.target? reference = some target → reference ∉ Members.keys b.references →
      name = uniqueName b.used (Naming.typeName (referenceBase reference target)) →
      AgreeOpened fine inv below.body below'.body target
        (b.opened name target.description b.titled ((reference, name) :: b.references))) :
    Agree fine inv (resolve setting below reference) (resolve setting below' reference) := by
  refine .of_simulates (V := Alike True) (resolve_simulates (fun _ _ hb => hb.knowsAlike) rfl
    (fun _ => rfl) (fun error herror => ⟨rfl, hfine error herror⟩) ?_) fun _ _ hv => hv trivial
  rintro _ b _ name target ⟨rfl, hb⟩ hroot ht hnew rfl rfl
  exact (h _ _ target hb hroot ht hnew rfl).simulates _

/-- The steps below agree where the type of a schema needs them, apart from its title: on its parts
and on its reference. -/
structure AgreeBelow (fine : CompileError → Prop) (inv : Block → Prop) (setting : Setting)
    (below below' : Below) (schema : Schema) : Prop where
  /-- Its parts. -/
  parts : ∀ part, HasPart schema part → ∀ level,
    Agree fine inv (below.expression part level) (below'.expression part level)
  /-- Its reference. -/
  reference : ∀ facts reference, schema.facts? = some facts →
    facts.keyword? "$ref" = some (.str reference) →
    Agree fine inv (resolve setting below reference) (resolve setting below' reference)
  /-- A keyword whose value does not fit is a fine error. -/
  invalid : ∀ keyword reason, fine (.invalidKeyword keyword reason)

/-- Steps below that agree go side by side. -/
theorem AgreeBelow.simulates (h : AgreeBelow fine inv setting below below' schema) :
    SimulatesBelow (SameError fine) (SameBlock inv) True setting setting below below' schema :=
  ⟨fun part hp level => (h.parts part hp level).simulates fun _ _ => rfl,
    fun facts reference hf hr => (h.reference facts reference hf hr).simulates fun _ _ => rfl,
    fun keyword reason => ⟨rfl, h.invalid keyword reason⟩, fun _ => rfl⟩

/-- A schema where its type is expected. -/
theorem expression_agree (h : AgreeBelow fine inv setting below below' schema)
    (htitle : ∀ title, schema.title = some title →
      Agree fine inv (nameTitled below.body schema title) (nameTitled below'.body schema title))
    (level : Nat) :
    Agree fine inv (expression setting below schema level)
      (expression setting below' schema level) := by
  refine .of_simulates (V := Alike True) (expression_simulates (fun _ => rfl)
    (fun _ => h.simulates) (fun title ht => ?_) level) fun _ _ hv => hv trivial
  exact (htitle title ht).simulates fun _ _ => rfl

/-- A schema that is declared. -/
theorem declarationBody_agree (h : AgreeBelow fine inv setting below below' schema) :
    Agree fine inv (declarationBody setting below schema)
      (declarationBody setting below' schema) :=
  .of_simulates (declarationBody_simulates h.simulates) fun _ _ hv => hv.eq trivial

end Schemas

/-! ## Properties that a whole run keeps -/

/-- A property of blocks is kept when a declaration is opened and when it is closed. -/
structure IsKept (setting : Setting) (inv : Block → Prop) : Prop where
  /-- A titled schema is declared. -/
  titled : ∀ b schema title name, inv b → schema.title = some title →
    (∀ entry ∈ b.titled, entry.1.same schema = false) →
    name = uniqueName b.used (Naming.typeName title) →
    inv (b.opened name schema.description (b.titled ++ [(schema, name)]) b.references)
  /-- The target of a reference is declared. -/
  reference : ∀ b reference target name, inv b → reference ≠ "#" →
    setting.target? reference = some target → reference ∉ Members.keys b.references →
    name = uniqueName b.used (Naming.typeName (referenceBase reference target)) →
    inv (b.opened name target.description b.titled ((reference, name) :: b.references))
  /-- A declaration gets its body. -/
  complete : ∀ b place body, inv b → inv (b.complete place body)

/-- What is wrong with a schema of a document is a fine error. -/
structure IsFine (setting : Setting) (fine : CompileError → Prop) : Prop where
  /-- A keyword whose value does not fit. -/
  invalid : ∀ keyword reason, fine (.invalidKeyword keyword reason)
  /-- A reference that leads nowhere. -/
  unresolved : ∀ reference, referred? setting.document reference = none →
    fine (.unresolved reference)

/-- What is wrong with a reference is a fine error. -/
theorem IsFine.target {setting : Setting} (h : IsFine setting fine) {reference : String}
    {error : CompileError} (herror : setting.target reference = .error error) : fine error := by
  rcases Setting.target_eq_error herror with ⟨hnone, rfl⟩ | ⟨reason, rfl⟩
  · exact h.unresolved reference hnone
  · exact h.invalid "$ref" reason

/-- Two ways to compile the schemas below agree for all schemas. -/
structure AgreeAll (fine : CompileError → Prop) (inv : Block → Prop) (below below' : Below) :
    Prop where
  /-- Where a type is expected. -/
  expression : ∀ schema level, Agree fine inv (below.expression schema level)
    (below'.expression schema level)
  /-- Where a schema is declared. -/
  body : ∀ schema, Agree fine inv (below.body schema) (below'.body schema)

section Kept

variable {setting : Setting} {below below' : Below}

/-- Where a property is kept by opening and closing declarations, steps agree over steps that
agree. -/
theorem IsKept.agreeAll (h : IsKept setting inv) (hfine : IsFine setting fine)
    (hb : AgreeAll fine inv below below') :
    AgreeAll fine inv ⟨expression setting below, declarationBody setting below⟩
      ⟨expression setting below', declarationBody setting below'⟩ := by
  have hbelow : ∀ schema, AgreeBelow fine inv setting below below' schema := by
    refine fun schema => ⟨fun part _ level => hb.expression part level, fun _ reference _ _ => ?_,
      hfine.invalid⟩
    exact resolve_agree (fun _ => hfine.target) fun b name target hinv hroot ht hnew hname =>
      ⟨inv, h.reference b reference target name hinv hroot ht hnew hname, hb.body target,
        h.complete⟩
  refine ⟨fun schema level => ?_, fun schema => declarationBody_agree (hbelow schema)⟩
  refine expression_agree (hbelow schema) (fun title ht => ?_) level
  exact nameTitled_agree fun b name hinv hnew hname =>
    ⟨inv, h.titled b schema title name hinv ht hnew hname, hb.body schema, h.complete⟩

/-- A property that is kept by opening and closing declarations is kept by the steps at every
bound. -/
theorem IsKept.agree_at (h : IsKept setting inv) (hfine : IsFine setting fine)
    (hexhausted : fine .exhausted) (bound : Nat) :
    AgreeAll fine inv ⟨expressionAt setting bound, bodyAt setting bound⟩
      ⟨expressionAt setting bound, bodyAt setting bound⟩ := by
  induction bound with
  | zero =>
    refine ⟨fun schema level => ?_, fun schema => ?_⟩
    · simp only [expressionAt]
      exact .throw hexhausted
    · simp only [bodyAt]
      exact .throw hexhausted
  | succ bound ih => exact h.agreeAll hfine ih

/-- Any error is fine when nothing is said of errors. -/
theorem isFine_true (setting : Setting) : IsFine setting fun _ => True :=
  ⟨fun _ _ => trivial, fun _ _ => trivial⟩

end Kept

end ProgramConnector.TypeScript
