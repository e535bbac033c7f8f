import ProgramConnector.Proofs.TypeScript.Simulation

/-!
# Families of runs

Several ways to compile the schemas below are compared at once, as the members of a family. Whatever
relates the members of a family, where values and errors are related and steps one after the other
are, holds of the expression and of the body of a schema when it holds on its parts, on its
reference and where a titled schema is named.
-/

namespace ProgramConnector.TypeScript

variable {ι α β : Type}

/-- A relation between the members of families of steps that goes along with how steps are made: it
holds of equal values, of the same keyword whose value does not fit, and of steps one after the
other. -/
structure Composes (Related : (α : Type) → (ι → Compile α) → Prop) : Prop where
  /-- Values that need no step. -/
  pure : ∀ {α : Type} (value : α), Related α fun _ => Pure.pure value
  /-- A keyword whose value does not fit. -/
  invalid : ∀ {α : Type} (keyword reason : String),
    Related α fun _ => MonadExcept.throw (.invalidKeyword keyword reason)
  /-- Steps one after the other. -/
  bind : ∀ {α β : Type} {step : ι → Compile α} {next : ι → α → Compile β}, Related α step →
    (∀ value, Related β fun i => next i value) → Related β fun i => step i >>= next i

/-- The steps below are related where the type of a schema needs them, apart from its title: on its
parts and on its reference. -/
structure RelatedBelow (Related : (α : Type) → (ι → Compile α) → Prop) (setting : Setting)
    (below : ι → Below) (schema : Schema) : Prop where
  /-- Its parts. -/
  parts : ∀ part, HasPart schema part → ∀ level,
    Related String fun i => (below i).expression part level
  /-- Its reference. -/
  reference : ∀ facts reference, schema.facts? = some facts →
    facts.keyword? "$ref" = some (.str reference) →
    Related String fun i => resolve setting (below i) reference

namespace Composes

variable {Related : (α : Type) → (ι → Compile α) → Prop}

/-- Steps whose values are rewritten. -/
theorem map (hc : Composes Related) {step : ι → Compile α} (hs : Related α step) (f : α → β) :
    Related β fun i => step i >>= fun value => Pure.pure (f value) :=
  hc.bind hs fun value => hc.pure (f value)

/-- Steps for the elements of a list. -/
theorem mapM (hc : Composes Related) {step : ι → α → Compile β} {xs : List α}
    (hs : ∀ x ∈ xs, Related β fun i => step i x) :
    Related (List β) fun i => xs.mapM (step i) := by
  induction xs with
  | nil =>
    simp only [List.mapM_nil]
    exact hc.pure []
  | cons x xs ih =>
    simp only [List.mapM_cons]
    obtain ⟨hx, hxs⟩ := List.forall_mem_cons.1 hs
    exact hc.bind hx fun value => hc.map (ih hxs) fun rest => value :: rest

section Expressions

variable {setting : Setting} {below : ι → Below} {facts : SchemaFacts} {properties : Properties}
  {items : Items} {extra : Extra} {schema : Schema}

/-- The literal types of values. -/
theorem enumeration (hc : Composes Related) (setting : Setting) (values : Json) :
    Related String fun _ => TypeScript.enumeration setting values := by
  cases values with
  | arr elements =>
    cases elements with
    | nil => exact hc.pure _
    | cons first rest => exact hc.pure _
  | _ => exact hc.invalid _ _

/-- The members of a combination. -/
theorem combination (hc : Composes Related)
    (h : RelatedBelow Related setting below (.object facts properties items extra))
    {keyword : String} {members : Json} (hmembers : facts.keyword? keyword = some members)
    (separator : String) (level : Nat) :
    Related String fun i =>
      TypeScript.combination setting (below i) keyword separator level members := by
  cases members with
  | arr elements =>
    refine hc.map (hc.mapM fun element he => ?_) fun parts =>
      joinParts setting separator (distinct parts)
    cases hs : Schema.ofJson? element with
    | none => exact hc.invalid _ _
    | some part => exact hc.map (h.parts part (.member hmembers he hs) level) parenthesized
  | _ => exact hc.invalid _ _

/-- The type of further properties. -/
theorem extraType (hc : Composes Related)
    (h : RelatedBelow Related setting below (.object facts properties items extra)) (level : Nat) :
    Related (Option String) fun i => TypeScript.extraType setting (below i) level extra := by
  cases extra with
  | absent => exact hc.pure _
  | allowed allowed =>
    cases allowed with
    | false => exact hc.pure _
    | true => exact hc.pure _
  | typed further =>
    exact hc.map (h.parts further (.child (List.mem_append_right _ List.mem_cons_self)) level) some

/-- The lines of an object's members. -/
theorem memberLines (hc : Composes Related)
    (h : RelatedBelow Related setting below (.object facts properties items extra)) (level : Nat) :
    Related String fun i =>
      TypeScript.memberLines setting (below i) level facts properties extra := by
  refine hc.bind (hc.mapM fun entry he => ?_) fun lines => ?_
  · exact hc.map (h.parts entry.2 (.child (mem_children_of_entry he)) level) fun text =>
      propertyLine (setting.profile.pad level) entry.1 entry.2 (facts.required.contains entry.1)
        text
  · exact hc.bind (hc.extraType h level) fun type => hc.pure _

/-- An object where it stands. -/
theorem objectExpression (hc : Composes Related)
    (h : RelatedBelow Related setting below (.object facts properties items extra)) (level : Nat) :
    Related String fun i =>
      TypeScript.objectExpression setting (below i) level facts properties extra := by
  refine hc.bind (hc.memberLines h (level + 1)) fun members => ?_
  split
  · exact hc.pure _
  · exact hc.pure _

/-- A list. -/
theorem listExpression (hc : Composes Related)
    (h : RelatedBelow Related setting below (.object facts properties items extra)) (level : Nat) :
    Related String fun i => TypeScript.listExpression setting (below i) level items := by
  have hitems : ∀ part ∈ items.schemas, ∀ level,
      Related String fun i => (below i).expression part level :=
    fun part hp => h.parts part (.child (List.mem_append_left _ (List.mem_append_right _ hp)))
  cases items with
  | absent => exact hc.pure _
  | each element =>
    exact hc.map (hitems element List.mem_cons_self level) fun text => parenthesized text ++ "[]"
  | tuple places =>
    exact hc.map (hc.mapM fun place hp => hitems place hp level) fun texts =>
      "[" ++ ", ".intercalate texts ++ "]"

/-- A schema object by its tags. -/
theorem taggedExpression (hc : Composes Related)
    (h : RelatedBelow Related setting below (.object facts properties items extra)) (level : Nat) :
    Related String fun i =>
      TypeScript.taggedExpression setting (below i) level facts properties items extra := by
  refine hc.map (hc.mapM fun tag _ => ?_) fun parts => joinParts setting " | " (distinct parts)
  split
  · exact hc.objectExpression h level
  split
  · exact hc.listExpression h level
  · exact hc.pure _

/-- A schema object without regard to its title. -/
theorem inlineExpression (hc : Composes Related)
    (h : RelatedBelow Related setting below (.object facts properties items extra)) (level : Nat) :
    Related String fun i =>
      TypeScript.inlineExpression setting (below i) level facts properties items extra := by
  unfold TypeScript.inlineExpression
  split
  · rename_i reference href
    cases reference with
    | str reference => exact h.reference facts reference rfl href
    | _ => exact hc.invalid _ _
  split
  · exact hc.pure _
  split
  · exact hc.enumeration setting _
  split
  · exact hc.combination h ‹_› _ level
  split
  · exact hc.combination h ‹_› _ level
  split
  · exact hc.combination h ‹_› _ level
  · exact hc.taggedExpression h level

/-- A schema where its type is expected. -/
theorem expression (hc : Composes Related)
    (huntitled : schema.title = none → RelatedBelow Related setting below schema)
    (htitled : ∀ title, schema.title = some title →
      Related String fun i => nameTitled (below i).body schema title) (level : Nat) :
    Related String fun i => TypeScript.expression setting (below i) schema level := by
  cases schema with
  | bool allowed => exact hc.pure _
  | object facts properties items extra =>
    cases ht : facts.title with
    | some title =>
      simp only [TypeScript.expression, ht]
      exact htitled title ht
    | none =>
      simp only [TypeScript.expression, ht]
      exact hc.inlineExpression (huntitled ht) level

/-- A schema that is declared. -/
theorem declarationBody (hc : Composes Related) (h : RelatedBelow Related setting below schema) :
    Related Body fun i => TypeScript.declarationBody setting (below i) schema := by
  cases schema with
  | bool allowed => exact hc.pure _
  | object facts properties items extra =>
    simp only [TypeScript.declarationBody]
    split
    · exact hc.map (hc.memberLines h 1) Body.interface
    · exact hc.map (hc.inlineExpression h 0) Body.alias

end Expressions

end Composes

end ProgramConnector.TypeScript
