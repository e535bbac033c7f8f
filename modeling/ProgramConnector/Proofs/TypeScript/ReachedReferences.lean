import ProgramConnector.Proofs.TypeScript.Agreement

/-!
# References that are reached

A reference is reached when compiling asks for it. To say so, a run is watched: it is refused, with
an error of the watcher's choice, as soon as it would compile a schema that stands by the reference.
A reference that leads to no value of the document fails wherever it is reached, whichever path led
there, and nothing else fails with its error. A reference that leads to a schema is never refused by
the compiler itself, wherever in the document the schema is.
-/

namespace ProgramConnector.TypeScript

variable {α : Type}

/-! ## Runs that are refused -/

/-- Whether a schema stands by a reference. -/
def refersTo (reference : String) (schema : Schema) : Bool :=
  match schema.facts?.bind fun facts => facts.keyword? "$ref" with
  | some (.str other) => other == reference
  | _ => false

/-- A step that is refused on a condition. -/
def refusedIf (refusal : CompileError) (refuse : Bool) (step : Compile α) : Compile α :=
  if refuse then throw refusal else step

mutual

/-- The expression of a schema, with at most `bound` steps inside one another, refused wherever an
untitled schema stands by the reference. -/
def expressionRefusing (setting : Setting) (refusal : CompileError) (reference : String) :
    Nat → Schema → Nat → Compile String
  | 0, _, _ => throw .exhausted
  | bound + 1, schema, level =>
    refusedIf refusal (schema.title.isNone && refersTo reference schema) (expression setting
      ⟨expressionRefusing setting refusal reference bound,
        bodyRefusing setting refusal reference bound⟩ schema level)

/-- The body of a declared schema, with at most `bound` steps inside one another, refused wherever a
schema stands by the reference. -/
def bodyRefusing (setting : Setting) (refusal : CompileError) (reference : String) :
    Nat → Schema → Compile Body
  | 0, _ => throw .exhausted
  | bound + 1, schema =>
    refusedIf refusal (refersTo reference schema) (declarationBody setting
      ⟨expressionRefusing setting refusal reference bound,
        bodyRefusing setting refusal reference bound⟩ schema)

end

/-- The block of a schema, refused as soon as the reference is asked for. -/
def blockRefusing (refusal : CompileError) (reference : String) (schema : Schema)
    (rootName : String) (profile : Profile) : Except CompileError Block := do
  let document := schema.toJson
  let setting : Setting := ⟨profile, rootName, document⟩
  let (body, block) ← (bodyRefusing setting refusal reference (stepBound document) schema).run
    (Block.start rootName schema.description)
  return block.complete 0 body

/-- Compiling a schema reaches a reference: however it is refused, the run ends with the refusal. -/
def Reaches (schema : Schema) (rootName : String) (profile : Profile) (reference : String) : Prop :=
  ∀ refusal, blockRefusing refusal reference schema rootName profile = .error refusal

/-! ## Asking for a reference -/

section Asking

variable {setting : Setting} {below : Below} {reference : String} {schema : Schema}

/-- A schema that stands by a reference has it as a keyword. -/
theorem refersTo_iff : refersTo reference schema = true ↔
    ∃ facts, schema.facts? = some facts ∧ facts.keyword? "$ref" = some (.str reference) := by
  unfold refersTo
  cases schema.facts? with
  | none => simp
  | some facts =>
    rw [Option.bind_some]
    cases hk : facts.keyword? "$ref" with
    | none => simp [hk]
    | some value => cases value <;> simp [hk]

/-- A schema object that stands by a reference is compiled by resolving it. -/
theorem inlineExpression_of_refersTo {facts : SchemaFacts} {properties : Properties} {items : Items}
    {extra : Extra} (h : facts.keyword? "$ref" = some (.str reference)) (level : Nat) :
    inlineExpression setting below level facts properties items extra =
      resolve setting below reference := by
  simp only [inlineExpression, h]

/-- An untitled schema that stands by a reference is compiled by resolving it. -/
theorem expression_of_refersTo (htitle : schema.title = none)
    (h : refersTo reference schema = true) (level : Nat) :
    expression setting below schema level = resolve setting below reference := by
  obtain ⟨facts, hfacts, hkeyword⟩ := refersTo_iff.1 h
  cases schema with
  | bool allowed => cases hfacts
  | object facts' properties items extra =>
    obtain rfl := Option.some.inj hfacts
    have hnone : facts'.title = none := htitle
    simp only [expression, hnone]
    exact inlineExpression_of_refersTo hkeyword level

/-- A declared schema that stands by a reference is another name for its target. -/
theorem declarationBody_of_refersTo (h : refersTo reference schema = true) :
    declarationBody setting below schema =
      (do return .alias (← resolve setting below reference)) := by
  obtain ⟨facts, hfacts, hkeyword⟩ := refersTo_iff.1 h
  cases schema with
  | bool allowed => cases hfacts
  | object facts' properties items extra =>
    obtain rfl := Option.some.inj hfacts
    have hlike : isInterfaceLike facts' properties = false := by
      simp [isInterfaceLike, combiningKeywords, hkeyword]
    simp only [declarationBody, hlike, Bool.false_eq_true, if_false,
      inlineExpression_of_refersTo hkeyword]

end Asking

/-! ## Refusing a reference without a target -/

section Refusing

variable {setting : Setting} {reference : String} {reason refusal : CompileError}

/-- How a run ends that is refused at a reference, next to one that fails there for a reason. -/
inductive Refused (reference : String) (reason refusal : CompileError) :
    CompileError → CompileError → Prop
  /-- At the reference. -/
  | refused : Refused reference reason refusal reason refusal
  /-- Before it, for a reason that is not that the reference leads nowhere. -/
  | other {error : CompileError} (isOther : error ≠ .unresolved reference) :
    Refused reference reason refusal error error

/-- A reference that has no name yet. -/
def Block.IsNew (reference : String) (block : Block) : Prop :=
  reference ∉ Members.keys block.references

/-- Steps without and with the refusal of a reference go side by side. -/
abbrev RefusesLike (reference : String) (reason refusal : CompileError)
    (V : α → α → Prop) (step step' : Compile α) : Prop :=
  Simulates (Refused reference reason refusal) (SameBlock (Block.IsNew reference)) V step step'

/-- A reference that has no target and no name yet is not resolved. -/
theorem resolve_refused (below : Below) (hroot : reference ≠ "#")
    (htarget : setting.target reference = .error reason) :
    RefusesLike reference reason refusal (Alike True) (resolve setting below reference)
      (throw refusal) := by
  rintro _ b ⟨rfl, hnew⟩
  rw [run_resolve setting below hroot, Members.find?_eq_none_iff.2 hnew, htarget]
  exact .error .refused

variable {below below' : Below}

/-- The steps below go side by side without and with the refusal. -/
structure RefusesBelow (reference : String) (reason refusal : CompileError)
    (below below' : Below) : Prop where
  /-- Where a type is expected. -/
  expression : ∀ schema level, RefusesLike reference reason refusal (Alike True)
    (below.expression schema level) (below'.expression schema level)
  /-- Where a schema is declared. -/
  body : ∀ schema, RefusesLike reference reason refusal (Body.Alike True)
    (below.body schema) (below'.body schema)

/-- Another reference is resolved alike. -/
theorem RefusesBelow.resolve (h : RefusesBelow reference reason refusal below below')
    {other : String} (hother : other ≠ reference) :
    RefusesLike reference reason refusal (Alike True) (resolve setting below other)
      (TypeScript.resolve setting below' other) := by
  refine resolve_simulates (fun _ _ hb => hb.knowsAlike) rfl (fun _ => rfl) (fun error he => ?_) ?_
  · refine .other ?_
    rcases Setting.target_eq_error he with ⟨-, rfl⟩ | ⟨reason, rfl⟩
    · simpa using hother
    · simp
  · rintro _ b _ name target ⟨rfl, hb⟩ _ _ _ rfl rfl
    have hopened : Block.IsNew reference (b.opened
        (uniqueName b.used (Naming.typeName (referenceBase other target))) target.description
        b.titled ((other, uniqueName b.used (Naming.typeName (referenceBase other target))) ::
          b.references)) :=
      fun hm => (List.mem_cons.1 hm).elim (fun he => hother he.symm) hb
    exact simulatesOpened_same hopened (h.body target) (fun _ _ _ hc => hc) _

/-- The name of a titled schema is given alike. -/
theorem RefusesBelow.nameTitled (h : RefusesBelow reference reason refusal below below')
    (schema : Schema) (title : String) :
    RefusesLike reference reason refusal (Alike True) (nameTitled below.body schema title)
      (TypeScript.nameTitled below'.body schema title) := by
  refine nameTitled_simulates (fun _ _ hb => hb.knowsAlike) ?_
  rintro _ b _ name ⟨rfl, hb⟩ _ rfl rfl
  have hopened : Block.IsNew reference (b.opened
      (uniqueName b.used (Naming.typeName title)) schema.description
      (b.titled ++ [(schema, uniqueName b.used (Naming.typeName title))]) b.references) := hb
  exact simulatesOpened_same hopened (h.body schema) (fun _ _ _ hc => hc) _

/-- A schema that does not stand by the reference is compiled alike. -/
theorem RefusesBelow.simulatesBelow (h : RefusesBelow reference reason refusal below below')
    {schema : Schema} (hother : refersTo reference schema = false) :
    SimulatesBelow (Refused reference reason refusal) (SameBlock (Block.IsNew reference)) True
      setting setting below below' schema := by
  refine ⟨fun part _ level => h.expression part level, fun facts other hfacts hother' => ?_,
    fun _ _ => .other (by simp), fun _ => rfl⟩
  refine h.resolve ?_
  rintro rfl
  rw [refersTo_iff.2 ⟨facts, hfacts, hother'⟩] at hother
  cases hother

/-- Steps over steps that go side by side do so too: a schema that stands by the reference fails
without the refusal, and any other one is compiled alike. -/
theorem refusesBelow_step (hroot : reference ≠ "#")
    (htarget : setting.target reference = .error reason)
    (h : RefusesBelow reference reason refusal below below') :
    RefusesBelow reference reason refusal
      ⟨expression setting below, declarationBody setting below⟩
      ⟨fun schema level => refusedIf refusal (schema.title.isNone && refersTo reference schema)
        (expression setting below' schema level),
        fun schema => refusedIf refusal (refersTo reference schema)
          (declarationBody setting below' schema)⟩ := by
  refine ⟨fun schema level => ?_, fun schema => ?_⟩
  · dsimp only [refusedIf]
    split
    · rename_i hrefused
      obtain ⟨htitle, hrefers⟩ := Bool.and_eq_true_iff.1 hrefused
      rw [expression_of_refersTo (Option.isNone_iff_eq_none.1 htitle) hrefers]
      exact resolve_refused below hroot htarget
    · rename_i hpassed
      refine expression_simulates (fun _ => rfl) (fun htitle => h.simulatesBelow ?_)
        (fun title _ => h.nameTitled schema title) level
      simpa [htitle] using hpassed
  · dsimp only [refusedIf]
    split
    · rename_i hrefers
      rw [declarationBody_of_refersTo hrefers]
      have hthrow : (throw refusal : Compile Body) = (throw refusal >>= fun name : String =>
          pure (.alias name)) := rfl
      rw [hthrow]
      exact (resolve_refused below hroot htarget).map fun name name' hname =>
        ⟨rfl, fun hs => by rw [hname hs]⟩
    · rename_i hpassed
      exact declarationBody_simulates (h.simulatesBelow (Bool.eq_false_iff.2 hpassed))

/-- At every bound the steps go side by side without and with the refusal. -/
theorem refusesBelow_at (hroot : reference ≠ "#")
    (htarget : setting.target reference = .error reason) (refusal : CompileError) (bound : Nat) :
    RefusesBelow reference reason refusal
      ⟨expressionAt setting bound, bodyAt setting bound⟩
      ⟨expressionRefusing setting refusal reference bound,
        bodyRefusing setting refusal reference bound⟩ := by
  induction bound with
  | zero =>
    refine ⟨fun schema level => ?_, fun schema => ?_⟩
    · simp only [expressionAt, expressionRefusing]
      exact .throw (.other (by simp))
    · simp only [bodyAt, bodyRefusing]
      exact .throw (.other (by simp))
  | succ bound ih => exact refusesBelow_step hroot htarget ih

end Refusing

/-! ## The whole run -/

section Run

variable {schema : Schema} {rootName : String} {profile : Profile} {reference : String}

/-- Next to a run that is refused at a reference without a target, the compiler makes the same block
or fails: there for the reason that the reference has no target, or before it. -/
theorem blockOf_refused (hroot : reference ≠ "#") {reason : CompileError}
    (htarget : Setting.target ⟨profile, rootName, schema.toJson⟩ reference = .error reason)
    (refusal : CompileError) :
    (∃ block, blockOf schema rootName profile = .ok block ∧
      blockRefusing refusal reference schema rootName profile = .ok block) ∨
    ∃ error error', blockOf schema rootName profile = .error error ∧
      blockRefusing refusal reference schema rootName profile = .error error' ∧
      Refused reference reason refusal error error' := by
  have hstart : Block.IsNew reference (Block.start rootName schema.description) :=
    List.not_mem_nil
  have hends := (refusesBelow_at hroot htarget refusal (stepBound schema.toJson)).body schema _ _
    ⟨rfl, hstart⟩
  dsimp only [blockOf, blockRefusing]
  generalize (bodyAt ⟨profile, rootName, schema.toJson⟩ _ schema).run _ = run at hends ⊢
  generalize (bodyRefusing ⟨profile, rootName, schema.toJson⟩ refusal reference _ schema).run _ =
    run' at hends ⊢
  cases hends with
  | error errors => exact .inr ⟨_, _, rfl, rfl, errors⟩
  | ok values blocks =>
    obtain ⟨rfl, -⟩ := blocks
    rw [values.eq trivial]
    exact .inl ⟨_, rfl, rfl⟩

/-- A reference that is reached and has no target fails for that reason. -/
theorem Reaches.blockOf_eq_error (h : Reaches schema rootName profile reference)
    (hroot : reference ≠ "#") {reason : CompileError}
    (htarget : Setting.target ⟨profile, rootName, schema.toJson⟩ reference = .error reason) :
    blockOf schema rootName profile = .error reason := by
  have hrefused := h reason
  rcases blockOf_refused hroot htarget reason with ⟨block, -, hb⟩ | ⟨error, error', he, he', hr⟩
  · rw [hrefused] at hb
    cases hb
  · rw [hrefused] at he'
    cases he'
    cases hr with
    | refused => exact he
    | other isOther => exact he

/-- A reference that is reported as unresolved leads to no value of the document. -/
theorem referred?_eq_none_of_blockOf
    (h : blockOf schema rootName profile = .error (.unresolved reference)) :
    referred? schema.toJson reference = none := by
  have hfine : IsFine ⟨profile, rootName, schema.toJson⟩ fun error =>
      ∀ reference, error = .unresolved reference → referred? schema.toJson reference = none := by
    refine ⟨by simp, fun other hother reference heq => ?_⟩
    rwa [← CompileError.unresolved.inj heq]
  have hkept : IsKept ⟨profile, rootName, schema.toJson⟩ fun _ => True :=
    ⟨fun _ _ _ _ _ _ _ _ => trivial, fun _ _ _ _ _ _ _ _ _ => trivial,
      fun _ _ _ _ => trivial⟩
  obtain ⟨-, hends⟩ := (hkept.agree_at hfine (by simp) (stepBound schema.toJson)).body
    schema (Block.start rootName schema.description) trivial
  dsimp only [blockOf] at h
  cases hrun : (bodyAt ⟨profile, rootName, schema.toJson⟩ (stepBound schema.toJson) schema).run
      (Block.start rootName schema.description) with
  | error error =>
    rw [hrun] at h hends
    cases h
    exact hends reference rfl
  | ok result =>
    rw [hrun] at h
    cases h

/-- A reference that is reported as unresolved is reached. -/
theorem reaches_of_blockOf
    (h : blockOf schema rootName profile = .error (.unresolved reference)) :
    Reaches schema rootName profile reference := by
  have hnone := referred?_eq_none_of_blockOf h
  have hroot : reference ≠ "#" := by
    rintro rfl
    rw [referred?_root] at hnone
    cases hnone
  have htarget : Setting.target ⟨profile, rootName, schema.toJson⟩ reference =
      .error (.unresolved reference) := by
    rw [Setting.target, hnone]
  intro refusal
  rcases blockOf_refused hroot htarget refusal with ⟨block, hb, -⟩ | ⟨error, error', he, he', hr⟩
  · rw [h] at hb
    cases hb
  · rw [h] at he
    cases he
    rw [he']
    cases hr with
    | refused => rfl
    | other isOther => exact absurd rfl isOther

/-- What compiling a schema ends with, by the block that is made. -/
theorem compile_eq_error_iff {error : CompileError} :
    compile schema rootName profile = .error error ↔
      blockOf schema rootName profile = .error error := by
  unfold compile declarations
  cases blockOf schema rootName profile <;> simp [Except.map]

end Run

/-- A schema fails to compile with a reference that cannot be resolved exactly when the reference is
reached and leads to no value of the document. When the schema compiles, every reference that is
reached is that of the root or leads to a schema, which may be anywhere in the document. -/
theorem unresolved_iff_reaches (schema : Schema) (rootName : String) (profile : Profile)
    (reference : String) :
    (compile schema rootName profile = .error (.unresolved reference) ↔
      Reaches schema rootName profile reference ∧ referred? schema.toJson reference = none) ∧
    ∀ text, compile schema rootName profile = .ok text →
      Reaches schema rootName profile reference →
      reference = "#" ∨ ∃ value target, referred? schema.toJson reference = some value ∧
        Schema.ofJson? value = some target := by
  refine ⟨⟨fun h => ?_, fun ⟨hreaches, hnone⟩ => ?_⟩, fun text htext hreaches => ?_⟩
  · rw [compile_eq_error_iff] at h
    exact ⟨reaches_of_blockOf h, referred?_eq_none_of_blockOf h⟩
  · rw [compile_eq_error_iff]
    refine hreaches.blockOf_eq_error ?_ (by rw [Setting.target, hnone])
    rintro rfl
    rw [referred?_root] at hnone
    cases hnone
  · by_cases hroot : reference = "#"
    · exact .inl hroot
    · right
      cases htarget : Setting.target ⟨profile, rootName, schema.toJson⟩ reference with
      | error reason =>
        rw [compile_eq_error_iff.2 (hreaches.blockOf_eq_error hroot htarget)] at htext
        cases htext
      | ok target =>
        rw [Setting.target] at htarget
        split at htarget
        · cases htarget
        · rename_i value hvalue
          split at htarget
          · cases htarget
          · rename_i schema' hschema
            exact ⟨value, schema', hvalue, hschema⟩

/-- A pair of properties of one type: the second one refers to the first one where it stands. -/
def pairSchema : Schema :=
  let first : Schema := .object ⟨some (.one "string"), none, []⟩ .absent .absent .absent
  let second : Schema :=
    .object ⟨none, none, [("$ref", .str "#/properties/a")]⟩ .absent .absent .absent
  .object ⟨some (.one "object"), none, []⟩ (.listed [("a", first), ("b", second)]) .absent .absent

set_option maxRecDepth 4000 in
/-- A reference to a property is resolved, although it is no entry of the definitions. -/
theorem unresolved_iff_reaches_pair :
    compile pairSchema "Doc" {} = .ok
      "export interface Doc \x7b\n  a?: string;\n  b?: A;\n\x7d\n\nexport type A = string;\n" ∧
    Reaches pairSchema "Doc" {} "#/properties/a" ∧
    ∃ value target, referred? pairSchema.toJson "#/properties/a" = some value ∧
      Schema.ofJson? value = some target := by
  have htext : compile pairSchema "Doc" {} = .ok
      "export interface Doc \x7b\n  a?: string;\n  b?: A;\n\x7d\n\nexport type A = string;\n" := by
    rfl
  have hreaches : Reaches pairSchema "Doc" {} "#/properties/a" := by
    intro refusal
    rfl
  rcases (unresolved_iff_reaches pairSchema "Doc" {} "#/properties/a").2 _ htext hreaches with
    hroot | hleads
  · exact absurd hroot (by decide)
  · exact ⟨htext, hreaches, hleads⟩

end ProgramConnector.TypeScript
