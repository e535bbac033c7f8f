import ProgramConnector.Proofs.TypeScript.Composition
import ProgramConnector.Proofs.TypeScript.NamedElements

/-!
# The names that schemas get

A titled schema gets a name wherever its type is expected, and may get it long before the run ends
or fails. That it does is seen by looking for the two: the run does not come past a look that fails
at this schema with this name and nowhere else. Every titled schema that is entered into the block
is seen in this way, since its name is returned as soon as its declaration is closed.
-/

namespace ProgramConnector.TypeScript

variable {α β : Type}

open Classical in
/-- A look for a schema and a name, which fails where the schema gets the name and nowhere else. -/
noncomputable def lookFor (part : Schema) (name : String) (schema : Schema) (text : String)
    (_ : Block) : Bool :=
  !decide (schema = part ∧ text = name)

/-- A titled schema gets a name while a schema is compiled: the run does not come past a look for
the two, whatever it is refused with. -/
def IsNamed (schema : Schema) (rootName : String) (profile : Profile) (part : Schema)
    (name : String) : Prop :=
  part.title.isSome ∧ ∀ refusal,
    blockWatched refusal (lookFor part name) schema rootName profile = .error refusal

/-- What a schema is named can be computed with a test for the schema. -/
theorem isNamed_of_test {schema part : Schema} {rootName name : String} {profile : Profile}
    {test : Schema → Bool} (htest : ∀ other, test other = true ↔ other = part)
    (htitle : part.title.isSome)
    (hrun : ∀ refusal, blockWatched refusal (fun other text _ => !(test other && text == name))
      schema rootName profile = .error refusal) :
    IsNamed schema rootName profile part name := by
  refine ⟨htitle, fun refusal => ?_⟩
  have hlook : lookFor part name = fun other text _ => !(test other && text == name) := by
    funext other text _
    refine congrArg (!·) (Bool.eq_iff_iff.2 ?_)
    simp [htest]
  rw [hlook]
  exact hrun refusal

/-- The steps with at most `bound` steps inside one another, without a look or with one. -/
def stepsSeen (setting : Setting) (refusal : CompileError) (bound : Nat) :
    Option (Schema → String → Block → Bool) → Below
  | none => ⟨expressionAt setting bound, bodyAt setting bound⟩
  | some look =>
    ⟨expressionWatched setting refusal look bound, bodyWatched setting refusal look bound⟩

/-! ## Schemas that are entered -/

/-- A schema that is entered under a name is met by a look: where the run without the look succeeds,
the run with it is refused, or it ends in the same way and has not made this entry. -/
def Met (entry : Schema × String) (refusal : CompileError) (b : Block)
    (run seen : Except CompileError (α × Block)) : Prop :=
  ∀ result, run = .ok result →
    seen = .error refusal ∨ seen = .ok result ∧ (entry ∈ result.2.titled → entry ∈ b.titled)

/-- A step with a look meets the entry on every block, beside the step without the look. -/
def Meets (entry : Schema × String) (refusal : CompileError) (α : Type)
    (step : Bool → Compile α) : Prop :=
  ∀ b, Met entry refusal b ((step false).run b) ((step true).run b)

section Entered

variable {entry : Schema × String} {part : Schema} {name : String} {refusal : CompileError}
  {b : Block} {schema : Schema}

namespace Met

/-- A value in a block that has the entry only if it had it before. -/
theorem ok {result : α × Block} (hback : entry ∈ result.2.titled → entry ∈ b.titled) :
    Met entry refusal b (.ok result) (.ok result) := by
  rintro _ ⟨⟩
  exact .inr ⟨rfl, hback⟩

/-- A run that fails. -/
theorem error (error : CompileError) (seen : Except CompileError (α × Block)) :
    Met entry refusal b (.error error) seen :=
  fun _ hrun => nomatch hrun

/-- Runs one after the other. -/
theorem bind {run seen : Except CompileError (α × Block)}
    {next nextSeen : α × Block → Except CompileError (β × Block)}
    (h : Met entry refusal b run seen)
    (hnext : ∀ result, run = .ok result →
      Met entry refusal result.2 (next result) (nextSeen result)) :
    Met entry refusal b (run >>= next) (seen >>= nextSeen) := by
  intro last hlast
  obtain ⟨result, hrun, hlast⟩ := bind_eq_ok hlast
  rcases h result hrun with hrefused | ⟨hsame, hback⟩
  · rw [hrefused]
    exact .inl rfl
  · rw [hsame]
    exact (hnext result hrun last hlast).imp_right fun h => ⟨h.1, fun hm => hback (h.2 hm)⟩

/-- A run on a block that has the entry only if another one has. -/
theorem mono {opened : Block} {run seen : Except CompileError (α × Block)}
    (h : Met entry refusal opened run seen) (hback : entry ∈ opened.titled → entry ∈ b.titled) :
    Met entry refusal b run seen :=
  fun result hrun => (h result hrun).imp_right fun h => ⟨h.1, fun hm => hback (h.2 hm)⟩

/-- The run of a body whose declaration is closed behind it. -/
theorem closed {run seen : Except CompileError (Body × Block)}
    (h : Met entry refusal b run seen) (name : String) (place : Nat) :
    Met entry refusal b (run.map fun result => (name, result.2.complete place result.1))
      (seen.map fun result => (name, result.2.complete place result.1)) := by
  rw [map_eq_bind, map_eq_bind]
  exact h.bind fun result _ => .ok id

end Met

/-- Meeting an entry goes along with how steps are made. -/
theorem composes_meets (entry : Schema × String) (refusal : CompileError) :
    Composes (Meets entry refusal) := by
  refine ⟨fun value b => .ok id, fun keyword reason b => .error _ _, fun hs hn b => ?_⟩
  simp only [StateT.run_bind]
  exact (hs b).bind fun result _ => hn result.1 result.2

/-- The name of a reference's target, which is no schema that is entered for its title. -/
theorem meets_resolve {below : Bool → Below} (setting : Setting) (reference : String)
    (hbody : ∀ target, Meets entry refusal Body fun i => (below i).body target) :
    Meets entry refusal String fun i => resolve setting (below i) reference := by
  intro b
  by_cases hroot : reference = "#"
  · subst hroot
    exact .ok id
  simp only [run_resolve setting _ hroot]
  cases Members.find? reference b.references with
  | some name => exact .ok id
  | none =>
    cases setting.target reference with
    | error error => exact .error _ _
    | ok target => exact ((hbody target _).mono id).closed _ _

/-- An expression that is looked at is refused where a schema is entered below it. -/
theorem meets_watched {step : Bool → Compile String} (hstep : Meets entry refusal String step)
    (look : String → Block → Bool) :
    Meets entry refusal String fun i =>
      bif i then watched refusal look (step true) else step false := by
  intro b
  simp only [cond_true, cond_false, run_watched]
  rw [← bind_pure ((step false).run b)]
  refine (hstep b).bind fun result _ => ?_
  by_cases hlook : look result.1 result.2 = true
  · rw [if_pos hlook]
    exact .ok id
  · rw [if_neg hlook]
    exact fun _ _ => .inl rfl

/-- A titled schema that is looked for is refused when it is entered, as soon as its declaration is
closed. -/
theorem meets_nameTitled {below : Bool → Below}
    (hbody : Meets (part, name) refusal Body fun i => (below i).body schema) (title : String) :
    Meets (part, name) refusal String fun i =>
      bif i then
        watched refusal (lookFor part name schema) (nameTitled (below true).body schema title)
      else nameTitled (below false).body schema title := by
  intro b
  simp only [cond_true, cond_false, run_watched, run_nameTitled]
  generalize uniqueName b.used (Naming.typeName title) = given
  cases b.titled.find? fun entry => entry.1.same schema with
  | some known =>
    rintro _ ⟨⟩
    by_cases hlook : lookFor part name schema known.2 b = true
    · exact .inr ⟨if_pos hlook, id⟩
    · exact .inl (if_neg hlook)
  | none =>
    intro result hrun
    have hclosed := (hbody (b.opened given schema.description (b.titled ++ [(schema, given)])
      b.references)).closed given b.declarations.length
    have hgiven : result.1 = given := by
      rw [map_eq_bind] at hrun
      obtain ⟨inner, -, hinner⟩ := bind_eq_ok hrun
      rw [← Except.ok.inj hinner]
    rcases hclosed result hrun with hrefused | ⟨hsame, hback⟩
    · rw [hrefused]
      exact .inl rfl
    · rw [hsame]
      by_cases hlook : lookFor part name schema result.1 result.2 = true
      · refine .inr ⟨if_pos hlook, fun hentry => ?_⟩
        -- The entry was not made for the schema at hand, or the look would have failed.
        refine (List.mem_append.1 (hback hentry)).resolve_right fun hnew => ?_
        obtain ⟨rfl, rfl⟩ := Prod.mk.inj (List.eq_of_mem_singleton hnew)
        simp [lookFor, hgiven] at hlook
      · exact .inl (if_neg hlook)

/-- A titled schema is written with its name where its type is expected. -/
theorem expression_titled (setting : Setting) (below : Below) {title : String}
    (htitle : schema.title = some title) (level : Nat) :
    expression setting below schema level = nameTitled below.body schema title := by
  cases schema with
  | bool allowed => cases htitle
  | object facts properties items extra =>
    have htitle' : facts.title = some title := htitle
    simp only [expression, htitle']

/-- Steps that look for a schema are refused where it is entered, at every bound. -/
theorem meets_at (setting : Setting) (refusal : CompileError) (part : Schema) (name : String)
    (bound : Nat) : ∀ schema : Schema,
      (∀ level, Meets (part, name) refusal String fun i => (stepsSeen setting refusal bound
        (bif i then some (lookFor part name) else none)).expression schema level) ∧
      Meets (part, name) refusal Body fun i => (stepsSeen setting refusal bound
        (bif i then some (lookFor part name) else none)).body schema := by
  have hcomposes := composes_meets (part, name) refusal
  induction bound with
  | zero =>
    refine fun schema => ⟨fun level b => ?_, fun b => ?_⟩
    · simp only [cond_false, stepsSeen, expressionAt]
      exact .error _ _
    · simp only [cond_false, stepsSeen, bodyAt]
      exact .error _ _
  | succ bound ih =>
    intro schema
    have hbelow : RelatedBelow (Meets (part, name) refusal) setting (fun i =>
        stepsSeen setting refusal bound (bif i then some (lookFor part name) else none)) schema :=
      ⟨fun other _ => (ih other).1,
        fun _ reference _ _ => meets_resolve setting reference fun target => (ih target).2⟩
    refine ⟨fun level b => ?_, fun b => ?_⟩
    · cases htitle : schema.title with
      | none =>
        have hexpression := hcomposes.expression (fun _ => hbelow) (fun title h => by
          rw [htitle] at h
          cases h) level
        have hstep := meets_watched hexpression (lookFor part name schema)
        simpa only [cond_true, cond_false, stepsSeen, expressionAt, expressionWatched] using hstep b
      | some title =>
        have hstep := meets_nameTitled (ih schema).2 title
        simpa only [cond_true, cond_false, stepsSeen, expressionAt, expressionWatched,
          expression_titled setting _ htitle] using hstep b
    · have hstep := hcomposes.declarationBody hbelow b
      simpa only [cond_true, cond_false, stepsSeen, bodyAt, bodyWatched] using hstep

/-- Every titled schema that a block has a name for gets this name while the block is made. -/
theorem isNamed_of_mem_titled {rootName : String} {profile : Profile} {block : Block}
    (hblock : blockOf schema rootName profile = .ok block) (hentry : (part, name) ∈ block.titled)
    (htitle : part.title.isSome) : IsNamed schema rootName profile part name := by
  refine ⟨htitle, fun refusal => ?_⟩
  obtain ⟨body, b, hrun, rfl⟩ := blockOf_eq_ok hblock
  have hmeets := (meets_at ⟨profile, rootName, schema.toJson⟩ refusal part name
    (stepBound schema.toJson) schema).2
  rcases hmeets (Block.start rootName schema.description) (body, b) hrun with
    hrefused | ⟨-, hback⟩
  · simp only [cond_true, stepsSeen] at hrefused
    rw [blockWatched, hrefused]
    rfl
  · exact absurd (hback hentry) List.not_mem_nil

end Entered

end ProgramConnector.TypeScript
