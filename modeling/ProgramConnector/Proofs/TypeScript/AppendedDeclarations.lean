import ProgramConnector.Proofs.TypeScript.MetNames

/-!
# Steps only append

A step of compilation that succeeds leaves all declarations of the block as they are, also those that
are still open, and adds finished ones behind them. A declaration gets its body at the place that it
took before the schemas below it were compiled, and there is still no other one at this place. So
whatever has a body when a step returns keeps it to the end of the run, and the declarations are in
the order in which a depth-first walk from the root through the mentioned names finds them.
-/

namespace ProgramConnector.TypeScript

variable {α β : Type}

/-! ## Growing blocks -/

/-- What a step does to any block: it adds finished declarations behind those that are there, their
names to the names in use, and entries for schemas and references. -/
structure Block.Grows (b b' : Block) : Prop where
  /-- Declarations with bodies are added, and their names are in use, the last one first. -/
  declarations : ∃ added, b'.declarations = b.declarations ++ added ∧
    (∀ declaration ∈ added, declaration.body.isSome) ∧
    b'.used = (added.map (·.name)).reverse ++ b.used
  /-- Titled schemas are added behind those that are there. -/
  titled : ∃ added, b'.titled = b.titled ++ added
  /-- References are added in front of those that are there. -/
  references : ∃ added, b'.references = added ++ b.references

/-- What a block says of its declarations stays said in a later block: they keep their places, their
names and their descriptions, and those that have bodies keep them. -/
def Block.Settles (b b' : Block) : Prop :=
  ∀ (place : Nat) (declaration : Declaration), b.declarations[place]? = some declaration →
    ∃ later, b'.declarations[place]? = some later ∧ later.name = declaration.name ∧
      later.description = declaration.description ∧
      ∀ body, declaration.body = some body → later.body = some body

namespace Block

variable {b b' b'' : Block}

/-- A block grows into itself. -/
theorem Grows.refl (b : Block) : b.Grows b :=
  ⟨⟨[], by simp⟩, ⟨[], by simp⟩, ⟨[], by simp⟩⟩

/-- A block that has grown goes on growing. -/
theorem Grows.trans (h : b.Grows b') (h' : b'.Grows b'') : b.Grows b'' := by
  obtain ⟨d, hd, hbodies, hu⟩ := h.declarations
  obtain ⟨d', hd', hbodies', hu'⟩ := h'.declarations
  obtain ⟨t, ht⟩ := h.titled
  obtain ⟨t', ht'⟩ := h'.titled
  obtain ⟨r, hr⟩ := h.references
  obtain ⟨r', hr'⟩ := h'.references
  refine ⟨⟨d ++ d', by rw [hd', hd, List.append_assoc],
    List.forall_mem_append.2 ⟨hbodies, hbodies'⟩, ?_⟩,
    ⟨t ++ t', by rw [ht', ht, List.append_assoc]⟩, ⟨r' ++ r, by rw [hr', hr, List.append_assoc]⟩⟩
  rw [hu', hu, List.map_append, List.reverse_append, List.append_assoc]

/-- Where a declaration that was opened stands in a block that has grown since. -/
theorem Grows.declarations_opened {name : String} {description : Option String}
    {titled : List (Schema × String)} {references : List (String × String)}
    (h : (b.opened name description titled references).Grows b') :
    ∃ added, b'.declarations = b.declarations ++ ⟨name, description, none⟩ :: added ∧
      (∀ declaration ∈ added, declaration.body.isSome) ∧
      b'.used = (added.map (·.name)).reverse ++ name :: b.used := by
  obtain ⟨added, hd, hbodies, hu⟩ := h.declarations
  refine ⟨added, ?_, hbodies, hu⟩
  rw [hd]
  simp [Block.opened]

/-- A declaration is opened, the block grows, and the declaration gets its body at the place that it
has taken: this is no more than a growth. -/
theorem Grows.close {name : String} {description : Option String}
    {titled : List (Schema × String)} {references : List (String × String)}
    (h : (b.opened name description titled references).Grows b')
    (htitled : ∃ added, titled = b.titled ++ added)
    (hreferences : ∃ added, references = added ++ b.references) (body : Body) :
    b.Grows (b'.complete b.declarations.length body) := by
  obtain ⟨added, hd, hbodies, hu⟩ := h.declarations_opened
  obtain ⟨t, rfl⟩ := htitled
  obtain ⟨r, rfl⟩ := hreferences
  obtain ⟨t', ht'⟩ := h.titled
  obtain ⟨r', hr'⟩ := h.references
  refine ⟨⟨_, Block.declarations_complete hd body, List.forall_mem_cons.2 ⟨rfl, hbodies⟩, ?_⟩,
    ⟨t ++ t', ht'.trans (List.append_assoc _ _ _)⟩,
    ⟨r' ++ r, hr'.trans (List.append_assoc _ _ _).symm⟩⟩
  change b'.used = _
  rw [hu]
  simp

/-- A block is settled in itself. -/
theorem Settles.refl (b : Block) : b.Settles b :=
  fun _ declaration h => ⟨declaration, h, rfl, rfl, fun _ hb => hb⟩

/-- What is settled in a block is settled in a later one. -/
theorem Settles.trans (h : b.Settles b') (h' : b'.Settles b'') : b.Settles b'' := by
  intro place declaration hplace
  obtain ⟨later, hlater, hname, hdescription, hbody⟩ := h place declaration hplace
  obtain ⟨last, hlast, hname', hdescription', hbody'⟩ := h' place later hlater
  exact ⟨last, hlast, hname'.trans hname, hdescription'.trans hdescription,
    fun body hb => hbody' body (hbody body hb)⟩

/-- A block is settled in what it grows into. -/
theorem Grows.settles (h : b.Grows b') : b.Settles b' := by
  intro place declaration hplace
  obtain ⟨added, hd, -⟩ := h.declarations
  refine ⟨declaration, ?_, rfl, rfl, fun _ hb => hb⟩
  obtain ⟨hlt, -⟩ := List.getElem?_eq_some_iff.1 hplace
  rw [hd, List.getElem?_append_left hlt, hplace]

/-- Giving a body to a declaration that has none settles the block. -/
theorem settles_complete {front behind : List Declaration} {name : String}
    {description : Option String}
    (h : b.declarations = front ++ ⟨name, description, none⟩ :: behind) (body : Body) :
    b.Settles (b.complete front.length body) := by
  intro place declaration hplace
  have hlater := List.getElem?_modify (fun declaration : Declaration =>
    { declaration with body := some body }) front.length b.declarations place
  rw [hplace] at hlater
  refine ⟨_, hlater, ?_⟩
  split
  next hopen =>
    subst hopen
    rw [h, List.getElem?_append_right (Nat.le_refl _), Nat.sub_self, List.getElem?_cons_zero]
      at hplace
    obtain rfl := Option.some.inj hplace
    exact ⟨rfl, rfl, fun _ hb => nomatch hb⟩
  next => exact ⟨rfl, rfl, fun _ hb => hb⟩

end Block

/-! ## Steps -/

/-- A step only appends: on every block on which it succeeds the block grows. -/
def OnlyAppends (step : Compile α) : Prop :=
  ∀ b r b', step.run b = .ok (r, b') → b.Grows b'

/-- A step and the steps with a look: when the step succeeds the block has grown, and with a look that
accepts every block that is settled in the one that is left, the step ends in the same way. -/
def Appends (α : Type) (step : Option (Schema → String → Block → Bool) → Compile α) : Prop :=
  ∀ b result, (step none).run b = .ok result → b.Grows result.2 ∧
    ∀ look : Schema → String → Block → Bool,
      (∀ schema text between, between.Settles result.2 → look schema text between = true) →
      (step (some look)).run b = .ok result

section Steps

variable {setting : Setting} {refusal : CompileError} {b : Block}
  {below : Option (Schema → String → Block → Bool) → Below}

/-- A step that appends, without a look. -/
theorem Appends.onlyAppends {step : Option (Schema → String → Block → Bool) → Compile α}
    (h : Appends α step) : OnlyAppends (step none) :=
  fun b r b' hrun => (h b (r, b') hrun).1

/-- Appending goes along with how steps are made. -/
theorem composes_appends : Composes Appends := by
  refine ⟨fun value b result hrun => ?_, fun keyword reason b result hrun => ?_,
    fun {α β step next} hs hn b last hrun => ?_⟩
  · obtain rfl := Except.ok.inj hrun
    exact ⟨.refl b, fun _ _ => rfl⟩
  · cases hrun
  · rw [StateT.run_bind] at hrun
    obtain ⟨result, hresult, hlast⟩ := bind_eq_ok hrun
    obtain ⟨hgrows, hlook⟩ := hs b result hresult
    obtain ⟨hgrows', hlook'⟩ := hn result.1 result.2 last hlast
    refine ⟨hgrows.trans hgrows', fun look haccepts => ?_⟩
    have hfirst := hlook look fun schema text between hsettles =>
      haccepts schema text between (hsettles.trans hgrows'.settles)
    rw [StateT.run_bind, hfirst]
    exact hlook' look haccepts

/-- A body is compiled while its declaration is open, and then the declaration is closed. -/
theorem Appends.declared {step : Option (Schema → String → Block → Bool) → Compile Body}
    (h : Appends Body step) {name : String} {description : Option String}
    {titled : List (Schema × String)} {references : List (String × String)}
    (htitled : ∃ added, titled = b.titled ++ added)
    (hreferences : ∃ added, references = added ++ b.references) {result : String × Block}
    (hrun : ((step none).run (b.opened name description titled references)).map (fun inner =>
      (name, inner.2.complete b.declarations.length inner.1)) = .ok result) :
    b.Grows result.2 ∧ ∀ look : Schema → String → Block → Bool,
      (∀ schema text between, between.Settles result.2 → look schema text between = true) →
      ((step (some look)).run (b.opened name description titled references)).map (fun inner =>
        (name, inner.2.complete b.declarations.length inner.1)) = .ok result := by
  rw [map_eq_bind] at hrun
  obtain ⟨inner, hinner, hresult⟩ := bind_eq_ok hrun
  obtain rfl := Except.ok.inj hresult
  obtain ⟨hgrows, hlook⟩ := h _ inner hinner
  obtain ⟨added, hopen, -⟩ := hgrows.declarations_opened
  refine ⟨hgrows.close htitled hreferences inner.1, fun look haccepts => ?_⟩
  rw [hlook look fun schema text between hsettles =>
    haccepts schema text between (hsettles.trans (Block.settles_complete hopen inner.1))]
  rfl

/-- The name of a titled schema. -/
theorem appends_nameTitled {schema : Schema}
    (hbody : Appends Body fun i => (below i).body schema) (title : String) :
    Appends String fun i => nameTitled (below i).body schema title := by
  intro b result hrun
  simp only [run_nameTitled] at hrun ⊢
  cases hfind : b.titled.find? fun entry => entry.1.same schema with
  | some entry =>
    rw [hfind] at hrun
    obtain rfl := Except.ok.inj hrun
    exact ⟨.refl b, fun _ _ => rfl⟩
  | none =>
    rw [hfind] at hrun
    exact hbody.declared ⟨_, rfl⟩ ⟨[], rfl⟩ hrun

/-- The name of a reference's target. -/
theorem appends_resolve (setting : Setting) (reference : String)
    (hbody : ∀ target, Appends Body fun i => (below i).body target) :
    Appends String fun i => resolve setting (below i) reference := by
  intro b result hrun
  by_cases hroot : reference = "#"
  · subst hroot
    obtain rfl := Except.ok.inj hrun
    exact ⟨.refl b, fun _ _ => rfl⟩
  simp only [run_resolve setting _ hroot] at hrun ⊢
  cases hfind : Members.find? reference b.references with
  | some name =>
    rw [hfind] at hrun
    obtain rfl := Except.ok.inj hrun
    exact ⟨.refl b, fun _ _ => rfl⟩
  | none =>
    rw [hfind] at hrun
    cases htarget : setting.target reference with
    | error error =>
      rw [htarget] at hrun
      cases hrun
    | ok target =>
      rw [htarget] at hrun
      exact (hbody target).declared ⟨[], (List.append_nil _).symm⟩ ⟨[_], rfl⟩ hrun

/-- An expression that is looked at when it is compiled. -/
theorem appends_watched {step : Option (Schema → String → Block → Bool) → Compile String}
    (hstep : Appends String step) (refusal : CompileError) (schema : Schema) :
    Appends String fun
      | none => step none
      | some look => watched refusal (look schema) (step (some look)) := by
  intro b result hrun
  obtain ⟨hgrows, hlook⟩ := hstep b result hrun
  refine ⟨hgrows, fun look haccepts => ?_⟩
  rw [run_watched, hlook look haccepts]
  exact if_pos (haccepts schema result.1 result.2 (.refl _))

/-- Where bodies and expressions append, the steps below append on the parts of every schema and on
its reference. -/
theorem relatedBelow_appends (hexpression : ∀ schema level,
      Appends String fun i => (below i).expression schema level)
    (hbody : ∀ schema, Appends Body fun i => (below i).body schema) (setting : Setting)
    (schema : Schema) : RelatedBelow Appends setting below schema :=
  ⟨fun part _ => hexpression part, fun _ reference _ _ => appends_resolve setting reference hbody⟩

/-- Steps append at every bound. -/
theorem appends_at (setting : Setting) (refusal : CompileError) (bound : Nat) :
    (∀ schema level,
      Appends String fun i => (stepsSeen setting refusal bound i).expression schema level) ∧
    ∀ schema, Appends Body fun i => (stepsSeen setting refusal bound i).body schema := by
  induction bound with
  | zero =>
    refine ⟨fun schema level b result hrun => ?_, fun schema b result hrun => ?_⟩
    · simp only [stepsSeen, expressionAt] at hrun
      cases hrun
    · simp only [stepsSeen, bodyAt] at hrun
      cases hrun
  | succ bound ih =>
    obtain ⟨hexpression, hbody⟩ := ih
    refine ⟨fun schema level b => ?_, fun schema b => ?_⟩
    · have hstep := appends_watched (composes_appends.expression
        (fun _ => relatedBelow_appends hexpression hbody setting schema)
        (fun title _ => appends_nameTitled (hbody schema) title) level) refusal schema b
      simpa only [stepsSeen, expressionAt, expressionWatched] using hstep
    · have hstep := composes_appends.declarationBody
        (relatedBelow_appends hexpression hbody setting schema) b
      simpa only [stepsSeen, bodyAt, bodyWatched] using hstep

end Steps

/-! ## Whole runs -/

/-- The steps over those below: each of them only appends, whatever it is given, and a declaration
gets its body at its own place, past which the steps below have appended. -/
structure StepsAppend (setting : Setting) (below : Below) : Prop where
  /-- A schema where its type is expected. -/
  expression : ∀ schema level, OnlyAppends (expression setting below schema level)
  /-- A schema object without regard to its title. -/
  inlineExpression : ∀ level facts properties items extra,
    OnlyAppends (inlineExpression setting below level facts properties items extra)
  /-- Alternatives, or parts that hold together. -/
  combination : ∀ keyword separator level members,
    OnlyAppends (combination setting below keyword separator level members)
  /-- The members of an object. -/
  memberLines : ∀ level facts properties extra,
    OnlyAppends (memberLines setting below level facts properties extra)
  /-- A titled schema. -/
  nameTitled : ∀ schema title, OnlyAppends (nameTitled below.body schema title)
  /-- A reference. -/
  resolve : ∀ reference, OnlyAppends (resolve setting below reference)
  /-- A declaration. -/
  declare : ∀ name schema b u b', (declare below.body name schema).run b = .ok (u, b') →
    ∃ body b₁ added, (below.body schema).run (b.declare name schema.description) = .ok (body, b₁) ∧
      b₁.declarations = b.declarations ++ ⟨name, schema.description, none⟩ :: added ∧
      b' = { b₁ with declarations :=
        b.declarations ++ ⟨name, schema.description, some body⟩ :: added }

/-- At every bound the steps append. -/
theorem stepsAppend_at (setting : Setting) (bound : Nat) :
    StepsAppend setting ⟨expressionAt setting bound, bodyAt setting bound⟩ := by
  obtain ⟨hexpression, hbody⟩ := appends_at setting .exhausted bound
  have hbelow := relatedBelow_appends hexpression hbody setting
  refine ⟨fun schema level => ?_, fun level facts properties items extra => ?_,
    fun keyword separator level members => ?_, fun level facts properties extra => ?_,
    fun schema title => ?_, fun reference => ?_, fun name schema b u b' hrun => ?_⟩
  · exact (composes_appends.expression (fun _ => hbelow schema)
      (fun title _ => appends_nameTitled (hbody schema) title) level).onlyAppends
  · exact (composes_appends.inlineExpression (hbelow (.object facts properties items extra))
      level).onlyAppends
  · -- The members are those of a schema with this keyword only.
    have hfacts : SchemaFacts.keyword? ⟨none, none, [(keyword, members)]⟩ keyword = some members := by
      simp [SchemaFacts.keyword?, Members.find?]
    exact (composes_appends.combination (hbelow (.object ⟨none, none, [(keyword, members)]⟩ .absent
      .absent .absent)) hfacts separator level).onlyAppends
  · exact (composes_appends.memberLines (hbelow (.object facts properties .absent extra))
      level).onlyAppends
  · exact (appends_nameTitled (hbody schema) title).onlyAppends
  · exact (appends_resolve setting reference hbody).onlyAppends
  · obtain ⟨body, b₁, hbodyRun, rfl⟩ := declare_eq_ok hrun
    obtain ⟨added, hd, -⟩ := ((hbody schema).onlyAppends _ _ _ hbodyRun).declarations
    have hopen : b₁.declarations =
        b.declarations ++ ⟨name, schema.description, none⟩ :: added := by
      rw [hd]
      simp [Block.declare]
    refine ⟨body, b₁, added, hbodyRun, hopen, ?_⟩
    rw [← Block.declarations_complete hopen body]
    rfl

/-- Whatever is settled in the block of a run is accepted by the looks throughout the run. -/
theorem blockWatched_of_settles {schema : Schema} {rootName : String} {profile : Profile}
    {block : Block} (hblock : blockOf schema rootName profile = .ok block)
    {look : Schema → String → Block → Bool}
    (haccepts : ∀ part text between, between.Settles block → look part text between = true)
    (refusal : CompileError) : blockWatched refusal look schema rootName profile = .ok block := by
  obtain ⟨body, b, hrun, rfl⟩ := blockOf_eq_ok hblock
  obtain ⟨hgrows, hlook⟩ := (appends_at ⟨profile, rootName, schema.toJson⟩ refusal
    (stepBound schema.toJson)).2 schema _ (body, b) hrun
  obtain ⟨added, hopen, -⟩ := hgrows.declarations_opened
  have hseen : (bodyWatched ⟨profile, rootName, schema.toJson⟩ refusal look
      (stepBound schema.toJson) schema).run (Block.start rootName schema.description) =
      .ok (body, b) :=
    hlook look fun part text between hsettles =>
      haccepts part text between (hsettles.trans (Block.settles_complete hopen body))
  rw [blockWatched, hseen]
  rfl

/-- The declarations of a block are in the order in which a depth-first walk from the root finds
them. -/
theorem discovers_of_blockOf {schema : Schema} {rootName : String} {profile : Profile}
    {block : Block} (hblock : blockOf schema rootName profile = .ok block) :
    Discovers (block.MentionsAt ⟨profile, rootName, schema.toJson⟩ schema) [] [rootName]
      block.names := by
  obtain ⟨b, tree, -, hx, ht, ⟨found, hnames, hwalk⟩, rfl⟩ := exists_tree_of_blockOf hblock
  have hroot := discovers_opened List.not_mem_nil hx .root ht (hwalk schema)
  rw [Block.names_complete, hnames]
  exact hroot

/-- Steps only append, whatever the block in which they succeed. In a run that makes a block, what is
in a block when a step returns is what is in the block that is made, and the declarations are in the
order of first discovery, depth first from the root. -/
theorem steps_only_append :
    (∀ setting bound, StepsAppend setting ⟨expressionAt setting bound, bodyAt setting bound⟩) ∧
      ∀ schema rootName profile block, blockOf schema rootName profile = .ok block →
        (∀ refusal look, (∀ part text between, between.Settles block →
          look part text between = true) →
          blockWatched refusal look schema rootName profile = .ok block) ∧
        Discovers (block.MentionsAt ⟨profile, rootName, schema.toJson⟩ schema) [] [rootName]
          block.names :=
  ⟨stepsAppend_at, fun _ _ _ _ hblock =>
    ⟨fun refusal _ haccepts => blockWatched_of_settles hblock haccepts refusal,
      discovers_of_blockOf hblock⟩⟩

/-- A home, which has a name of its own. -/
def homeSchema : Schema :=
  .object ⟨some (.one "object"), some "Home", []⟩ .absent .absent .absent

/-- A person with an employer at a place, and a home: the place stands below the first property, and
the home is the second one. -/
def personSchema : Schema :=
  let place : Schema := .object ⟨some (.one "object"), some "Place", []⟩ .absent .absent .absent
  let employer : Schema :=
    .object ⟨some (.one "object"), some "Employer", []⟩ (.listed [("at", place)]) .absent .absent
  .object ⟨some (.one "object"), some "Person", []⟩
    (.listed [("employer", employer), ("home", homeSchema)]) .absent .absent

set_option maxRecDepth 4000 in
/-- The home is appended to the block in which the person is open. The place is declared before the
home, although the person mentions the home and does not mention the place. -/
theorem steps_only_append_person :
    (∃ b, (expressionAt ⟨{}, "Person", personSchema.toJson⟩ 2 homeSchema 0).run
      (Block.start "Person" none) = .ok ("Home", b) ∧ b.names = ["Person", "Home"] ∧
      (Block.start "Person" none).Grows b) ∧
    ∃ block, blockOf personSchema "Person" {} = .ok block ∧
      block.names = ["Person", "Employer", "Place", "Home"] ∧
      blockWatched .exhausted (fun _ _ between => between.names.all block.names.contains)
        personSchema "Person" {} = .ok block ∧
      Discovers (block.MentionsAt ⟨{}, "Person", personSchema.toJson⟩ personSchema) [] ["Person"]
        block.names := by
  have hhome : (expressionAt ⟨{}, "Person", personSchema.toJson⟩ 2 homeSchema 0).run
      (Block.start "Person" none) = .ok ("Home",
        ⟨[⟨"Person", none, none⟩, ⟨"Home", none, some (.interface "")⟩],
          ["Home", "Person"], [(homeSchema, "Home")], []⟩) := by
    rfl
  refine ⟨⟨_, hhome, rfl,
    (steps_only_append.1 ⟨{}, "Person", personSchema.toJson⟩ 1).expression homeSchema 0 _ _ _ hhome⟩,
    ?_⟩
  have hnames : (blockOf personSchema "Person" {}).map Block.names =
      .ok ["Person", "Employer", "Place", "Home"] := by
    rfl
  cases hblock : blockOf personSchema "Person" {} with
  | error error =>
    rw [hblock] at hnames
    cases hnames
  | ok block =>
    rw [hblock] at hnames
    obtain ⟨hsettled, hwalk⟩ := steps_only_append.2 personSchema "Person" {} block hblock
    refine ⟨block, rfl, Except.ok.inj hnames, hsettled _ _ fun part text between hsettles => ?_,
      hwalk⟩
    -- A name that is settled in the block is a name of the block.
    refine List.all_eq_true.2 fun name hm => List.contains_iff_mem.2 ?_
    obtain ⟨declaration, hdeclared, rfl⟩ := List.mem_map.1 hm
    obtain ⟨place, hplace⟩ := List.mem_iff_getElem?.1 hdeclared
    obtain ⟨later, hlater, hname, -⟩ := hsettles place declaration hplace
    exact List.mem_map.2 ⟨later, List.mem_of_getElem? hlater, hname⟩

end ProgramConnector.TypeScript
