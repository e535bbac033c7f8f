import Mathlib.Logic.Relation
import ProgramConnector.Proofs.TypeScript.BareNames
import ProgramConnector.Proofs.TypeScript.DeclaredNames
import ProgramConnector.Proofs.TypeScript.Termination

/-!
# Circular aliases

An alias leads to every name that stands bare in its type. Following a reference leads to every
reference that stands bare in its target. The compiler cuts a circle of references by giving the
name of a declaration that is still open, whatever lies in between. So where nothing but
alternatives lies in between, the declared aliases are circular: they are so exactly when a
reference that was resolved leads back to itself through references that stand bare.
-/

namespace ProgramConnector.TypeScript

open Relation

/-- An alias leads to a name: the name stands bare in the type that its schema is declared as. -/
def Block.AliasStep (setting : Setting) (root : Schema) (block : Block) (name next : String) :
    Prop :=
  ∃ declaration ∈ block.declarations, declaration.name = name ∧
    ∃ schema tree, block.Owns setting root name schema ∧
      HasBody setting block schema (.expression tree) ∧
      declaration.body = some (.alias (tree.text setting 0)) ∧ tree.IsBare next

/-- A reference leads to another one: the other one stands bare in its target. -/
def ReferenceStep (document : Json) (reference next : String) : Prop :=
  ∃ value, referred? document reference = some value ∧ StandsBare value next

/-! ## Names that are given once -/

/-- The names that are given to the root, to titled schemas and to references. -/
def Block.given (setting : Setting) (block : Block) : List String :=
  setting.rootName :: (block.titled.map Prod.snd ++ block.references.map Prod.snd)

/-- No name is given twice, and no reference has two names. -/
structure Block.GivesOnce (setting : Setting) (block : Block) : Prop where
  /-- The names are in use. -/
  used : ∀ name ∈ block.given setting, name ∈ block.used
  /-- No name is given twice. -/
  once : (block.given setting).Nodup
  /-- No reference has two names, and the root has none but its own. -/
  references : ("#" :: Members.keys block.references).Nodup

section Once

variable {setting : Setting} {root : Schema} {block : Block}

/-- Giving a free name to one more schema or reference gives no name twice. -/
theorem Block.GivesOnce.opened (h : block.GivesOnce setting) {name : String}
    {description : Option String} {titled : List (Schema × String)}
    {references : List (String × String)} (hfree : name ∉ block.used)
    (hgiven : ((block.opened name description titled references).given setting).Perm
      (name :: block.given setting))
    (hreferences : ("#" :: Members.keys references).Nodup) :
    (block.opened name description titled references).GivesOnce setting := by
  refine ⟨fun other hother => ?_, ?_, hreferences⟩
  · rcases List.mem_cons.1 (hgiven.mem_iff.1 hother) with rfl | hother
    · exact List.mem_cons_self
    · exact List.mem_cons_of_mem _ (h.used other hother)
  · exact hgiven.nodup_iff.2 (List.nodup_cons.2 ⟨fun hm => hfree (h.used name hm), h.once⟩)

/-- Names are given once throughout a run. -/
theorem isKept_givesOnce (setting : Setting) : IsKept setting (Block.GivesOnce setting) := by
  refine ⟨fun b schema title name hb _ _ hname => ?_,
    fun b reference target name hb hroot _ hnew hname => ?_, fun b place body hb => ?_⟩
  · refine hb.opened (hname ▸ uniqueName_not_mem b.used _) ?_ hb.references
    rw [Block.given, Block.opened, List.map_append, List.append_assoc]
    exact (List.perm_middle.cons _).trans (.swap _ _ _)
  · refine hb.opened (hname ▸ uniqueName_not_mem b.used _) ?_ ?_
    · exact (List.perm_middle.cons _).trans (.swap _ _ _)
    · obtain ⟨hsharp, honce⟩ := List.nodup_cons.1 hb.references
      refine List.nodup_cons.2 ⟨fun hm => ?_, List.nodup_cons.2 ⟨hnew, honce⟩⟩
      exact (List.mem_cons.1 hm).elim (fun heq => hroot heq.symm) hsharp
  · exact ⟨hb.used, hb.once, hb.references⟩

/-- One schema is declared under a name. -/
theorem Block.Owns.unique (h : block.GivesOnce setting) {name : String} {schema other : Schema}
    (hs : block.Owns setting root name schema) (ho : block.Owns setting root name other) :
    schema = other := by
  obtain ⟨hroot, hgiven⟩ := List.nodup_cons.1 h.once
  obtain ⟨htitled, hreferences, hapart⟩ := List.nodup_append.1 hgiven
  have hmem : ∀ {α : Type} {key : α} {last : String} {entries : List (α × String)},
      (key, last) ∈ entries → last ∈ entries.map Prod.snd :=
    fun hm => List.mem_map_of_mem (f := Prod.snd) hm
  have hsecond : ∀ {α : Type} {key key' : α} {entries : List (α × String)},
      (entries.map Prod.snd).Nodup → (key, name) ∈ entries → (key', name) ∈ entries →
      key = key' :=
    fun hn hm hm' => (Prod.mk.inj (List.inj_on_of_nodup_map hn hm hm' rfl)).1
  cases hs with
  | root =>
    cases ho with
    | root => rfl
    | titled known => exact absurd (List.mem_append_left _ (hmem known)) hroot
    | reference known _ => exact absurd (List.mem_append_right _ (hmem known)) hroot
  | titled known =>
    cases ho with
    | root => exact absurd (List.mem_append_left _ (hmem known)) hroot
    | titled known' => exact hsecond htitled known known'
    | reference known' _ => exact absurd rfl (hapart _ (hmem known) _ (hmem known'))
  | reference known isTarget =>
    cases ho with
    | root => exact absurd (List.mem_append_right _ (hmem known)) hroot
    | titled known' => exact absurd rfl (hapart _ (hmem known') _ (hmem known))
    | reference known' isTarget' =>
      rw [hsecond hreferences known known', isTarget'] at isTarget
      exact (Option.some.inj isTarget).symm

/-- A reference has one name. -/
theorem ReferenceTree.unique (h : block.GivesOnce setting) {reference name other : String}
    (hn : ReferenceTree setting block reference (.named name))
    (ho : ReferenceTree setting block reference (.named other)) : name = other := by
  obtain ⟨hroot, honce⟩ := List.nodup_cons.1 h.references
  have hkey : ∀ {key last : String}, (key, last) ∈ block.references →
      key ∈ Members.keys block.references :=
    fun hm => List.mem_map_of_mem (f := Prod.fst) hm
  cases hn with
  | root =>
    cases ho with
    | root => rfl
    | target known => exact absurd (hkey known) hroot
  | target known =>
    cases ho with
    | root => exact absurd (hkey known) hroot
    | target known' =>
      have hfind := Members.find?_eq_some_of_mem honce known
      rw [Members.find?_eq_some_of_mem honce known'] at hfind
      exact (Option.some.inj hfind).symm

/-- A reference has a name exactly when it is that of the root or was resolved. -/
theorem exists_referenceTree_iff (setting : Setting) (block : Block) (reference : String) :
    (∃ name, ReferenceTree setting block reference (.named name)) ↔
      reference = "#" ∨ reference ∈ Members.keys block.references := by
  constructor
  · rintro ⟨name, hname⟩
    cases hname with
    | root => exact .inl rfl
    | target known => exact .inr (List.mem_map_of_mem (f := Prod.fst) known)
  · rintro (rfl | hmem)
    · exact ⟨_, .root⟩
    · obtain ⟨⟨_, name⟩, hknown, rfl⟩ := List.mem_map.1 hmem
      exact ⟨name, .target hknown⟩

end Once

/-! ## Steps in a finished block -/

/-- What is known of a block that is made. -/
structure Block.IsSettled (setting : Setting) (root : Schema) (block : Block) : Prop where
  /-- The document is that of the root. -/
  document : setting.document = root.toJson
  /-- The root is in normal form. -/
  normal : root.IsNormal
  /-- The block is closed. -/
  closed : block.IsClosed setting root
  /-- The block accounts for its declarations. -/
  accounts : block.Accounts root.toJson
  /-- Names are given once. -/
  once : block.GivesOnce setting

namespace Block.IsSettled

variable {setting : Setting} {root schema outer : Schema} {block : Block}
  {name next reference : String}

/-- Titled schemas are in normal form. -/
theorem normal_titled (h : block.IsSettled setting root) :
    ∀ entry ∈ block.titled, entry.1.IsNormal := by
  intro entry hentry
  obtain ⟨members, hread⟩ := h.accounts.titled entry hentry
  exact Schema.isNormal_of_ofJson? hread.read

/-- Declared schemas are in normal form. -/
theorem normal_of_owns (h : block.IsSettled setting root)
    (hs : block.Owns setting root name schema) : schema.IsNormal := by
  cases hs with
  | root => exact h.normal
  | titled known => exact h.normal_titled _ known
  | reference known isTarget =>
    obtain ⟨value, hread⟩ := exists_isReadAt_of_target? isTarget
    exact Schema.isNormal_of_ofJson? hread.read

/-- What is declared under a name is what its schema says. -/
theorem declares_of_owns (h : block.IsSettled setting root)
    (hs : block.Owns setting root name schema) : block.Declares setting name schema := by
  cases hs with
  | root =>
    obtain ⟨declaration, rest, tree, hfirst, hname, hclosed⟩ := h.closed.root
    refine ⟨declaration, ?_, hname, hclosed.description, tree, hclosed.hasBody, hclosed.body⟩
    rw [hfirst]
    exact List.mem_cons_self
  | titled known => exact h.closed.titled _ known
  | reference known isTarget =>
    obtain ⟨target, htarget, hdeclares⟩ := h.closed.references _ known
    rw [isTarget] at htarget
    exact Option.some.inj htarget ▸ hdeclares

/-- A reference with a name leads to what stands bare in the schema that is declared under it. -/
theorem exists_owns (h : block.IsSettled setting root)
    (hname : ReferenceTree setting block reference (.named name)) :
    ∃ schema, block.Owns setting root name schema ∧
      ∀ next, ReferenceStep root.toJson reference next ↔ StandsBare schema.toJson next := by
  cases hname with
  | root =>
    refine ⟨root, .root, fun next => ⟨?_, fun hbare => ⟨_, referred?_root _, hbare⟩⟩⟩
    rintro ⟨value, hvalue, hbare⟩
    rw [referred?_root] at hvalue
    rwa [Option.some.inj hvalue]
  | target known =>
    obtain ⟨schema, htarget, -⟩ := h.closed.references _ known
    have hreferred := htarget
    rw [Setting.target?_eq, h.document] at hreferred
    obtain ⟨value, hvalue, hread⟩ := Option.bind_eq_some_iff.1 hreferred
    have hinside : value ∈ root.toJson.values := by
      unfold referred? at hvalue
      split at hvalue
      · exact Json.mem_values_of_follow? hvalue
      · cases hvalue
    have hlike := bareAlike_of_ofJson? hread
      (h.normal.isMerged_toJson.of_mem_values hinside)
    refine ⟨schema, .reference known htarget, fun next => ?_⟩
    rw [hlike.bare next]
    refine ⟨?_, fun hbare => ⟨value, hvalue, hbare⟩⟩
    rintro ⟨other, hother, hbare⟩
    rw [hvalue] at hother
    rwa [Option.some.inj hother]

/-- An alias leads to the name of a reference that stands bare in its schema, or to that of a titled
schema inside. -/
theorem aliasStep_cases (h : block.IsSettled setting root)
    (hs : block.Owns setting root name schema) (hstep : block.AliasStep setting root name next) :
    (∃ reference, StandsBare schema.toJson reference ∧
      ReferenceTree setting block reference (.named next)) ∨
    ∃ other, block.Owns setting root next other ∧ BareWithin 1 schema.toJson other.toJson := by
  obtain ⟨declaration, -, -, other, tree, hother, hbody, -, hbare⟩ := hstep
  obtain rfl := hs.unique h.once hother
  have hshows := hbody.showsBare h.normal_titled (h.normal_of_owns hs)
  exact (hshows.name next hbare).imp_right fun ⟨inner, hknown, hinside⟩ =>
    ⟨inner, .titled hknown, hinside⟩

/-- A reference that stands bare in the schema of an alias is met in a step: the alias leads to its
name, or to that of a titled schema inside in which it stands bare. -/
theorem exists_aliasStep (h : block.IsSettled setting root)
    (hs : block.Owns setting root name schema) (hbare : StandsBare schema.toJson reference) :
    ∃ next, block.AliasStep setting root name next ∧
      (ReferenceTree setting block reference (.named next) ∨
        ∃ other, block.Owns setting root next other ∧
          BareWithin 1 schema.toJson other.toJson ∧ StandsBare other.toJson reference) := by
  obtain ⟨declaration, hm, hname, -, body, hbody, htext⟩ := h.declares_of_owns hs
  obtain ⟨tree, rfl⟩ := hbody.eq_expression (h.normal_of_owns hs) hbare
  have hshows := hbody.showsBare h.normal_titled (h.normal_of_owns hs)
  obtain ⟨next, hnext, hmet⟩ := hshows.reference reference hbare
  refine ⟨next, ⟨declaration, hm, hname, schema, tree, hs, hbody, htext, hnext⟩,
    hmet.imp_right fun ⟨inner, hknown, hinside, hb⟩ => ?_⟩
  exact ⟨inner, .titled hknown, hinside, hb⟩

end Block.IsSettled

/-! ## Circles -/

/-- Where a path of aliases leads that starts at a schema. -/
inductive Block.Leads (setting : Setting) (root : Schema) (block : Block) (outer : Schema)
    (name : String) : Prop
  /-- To what stands bare behind references. -/
  | referred {first last known : String} {schema : Schema} (bare : StandsBare outer.toJson first)
    (path : ReflTransGen (ReferenceStep root.toJson) first last)
    (named : ReferenceTree setting block last (.named known))
    (owned : block.Owns setting root name schema)
    (steps : ∀ next, StandsBare schema.toJson next → ReferenceStep root.toJson last next)
  /-- To a titled schema inside. -/
  | inside {schema : Schema} (owned : block.Owns setting root name schema)
    (within : BareWithin 1 outer.toJson schema.toJson)

namespace Block.IsSettled

variable {setting : Setting} {root schema outer : Schema} {block : Block}
  {name next reference first last : String}

/-- A path that ends at the name of a reference leads behind references. -/
theorem leads_of_reference (h : block.IsSettled setting root)
    (hbare : StandsBare outer.toJson first)
    (hpath : ReflTransGen (ReferenceStep root.toJson) first last)
    (hname : ReferenceTree setting block last (.named name)) :
    block.Leads setting root outer name := by
  obtain ⟨schema, howned, hsteps⟩ := h.exists_owns hname
  exact .referred hbare hpath hname howned fun next hnext => (hsteps next).2 hnext

/-- A path that goes on leads on. -/
theorem leads_step (h : block.IsSettled setting root) (hleads : block.Leads setting root outer name)
    (hstep : block.AliasStep setting root name next) : block.Leads setting root outer next := by
  cases hleads with
  | referred bare path named owned steps =>
    rcases h.aliasStep_cases owned hstep with ⟨reference, hr, hname⟩ | ⟨other, hother, hinside⟩
    · exact h.leads_of_reference bare (path.tail (steps reference hr)) hname
    · exact .referred bare path named hother fun last hl => steps last (hinside.bare last hl)
  | inside owned within =>
    rcases h.aliasStep_cases owned hstep with ⟨reference, hr, hname⟩ | ⟨other, hother, hinside⟩
    · exact h.leads_of_reference (within.bare reference hr) .refl hname
    · exact .inside hother ((within.trans hinside).mono (by decide))

/-- Where a path of aliases leads. -/
theorem leads_of_path (h : block.IsSettled setting root)
    (hs : block.Owns setting root name schema)
    (hpath : TransGen (block.AliasStep setting root) name next) :
    block.Leads setting root schema next := by
  induction hpath with
  | single hstep =>
    rcases h.aliasStep_cases hs hstep with ⟨reference, hr, hname⟩ | ⟨other, hother, hinside⟩
    · exact h.leads_of_reference hr .refl hname
    · exact .inside hother hinside
  | tail _ hstep ih => exact h.leads_step ih hstep

/-- A circle of aliases goes through the name of a reference, which is in a circle of references:
between two references the alternatives get less deep. -/
theorem exists_circle_of_aliases (h : block.IsSettled setting root)
    (hcircle : TransGen (block.AliasStep setting root) name name) :
    ∃ reference, (reference = "#" ∨ reference ∈ Members.keys block.references) ∧
      TransGen (ReferenceStep root.toJson) reference reference := by
  obtain ⟨schema, hs⟩ : ∃ schema, block.Owns setting root name schema := by
    obtain ⟨_, ⟨_, _, _, schema, _, hs, _⟩, _⟩ := TransGen.head'_iff.1 hcircle
    exact ⟨schema, hs⟩
  cases h.leads_of_path hs hcircle with
  | @referred _ last _ _ bare path named owned steps =>
    obtain rfl := hs.unique h.once owned
    have hresolved := (exists_referenceTree_iff setting block last).1 ⟨_, named⟩
    exact ⟨last, hresolved, .head' (steps _ bare) path⟩
  | inside owned within =>
    -- A circle through titled schemas only would lead ever deeper into one schema.
    obtain rfl := hs.unique h.once owned
    exact absurd within (not_bareWithin_self _)

/-- From the name of a schema a path of aliases leads to the name of every reference that stands
bare in the schema. -/
theorem exists_path_of_standsBare (h : block.IsSettled setting root)
    (hs : block.Owns setting root name schema) (hbare : StandsBare schema.toJson reference) :
    ∃ next, ReferenceTree setting block reference (.named next) ∧
      TransGen (block.AliasStep setting root) name next := by
  obtain ⟨depth, hdepth⟩ : ∃ depth, IsShallow depth schema.toJson :=
    ⟨_, isShallow_of_size_le (Nat.le_refl _)⟩
  -- The titled schemas that hide the reference get less deep, so the induction is on the depth.
  induction depth generalizing name schema with
  | zero => exact hdepth.elim
  | succ depth ih =>
    obtain ⟨next, hstep, hname | ⟨other, hother, hinside, hb⟩⟩ := h.exists_aliasStep hs hbare
    · exact ⟨next, hname, .single hstep⟩
    · obtain ⟨last, hlast, hpath⟩ := ih hother hb (hinside.shallow depth hdepth)
      exact ⟨last, hlast, .head hstep hpath⟩

/-- From the name of a reference a path of aliases leads to the name of every reference that a path
of references leads to. -/
theorem exists_path_of_references (h : block.IsSettled setting root)
    (hpath : TransGen (ReferenceStep root.toJson) first last)
    (hname : ReferenceTree setting block first (.named name)) :
    ∃ next, ReferenceTree setting block last (.named next) ∧
      TransGen (block.AliasStep setting root) name next := by
  induction hpath with
  | single hstep =>
    obtain ⟨schema, howned, hsteps⟩ := h.exists_owns hname
    exact h.exists_path_of_standsBare howned ((hsteps _).1 hstep)
  | tail _ hstep ih =>
    obtain ⟨middle, hmiddle, hfirst⟩ := ih
    obtain ⟨schema, howned, hsteps⟩ := h.exists_owns hmiddle
    obtain ⟨next, hnext, hsecond⟩ := h.exists_path_of_standsBare howned ((hsteps _).1 hstep)
    exact ⟨next, hnext, hfirst.trans hsecond⟩

/-- A circle of references makes a circle of aliases. -/
theorem exists_circle_of_references (h : block.IsSettled setting root)
    (hresolved : reference = "#" ∨ reference ∈ Members.keys block.references)
    (hcircle : TransGen (ReferenceStep root.toJson) reference reference) :
    ∃ name, TransGen (block.AliasStep setting root) name name := by
  obtain ⟨name, hname⟩ := (exists_referenceTree_iff setting block reference).2 hresolved
  obtain ⟨next, hnext, hpath⟩ := h.exists_path_of_references hcircle hname
  obtain rfl := hname.unique h.once hnext
  exact ⟨name, hpath⟩

end Block.IsSettled

/-! ## The whole run -/

section Run

variable {schema source : Schema} {value : Json} {rootName text : String} {profile : Profile}
  {block : Block}

/-- The block of a schema in normal form is settled. -/
theorem isSettled_of_blockOf (h : schema.IsNormal)
    (hb : blockOf schema rootName profile = .ok block) :
    block.IsSettled ⟨profile, rootName, schema.toJson⟩ schema := by
  refine ⟨rfl, h, isClosed_of_blockOf hb, ?_, ?_⟩
  · rcases blockOf_cases h rootName profile with ⟨other, ho, haccounts⟩ | ⟨error, -, he⟩
    · rw [hb] at ho
      exact Except.ok.inj ho ▸ haccounts
    · rw [hb] at he
      cases he
  · refine (isKept_givesOnce _).of_blockOf ⟨fun name hname => hname, ?_, ?_⟩ hb
    · exact List.nodup_singleton _
    · exact List.nodup_singleton _

/-- Whenever a schema is compiled, its aliases are circular exactly when the reference of the root,
or one that was resolved, leads back to itself through references each of which is the whole type of
the target of the one before, or of an alternative or part of it. Such a circle is not reported. -/
theorem circular_iff_of_compile (hread : Schema.ofJson? value = some source)
    (hschema : schema = source ∨ ∃ title, schema = source.titled title)
    (h : compile schema rootName profile = .ok text) :
    ∃ block, blockOf schema rootName profile = .ok block ∧
      text = renderBlock profile.bannerComment block.declarations ∧
      ((∃ name, TransGen (block.AliasStep ⟨profile, rootName, schema.toJson⟩ schema) name name) ↔
        ∃ reference, (reference = "#" ∨ reference ∈ Members.keys block.references) ∧
          TransGen (ReferenceStep schema.toJson) reference reference) := by
  obtain ⟨block, hb, ht⟩ := compile_eq_ok h
  have hsettled := isSettled_of_blockOf (isNormal_of_read hread hschema) hb
  refine ⟨block, hb, ht, ?_, ?_⟩
  · rintro ⟨name, hcircle⟩
    exact hsettled.exists_circle_of_aliases hcircle
  · rintro ⟨reference, hresolved, hcircle⟩
    exact hsettled.exists_circle_of_references hresolved hcircle

end Run

/-- A schema that refers to itself and says nothing else. -/
def loopSchema : Schema := .object ⟨none, none, [("$ref", .str "#")]⟩ .absent .absent .absent

/-- A schema that refers to itself and says nothing else is declared as itself, and no error is
reported. -/
theorem circular_iff_of_compile_loop : Schema.ofJson? loopSchema.toJson = some loopSchema ∧
    compile loopSchema "Loop" {} = .ok "export type Loop = Loop;\n" ∧
    ∃ block, blockOf loopSchema "Loop" {} = .ok block ∧
      ∃ name, TransGen (block.AliasStep ⟨{}, "Loop", loopSchema.toJson⟩ loopSchema) name name := by
  have hread : Schema.ofJson? loopSchema.toJson = some loopSchema := by rfl
  have h : compile loopSchema "Loop" {} = .ok "export type Loop = Loop;\n" := by rfl
  have hstep : ReferenceStep loopSchema.toJson "#" "#" := ⟨_, referred?_root _, .whole (by rfl)⟩
  obtain ⟨block, hb, -, hcircular⟩ := circular_iff_of_compile hread (.inl rfl) h
  exact ⟨hread, h, block, hb, hcircular.2 ⟨"#", .inl rfl, .single hstep⟩⟩

end ProgramConnector.TypeScript
