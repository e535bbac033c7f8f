import ProgramConnector.Proofs.TypeScript.Accounting
import ProgramConnector.Proofs.TypeScript.ClosedBlock

/-!
# Compilation ends

Between two references the values that schemas are read from get smaller, and every reference is
resolved once. So the bound on nested steps that is computed from a document is never used up: with
every greater bound the outcome is the same. It also is the same when every step is preceded by a
check that no reference was resolved twice and that there are few declarations, which says that this
holds throughout every run, also in one that fails.
-/

namespace ProgramConnector.TypeScript

variable {α : Type}

/-- A step that is taken only where a check succeeds. -/
def checked (check : Block → Bool) (step : Compile α) : Compile α := do
  if check (← get) then step else throw .exhausted

mutual

/-- The expression of a schema, with at most `bound` steps inside one another and a check before
each of them. -/
def expressionChecked (setting : Setting) (check : Block → Bool) :
    Nat → Schema → Nat → Compile String
  | 0, _, _ => throw .exhausted
  | bound + 1, schema, level =>
    checked check (expression setting
      ⟨expressionChecked setting check bound, bodyChecked setting check bound⟩ schema level)

/-- The body of a declared schema, with at most `bound` steps inside one another and a check before
each of them. -/
def bodyChecked (setting : Setting) (check : Block → Bool) : Nat → Schema → Compile Body
  | 0, _ => throw .exhausted
  | bound + 1, schema =>
    checked check (declarationBody setting
      ⟨expressionChecked setting check bound, bodyChecked setting check bound⟩ schema)

end

/-- The block of a schema, made with at most `bound` steps inside one another and a check before each
of them. -/
def blockChecked (check : Block → Bool) (bound : Nat) (schema : Schema) (rootName : String)
    (profile : Profile) : Except CompileError Block := do
  let setting : Setting := ⟨profile, rootName, schema.toJson⟩
  let (body, block) ←
    (bodyChecked setting check bound schema).run (Block.start rootName schema.description)
  return block.complete 0 body

/-- A check that succeeds wherever the property holds changes nothing. -/
theorem Agree.checked {fine : CompileError → Prop} {inv : Block → Prop} {check : Block → Bool}
    {step step' : Compile α} (h : Agree fine inv step step')
    (hcheck : ∀ b, inv b → check b = true) :
    Agree fine inv step (TypeScript.checked check step') := by
  intro b hb
  have hrun : (TypeScript.checked check step').run b = step'.run b := by
    rw [TypeScript.checked, run_get_bind, if_pos (hcheck b hb)]
  rw [hrun]
  exact h b hb

/-- A block accounts for its declarations in a document, and at most `left` of the references in the
document are not resolved yet. -/
structure Block.HasLeft (document : Json) (left : Nat) (block : Block) : Prop where
  /-- The block accounts for its declarations. -/
  accounts : block.Accounts document
  /-- So many references are left. -/
  unresolved : (referenceTexts document).length ≤ left + block.references.length

/-- A bound on the steps inside one another for a value of a size when so many references are left.
Each reference starts again at a value that may be as large as the document. -/
def stepsFor (document : Json) (left size : Nat) : Nat := left * (2 * document.size + 2) + 2 * size

section Steps

variable {setting : Setting} {check : Block → Bool} {document value : Json} {schema : Schema}
  {left n m : Nat}

/-- The bodies agree at two bounds, for all values of a document. -/
def BodiesAgree (setting : Setting) (check : Block → Bool) (n m : Nat) : Prop :=
  ∀ left value schema, IsReadAt setting.document value schema →
    stepsFor setting.document left value.size ≤ n → stepsFor setting.document left value.size ≤ m →
    Agree (· ≠ .exhausted) (Block.HasLeft setting.document left) (bodyAt setting n schema)
      (bodyChecked setting check m schema)

/-- The expressions agree at two bounds, for all values of a document. -/
def ExpressionsAgree (setting : Setting) (check : Block → Bool) (n m : Nat) : Prop :=
  ∀ left value schema level, IsReadAt setting.document value schema →
    stepsFor setting.document left value.size + 1 ≤ n →
    stepsFor setting.document left value.size + 1 ≤ m →
    Agree (· ≠ .exhausted) (Block.HasLeft setting.document left)
      (expressionAt setting n schema level) (expressionChecked setting check m schema level)

/-- A reference that is not resolved yet is one of those that are left. -/
theorem Block.HasLeft.openReference {block : Block} (h : block.HasLeft document left)
    {reference : String} (htext : reference ∈ document.textsUnder "$ref")
    (hnew : reference ∉ Members.keys block.references) (name : String)
    (description : Option String) : ∃ fewer, left = fewer + 1 ∧
      (block.opened name description block.titled ((reference, name) :: block.references)).HasLeft
        document fewer := by
  have hopened := h.accounts.openReference htext hnew name description
  have hle := hopened.length_references_le
  have hleft := h.unresolved
  simp only [Block.opened, List.length_cons] at hle
  obtain ⟨fewer, rfl⟩ : ∃ fewer, left = fewer + 1 := ⟨left - 1, by omega⟩
  refine ⟨fewer, rfl, hopened, ?_⟩
  simp only [Block.opened, List.length_cons]
  omega

/-- Closing a declaration leaves as many references as there were. -/
theorem Block.HasLeft.complete {block : Block} (h : block.HasLeft document left) (place : Nat)
    (body : Body) : (block.complete place body).HasLeft document left :=
  ⟨h.accounts.complete place body, h.unresolved⟩

/-- More references may be left. -/
theorem Block.HasLeft.succ {block : Block} (h : block.HasLeft document left) :
    block.HasLeft document (left + 1) := by
  have hu := h.unresolved
  exact ⟨h.accounts, by omega⟩

/-- What is wrong with a schema is not that the bound is used up. -/
theorem isFine_ne_exhausted (setting : Setting) : IsFine setting (· ≠ .exhausted) :=
  ⟨by simp, by simp⟩

/-- The steps below a schema agree with one step less: its parts are read from smaller values, and
one reference less is left for the target of its reference. -/
theorem BodiesAgree.agreeBelow (hb : BodiesAgree setting check n m)
    (he : ExpressionsAgree setting check n m)
    (hmerged : setting.document.IsMerged) (hread : IsReadAt setting.document value schema)
    (hn : stepsFor setting.document left value.size ≤ n + 1)
    (hm : stepsFor setting.document left value.size ≤ m + 1) :
    AgreeBelow (· ≠ .exhausted) (Block.HasLeft setting.document left) setting
      ⟨expressionAt setting n, bodyAt setting n⟩
      ⟨expressionChecked setting check m, bodyChecked setting check m⟩ schema := by
  unfold stepsFor at hn hm
  refine ⟨fun part hp level => ?_, fun facts reference hfacts hr => ?_,
    (isFine_ne_exhausted setting).invalid⟩
  · obtain ⟨inner, hinner, hlt⟩ := hread.part hmerged hp
    refine he left inner part level hinner ?_ ?_ <;> unfold stepsFor <;> omega
  · refine resolve_agree (fun _ => (isFine_ne_exhausted setting).target)
      fun b name target hleft _ ht hnew _ => ?_
    obtain ⟨value', htarget⟩ := exists_isReadAt_of_target? ht
    obtain ⟨fewer, rfl, hopened⟩ := hleft.openReference (hread.reference hmerged hfacts hr) hnew
      name target.description
    have hsize := Json.size_le_of_mem_values value' htarget.inside
    rw [Nat.succ_mul] at hn hm
    refine ⟨Block.HasLeft setting.document fewer, hopened, ?_, fun b place body hclosed => ?_⟩
    · refine hb fewer value' target htarget ?_ ?_ <;> unfold stepsFor <;> omega
    · exact (hclosed.complete place body).succ

/-- Bodies agree at one step more. -/
theorem BodiesAgree.step (hb : BodiesAgree setting check n m)
    (he : ExpressionsAgree setting check n m)
    (hmerged : setting.document.IsMerged)
    (hcheck : ∀ b, b.isFrugal setting.document = true → check b = true) :
    BodiesAgree setting check (n + 1) (m + 1) := by
  intro left value schema hread hn hm
  rw [bodyAt, bodyChecked]
  exact (declarationBody_agree (hb.agreeBelow he hmerged hread hn hm)).checked
    fun b hleft => hcheck b hleft.accounts.isFrugal

/-- Expressions agree at one step more. -/
theorem ExpressionsAgree.step (he : ExpressionsAgree setting check n m)
    (hb : BodiesAgree setting check n m)
    (hmerged : setting.document.IsMerged)
    (hcheck : ∀ b, b.isFrugal setting.document = true → check b = true) :
    ExpressionsAgree setting check (n + 1) (m + 1) := by
  intro left value schema level hread hn hm
  rw [expressionAt, expressionChecked]
  have hbelow := hb.agreeBelow he hmerged hread (Nat.le_of_succ_le hn) (Nat.le_of_succ_le hm)
  refine (expression_agree hbelow (fun title ht => ?_) level).checked
    fun b hleft => hcheck b hleft.accounts.isFrugal
  refine nameTitled_agree fun b name hleft hnew _ => ?_
  obtain ⟨members, hobject⟩ := hread.exists_members ht
  refine ⟨Block.HasLeft setting.document left, ?_, ?_, fun b place body hclosed => ?_⟩
  · exact ⟨hleft.accounts.openTitled hobject hnew name schema.description, hleft.unresolved⟩
  · exact hb left value schema hread (by omega) (by omega)
  · exact hclosed.complete place body

/-- No value can be compiled without steps. -/
theorem pos_stepsFor (value : Json) : 0 < stepsFor document left value.size := by
  have := value.size_pos
  unfold stepsFor
  omega

/-- Bodies and expressions agree at all bounds. -/
theorem agree_at (setting : Setting) (hmerged : setting.document.IsMerged)
    (hcheck : ∀ b, b.isFrugal setting.document = true → check b = true) (n m : Nat) :
    BodiesAgree setting check n m ∧ ExpressionsAgree setting check n m := by
  have hpos : ∀ left (value : Json), ¬ stepsFor setting.document left value.size ≤ 0 :=
    fun left value => Nat.not_le.2 (pos_stepsFor value)
  induction n generalizing m with
  | zero =>
    refine ⟨fun left value schema _ hn => absurd hn (hpos left value), ?_⟩
    exact fun left value schema level _ hn => absurd hn (by omega)
  | succ n ih =>
    cases m with
    | zero =>
      refine ⟨fun left value schema _ _ hm => absurd hm (hpos left value), ?_⟩
      exact fun left value schema level _ _ hm => absurd hm (by omega)
    | succ m =>
      obtain ⟨hb, he⟩ := ih m
      exact ⟨hb.step he hmerged hcheck, he.step hb hmerged hcheck⟩

end Steps

/-! ## The whole run -/

section Run

variable {source schema : Schema} {value : Json}

/-- The bound that is computed from a document is enough for the document when all its references
are left. -/
theorem stepsFor_le_stepBound (document : Json) :
    stepsFor document (referenceTexts document).length document.size ≤ stepBound document := by
  have htexts : (referenceTexts document).length ≤ (document.valuesUnder "$ref").length := by
    have hsubset : referenceTexts document ⊆ document.textsUnder "$ref" :=
      fun text ht => mem_distinct.1 ht
    exact Nat.le_trans (List.subperm_of_subset (nodup_distinct _) hsubset).length_le
      (List.length_filterMap_le _ _)
  have hmul := Nat.mul_le_mul_right (2 * document.size + 2) htexts
  calc stepsFor document (referenceTexts document).length document.size
      ≤ (document.valuesUnder "$ref").length * (2 * document.size + 2) + (2 * document.size + 2) :=
        Nat.add_le_add hmul (Nat.le_add_right _ _)
    _ = stepBound document := (Nat.succ_mul _ _).symm

/-- A schema that was read, with its elements titled or not, is in normal form. -/
theorem isNormal_of_read (hread : Schema.ofJson? value = some source)
    (hschema : schema = source ∨ ∃ title, schema = source.titled title) : schema.IsNormal := by
  have hsource := Schema.isNormal_of_ofJson? hread
  rcases hschema with rfl | ⟨title, rfl⟩
  · exact hsource
  · exact hsource.titled title

/-- A schema in normal form is compiled alike at all bounds that are large enough, checked or not,
and the bound is not used up. -/
theorem run_bodyChecked (h : schema.IsNormal) (rootName : String)
    (profile : Profile) {check : Block → Bool}
    (hcheck : ∀ b, b.isFrugal schema.toJson = true → check b = true) {bound : Nat}
    (hbound : stepBound schema.toJson ≤ bound) :
    let setting : Setting := ⟨profile, rootName, schema.toJson⟩
    let start := Block.start rootName schema.description
    let run := (bodyAt setting (stepBound schema.toJson) schema).run start
    (bodyChecked setting check bound schema).run start = run ∧
      Ends (· ≠ .exhausted) (Block.Accounts schema.toJson) run := by
  intro setting start run
  have hroot : IsReadAt schema.toJson schema.toJson schema :=
    ⟨Json.mem_values_self _, h.ofJson?_toJson⟩
  have hle := stepsFor_le_stepBound schema.toJson
  obtain ⟨heq, hends⟩ := (agree_at setting h.isMerged_toJson hcheck _ bound).1 _ _ _ hroot hle
    (Nat.le_trans hle hbound) start ⟨.start _ _ _, Nat.le_add_right _ _⟩
  exact ⟨heq, hends.imp fun b hb => hb.accounts⟩

/-- The block of a schema in normal form accounts for its declarations, and what is wrong with the
schema is not that the bound was used up. -/
theorem blockOf_cases (h : schema.IsNormal) (rootName : String)
    (profile : Profile) :
    (∃ block, blockOf schema rootName profile = .ok block ∧ block.Accounts schema.toJson) ∨
      ∃ error, error ≠ .exhausted ∧ blockOf schema rootName profile = .error error := by
  obtain ⟨-, hends⟩ := run_bodyChecked h rootName profile (fun b hb => hb) (Nat.le_refl _)
  dsimp only [blockOf]
  cases hrun : (bodyAt ⟨profile, rootName, schema.toJson⟩ (stepBound schema.toJson) schema).run
      (Block.start rootName schema.description) with
  | error error =>
    rw [hrun] at hends
    exact .inr ⟨error, hends, rfl⟩
  | ok result =>
    rw [hrun] at hends
    exact .inl ⟨_, rfl, Block.Accounts.complete hends 0 result.1⟩

/-- Compiling a schema that was read, with its elements titled or not, ends with a text or with an
error that is about the schema; the bound on nested steps plays no part, and at every step of the run
every reference was resolved at most once and there are few declarations: at most one for the root,
one for each object of the document and one for each text under `$ref` in it. -/
theorem compile_terminates (hread : Schema.ofJson? value = some source)
    (hschema : schema = source ∨ ∃ title, schema = source.titled title) (rootName : String)
    (profile : Profile) :
    ((∃ text, compile schema rootName profile = .ok text) ∨
      ∃ error, error ≠ .exhausted ∧ compile schema rootName profile = .error error) ∧
    (∀ (check : Block → Bool) (bound : Nat),
      (∀ b, b.isFrugal schema.toJson = true → check b = true) → stepBound schema.toJson ≤ bound →
      blockChecked check bound schema rootName profile = blockOf schema rootName profile) ∧
    ∀ block, blockOf schema rootName profile = .ok block →
      (Members.keys block.references).Nodup ∧ block.declarations.length ≤
        1 + schema.toJson.objects.length + (distinct (schema.toJson.textsUnder "$ref")).length := by
  have hnormal := isNormal_of_read hread hschema
  refine ⟨?_, fun check bound hcheck hbound => ?_, fun block hblock => ?_⟩
  · unfold compile declarations
    rcases blockOf_cases hnormal rootName profile with ⟨block, hb, -⟩ | ⟨error, he, hb⟩
    · rw [hb]
      exact .inl ⟨_, rfl⟩
    · rw [hb]
      exact .inr ⟨error, he, rfl⟩
  · dsimp only [blockChecked, blockOf]
    rw [(run_bodyChecked hnormal rootName profile hcheck hbound).1]
  · rcases blockOf_cases hnormal rootName profile with ⟨other, hb, haccounts⟩ | ⟨error, -, hb⟩
    · rw [hblock] at hb
      cases hb
      obtain ⟨honce, hfew⟩ := Bool.and_eq_true_iff.1 haccounts.isFrugal
      exact ⟨of_decide_eq_true honce, of_decide_eq_true hfew⟩
    · rw [hblock] at hb
      exact nomatch hb

end Run

/-- A ring of links: each link refers to the schema of all links, in which it stands itself, and to
the root. -/
def ringSchema : Schema :=
  let reference (pointer : String) : Schema :=
    .object ⟨none, none, [("$ref", .str pointer)]⟩ .absent .absent .absent
  let link : Schema := .object ⟨some (.one "object"), none, []⟩
    (.listed [("next", reference "#/properties/links/items"), ("ring", reference "#")])
    .absent .absent
  let links : Schema := .object ⟨some (.one "array"), none, []⟩ .absent (.each link) .absent
  .object ⟨some (.one "object"), none, []⟩ (.listed [("links", links)]) .absent .absent

set_option maxRecDepth 4000 in
/-- The links of a ring with titled elements are declared twice, once for their title and once for
the reference to them, although every link refers to itself. -/
theorem compile_terminates_ring : Schema.ofJson? ringSchema.toJson = some ringSchema ∧
    (∃ text, compile (ringSchema.titled "ring") "Ring" {} = .ok text) ∧
    ∃ block, blockOf (ringSchema.titled "ring") "Ring" {} = .ok block ∧
      block.names = ["Ring", "RingLinksItem", "RingLinksItem1"] ∧
      Members.keys block.references = ["#/properties/links/items"] ∧
      block.declarations.length ≤ 10 := by
  have hread : Schema.ofJson? ringSchema.toJson = some ringSchema := by rfl
  have hblock : (blockOf (ringSchema.titled "ring") "Ring" {}).map (fun block =>
      (block.names, Members.keys block.references)) =
      .ok (["Ring", "RingLinksItem", "RingLinksItem1"], ["#/properties/links/items"]) := by
    rfl
  have hobjects : (ringSchema.titled "ring").toJson.objects.length = 7 := by rfl
  have htexts : (distinct ((ringSchema.titled "ring").toJson.textsUnder "$ref")).length = 2 := by
    rfl
  obtain ⟨hends, -, hfew⟩ := compile_terminates hread (.inr ⟨"ring", rfl⟩) "Ring" {}
  rw [hobjects, htexts] at hfew
  cases hb : blockOf (ringSchema.titled "ring") "Ring" {} with
  | error error =>
    rw [hb] at hblock
    exact nomatch hblock
  | ok block =>
    rw [hb] at hblock
    obtain ⟨hnames, hkeys⟩ := Prod.mk.inj (Except.ok.inj hblock)
    refine ⟨hread, ?_, block, rfl, hnames, hkeys, (hfew block hb).2⟩
    rcases hends with htext | ⟨error, -, herror⟩
    · exact htext
    · rw [compile, declarations, hb] at herror
      exact nomatch herror

end ProgramConnector.TypeScript
