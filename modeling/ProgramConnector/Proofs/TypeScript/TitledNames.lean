import ProgramConnector.Proofs.TypeScript.MetNames
import ProgramConnector.Proofs.TypeScript.ToldApart

/-!
# The names of titled schemas

Two titled schemas get the same name in a run when they are the same, and different names otherwise,
also when one of them is met while the other one is being declared and also when the run fails later
on. To see which names schemas get, a run is watched for two pairs of a schema and a name that would
contradict each other. As soon as one pair is met, the block has an entry for it and tells this
entry apart from all others, so the other pair is never met: one of the two watched runs is as if it
were not watched.
-/

namespace ProgramConnector.TypeScript

variable {α β : Type}

/-! ## Looks that exclude each other -/

/-- A titled schema of a block is marked by the look with the given number. -/
def Block.Marked (marks : Bool → Schema → String → Prop) (i : Bool) (block : Block) : Prop :=
  ∃ entry ∈ block.titled, marks i entry.1 entry.2

/-- The run of a step without a look, and the runs with either of two looks. The block goes on to
tell titled schemas apart. A look has no effect where the other one has left its mark, and at most
one of the two looks has an effect, which is that the run is refused behind a mark. -/
structure Parted (rootName : String) (refusal : CompileError)
    (marks : Bool → Schema → String → Prop) (b : Block) (run : Except CompileError (α × Block))
    (seen : Bool → Except CompileError (α × Block)) : Prop where
  /-- The block tells titled schemas apart, with those that it had. -/
  kept : ∀ value b', run = .ok (value, b') →
    b'.TellsApart rootName ∧ ∀ entry ∈ b.titled, entry ∈ b'.titled
  /-- A mark of one look leaves the other one without effect. -/
  quiet : ∀ i, b.Marked marks i → seen (!i) = run
  /-- One of the looks has no effect, and the other one none either, or it has left a mark. -/
  apart : ∃ i, seen (!i) = run ∧ (seen i = run ∨
    seen i = .error refusal ∧ ∀ value b', run = .ok (value, b') → b'.Marked marks i)

/-- The runs of a step, the first one without a look, are parted on every block that tells titled
schemas apart. -/
def Excludes (rootName : String) (refusal : CompileError) (marks : Bool → Schema → String → Prop)
    (α : Type) (step : Option Bool → Compile α) : Prop :=
  ∀ b, b.TellsApart rootName →
    Parted rootName refusal marks b ((step none).run b) fun i => (step (some i)).run b

/-- Two looks, and what a block has in it once one of them has failed. -/
structure Looks (rootName : String) (look : Bool → Schema → String → Block → Bool)
    (marks : Bool → Schema → String → Prop) : Prop where
  /-- A look that fails has left its mark. -/
  noticed : ∀ (i : Bool) (schema : Schema) (text : String) (block : Block), schema.IsNormal →
    block.TellsApart rootName → (schema.title.isSome → block.Names schema text) →
    look i schema text block = false → block.Marked marks i
  /-- A block that tells titled schemas apart does not have both marks. -/
  exclusive : ∀ block : Block, block.TellsApart rootName → block.Marked marks false →
    ¬ block.Marked marks true

section Parts

variable {rootName : String} {refusal : CompileError} {marks : Bool → Schema → String → Prop}
  {look : Bool → Schema → String → Block → Bool} {b b' : Block}

/-- A mark stays in a block that keeps its titled schemas. -/
theorem Block.Marked.mono {i : Bool} (h : b.Marked marks i)
    (htitled : ∀ entry ∈ b.titled, entry ∈ b'.titled) : b'.Marked marks i := by
  obtain ⟨entry, he, hmark⟩ := h
  exact ⟨entry, htitled entry he, hmark⟩

/-- There are not the marks of a look and of the other one. -/
theorem Looks.not_marked (h : Looks rootName look marks) (hb : b.TellsApart rootName) {i : Bool}
    (hi : b.Marked marks i) : ¬ b.Marked marks (!i) := by
  intro hother
  cases i with
  | false => exact h.exclusive b hb hi hother
  | true => exact h.exclusive b hb hother hi

namespace Parted

variable {run : Except CompileError (α × Block)} {seen : Bool → Except CompileError (α × Block)}

/-- Runs without anything to look at. -/
theorem same (hkept : ∀ value b', run = .ok (value, b') →
      b'.TellsApart rootName ∧ ∀ entry ∈ b.titled, entry ∈ b'.titled) :
    Parted rootName refusal marks b run fun _ => run :=
  ⟨hkept, fun _ _ => rfl, false, rfl, .inl rfl⟩

/-- A value in the block at hand. -/
theorem ok (hb : b'.TellsApart rootName) (htitled : ∀ entry ∈ b.titled, entry ∈ b'.titled)
    (value : α) : Parted rootName refusal marks b (.ok (value, b')) fun _ => .ok (value, b') := by
  refine .same fun _ _ hrun => ?_
  obtain ⟨-, rfl⟩ := Prod.mk.inj (Except.ok.inj hrun)
  exact ⟨hb, htitled⟩

/-- The same error in all runs. -/
theorem error (error : CompileError) :
    Parted rootName refusal marks b (.error error : Except CompileError (α × Block))
      fun _ => .error error :=
  .same fun _ _ hrun => nomatch hrun

/-- Runs on a block with more titled schemas. -/
theorem mono (h : Parted rootName refusal marks b' run seen)
    (htitled : ∀ entry ∈ b.titled, entry ∈ b'.titled) :
    Parted rootName refusal marks b run seen := by
  refine ⟨fun value last hrun => ?_, fun i hi => h.quiet i (hi.mono htitled), h.apart⟩
  obtain ⟨hlast, hmore⟩ := h.kept value last hrun
  exact ⟨hlast, fun entry he => hmore entry (htitled entry he)⟩

/-- Runs one after the other. Where a look has an effect on the first run, it has left a mark, and
so the other look has no effect on the second run. -/
theorem bind (h : Parted rootName refusal marks b run seen)
    {next : α × Block → Except CompileError (β × Block)}
    {nextSeen : Bool → α × Block → Except CompileError (β × Block)}
    (hnext : ∀ value b', run = .ok (value, b') → b'.TellsApart rootName →
      Parted rootName refusal marks b' (next (value, b')) fun i => nextSeen i (value, b')) :
    Parted rootName refusal marks b (run >>= next) fun i => seen i >>= nextSeen i := by
  obtain ⟨hkept, hquiet, i, hother, hcases⟩ := h
  cases run with
  | error error =>
    refine ⟨fun _ _ hrun => (nomatch hrun), fun i hi => ?_, i, ?_, ?_⟩
    · rw [hquiet i hi]
      rfl
    · rw [hother]
      rfl
    · refine hcases.imp (fun hsame => ?_) fun hrefused => ⟨?_, fun _ _ hrun => nomatch hrun⟩
      · rw [hsame]
        rfl
      · rw [hrefused.1]
        rfl
  | ok result =>
    obtain ⟨hb', htitled⟩ := hkept _ _ rfl
    obtain ⟨hkept', hquiet', hapart'⟩ := hnext _ _ rfl hb'
    refine ⟨fun value b'' hrun => ?_, fun i hi => ?_, ?_⟩
    · obtain ⟨hb'', hmore⟩ := hkept' value b'' hrun
      exact ⟨hb'', fun entry he => hmore entry (htitled entry he)⟩
    · rw [hquiet i hi]
      exact hquiet' i (hi.mono htitled)
    · rcases hcases with hsame | ⟨hrefused, hmark⟩
      · have hboth : ∀ j, seen j = .ok result := by
          intro j
          cases i <;> cases j <;> first | exact hsame | exact hother
        obtain ⟨j, hnextother, hnextcases⟩ := hapart'
        exact ⟨j, by rw [hboth]; exact hnextother, by rw [hboth]; exact hnextcases⟩
      · -- The mark is in the block that the second run starts from.
        have hi := hmark _ _ rfl
        refine ⟨i, by rw [hother]; exact hquiet' i hi, .inr ⟨by rw [hrefused]; rfl, ?_⟩⟩
        intro value b'' hrun
        exact hi.mono (hkept' value b'' hrun).2

/-- The runs of a body, before which a declaration was opened that is closed behind it. -/
theorem declared {run : Except CompileError (Body × Block)}
    {seen : Bool → Except CompileError (Body × Block)} {opened : Block}
    (h : Parted rootName refusal marks opened run seen)
    (htitled : ∀ entry ∈ b.titled, entry ∈ opened.titled) (name : String) (place : Nat) :
    Parted rootName refusal marks b
      (run.map fun result => (name, result.2.complete place result.1)) fun i =>
      (seen i).map fun result => (name, result.2.complete place result.1) := by
  simp only [map_eq_bind]
  refine (h.mono htitled).bind fun body b' _ hb' => ?_
  have hkept : ∀ entry ∈ b'.titled, entry ∈ (b'.complete place body).titled := fun _ he => he
  exact .ok (hb'.complete place body) hkept name

/-- A value that is looked at. A look that fails has left its mark, so the other one does not
fail. -/
theorem looked (hl : Looks rootName look marks) {schema : Schema} (hschema : schema.IsNormal)
    {text : String} (hb : b.TellsApart rootName)
    (hnames : schema.title.isSome → b.Names schema text) :
    Parted rootName refusal marks b (.ok (text, b)) fun i =>
      if look i schema text b then .ok (text, b) else .error refusal := by
  have hmark (i : Bool) (hfails : ¬ look i schema text b = true) : b.Marked marks i :=
    hl.noticed i schema text b hschema hb hnames (Bool.eq_false_iff.2 hfails)
  have hpass {i : Bool} (hi : b.Marked marks i) : look (!i) schema text b = true := by
    by_contra hfails
    exact hl.not_marked hb hi (hmark _ hfails)
  have hsame : Parted rootName refusal marks b (.ok (text, b)) fun _ => .ok (text, b) :=
    .ok hb (fun _ he => he) text
  refine ⟨hsame.kept, fun i hi => if_pos (hpass hi), ?_⟩
  by_cases hfirst : look false schema text b = true
  · by_cases hsecond : look true schema text b = true
    · exact ⟨false, if_pos hsecond, .inl (if_pos hfirst)⟩
    · refine ⟨true, if_pos hfirst, .inr ⟨if_neg hsecond, fun _ _ hrun => ?_⟩⟩
      obtain ⟨-, rfl⟩ := Prod.mk.inj (Except.ok.inj hrun)
      exact hmark true hsecond
  · refine ⟨false, if_pos (hpass (hmark false hfirst)), .inr ⟨if_neg hfirst, fun _ _ hrun => ?_⟩⟩
    obtain ⟨-, rfl⟩ := Prod.mk.inj (Except.ok.inj hrun)
    exact hmark false hfirst

end Parted

/-! ## Steps -/

/-- Steps that exclude each other go along with how steps are made. -/
theorem composes_excludes (rootName : String) (refusal : CompileError)
    (marks : Bool → Schema → String → Prop) : Composes (Excludes rootName refusal marks) := by
  refine ⟨fun value b hb => .ok hb (fun _ he => he) value, fun keyword reason b _ => .error _, ?_⟩
  intro α β step next hs hn b hb
  simp only [StateT.run_bind]
  exact (hs b hb).bind fun value b' _ hb' => hn value b' hb'

/-- The name of a titled schema, which is the same in all runs where the schema is known. -/
theorem excludes_nameTitled {below : Option Bool → Below} {schema : Schema} {title : String}
    (setting : Setting) (hschema : schema.IsNormal) (htitle : schema.title = some title)
    (hbody : Excludes rootName refusal marks Body fun i => (below i).body schema) :
    Excludes rootName refusal marks String fun i => nameTitled (below i).body schema title := by
  intro b hb
  simp only [run_nameTitled]
  cases hfind : b.titled.find? fun entry => entry.1.same schema with
  | some entry => exact .ok hb (fun _ he => he) entry.2
  | none =>
    have hnew : ∀ entry ∈ b.titled, entry.1.same schema = false := by
      simpa using List.find?_eq_none.1 hfind
    exact (hbody _ (hb.openTitled setting hschema htitle hnew rfl)).declared
      (fun entry he => List.mem_append_left _ he) _ _

/-- The name of a reference's target, which is the same in all runs where the reference is known. -/
theorem excludes_resolve {below : Option Bool → Below} (setting : Setting) (reference : String)
    (hbody : ∀ target, setting.target? reference = some target →
      Excludes rootName refusal marks Body fun i => (below i).body target) :
    Excludes rootName refusal marks String fun i => resolve setting (below i) reference := by
  intro b hb
  by_cases hroot : reference = "#"
  · subst hroot
    exact .ok hb (fun _ he => he) setting.rootName
  simp only [run_resolve setting _ hroot]
  cases hfind : Members.find? reference b.references with
  | some name => exact .ok hb (fun _ he => he) name
  | none =>
    cases htarget : setting.target reference with
    | error error => exact .error error
    | ok target =>
      have htarget' := Setting.target_eq_ok_iff.1 htarget
      have hnew := Members.find?_eq_none_iff.1 hfind
      have hopened := hbody target htarget' _ (hb.openReference hroot htarget' hnew rfl)
      exact Parted.declared (b := b) hopened (fun _ he => he) _ _

/-- The value of a step is looked at. -/
theorem excludes_watched (hl : Looks rootName look marks) {schema : Schema}
    (hschema : schema.IsNormal) {step : Option Bool → Compile String}
    (hstep : Excludes rootName refusal marks String step)
    (hnames : ∀ b text b', b.TellsApart rootName → (step none).run b = .ok (text, b') →
      schema.title.isSome → b'.Names schema text) :
    Excludes rootName refusal marks String fun
      | none => step none
      | some i => watched refusal (look i schema) (step (some i)) := by
  intro b hb
  simp only [run_watched]
  rw [← bind_pure ((step none).run b)]
  exact (hstep b hb).bind fun text b' hrun hb' => .looked hl hschema hb' (hnames b text b' hb hrun)

end Parts

/-! ## Whole runs -/

section Runs

variable {rootName : String} {marks : Bool → Schema → String → Prop}
  {look : Bool → Schema → String → Block → Bool} {schema : Schema} {profile : Profile}

/-- What is written inside of the type of a schema in normal form is in normal form. -/
theorem HasPart.isNormal {part : Schema} (hp : HasPart schema part) (h : schema.IsNormal) :
    part.IsNormal := by
  cases hp with
  | child isChild =>
    obtain ⟨-, hchildren⟩ := h
    exact hchildren part isChild
  | member _ _ isSchema => exact Schema.isNormal_of_ofJson? isSchema

/-- Schemas in normal form are compiled with looks that exclude each other, at every bound. -/
theorem excludes_at (setting : Setting) (refusal : CompileError)
    (hl : Looks rootName look marks) (bound : Nat) :
    ∀ schema : Schema, schema.IsNormal →
      (∀ level, Excludes rootName refusal marks String fun i =>
        (stepsSeen setting refusal bound (i.map look)).expression schema level) ∧
      Excludes rootName refusal marks Body fun i =>
        (stepsSeen setting refusal bound (i.map look)).body schema := by
  have hcomposes := composes_excludes rootName refusal marks
  induction bound with
  | zero =>
    refine fun schema _ => ⟨fun level b _ => ?_, fun b _ => ?_⟩
    · simp only [stepsSeen, expressionAt, expressionWatched]
      exact .error .exhausted
    · simp only [stepsSeen, bodyAt, bodyWatched]
      exact .error .exhausted
  | succ bound ih =>
    intro schema hschema
    have hbelow : RelatedBelow (Excludes rootName refusal marks) setting
        (fun i => stepsSeen setting refusal bound (i.map look)) schema := by
      refine ⟨fun part hp => (ih part (hp.isNormal hschema)).1, fun _ reference _ _ => ?_⟩
      refine excludes_resolve setting reference fun target htarget => (ih target ?_).2
      rw [Setting.target?_eq] at htarget
      obtain ⟨value, -, hread⟩ := Option.bind_eq_some_iff.1 htarget
      exact Schema.isNormal_of_ofJson? hread
    refine ⟨fun level => ?_, ?_⟩
    · have hstep := hcomposes.expression (fun _ => hbelow)
        (fun title htitle => excludes_nameTitled setting hschema htitle (ih schema hschema).2) level
      have hnames : ∀ b text b', b.TellsApart rootName →
          (expressionAt setting (bound + 1) schema level).run b = .ok (text, b') →
          schema.title.isSome → b'.Names schema text :=
        fun b text b' hb hrun => names_of_run hb.wellNamed hrun
      simp only [expressionAt] at hnames
      intro b hb
      have hparted := excludes_watched hl hschema hstep hnames b hb
      simp only [stepsSeen, expressionAt, expressionWatched]
      exact hparted
    · intro b hb
      have hparted := hcomposes.declarationBody hbelow b hb
      simp only [stepsSeen, bodyAt, bodyWatched]
      exact hparted

/-- The block of a schema in normal form tells titled schemas apart. -/
theorem tellsApart_of_blockOf (h : schema.IsNormal) {block : Block}
    (hblock : blockOf schema rootName profile = .ok block) : block.TellsApart rootName := by
  have hlooks : Looks rootName (fun _ _ _ _ => true) fun _ _ _ => False :=
    ⟨fun _ _ _ _ _ _ _ hlook => (nomatch hlook), fun _ _ ⟨_, _, hmark⟩ => hmark.elim⟩
  obtain ⟨body, b, hrun, rfl⟩ := blockOf_eq_ok hblock
  have hparted := (excludes_at ⟨profile, rootName, schema.toJson⟩ .exhausted hlooks
    (stepBound schema.toJson) schema h).2 _ (Block.tellsApart_start rootName schema.description)
  exact (hparted.kept body b hrun).1.complete 0 body

/-- At most one of two looks that exclude each other has an effect on the run of a schema in normal
form: it refuses the run, behind a mark. -/
theorem blockWatched_cases (hl : Looks rootName look marks) (h : schema.IsNormal)
    (profile : Profile) (refusal : CompileError) :
    ∃ i, blockWatched refusal (look (!i)) schema rootName profile =
        blockOf schema rootName profile ∧
      (blockWatched refusal (look i) schema rootName profile = blockOf schema rootName profile ∨
        blockWatched refusal (look i) schema rootName profile = .error refusal ∧
          ∀ block, blockOf schema rootName profile = .ok block → block.Marked marks i) := by
  obtain ⟨-, -, i, hother, hcases⟩ :=
    (excludes_at ⟨profile, rootName, schema.toJson⟩ refusal hl (stepBound schema.toJson) schema
      h).2 _ (Block.tellsApart_start rootName schema.description)
  simp only [Option.map_some, Option.map_none, stepsSeen] at hother hcases
  refine ⟨i, ?_, hcases.imp (fun hsame => ?_) fun hrefused => ⟨?_, fun block hblock => ?_⟩⟩
  · rw [blockWatched, hother]
    rfl
  · rw [blockWatched, hsame]
    rfl
  · rw [blockWatched, hrefused.1]
    rfl
  · obtain ⟨body, b, hrun, rfl⟩ := blockOf_eq_ok hblock
    exact hrefused.2 body b hrun

end Runs

/-! ## Names -/

section Names

variable {rootName name : String} {schema part : Schema} {profile : Profile}

/-- The mark of a look at a schema and a name: an entry of the name for a schema that is the
same. -/
def markFor (part : Schema) (name : String) (known : Schema) (text : String) : Prop :=
  part.IsNormal ∧ known.same part = true ∧ text = name

/-- A look at a titled schema and a name fails behind an entry for them. -/
theorem marked_of_lookFor {text : String} {block : Block} (htitle : part.title.isSome)
    (hschema : schema.IsNormal) (hnames : schema.title.isSome → block.Names schema text)
    (hlook : lookFor part name schema text block = false) :
    ∃ entry ∈ block.titled, markFor part name entry.1 entry.2 := by
  obtain ⟨rfl, rfl⟩ : schema = part ∧ text = name := by simpa [lookFor] using hlook
  obtain ⟨other, hknown, hsame⟩ := (hnames htitle).known
  refine ⟨(other, text), hknown, hschema, ?_, rfl⟩
  rcases hsame with rfl | hsame
  · exact hschema.same_self
  · exact hsame

/-- Two titled schemas and a name for each of them are looked for, and no block that tells titled
schemas apart has them both. -/
theorem looks_of_contradiction (rootName : String) {other : Schema} {otherName : String}
    (hpart : part.title.isSome) (hother : other.title.isSome)
    (hne : ¬ (name = otherName ↔ part.same other = true)) :
    Looks rootName (fun i => bif i then lookFor other otherName else lookFor part name)
      fun i => bif i then markFor other otherName else markFor part name := by
  refine ⟨fun i schema text block hschema _ hnames hlook => ?_, ?_⟩
  · cases i with
    | false => exact marked_of_lookFor hpart hschema hnames hlook
    | true => exact marked_of_lookFor hother hschema hnames hlook
  · rintro block hb ⟨entry, he, hnormal, hsame, rfl⟩ ⟨entry', he', hnormal', hsame', rfl⟩
    refine hne ((hb.same entry he entry' he').trans (Bool.eq_iff_iff.1 ?_))
    exact same_congr_schema (hb.titled entry he).2 (hb.titled entry' he').2 hnormal hnormal' hsame
      hsame'

/-- A look for a titled schema and a name next to a look that never fails. -/
theorem looks_single (rootName name : String) (hpart : part.title.isSome) :
    Looks rootName (fun i => bif i then fun _ _ _ => true else lookFor part name)
      fun i => bif i then fun _ _ => False else markFor part name := by
  refine ⟨fun i schema text block hschema _ hnames hlook => ?_, fun block _ _ htrue => ?_⟩
  · cases i with
    | false => exact marked_of_lookFor hpart hschema hnames hlook
    | true => cases hlook
  · obtain ⟨_, _, hfalse⟩ := htrue
    exact hfalse

/-- A run can be refused with an error that it does not end with otherwise. -/
theorem exists_refusal (run : Except CompileError Block) :
    ∃ refusal, run ≠ .error refusal := by
  by_cases h : run = .error .exhausted
  · exact ⟨.unresolved "", by simp [h]⟩
  · exact ⟨.exhausted, h⟩

/-- The name of a titled schema is declared once in the block, for a schema that is the same. It is
neither the name of the root nor one of a reference. -/
theorem IsNamed.declared (hnamed : IsNamed schema rootName profile part name)
    (h : schema.IsNormal) {block : Block} (hblock : blockOf schema rootName profile = .ok block) :
    block.names.count name = 1 ∧ name ≠ rootName ∧
      (∀ reference ∈ block.references, reference.2 ≠ name) ∧
      ∃ known, known.same part = true ∧
        block.Declares ⟨profile, rootName, schema.toJson⟩ name known := by
  obtain ⟨htitle, hrefused⟩ := hnamed
  obtain ⟨i, hother, hcases⟩ := blockWatched_cases (looks_single rootName name htitle) h profile
    .exhausted
  have hne : blockWatched .exhausted (lookFor part name) schema rootName profile ≠
      blockOf schema rootName profile := by
    rw [hrefused, hblock]
    simp
  cases i with
  | true => exact absurd hother hne
  | false =>
    obtain ⟨-, hmarked⟩ := hcases.resolve_left hne
    obtain ⟨⟨known, name⟩, hentry, -, hsame, rfl⟩ := hmarked block hblock
    have hclosed := isClosed_of_blockOf hblock
    have htold := tellsApart_of_blockOf h hblock
    obtain ⟨hroot, hreferences⟩ := htold.apart _ hentry
    refine ⟨List.count_eq_one_of_mem hclosed.nodup ?_, hroot, hreferences, known, hsame,
      hclosed.titled _ hentry⟩
    exact (htold.wellNamed.titled _ hentry).1

/-- Two titled schemas get the same name if and only if they are the same. If not, one of the two
would not be met in a run that looks for both. -/
theorem IsNamed.eq_iff_same (h : schema.IsNormal) {other : Schema} {otherName : String}
    (hpart : IsNamed schema rootName profile part name)
    (hother : IsNamed schema rootName profile other otherName) :
    name = otherName ↔ part.same other = true := by
  by_contra hne
  -- A refusal that the run does not end with by itself tells the two apart.
  obtain ⟨refusal, hrefusal⟩ := exists_refusal (blockOf schema rootName profile)
  have hl := looks_of_contradiction rootName hpart.1 hother.1 hne
  obtain ⟨i, hunseen, -⟩ := blockWatched_cases hl h profile refusal
  cases i with
  | false => exact hrefusal (hunseen.symm.trans (hother.2 refusal))
  | true => exact hrefusal (hunseen.symm.trans (hpart.2 refusal))

/-- While a schema in normal form is compiled, two titled schemas get the same name if and only if
they are the same, wherever they are met, and also when the run fails in the end. When there is a
block, every titled schema that it has a name for has got this name, and each of the names is
declared in it once, for a schema that is the same, and is neither the name of the root nor one of a
reference. -/
theorem named_alike_iff_same (h : schema.IsNormal) (rootName : String) (profile : Profile) :
    (∀ part other name otherName, IsNamed schema rootName profile part name →
      IsNamed schema rootName profile other otherName →
      (name = otherName ↔ part.same other = true)) ∧
    ∀ block, blockOf schema rootName profile = .ok block →
      (∀ entry ∈ block.titled, IsNamed schema rootName profile entry.1 entry.2) ∧
      ∀ part name, IsNamed schema rootName profile part name →
        block.names.count name = 1 ∧ name ≠ rootName ∧
        (∀ reference ∈ block.references, reference.2 ≠ name) ∧
        ∃ known, known.same part = true ∧
          block.Declares ⟨profile, rootName, schema.toJson⟩ name known := by
  refine ⟨fun part other name otherName hpart hother => ?_, fun block hblock =>
    ⟨fun entry hentry => ?_, fun part name hnamed => hnamed.declared h hblock⟩⟩
  · exact hpart.eq_iff_same h hother
  · obtain ⟨htitle, -⟩ := (tellsApart_of_blockOf h hblock).titled entry hentry
    exact isNamed_of_mem_titled hblock hentry htitle

end Names

/-- A part with two flags, under a title that all parts share. -/
def flaggedPart (first second : String) : Schema :=
  .object ⟨some (.one "string"), some "Part", [(first, .bool true), (second, .bool true)]⟩
    .absent .absent .absent

/-- Whether a schema is the part with two flags. -/
def isFlaggedPart (first second : String) : Schema → Bool
  | .object ⟨some (.one "string"), some "Part", [(flag, .bool true), (other, .bool true)]⟩
      .absent .absent .absent => flag == first && other == second
  | _ => false

/-- The test for a part succeeds for this part only. -/
theorem isFlaggedPart_iff (first second : String) (schema : Schema) :
    isFlaggedPart first second schema = true ↔ schema = flaggedPart first second := by
  unfold isFlaggedPart flaggedPart
  split
  · simp
  · rename_i hother
    simpa using fun h => hother first second h

/-- A root with the name of its parts, two of which differ in the order of their flags only, and a
reference whose name is that of a part. -/
def partsSchema : Schema :=
  let reference : Schema :=
    .object ⟨none, none, [("$ref", .str "#/definitions/Part1")]⟩ .absent .absent .absent
  .object ⟨some (.one "object"), none, [("definitions", .obj [("Part1", .bool true)])]⟩
    (.listed [("first", flaggedPart "nullable" "deprecated"), ("linked", reference),
      ("second", flaggedPart "nullable" "readOnly"),
      ("third", flaggedPart "deprecated" "nullable")]) .absent .absent

set_option maxRecDepth 8000 in
/-- The parts that are the same share a name and its declaration, and the other one has a name of
its own. -/
theorem named_alike_iff_same_parts : partsSchema.IsNormal ∧
    IsNamed partsSchema "Part" {} (flaggedPart "nullable" "deprecated") "Part1" ∧
    IsNamed partsSchema "Part" {} (flaggedPart "deprecated" "nullable") "Part1" ∧
    IsNamed partsSchema "Part" {} (flaggedPart "nullable" "readOnly") "Part2" ∧
    (flaggedPart "nullable" "deprecated").same (flaggedPart "deprecated" "nullable") = true ∧
    (flaggedPart "nullable" "deprecated").same (flaggedPart "nullable" "readOnly") ≠ true ∧
    ∃ block, blockOf partsSchema "Part" {} = .ok block ∧
      block.names = ["Part", "Part1", "Part11", "Part2"] ∧
      ∃ known, known.same (flaggedPart "nullable" "readOnly") = true ∧
        block.Declares ⟨{}, "Part", partsSchema.toJson⟩ "Part2" known := by
  have hread : Schema.ofJson? partsSchema.toJson = some partsSchema := by rfl
  have hnormal := Schema.isNormal_of_ofJson? hread
  have hfirst : IsNamed partsSchema "Part" {} (flaggedPart "nullable" "deprecated") "Part1" :=
    isNamed_of_test (isFlaggedPart_iff _ _) rfl fun refusal => by rfl
  have hthird : IsNamed partsSchema "Part" {} (flaggedPart "deprecated" "nullable") "Part1" :=
    isNamed_of_test (isFlaggedPart_iff _ _) rfl fun refusal => by rfl
  have hsecond : IsNamed partsSchema "Part" {} (flaggedPart "nullable" "readOnly") "Part2" :=
    isNamed_of_test (isFlaggedPart_iff _ _) rfl fun refusal => by rfl
  obtain ⟨hsame, hdeclared⟩ := named_alike_iff_same hnormal "Part" {}
  refine ⟨hnormal, hfirst, hthird, hsecond, (hsame _ _ _ _ hfirst hthird).1 rfl, ?_, ?_⟩
  · rw [Ne, ← hsame _ _ _ _ hfirst hsecond]
    decide
  · have hnames : (blockOf partsSchema "Part" {}).map Block.names =
        .ok ["Part", "Part1", "Part11", "Part2"] := by
      rfl
    cases hblock : blockOf partsSchema "Part" {} with
    | error error =>
      rw [hblock] at hnames
      cases hnames
    | ok block =>
      rw [hblock] at hnames
      obtain ⟨-, hnames'⟩ := hdeclared block hblock
      obtain ⟨-, -, -, hknown⟩ := hnames' _ _ hsecond
      exact ⟨block, rfl, Except.ok.inj hnames, hknown⟩

end ProgramConnector.TypeScript
