import ProgramConnector.Proofs.Naming.IdentifierStart
import ProgramConnector.Proofs.TypeScript.Agreement
import ProgramConnector.Proofs.TypeScript.ClosedBlock

/-!
# Which declared names are identifiers

Apart from the root every declaration has its name from a base: the title of its schema, or the last
step of the reference that was followed to it. The name is made of identifier characters and is not
empty, and it is an identifier exactly when the name of a type for the base does not start with a
digit.
-/

namespace ProgramConnector.TypeScript

/-- A name of a block is made from a base: the title of a schema that is declared under the name, or
the title or last step of a reference whose target is. -/
inductive Block.HasBase (setting : Setting) (block : Block) (base name : String) : Prop
  /-- The title of a schema. -/
  | titled {schema : Schema} (known : (schema, name) ∈ block.titled)
    (isTitle : schema.title = some base)
  /-- The base of a reference. -/
  | reference {reference : String} {target : Schema} (known : (reference, name) ∈ block.references)
    (isTarget : setting.target? reference = some target)
    (isBase : base = referenceBase reference target)

/-- The names of a block are made from bases. -/
structure Block.IsNamed (setting : Setting) (block : Block) : Prop where
  /-- Every declaration is the root or has a base. -/
  declared : ∀ name ∈ block.names,
    name = setting.rootName ∨ ∃ base, block.HasBase setting base name
  /-- A name with a base is made from it. -/
  made : ∀ base name, block.HasBase setting base name →
    ∃ used, name = uniqueName used (Naming.typeName base)

section Names

variable {setting : Setting} {block : Block}

/-- A base stays one when more schemas and references are declared. -/
theorem Block.HasBase.mono {other : Block} {base name : String}
    (h : block.HasBase setting base name) (ht : block.titled ⊆ other.titled)
    (hr : block.references ⊆ other.references) : other.HasBase setting base name := by
  cases h with
  | titled known isTitle => exact .titled (ht known) isTitle
  | reference known isTarget isBase => exact .reference (hr known) isTarget isBase

/-- Opening a declaration for a titled schema or for a reference keeps names made from bases, when
its own name is. -/
theorem Block.IsNamed.opened (h : block.IsNamed setting) {base name : String}
    {description : Option String} {titled : List (Schema × String)}
    {references : List (String × String)}
    (hname : name = uniqueName block.used (Naming.typeName base))
    (ht : block.titled ⊆ titled) (hr : block.references ⊆ references)
    (hbase : (block.opened name description titled references).HasBase setting base name)
    (hnew : ∀ other last, (block.opened name description titled references).HasBase setting other
      last → block.HasBase setting other last ∨ other = base ∧ last = name) :
    (block.opened name description titled references).IsNamed setting := by
  refine ⟨fun last hl => ?_, fun other last ho => ?_⟩
  · rw [Block.names_opened] at hl
    rcases List.mem_append.1 hl with hl | hl
    · rcases h.declared last hl with hroot | ⟨other, ho⟩
      · exact .inl hroot
      · exact .inr ⟨other, ho.mono ht hr⟩
    · rw [List.mem_singleton.1 hl]
      exact .inr ⟨base, hbase⟩
  · rcases hnew other last ho with ho | ⟨rfl, rfl⟩
    · exact h.made other last ho
    · exact ⟨block.used, hname⟩

/-- Names made from bases are kept throughout a run. -/
theorem isKept_isNamed (setting : Setting) : IsKept setting (Block.IsNamed setting) := by
  refine ⟨fun b schema title name hb ht _ hname => ?_,
    fun b reference target name hb _ ht _ hname => ?_, fun b place body hb => ?_⟩
  · refine hb.opened hname (List.subset_append_left _ _) (List.Subset.refl _)
      (.titled (List.mem_append_right _ List.mem_cons_self) ht) fun other last ho => ?_
    cases ho with
    | titled known isTitle =>
      rcases List.mem_append.1 known with known | known
      · exact .inl (.titled known isTitle)
      · obtain ⟨rfl, rfl⟩ := Prod.mk.inj (List.mem_singleton.1 known)
        rw [ht] at isTitle
        exact .inr ⟨(Option.some.inj isTitle).symm, rfl⟩
    | reference known isTarget isBase => exact .inl (.reference known isTarget isBase)
  · refine hb.opened hname (List.Subset.refl _) (List.subset_cons_self _ _)
      (.reference List.mem_cons_self ht rfl) fun other last ho => ?_
    cases ho with
    | titled known isTitle => exact .inl (.titled known isTitle)
    | reference known isTarget isBase =>
      rcases List.mem_cons.1 known with he | known
      · obtain ⟨rfl, rfl⟩ := Prod.mk.inj he
        rw [ht] at isTarget
        cases isTarget
        exact .inr ⟨isBase, rfl⟩
      · exact .inl (.reference known isTarget isBase)
  · have hsame : ∀ base name, (b.complete place body).HasBase setting base name →
        b.HasBase setting base name :=
      fun base name h => h.mono (List.Subset.refl _) (List.Subset.refl _)
    refine ⟨fun name hn => ?_, fun base name h => hb.made base name (hsame base name h)⟩
    rw [Block.names_complete] at hn
    rcases hb.declared name hn with hroot | ⟨base, h⟩
    · exact .inl hroot
    · exact .inr ⟨base, h.mono (List.Subset.refl _) (List.Subset.refl _)⟩

/-- What is kept throughout a run holds of the block that is made. -/
theorem IsKept.of_blockOf {schema : Schema} {rootName : String} {profile : Profile}
    {inv : Block → Prop} (h : IsKept ⟨profile, rootName, schema.toJson⟩ inv)
    (hstart : inv (Block.start rootName schema.description))
    (hb : blockOf schema rootName profile = .ok block) : inv block := by
  obtain ⟨body, b, hbody, rfl⟩ := blockOf_eq_ok hb
  obtain ⟨-, hends⟩ := (h.agree_at (isFine_true _) trivial (stepBound schema.toJson)).body schema
    (Block.opened ⟨[], [], [], []⟩ rootName schema.description [] []) hstart
  rw [hbody] at hends
  exact h.complete b 0 body hends

/-- The names of a block that is made are made from bases. -/
theorem isNamed_of_blockOf {schema : Schema} {rootName : String} {profile : Profile}
    (hb : blockOf schema rootName profile = .ok block) :
    block.IsNamed ⟨profile, rootName, schema.toJson⟩ := by
  refine (isKept_isNamed _).of_blockOf ⟨fun name hn => .inl (List.mem_singleton.1 hn), ?_⟩ hb
  intro base name h
  cases h with
  | titled known => exact absurd known List.not_mem_nil
  | reference known => exact absurd known List.not_mem_nil

end Names

/-! ## Identifiers -/

section Identifiers

/-- An empty base is replaced. -/
theorem replacement_ne_nil (base : String) :
    (if base.isEmpty then "Type" else base).toList ≠ [] := by
  split
  · decide
  · rename_i h
    simpa [String.isEmpty_iff] using h

/-- The name that is taken starts like its base, or like the replacement for an empty one. -/
theorem head?_uniqueName (used : List String) (base : String) :
    (uniqueName used base).toList.head? =
      (if base.isEmpty then "Type" else base).toList.head? := by
  have hne := replacement_ne_nil base
  rcases List.mem_cons.1 (uniqueName_mem used base) with he | he
  · rw [he]
  · obtain ⟨k, -, hk⟩ := List.mem_map.1 he
    rw [← hk, String.toList_append]
    exact List.head?_append_of_ne_nil _ hne

/-- The name that is taken is not empty. -/
theorem uniqueName_ne_empty (used : List String) (base : String) : uniqueName used base ≠ "" := by
  intro h
  have hhead := head?_uniqueName used base
  rw [h] at hhead
  exact replacement_ne_nil base (List.head?_eq_none_iff.1 hhead.symm)

/-- The name that is taken for a title is an identifier unless the name of a type for the title
starts with a digit. -/
theorem isIdentifier_uniqueName_typeName (used : List String) (title : String) :
    Naming.isIdentifier (uniqueName used (Naming.typeName title)).toList =
      !Naming.startsWithDigit title.toList := by
  have hplain := isPlain_uniqueName used (Naming.isPlain_typeName title)
  rw [Bool.eq_iff_iff, Naming.isIdentifier_iff hplain, head?_uniqueName, Bool.not_eq_true',
    ← Bool.not_eq_true, ← Naming.head?_typeName_eq_some_false]
  split
  · rename_i hempty
    rw [String.isEmpty_iff.1 hempty]
    decide
  · rename_i hsome
    cases hl : (Naming.typeName title).toList with
    | nil =>
      rw [String.toList_eq_nil_iff] at hl
      exact absurd (String.isEmpty_iff.2 hl) hsome
    | cons c rest => cases hc : Naming.isIdentifierStart c <;> simp [hc]

/-- Whenever a schema is compiled under an identifier, every declared name is a nonempty text of
identifier characters, and it is an identifier itself exactly when it is not made from a title or
step for which the name of a type starts with a digit. -/
theorem isIdentifier_iff_of_compile {schema : Schema} {rootName text : String} {profile : Profile}
    (hroot : Naming.isIdentifier rootName.toList = true)
    (h : compile schema rootName profile = .ok text) :
    ∃ block, blockOf schema rootName profile = .ok block ∧
      text = renderBlock profile.bannerComment block.declarations ∧
      ∀ name ∈ block.names, name ≠ "" ∧ Naming.IsPlain name.toList ∧
        (Naming.isIdentifier name.toList = true ↔
          ∀ base, block.HasBase ⟨profile, rootName, schema.toJson⟩ base name →
            Naming.startsWithDigit base.toList = false) := by
  obtain ⟨block, hb, ht⟩ := compile_eq_ok h
  obtain ⟨hdeclared, hmade⟩ := isNamed_of_blockOf hb
  refine ⟨block, hb, ht, fun name hn => ?_⟩
  have hbased : ∀ base, block.HasBase ⟨profile, rootName, schema.toJson⟩ base name →
      name ≠ "" ∧ Naming.IsPlain name.toList ∧
        Naming.isIdentifier name.toList = !Naming.startsWithDigit base.toList := by
    intro base hbase
    obtain ⟨used, rfl⟩ := hmade base name hbase
    exact ⟨uniqueName_ne_empty used _, isPlain_uniqueName used (Naming.isPlain_typeName base),
      isIdentifier_uniqueName_typeName used base⟩
  have hforward : Naming.isIdentifier name.toList = true →
      ∀ base, block.HasBase ⟨profile, rootName, schema.toJson⟩ base name →
        Naming.startsWithDigit base.toList = false := by
    intro hi base hbase
    rwa [(hbased base hbase).2.2, Bool.not_eq_true'] at hi
  rcases hdeclared name hn with rfl | ⟨base, hbase⟩
  · refine ⟨?_, Naming.isPlain_of_isIdentifier hroot, hforward, fun _ => hroot⟩
    rintro he
    rw [he] at hroot
    exact nomatch hroot
  · obtain ⟨hne, hplain, hi⟩ := hbased base hbase
    refine ⟨hne, hplain, hforward, fun hall => ?_⟩
    rw [hi, hall base hbase]
    rfl

end Identifiers

/-- Places with ordinals as titles. -/
def placesSchema : Schema :=
  let place (title : String) : Schema :=
    .object ⟨some (.one "object"), some title, []⟩ .absent .absent .absent
  .object ⟨some (.one "object"), none, []⟩
    (.listed [("first", place "1st place"), ("last", place "10th place")]) .absent .absent

set_option maxRecDepth 4000 in
/-- The first digit of an ordinal is dropped, so the name of the tenth place starts with the second
one and is no identifier. -/
theorem isIdentifier_iff_of_compile_places : ∃ block, blockOf placesSchema "Places" {} = .ok block ∧
    block.names = ["Places", "StPlace", "0ThPlace"] ∧
    (∀ base, block.HasBase ⟨{}, "Places", placesSchema.toJson⟩ base "StPlace" →
      Naming.startsWithDigit base.toList = false) ∧
    Naming.isIdentifier "0ThPlace".toList = false ∧
    ∃ base, block.HasBase ⟨{}, "Places", placesSchema.toJson⟩ base "0ThPlace" ∧
      Naming.startsWithDigit base.toList = true := by
  have hroot : Naming.isIdentifier "Places".toList = true := by decide
  have h : compile placesSchema "Places" {} = .ok ("export interface Places \x7b\n" ++
      "  first?: StPlace;\n  last?: 0ThPlace;\n\x7d\n\nexport interface StPlace \x7b\x7d\n\n" ++
      "export interface 0ThPlace \x7b\x7d\n") := by
    rfl
  have hnames : (blockOf placesSchema "Places" {}).map Block.names =
      .ok ["Places", "StPlace", "0ThPlace"] := by
    rfl
  obtain ⟨block, hb, -, hi⟩ := isIdentifier_iff_of_compile hroot h
  rw [hb] at hnames
  have hn := Except.ok.inj hnames
  rw [hn] at hi
  have hst := (hi "StPlace" (by decide)).2.2.1 (by decide)
  have hth : ¬ ∀ base, block.HasBase ⟨{}, "Places", placesSchema.toJson⟩ base "0ThPlace" →
      Naming.startsWithDigit base.toList = false :=
    fun hall => absurd ((hi "0ThPlace" (by decide)).2.2.2 hall) (by decide)
  push Not at hth
  obtain ⟨base, hbase, hdigit⟩ := hth
  exact ⟨block, hb, hn, hst, by decide, base, hbase, by simpa using hdigit⟩

end ProgramConnector.TypeScript
