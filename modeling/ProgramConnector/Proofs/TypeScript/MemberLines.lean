import ProgramConnector.Proofs.TypeScript.ClosedBlock
import ProgramConnector.Proofs.TypeScript.WholeTypes

/-!
# The member lines of an object

The text of the members of an object has one member for every property of its schema, in order, and
behind them an index signature if further properties are allowed. The members are read back from it:
the keys as the names of the properties, the marks as what is not required, and under a profile
whose types are whole also the comments and the types.
-/

namespace ProgramConnector.TypeScript

/-- A name is required by a schema when it is one of the texts of its list. -/
def Requires (facts : SchemaFacts) (name : String) : Prop :=
  ∃ elements, facts.keyword? "required" = some (.arr elements) ∧ Json.str name ∈ elements

/-- Further properties are allowed when a schema says so or has a schema for them, and when the
profile says so where the schema says nothing. -/
def AllowsFurther (profile : Profile) (extra : Extra) : Prop :=
  extra = .allowed true ∨ (∃ schema, extra = .typed schema) ∨
    (extra = .absent ∧ profile.additionalProperties = true)

/-- The member of a property: the comment is the description of an untitled schema, and the name is
that of the property, marked unless it is required. -/
def IsMemberOf (facts : SchemaFacts) (property : String × Schema) (member : MemberHead × String) :
    Prop :=
  ∃ isRequired, member.1 = .property (memberComment property.2) property.1 isRequired ∧
    (isRequired = true ↔ Requires facts property.1)

section Lines

variable {setting : Setting} {facts : SchemaFacts} {block block' : Block}

/-- Behind a step that succeeds comes the next one. -/
theorem run_bind_of_eq_ok {α β : Type} {step : Compile α} {next : α → Compile β} {value : α}
    (h : step.run block = .ok (value, block')) :
    (step >>= next).run block = (next value).run block' := by
  rw [StateT.run_bind, h]
  rfl

/-- The names that are kept of the list are its texts. -/
theorem contains_required_iff (facts : SchemaFacts) (name : String) :
    facts.required.contains name = true ↔ Requires facts name := by
  unfold SchemaFacts.required Requires
  cases facts.keyword? "required" with
  | none => simp
  | some value =>
    cases value with
    | arr elements =>
      simp only [Option.bind_some, Json.elements?, List.contains_iff_mem, List.mem_filterMap]
      constructor
      · rintro ⟨element, hmem, htext⟩
        cases element with
        | str text =>
          obtain rfl : text = name := Option.some.inj htext
          exact ⟨elements, rfl, hmem⟩
        | _ => exact nomatch htext
      · rintro ⟨others, heq, hmem⟩
        obtain rfl := Json.arr.inj (Option.some.inj heq)
        exact ⟨.str name, hmem, rfl⟩
    | _ => simp [Json.elements?]

/-- The lines of properties are those of their members, with the types that are compiled for
them. -/
theorem propertyLines_eq_ok {type : Schema → Compile String} {pad : String}
    {entries : List (String × Schema)} {lines : List String}
    (h : (entries.mapM fun property : String × Schema => do
      let type ← type property.2
      return propertyLine pad property.1 property.2 (facts.required.contains property.1) type).run
        block = .ok (lines, block')) :
    ∃ listed : List (MemberHead × String),
      (entries.mapM fun property => type property.2).run block =
        .ok (listed.map Prod.snd, block') ∧
      lines = listed.map (fun member => member.1.line pad member.2) ∧
      List.Forall₂ (IsMemberOf facts) entries listed := by
  induction entries generalizing block lines with
  | nil =>
    rw [List.mapM_nil] at h ⊢
    obtain ⟨rfl, rfl⟩ := Prod.mk.inj (Except.ok.inj h)
    exact ⟨[], rfl, rfl, .nil⟩
  | cons property entries ih =>
    rw [List.mapM_cons] at h
    obtain ⟨line, middle, hline, h⟩ := run_bind_eq_ok h
    obtain ⟨text, between, htext, hline⟩ := run_bind_eq_ok hline
    obtain ⟨rfl, rfl⟩ := Prod.mk.inj (Except.ok.inj hline)
    obtain ⟨rest, last, hrest, h⟩ := run_bind_eq_ok h
    obtain ⟨rfl, rfl⟩ := Prod.mk.inj (Except.ok.inj h)
    obtain ⟨listed, hlisted, rfl, hmembers⟩ := ih hrest
    refine ⟨(.property (memberComment property.2) property.1
      (facts.required.contains property.1), text) :: listed, ?_, ?_, ?_⟩
    · rw [List.mapM_cons, run_bind_of_eq_ok htext, run_bind_of_eq_ok hlisted]
      rfl
    · rw [List.map_cons, propertyLine_eq]
    · exact .cons ⟨_, rfl, contains_required_iff facts property.1⟩ hmembers

/-- The names that are read of the members of properties are the names of the properties, in
order. -/
theorem map_name_ofLine {entries : List (String × Schema)} {listed : List (MemberHead × String)}
    (h : List.Forall₂ (IsMemberOf facts) entries listed) :
    (listed.map ReadMember.ofLine).map ReadMember.name = entries.map fun property =>
      some property.1 := by
  induction h with
  | nil => rfl
  | @cons property member _ _ hmember _ ih =>
    obtain ⟨head, type⟩ := member
    obtain ⟨isRequired, rfl, -⟩ := hmember
    rw [List.map_cons, List.map_cons, List.map_cons, ih]
    rfl

/-- There is a type for further properties when they are allowed. -/
theorem isSome_extraType_iff {below : Below} {level : Nat} {extra : Extra} {type : Option String}
    (h : (extraType setting below level extra).run block = .ok (type, block')) :
    type.isSome = true ↔ AllowsFurther setting.profile extra := by
  unfold AllowsFurther
  cases extra with
  | typed schema =>
    obtain ⟨text, between, -, h⟩ := run_bind_eq_ok h
    obtain ⟨rfl, -⟩ := Prod.mk.inj (Except.ok.inj h)
    simp
  | allowed allowed =>
    cases allowed with
    | true =>
      obtain ⟨rfl, -⟩ := Prod.mk.inj (Except.ok.inj h)
      simp
    | false =>
      obtain ⟨rfl, -⟩ := Prod.mk.inj (Except.ok.inj h)
      simp
  | absent =>
    obtain ⟨rfl, -⟩ := Prod.mk.inj (Except.ok.inj h)
    cases setting.profile.additionalProperties <;> simp

/-- The types of a well named block are whole, and it stays well named. -/
theorem expressionAt_yields_whole (hr : setting.IsReadable) (bound : Nat) (schema : Schema)
    (level : Nat) : Yields setting (expressionAt setting bound schema level)
      (fun _ (type : String) => IsWhole type.toList) id := by
  intro b type b' hw h
  obtain ⟨hw', hx, tree, htree, rfl⟩ :=
    (follows_at setting bound).expression schema level b type b' hw h
  have hkept : NamesKept setting (fun name => IsWhole name.toList) b' b' :=
    ⟨hr.rootName, fun entry he => ⟨he, isWhole_of_isPlain (hw'.titled entry he).2⟩,
      fun entry he => ⟨he, isWhole_of_isPlain (hw'.references entry he).2⟩⟩
  have hnames := (HasTree.kept hkept bound schema tree htree).2
  exact ⟨hw', hx, _, TypeTree.isWhole_text hr tree level hnames, rfl⟩

/-- The type of further properties is whole. -/
theorem isWhole_of_extraType (hr : setting.IsReadable) (hw : block.WellNamed) {bound level : Nat}
    {extra : Extra} {type : Option String}
    (h : (extraType setting ⟨expressionAt setting bound, bodyAt setting bound⟩ level extra).run
      block = .ok (type, block')) : ∀ text ∈ type, IsWhole text.toList := by
  have hany : ∀ text ∈ some setting.profile.types.any, IsWhole text.toList := by
    rintro text htext
    rw [← Option.some.inj htext]
    exact hr.any
  cases extra with
  | typed schema =>
    obtain ⟨text, between, htext, h⟩ := run_bind_eq_ok h
    obtain ⟨rfl, -⟩ := Prod.mk.inj (Except.ok.inj h)
    obtain ⟨-, -, _, hwhole, rfl⟩ :=
      expressionAt_yields_whole hr bound schema level block text between hw htext
    rintro other hother
    rw [← Option.some.inj hother]
    exact hwhole
  | allowed allowed =>
    cases allowed with
    | true =>
      obtain ⟨rfl, -⟩ := Prod.mk.inj (Except.ok.inj h)
      exact hany
    | false =>
      obtain ⟨rfl, -⟩ := Prod.mk.inj (Except.ok.inj h)
      exact fun text htext => nomatch htext
  | absent =>
    obtain ⟨rfl, -⟩ := Prod.mk.inj (Except.ok.inj h)
    cases setting.profile.additionalProperties with
    | true => exact hany
    | false => exact fun text htext => nomatch htext

/-- The text of the members of an object is made up of one member for each property, in order, and
then of an index signature if further properties are allowed. Under a readable profile these members
are what is read. No two properties share a key, and none has that of the index signature. -/
theorem readsAs_of_memberLines {bound level : Nat} {properties : Properties} {extra : Extra}
    {text : String}
    (h : (memberLines setting ⟨expressionAt setting bound, bodyAt setting bound⟩ level facts
      properties extra).run block = .ok (text, block')) :
    (∃ listed further : List (MemberHead × String),
      ReadsAs (setting.profile.pad level) text.toList (listed ++ further) ∧
      List.Forall₂ (IsMemberOf facts) (Properties.entries properties) listed ∧
      (AllowsFurther setting.profile extra ∧ (∃ type, further = [(.further, type)]) ∨
        ¬AllowsFurther setting.profile extra ∧ further = []) ∧
      (∃ between, ((Properties.entries properties).mapM fun property =>
          expressionAt setting bound property.2 level).run block =
            .ok (listed.map Prod.snd, between) ∧
        (extraType setting ⟨expressionAt setting bound, bodyAt setting bound⟩ level extra).run
          between = .ok (further.head?.map Prod.snd, block')) ∧
      (setting.IsReadable → block.WellNamed →
        readMembers? text.toList = some ((listed ++ further).map ReadMember.ofLine))) ∧
    Function.Injective propertyKey ∧ ∀ name, (propertyKey name).toList ≠ signatureKey := by
  refine ⟨?_, propertyKey_injective, propertyKey_ne_signatureKey⟩
  obtain ⟨lines, between, hlines, h⟩ := run_bind_eq_ok h
  obtain ⟨type, last, htype, h⟩ := run_bind_eq_ok h
  obtain ⟨listed, hlisted, rfl, hmembers⟩ := @propertyLines_eq_ok facts block between
    (fun schema => expressionAt setting bound schema level) (setting.profile.pad level)
    (Properties.entries properties) lines hlines
  have hfurther := isSome_extraType_iff htype
  have htext : text = String.join ((listed ++ type.toList.map fun text =>
      (MemberHead.further, text)).map fun member =>
        member.1.line (setting.profile.pad level) member.2) := by
    obtain ⟨rfl, -⟩ := Prod.mk.inj (Except.ok.inj h)
    rw [List.map_append, String.join_append]
    cases type <;> simp [MemberHead.line]
  have hreads := readsAs_lines (setting.profile.pad level)
    (listed ++ type.toList.map fun text => (MemberHead.further, text))
  rw [← htext] at hreads
  refine ⟨listed, type.toList.map fun text => (MemberHead.further, text), hreads, hmembers, ?_,
    ⟨between, hlisted, ?_⟩, fun hr hw => ?_⟩
  · cases type with
    | none => exact .inr ⟨fun hallows => Bool.false_ne_true (hfurther.2 hallows), rfl⟩
    | some type => exact .inl ⟨hfurther.1 rfl, type, rfl⟩
  · obtain ⟨-, rfl⟩ := Prod.mk.inj (Except.ok.inj h)
    rw [htype]
    cases type <;> rfl
  · obtain ⟨hw', -, types, hwhole, heq⟩ := Yields.mapM
      (fun property : String × Schema => expressionAt_yields_whole hr bound property.2 level)
      (fun _ _ _ _ _ hwhole => hwhole) (Properties.entries properties) block _ between hw hlisted
    rw [List.map_id] at heq
    have htypes : ∀ member ∈ listed ++ type.toList.map fun text => (MemberHead.further, text),
        IsWhole member.2.toList := by
      intro member hmember
      rcases List.mem_append.1 hmember with hm | hm
      · have hmem : member.2 ∈ types := heq ▸ List.mem_map_of_mem hm
        obtain ⟨property, -, hproperty⟩ := exists_left_of_forall₂ hwhole hmem
        exact hproperty
      · obtain ⟨other, hother, rfl⟩ := List.mem_map.1 hm
        exact isWhole_of_extraType hr hw' htype other (Option.mem_toList.1 hother)
    exact hreads.readMembers?_eq (hr.pad level) htypes isBlankText_nil

end Lines

/-- The schema of a scalar, with a description. -/
def scalarSchema (tag : String) (description : Option String) : Schema :=
  .object ⟨some (.one tag), none, description.toList.map fun text => ("description", .str text)⟩
    .absent .absent .absent

/-- The properties of a schema: the empty name, one that looks like an index signature, and one of a
quote, a backslash and a line feed. -/
def quotedProperties : List (String × Schema) :=
  [("", scalarSchema "string" none), ("[k: string]", scalarSchema "number" none),
    ("\"\\\n", scalarSchema "boolean" (some "not */ yet"))]

/-- Quoted names are read back, beside the index signature. -/
theorem readsAs_of_memberLines_quoted : ∃ text members,
    (memberLines ⟨{}, "Row", .null⟩ ⟨expressionAt ⟨{}, "Row", .null⟩ 1, bodyAt ⟨{}, "Row", .null⟩ 1⟩
      1 ⟨none, none, [("required", .arr [.str "[k: string]", .null])]⟩ (.listed quotedProperties)
      (.allowed true)).run ⟨[], [], [], []⟩ = .ok (text, ⟨[], [], [], []⟩) ∧
    readMembers? text.toList = some members ∧
    members.map ReadMember.name = [some "", some "[k: string]", some "\"\\\n", none] := by
  have hrun : (memberLines ⟨{}, "Row", .null⟩
      ⟨expressionAt ⟨{}, "Row", .null⟩ 1, bodyAt ⟨{}, "Row", .null⟩ 1⟩
      1 ⟨none, none, [("required", .arr [.str "[k: string]", .null])]⟩ (.listed quotedProperties)
      (.allowed true)).run ⟨[], [], [], []⟩ = .ok (_, ⟨[], [], [], []⟩) := rfl
  obtain ⟨⟨listed, further, -, hlisted, hfurther, -, hread⟩, -⟩ := readsAs_of_memberLines hrun
  have hindent : IsBlankText "  ".toList := isBlankText_of_all (by decide)
  have hroot : Naming.IsPlain "Row".toList := List.all_eq_true.1 (by decide)
  refine ⟨_, _, hrun, hread (Setting.isReadable_of_default rfl hindent hroot)
    Block.wellNamed_empty, ?_⟩
  obtain ⟨-, type, rfl⟩ | ⟨hforbidden, -⟩ := hfurther
  · rw [List.map_append, List.map_append, map_name_ofLine hlisted]
    rfl
  · exact absurd (.inl rfl) hforbidden

end ProgramConnector.TypeScript
