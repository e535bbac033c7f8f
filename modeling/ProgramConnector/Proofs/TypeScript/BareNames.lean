import ProgramConnector.Proofs.TypeScript.BareReferences

/-!
# Names that stand bare

A name stands bare in a type when it is the whole type, or one of its alternatives or of its parts
that hold together, in parentheses or not. The type of a schema shows what stands bare in the
schema: a name that stands bare in the type is that of a reference that stands bare in the schema,
or that of a titled schema inside, and every reference that stands bare is met in this way.
-/

namespace ProgramConnector.TypeScript

/-- A name stands bare in a type. -/
inductive TypeTree.IsBare (name : String) : TypeTree → Prop
  /-- It is the whole type. -/
  | whole : IsBare name (.named name)
  /-- It stands bare in an alternative by tags. -/
  | tagged {parts : List TypeTree} {part : TypeTree} (isPart : part ∈ parts)
    (bare : part.IsBare name) : IsBare name (.tagged parts)
  /-- It stands bare in an alternative, or in a part. -/
  | combined {join : Join} {parts : List TypeTree} {part : TypeTree} (isPart : part ∈ parts)
    (bare : part.IsBare name) : IsBare name (.combined join parts)

/-- What stands bare in a value stands bare in another one around it, by so much deeper. -/
structure BareWithin (lag : Nat) (outer inner : Json) : Prop where
  /-- What stands bare inside stands bare outside. -/
  bare : ∀ reference, StandsBare inner reference → StandsBare outer reference
  /-- The alternatives are less deep inside. -/
  shallow : ∀ depth, IsShallow (depth + lag) outer → IsShallow depth inner

/-- A type shows what stands bare in a value. -/
structure ShowsBare (setting : Setting) (block : Block) (lag : Nat) (value : Json)
    (tree : TypeTree) : Prop where
  /-- A name that stands bare is that of a reference that does, or of a titled schema inside. -/
  name : ∀ name, tree.IsBare name →
    (∃ reference, StandsBare value reference ∧
      ReferenceTree setting block reference (.named name)) ∨
    ∃ other, (other, name) ∈ block.titled ∧ BareWithin lag value other.toJson
  /-- A reference that stands bare does so by its name, or in a titled schema inside whose name
  stands bare. -/
  reference : ∀ reference, StandsBare value reference → ∃ name, tree.IsBare name ∧
    (ReferenceTree setting block reference (.named name) ∨
      ∃ other, (other, name) ∈ block.titled ∧ BareWithin lag value other.toJson ∧
        StandsBare other.toJson reference)

section Within

variable {lag : Nat} {a b c : Json}

/-- What is fewer than some number of alternatives inside one another is fewer than more. -/
theorem IsShallow.mono {depth more : Nat} (h : IsShallow depth a) (hle : depth ≤ more) :
    IsShallow more a := by
  induction depth generalizing a more with
  | zero => exact h.elim
  | succ depth ih =>
    obtain ⟨more, rfl⟩ : ∃ k, more = k + 1 := ⟨more - 1, by omega⟩
    exact fun element helement => ih (h element helement) (Nat.le_of_succ_le_succ hle)

/-- Values that are alike are around one another. -/
theorem BareAlike.bareWithin (h : BareAlike a b) : BareWithin 0 a b :=
  ⟨fun reference => (h.bare reference).2, fun depth => (h.shallow depth).1⟩

/-- What is around a value is around what is inside of it. -/
theorem BareWithin.trans {lag' : Nat} (h : BareWithin lag a b) (h' : BareWithin lag' b c) :
    BareWithin (lag' + lag) a c := by
  refine ⟨fun reference hc => h.bare reference (h'.bare reference hc), fun depth ha => ?_⟩
  exact h'.shallow depth (h.shallow (depth + lag') (by rwa [Nat.add_assoc]))

/-- What is inside by so much deeper is inside by less. -/
theorem BareWithin.mono {more : Nat} (h : BareWithin more a b) (hle : lag ≤ more) :
    BareWithin lag a b :=
  ⟨h.bare, fun depth ha => h.shallow depth (ha.mono (Nat.add_le_add_left hle depth))⟩

/-- No value is deeper than itself. -/
theorem not_bareWithin_self (a : Json) : ¬ BareWithin 1 a a := by
  intro h
  have hdeep : ∀ depth, ¬ IsShallow depth a := by
    intro depth
    induction depth with
    | zero => exact id
    | succ depth ih => exact fun ha => ih (h.shallow depth ha)
  exact hdeep a.size (isShallow_of_size_le (Nat.le_refl _))

/-- An alternative is inside, and less deep. -/
theorem bareWithin_of_alternative (h : b ∈ bareAlternatives a) : BareWithin 1 a b :=
  ⟨fun _ hb => .alternative h hb, fun _ ha => ha b h⟩

end Within

namespace ShowsBare

variable {setting : Setting} {block : Block} {lag : Nat} {value other : Json} {tree : TypeTree}

/-- What is shown of a value is shown of a value that is alike. -/
theorem congr (h : ShowsBare setting block 0 value tree) (hlike : BareAlike value other) :
    ShowsBare setting block 0 other tree := by
  have hwithin : BareWithin 0 other value :=
    ⟨fun reference => (hlike.bare reference).1, fun depth => (hlike.shallow depth).2⟩
  refine ⟨fun name hname => ?_, fun reference hr => ?_⟩
  · rcases h.name name hname with ⟨reference, hbare, href⟩ | ⟨titled, hknown, hinside⟩
    · exact .inl ⟨reference, (hlike.bare reference).1 hbare, href⟩
    · exact .inr ⟨titled, hknown, hwithin.trans hinside⟩
  · obtain ⟨name, hname, href⟩ := h.reference reference ((hlike.bare reference).2 hr)
    refine ⟨name, hname, href.imp_right fun ⟨titled, hknown, hinside, hbare⟩ => ?_⟩
    exact ⟨titled, hknown, hwithin.trans hinside, hbare⟩

/-- What is inside and less deep is inside. -/
theorem zero (h : ShowsBare setting block 1 value tree) : ShowsBare setting block 0 value tree := by
  refine ⟨fun name hname => ?_, fun reference hr => ?_⟩
  · exact (h.name name hname).imp_right fun ⟨titled, hknown, hinside⟩ =>
      ⟨titled, hknown, hinside.mono (Nat.zero_le 1)⟩
  · obtain ⟨name, hname, href⟩ := h.reference reference hr
    exact ⟨name, hname, href.imp_right fun ⟨titled, hknown, hinside, hbare⟩ =>
      ⟨titled, hknown, hinside.mono (Nat.zero_le 1), hbare⟩⟩

/-- Where no name stands bare, no reference has to. -/
theorem solid (hvalue : ∀ reference, ¬ StandsBare value reference)
    (htree : ∀ name, ¬ tree.IsBare name) : ShowsBare setting block lag value tree :=
  ⟨fun name h => absurd h (htree name), fun reference h => absurd h (hvalue reference)⟩

/-- A reference that is the whole type is shown by its name. -/
theorem of_reference {reference : String} (hwhole : bareReference? value = some reference)
    (hnone : bareAlternatives value = []) (htree : ReferenceTree setting block reference tree) :
    ShowsBare setting block lag value tree := by
  obtain ⟨known, rfl⟩ : ∃ known, tree = .named known := by
    cases htree with
    | root => exact ⟨_, rfl⟩
    | target => exact ⟨_, rfl⟩
  refine ⟨fun name hname => ?_, fun other hother => ?_⟩
  · cases hname
    exact .inl ⟨reference, .whole hwhole, htree⟩
  · rw [standsBare_iff, hwhole, hnone] at hother
    obtain rfl := Option.some.inj (hother.resolve_right fun ⟨_, hm, _⟩ => List.not_mem_nil hm)
    exact ⟨known, .whole, .inl htree⟩

/-- Alternatives, or parts that hold together, show what stands bare in them. -/
theorem combined {join : Join} {parts : List TypeTree} (hwhole : bareReference? value = none)
    (htypes : List.Forall₂ (ShowsBare setting block 0) (bareAlternatives value) parts) :
    ShowsBare setting block 1 value (.combined join parts) := by
  refine ⟨fun name hname => ?_, fun reference hr => ?_⟩
  · cases hname with
    | combined isPart bare =>
      obtain ⟨element, helement, hshows⟩ := exists_left_of_forall₂ htypes isPart
      have hinside := bareWithin_of_alternative helement
      rcases hshows.name name bare with ⟨reference, hbare, href⟩ | ⟨titled, hknown, hdeeper⟩
      · exact .inl ⟨reference, hinside.bare reference hbare, href⟩
      · exact .inr ⟨titled, hknown, hinside.trans hdeeper⟩
  · rw [standsBare_iff, hwhole] at hr
    obtain ⟨element, helement, hbare⟩ := hr.resolve_left (by simp)
    obtain ⟨part, hpart, hshows⟩ := exists_right_of_forall₂ htypes helement
    have hinside := bareWithin_of_alternative helement
    obtain ⟨name, hname, href⟩ := hshows.reference reference hbare
    refine ⟨name, .combined hpart hname, href.imp_right fun ⟨titled, hknown, hdeeper, hb⟩ => ?_⟩
    exact ⟨titled, hknown, hinside.trans hdeeper, hb⟩

/-- A titled schema shows by its name what stands bare in it. -/
theorem titled {schema : Schema} {name : String} (hknown : (schema, name) ∈ block.titled)
    (hlike : BareAlike value schema.toJson) : ShowsBare setting block 0 value (.named name) := by
  refine ⟨fun other hother => ?_, fun reference hr => ?_⟩
  · cases hother
    exact .inr ⟨schema, hknown, hlike.bareWithin⟩
  · exact ⟨name, .whole, .inr ⟨schema, hknown, hlike.bareWithin, (hlike.bare reference).1 hr⟩⟩

end ShowsBare

/-! ## The types of schemas -/

section Leading

variable {value : Json} {reference keyword : String} {elements : List Json}

/-- Nothing stands bare in a value without a leading reference or combination. -/
theorem not_standsBare (h : ∀ name inner, leadingOf? value.members = some (name, inner) →
      name ∉ ["$ref", "anyOf", "oneOf", "allOf"]) (reference : String) :
    ¬ StandsBare value reference := by
  rw [standsBare_iff, bareReference?, bareAlternatives]
  cases hleading : leadingOf? value.members with
  | none => simp
  | some found =>
    have hfound := h found.1 found.2 hleading
    simp only [List.mem_cons, List.not_mem_nil, or_false, not_or] at hfound
    simp [hfound]

/-- A leading reference is the whole type. -/
theorem bare_of_leading_reference (h : leadingOf? value.members = some ("$ref", .str reference)) :
    bareReference? value = some reference ∧ bareAlternatives value = [] := by
  rw [bareReference?, bareAlternatives, h]
  exact ⟨rfl, rfl⟩

/-- A leading combination has its elements as alternatives. -/
theorem bare_of_leading_combination
    (h : leadingOf? value.members = some (keyword, .arr elements))
    (hkeyword : keyword ∈ ["anyOf", "oneOf", "allOf"]) :
    bareReference? value = none ∧ bareAlternatives value = elements := by
  rw [bareReference?, bareAlternatives, h, Option.bind_some, Option.bind_some, if_pos hkeyword]
  refine ⟨if_neg ?_, rfl⟩
  rintro rfl
  exact absurd hkeyword (by decide)

end Leading

section Types

variable {setting : Setting} {block : Block} {below : Schema → TypeTree → Prop}
  {facts : SchemaFacts} {properties : Properties} {items : Items} {extra : Extra}
  {tree : TypeTree} {schema : Schema}

/-- What a schema in normal form says is in normal form. -/
theorem isNormal_facts (h : (Schema.object facts properties items extra).IsNormal) :
    facts.IsNormal := by
  cases h with
  | intro own => exact own.1

/-- An interface has no leading keyword. -/
theorem leading?_eq_none_of_isInterfaceLike (h : isInterfaceLike facts properties = true) :
    leading? facts = none := by
  unfold isInterfaceLike at h
  split at h
  · cases h
  · rename_i hnone
    rw [leading?, List.findSome?_eq_none_iff]
    intro name hname
    rw [Option.map_eq_none_iff, ← Option.not_isSome_iff_eq_none]
    exact fun hsome => hnone (List.any_eq_true.2 ⟨name, hname, hsome⟩)

/-- No name stands bare in the alternative of a tag. -/
theorem TagTree.not_isBare {tag : String}
    (h : TagTree setting below facts properties items extra tag tree) (name : String) :
    ¬ tree.IsBare name := by
  intro hbare
  cases h with
  | object types => cases hbare
  | array type => cases type <;> cases hbare
  | scalar notObject notArray => cases hbare

/-- No name stands bare in the type of a schema that allows everything or nothing. -/
theorem not_isBare_boolTree (allowed : Bool) (name : String) :
    ¬ (boolTree allowed).IsBare name := by
  intro hbare
  cases allowed <;> cases hbare

/-- A combination shows what stands bare in a schema when its members do. -/
theorem showsBare_of_combination {keyword : String} {members : List Json} {parts : List TypeTree}
    {join : Join} (hbelow : ∀ schema tree, schema.IsNormal → below schema tree →
      ShowsBare setting block 0 schema.toJson tree)
    (hmerged : (Schema.object facts properties items extra).toJson.IsMerged)
    (hleading : leadingOf? (Schema.object facts properties items extra).toJson.members =
      some (keyword, .arr members))
    (hkeyword : keyword ∈ ["anyOf", "oneOf", "allOf"])
    (types : List.Forall₂ (CombinedTree below) members parts) :
    ShowsBare setting block 1 (Schema.object facts properties items extra).toJson
      (.combined join parts) := by
  obtain ⟨hwhole, halternatives⟩ := bare_of_leading_combination hleading hkeyword
  refine .combined hwhole ?_
  rw [halternatives]
  have hinside : ∀ element ∈ members, element.IsMerged := by
    intro element helement
    rw [← halternatives] at helement
    exact hmerged.of_mem_values (bareAlternative_spec helement).1
  refine ((List.forall₂_and_left (p := Json.IsMerged) _ _).2 ⟨hinside, types⟩).imp ?_
  rintro element part ⟨helement, known, hread, htree⟩
  exact (hbelow known part (Schema.isNormal_of_ofJson? hread) htree).congr
    (bareAlike_of_ofJson? hread helement)

/-- A schema object without regard to its title shows what stands bare in it when the schemas below
do. -/
theorem InlineTree.showsBare (h : InlineTree setting block below facts properties items extra tree)
    (hnormal : (Schema.object facts properties items extra).IsNormal)
    (hbelow : ∀ schema tree, schema.IsNormal → below schema tree →
      ShowsBare setting block 0 schema.toJson tree) :
    ShowsBare setting block 1 (Schema.object facts properties items extra).toJson tree := by
  have hmerged := hnormal.isMerged_toJson
  have hdocument : leadingOf? (Schema.object facts properties items extra).toJson.members =
      leading? facts := leadingOf?_toJson (isNormal_facts hnormal)
  cases h with
  | reference leading type =>
    rw [leading] at hdocument
    obtain ⟨hwhole, hnone⟩ := bare_of_leading_reference hdocument
    exact .of_reference hwhole hnone type
  | constant leading =>
    refine .solid (not_standsBare fun name inner hname => ?_) fun name hname => by cases hname
    rw [hdocument, leading] at hname
    rw [← (Prod.mk.inj (Option.some.inj hname)).1]
    decide
  | enumeration leading =>
    refine .solid (not_standsBare fun name inner hname => ?_) fun name hname => by cases hname
    rw [hdocument, leading] at hname
    rw [← (Prod.mk.inj (Option.some.inj hname)).1]
    decide
  | alternatives leading isUnion types =>
    rw [leading] at hdocument
    refine showsBare_of_combination hbelow hmerged hdocument ?_ types
    rcases isUnion with rfl | rfl <;> decide
  | together leading types =>
    rw [leading] at hdocument
    exact showsBare_of_combination hbelow hmerged hdocument (by decide) types
  | tagged leading types =>
    refine .solid (not_standsBare fun name inner hname => ?_) fun name hname => ?_
    · rw [hdocument, leading] at hname
      cases hname
    · cases hname with
      | tagged isPart bare =>
        obtain ⟨tag, -, htag⟩ := exists_left_of_forall₂ types isPart
        exact htag.not_isBare name bare

/-- Nothing stands bare in a schema that allows everything or nothing. -/
theorem not_standsBare_bool (allowed : Bool) (reference : String) :
    ¬ StandsBare (Schema.bool allowed).toJson reference := by
  refine not_standsBare (fun name inner hname => ?_) reference
  cases hname

/-- A schema shows what stands bare in it where its type is expected. -/
theorem HasTree.showsBare (htitled : ∀ entry ∈ block.titled, entry.1.IsNormal) {bound : Nat}
    (hnormal : schema.IsNormal) (h : HasTree setting block bound schema tree) :
    ShowsBare setting block 0 schema.toJson tree := by
  induction bound generalizing schema tree with
  | zero => exact h.elim
  | succ bound ih =>
    cases h with
    | bool allowed => exact .solid (not_standsBare_bool allowed) (not_isBare_boolTree allowed)
    | @titled _ other name isTitled known isSame =>
      have hother := htitled _ known
      have hsame : other.same schema = true := by
        rcases isSame with rfl | hsame
        · exact hother.same_self
        · exact hsame
      have hkin : Kin other.toJson schema.toJson :=
        ⟨hother.isMerged_toJson, hnormal.isMerged_toJson, hsame⟩
      exact .titled known hkin.bareAlike.symm
    | inline untitled type =>
      exact (type.showsBare hnormal fun _ _ hpart htree => ih hpart htree).zero

/-- A schema that is declared as another name shows what stands bare in it. -/
theorem HasBody.showsBare (htitled : ∀ entry ∈ block.titled, entry.1.IsNormal)
    (hnormal : schema.IsNormal) (h : HasBody setting block schema (.expression tree)) :
    ShowsBare setting block 1 schema.toJson tree := by
  obtain ⟨bound, hbody⟩ := h
  cases hbody with
  | bool allowed => exact .solid (not_standsBare_bool allowed) (not_isBare_boolTree allowed)
  | expression noInterface type =>
    exact type.showsBare hnormal fun _ _ hpart htree => HasTree.showsBare htitled hpart htree

/-- A schema in which a reference stands bare is declared as another name. -/
theorem HasBody.eq_expression {body : BodyTree} (hnormal : schema.IsNormal)
    (h : HasBody setting block schema body) {reference : String}
    (hbare : StandsBare schema.toJson reference) : ∃ tree, body = .expression tree := by
  obtain ⟨bound, hbody⟩ := h
  cases hbody with
  | bool allowed => exact ⟨_, rfl⟩
  | interface isInterface types =>
    refine absurd hbare (not_standsBare (fun name inner hname => ?_) reference)
    rw [leadingOf?_toJson (isNormal_facts hnormal),
      leading?_eq_none_of_isInterfaceLike isInterface] at hname
    cases hname
  | expression noInterface type => exact ⟨_, rfl⟩

end Types

end ProgramConnector.TypeScript
