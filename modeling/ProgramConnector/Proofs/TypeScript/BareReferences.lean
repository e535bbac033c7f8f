import Mathlib.Data.List.Perm.Subperm
import ProgramConnector.Proofs.Results
import ProgramConnector.Proofs.Schema.NullKeywords
import ProgramConnector.Proofs.TypeScript.TypeTree

/-!
# References that stand bare

A reference stands bare in a value when it is the whole type of the value, or that of one of its
alternatives or parts that hold together, however deep these are inside one another. So it is not
inside of a member, a list or a tuple. What stands bare in a value does not depend on the order of
members, and is the same for a value and for the schema that is read from it.
-/

namespace ProgramConnector.TypeScript

/-! ## The leading keyword of an object -/

/-- The keyword that decides the type of an object before its tags do, with its value. -/
def leadingOf? (members : List (String × Json)) : Option (String × Json) :=
  combiningKeywords.findSome? fun name =>
    (Members.find? name members).map fun value => (name, value)

/-- The leading keyword of a schema object is that of its keywords. -/
theorem leading?_eq (facts : SchemaFacts) : leading? facts = leadingOf? facts.keywords := rfl

/-- Objects that have the same combining keywords have the same leading one. -/
theorem leadingOf?_congr {as bs : List (String × Json)}
    (h : ∀ name ∉ partKeywords, Members.find? name as = Members.find? name bs) :
    leadingOf? as = leadingOf? bs := by
  have hapart : ∀ name ∈ combiningKeywords, name ∉ partKeywords := by decide
  unfold leadingOf?
  generalize combiningKeywords = names at hapart
  induction names with
  | nil => rfl
  | cons name rest ih =>
    obtain ⟨hname, hrest⟩ := List.forall_mem_cons.1 hapart
    rw [List.findSome?_cons, List.findSome?_cons, h name hname, ih hrest]

/-- Objects whose members are related have related leading keywords. -/
theorem rel_leadingOf? {R : Json → Json → Prop} {as bs : List (String × Json)}
    (h : ∀ name, Option.Rel R (Members.find? name as) (Members.find? name bs)) :
    Option.Rel (fun found found' => found.1 = found'.1 ∧ R found.2 found'.2) (leadingOf? as)
      (leadingOf? bs) := by
  unfold leadingOf?
  induction combiningKeywords with
  | nil => exact .none
  | cons name rest ih =>
    rw [List.findSome?_cons, List.findSome?_cons]
    have hname := h name
    generalize Members.find? name as = found at hname ⊢
    generalize Members.find? name bs = found' at hname ⊢
    cases hname with
    | none => exact ih
    | some hvalue => exact .some ⟨rfl, hvalue⟩

/-! ## What stands bare -/

/-- The reference that is the whole type of a value. -/
def bareReference? (value : Json) : Option String :=
  (leadingOf? value.members).bind fun found => if found.1 = "$ref" then found.2.text? else none

/-- The alternatives of a value, or its parts that hold together. -/
def bareAlternatives (value : Json) : List Json :=
  ((leadingOf? value.members).bind fun found =>
    if found.1 ∈ ["anyOf", "oneOf", "allOf"] then found.2.elements? else none).getD []

/-- A reference stands bare in a value. -/
inductive StandsBare : Json → String → Prop
  /-- It is the whole type. -/
  | whole {value : Json} {reference : String} (isWhole : bareReference? value = some reference) :
    StandsBare value reference
  /-- It stands bare in an alternative, or in a part. -/
  | alternative {value element : Json} {reference : String}
    (isAlternative : element ∈ bareAlternatives value) (bare : StandsBare element reference) :
    StandsBare value reference

/-- Fewer than so many alternatives are inside one another. -/
def IsShallow : Nat → Json → Prop
  | 0, _ => False
  | depth + 1, value => ∀ element ∈ bareAlternatives value, IsShallow depth element

section Bare

variable {value element : Json} {reference : String}

/-- The leading keyword is a member. -/
theorem mem_of_leadingOf? {members : List (String × Json)} {found : String × Json}
    (h : leadingOf? members = some found) : found ∈ members := by
  obtain ⟨name, -, hname⟩ := List.exists_of_findSome?_eq_some h
  obtain ⟨value, hvalue, rfl⟩ := Option.map_eq_some_iff.1 hname
  exact Members.mem_of_find? hvalue

/-- An alternative is an element of the value of a member. -/
theorem exists_member_of_bareAlternative (h : element ∈ bareAlternatives value) :
    ∃ members keyword elements, value = .obj members ∧ (keyword, .arr elements) ∈ members ∧
      element ∈ elements := by
  unfold bareAlternatives at h
  cases value with
  | obj members =>
    cases hleading : leadingOf? members with
    | none =>
      rw [Json.members, hleading] at h
      cases h
    | some found =>
      rw [Json.members, hleading, Option.bind_some] at h
      obtain ⟨keyword, inner⟩ := found
      split at h
      · cases inner with
        | arr elements => exact ⟨members, keyword, elements, rfl, mem_of_leadingOf? hleading, h⟩
        | _ => cases h
      · cases h
  | _ => cases h

/-- An alternative is a value inside, and smaller. -/
theorem bareAlternative_spec (h : element ∈ bareAlternatives value) :
    element ∈ value.values ∧ element.size < value.size := by
  obtain ⟨members, keyword, elements, rfl, hmember, helement⟩ := exists_member_of_bareAlternative h
  refine ⟨?_, Nat.lt_trans (Json.size_lt_of_element helement) (Json.size_lt_of_member hmember)⟩
  exact Json.values_subset _ (Json.mem_values_of_member hmember)
    (Json.mem_values_of_element helement)

/-- The size of a value bounds the depth of its alternatives. -/
theorem isShallow_of_size_le {depth : Nat} (h : value.size ≤ depth) : IsShallow depth value := by
  induction depth generalizing value with
  | zero => exact absurd value.size_pos (Nat.not_lt.2 h)
  | succ depth ih =>
    intro element helement
    exact ih (Nat.le_of_lt_succ (Nat.lt_of_lt_of_le (bareAlternative_spec helement).2 h))

end Bare

/-! ## The order of members -/

/-- Two values that repeat no key are the same. -/
structure Kin (a b : Json) : Prop where
  /-- The first one repeats no key. -/
  merged : a.IsMerged
  /-- The second one repeats no key. -/
  merged' : b.IsMerged
  /-- They are the same. -/
  same : a.same b = true

section Kin

variable {a b : Json} {as bs : List Json} {members others : List (String × Json)}

/-- Elements that are the same are so place by place. -/
theorem forall₂_of_sameElements (ha : ∀ a ∈ as, a.IsMerged) (hb : ∀ b ∈ bs, b.IsMerged)
    (h : Json.sameElements as bs = true) : List.Forall₂ Kin as bs := by
  induction as generalizing bs with
  | nil =>
    cases bs with
    | nil => exact .nil
    | cons b bs => simp [Json.sameElements] at h
  | cons a as ih =>
    cases bs with
    | nil => simp [Json.sameElements] at h
    | cons b bs =>
      rw [Json.sameElements, Bool.and_eq_true] at h
      obtain ⟨hfirst, hrest⟩ := List.forall_mem_cons.1 ha
      obtain ⟨hfirst', hrest'⟩ := List.forall_mem_cons.1 hb
      exact .cons ⟨hfirst, hfirst', h.1⟩ (ih hrest hrest' h.2)

/-- Members that are the same are found under their keys. -/
theorem exists_of_sameMembers (h : Json.sameMembers members others = true) {key : String}
    {value : Json} (hm : (key, value) ∈ members) :
    ∃ other, Members.find? key others = some other ∧ value.same other = true := by
  induction members with
  | nil => exact absurd hm List.not_mem_nil
  | cons member rest ih =>
    obtain ⟨name, first⟩ := member
    rw [Json.sameMembers, Bool.and_eq_true] at h
    obtain ⟨hfirst, hrest⟩ := h
    rcases List.mem_cons.1 hm with heq | hm
    · obtain ⟨rfl, rfl⟩ := Prod.mk.inj heq
      cases hother : Members.find? key others with
      | none =>
        rw [hother] at hfirst
        cases hfirst
      | some other =>
        rw [hother] at hfirst
        exact ⟨other, rfl, hfirst⟩
    · exact ih hrest hm

/-- Objects that are the same have the same keys. -/
theorem keys_perm_of_same (hm : (Members.keys members).Nodup)
    (hlength : members.length = others.length) (h : Json.sameMembers members others = true) :
    (Members.keys members).Perm (Members.keys others) := by
  have hsubset : Members.keys members ⊆ Members.keys others := by
    intro name hname
    obtain ⟨⟨_, value⟩, hmember, rfl⟩ := List.mem_map.1 hname
    obtain ⟨other, hother, -⟩ := exists_of_sameMembers h hmember
    exact Members.mem_keys_iff.2 (hother ▸ rfl)
  refine (List.subperm_of_subset hm hsubset).perm_of_length_le ?_
  rw [Members.keys, Members.keys, List.length_map, List.length_map]
  exact Nat.le_of_eq hlength.symm

/-- Objects that are the same have the same values under every key. -/
theorem Kin.rel_find? (h : Kin (.obj members) (.obj others)) (key : String) :
    Option.Rel Kin (Members.find? key members) (Members.find? key others) := by
  obtain ⟨hm, ho, hsame⟩ := h
  rw [Json.same, Bool.and_eq_true, beq_iff_eq] at hsame
  obtain ⟨hlength, hsame⟩ := hsame
  have hkeys := keys_perm_of_same (hm members (Json.mem_values_self _)) hlength hsame
  cases hfound : Members.find? key members with
  | none =>
    rw [Members.find?_eq_none_iff, hkeys.mem_iff, ← Members.find?_eq_none_iff] at hfound
    rw [hfound]
    exact .none
  | some value =>
    have hvalue := Members.mem_of_find? hfound
    obtain ⟨other, hother, hsame⟩ := exists_of_sameMembers hsame hvalue
    rw [hother]
    refine .some ⟨hm.of_mem_values (Json.mem_values_of_member hvalue), ?_, hsame⟩
    exact ho.of_mem_values (Json.mem_values_of_member (Members.mem_of_find? hother))

/-- What two values that are the same have in common: their members, their text and their
elements. -/
theorem Kin.spec (h : Kin a b) :
    (∀ key, Option.Rel Kin (Members.find? key a.members) (Members.find? key b.members)) ∧
      a.text? = b.text? ∧ Option.Rel (List.Forall₂ Kin) a.elements? b.elements? := by
  have hnone : ∀ key, Option.Rel Kin (Members.find? key ([] : List (String × Json)))
      (Members.find? key []) := fun _ => .none
  have hsame := h.same
  cases a with
  | obj members =>
    cases b with
    | obj others => exact ⟨h.rel_find?, rfl, .none⟩
    | _ => simp [Json.same] at hsame
  | arr as =>
    cases b with
    | arr bs =>
      rw [Json.same] at hsame
      refine ⟨hnone, rfl, .some (forall₂_of_sameElements (fun a ha => ?_) (fun b hb => ?_) hsame)⟩
      · exact h.merged.of_mem_values (Json.mem_values_of_element ha)
      · exact h.merged'.of_mem_values (Json.mem_values_of_element hb)
    | _ => simp [Json.same] at hsame
  | str text =>
    cases b with
    | str other =>
      rw [Json.same, beq_iff_eq] at hsame
      exact ⟨hnone, by rw [hsame], .none⟩
    | _ => simp [Json.same] at hsame
  | null =>
    cases b with
    | null => exact ⟨hnone, rfl, .none⟩
    | _ => simp [Json.same] at hsame
  | bool value =>
    cases b with
    | bool other => exact ⟨hnone, rfl, .none⟩
    | _ => simp [Json.same] at hsame
  | num value =>
    cases b with
    | num other => exact ⟨hnone, rfl, .none⟩
    | _ => simp [Json.same] at hsame

/-- Values that are the same have the same reference as their whole type. -/
theorem Kin.bareReference?_eq (h : Kin a b) : bareReference? a = bareReference? b := by
  have hleading := rel_leadingOf? h.spec.1
  unfold bareReference?
  generalize leadingOf? a.members = found at hleading ⊢
  generalize leadingOf? b.members = found' at hleading ⊢
  cases hleading with
  | none => rfl
  | some hboth => rw [Option.bind_some, Option.bind_some, hboth.1, hboth.2.spec.2.1]

/-- Values that are the same have the same alternatives, place by place. -/
theorem Kin.bareAlternatives (h : Kin a b) :
    List.Forall₂ Kin (bareAlternatives a) (bareAlternatives b) := by
  have hleading := rel_leadingOf? h.spec.1
  unfold TypeScript.bareAlternatives
  generalize leadingOf? a.members = found at hleading ⊢
  generalize leadingOf? b.members = found' at hleading ⊢
  cases hleading with
  | none => exact .nil
  | some hboth =>
    rw [Option.bind_some, Option.bind_some, hboth.1]
    split
    · exact Members.rel_getD hboth.2.spec.2.2 .nil
    · exact .nil

/-- What holds of some element holds of some element of a list that has it at the same places. -/
theorem exists_mem_iff_of_forall₂ {P : Json → Prop}
    (h : List.Forall₂ (fun a b => P a ↔ P b) as bs) : (∃ a ∈ as, P a) ↔ ∃ b ∈ bs, P b := by
  constructor
  · rintro ⟨a, ha, hPa⟩
    obtain ⟨b, hb, hiff⟩ := exists_right_of_forall₂ h ha
    exact ⟨b, hb, hiff.1 hPa⟩
  · rintro ⟨b, hb, hPb⟩
    obtain ⟨a, ha, hiff⟩ := exists_left_of_forall₂ h hb
    exact ⟨a, ha, hiff.2 hPb⟩

/-- The depth of alternatives does not depend on the order of members. -/
theorem Kin.isShallow_iff (h : Kin a b) (depth : Nat) :
    IsShallow depth a ↔ IsShallow depth b := by
  induction depth generalizing a b with
  | zero => exact Iff.rfl
  | succ depth ih =>
    have hdeep := exists_mem_iff_of_forall₂ (P := fun element => ¬ IsShallow depth element)
      (h.bareAlternatives.imp fun a b hab => not_congr (ih hab))
    have hnot := not_congr hdeep
    push Not at hnot
    exact hnot

/-- A reference stands bare when it is the whole type or stands bare in an alternative. -/
theorem standsBare_iff (value : Json) (reference : String) : StandsBare value reference ↔
    bareReference? value = some reference ∨
      ∃ element ∈ TypeScript.bareAlternatives value, StandsBare element reference := by
  constructor
  · intro h
    cases h with
    | whole isWhole => exact .inl isWhole
    | alternative isAlternative bare => exact .inr ⟨_, isAlternative, bare⟩
  · rintro (hwhole | ⟨element, helement, hbare⟩)
    · exact .whole hwhole
    · exact .alternative helement hbare

/-- What stands bare does not depend on the order of members. -/
theorem Kin.standsBare_iff (h : Kin a b) (reference : String) :
    StandsBare a reference ↔ StandsBare b reference := by
  induction hsize : a.size using Nat.strongRecOn generalizing a b with
  | ind size ih =>
    rw [TypeScript.standsBare_iff a, TypeScript.standsBare_iff b, h.bareReference?_eq]
    refine or_congr_right (exists_mem_iff_of_forall₂ ?_)
    have hsmaller : ∀ element ∈ TypeScript.bareAlternatives a, element.size < size :=
      fun element helement => hsize ▸ (bareAlternative_spec helement).2
    have hboth := (List.forall₂_and_left (p := (·.size < size)) _ _).2
      ⟨hsmaller, h.bareAlternatives⟩
    exact hboth.imp fun element element' hkin => ih element.size hkin.1 hkin.2 rfl

end Kin

/-! ## Schemas that are read -/

section Reading

variable {value : Json} {schema : Schema} {facts : SchemaFacts} {properties : Properties}
  {items : Items} {extra : Extra}

/-- The leading keyword of a schema object is that of its document. -/
theorem leadingOf?_toJson (h : facts.IsNormal) :
    leadingOf? (Schema.object facts properties items extra).toJson.members = leading? facts := by
  rw [Schema.toJson_object, leading?_eq]
  refine leadingOf?_congr fun name hname => ?_
  have hfind := find?_written ⟨facts, properties, items, extra⟩ h name
  rw [if_neg hname] at hfind
  exact hfind

/-- The leading keyword of a value without repeated keys is that of the schema that is read. -/
theorem leadingOf?_of_ofJson? (hread : Schema.ofJson? value = some schema)
    (hmerged : value.IsMerged) :
    leadingOf? value.members = leadingOf? schema.toJson.members := by
  cases value with
  | bool allowed =>
    cases hread
    rfl
  | obj members =>
    obtain ⟨-, parts, hparts, rfl⟩ := Schema.ofJson?_obj_eq_some.1 hread
    have hmembers : Json.mergedMembers members = members := by
      have heq := hmerged.merged_eq
      rw [Json.merged] at heq
      exact Json.obj.inj heq
    have hleading : leadingOf? parts.toSchema.toJson.members = leading? parts.facts :=
      leadingOf?_toJson (isReadFrom_of_partsOfJson? hparts).normal.1
    rw [hleading, leading?_eq]
    refine leadingOf?_congr fun name hname => ?_
    have hkeyword := keyword?_of_partsOfJson? hparts hname
    rw [hmembers] at hkeyword
    exact hkeyword.symm
  | _ => cases hread

end Reading

/-- The same references stand bare in two values, and their alternatives are equally deep. -/
structure BareAlike (a b : Json) : Prop where
  /-- The same references stand bare. -/
  bare : ∀ reference, StandsBare a reference ↔ StandsBare b reference
  /-- The alternatives are equally deep. -/
  shallow : ∀ depth, IsShallow depth a ↔ IsShallow depth b

/-- Values are alike either way. -/
theorem BareAlike.symm {a b : Json} (h : BareAlike a b) : BareAlike b a :=
  ⟨fun reference => (h.bare reference).symm, fun depth => (h.shallow depth).symm⟩

/-- Values that are the same are alike. -/
theorem Kin.bareAlike {a b : Json} (h : Kin a b) : BareAlike a b :=
  ⟨h.standsBare_iff, h.isShallow_iff⟩

/-- A schema and the value that it is read from are alike. -/
theorem bareAlike_of_ofJson? {value : Json} {schema : Schema}
    (hread : Schema.ofJson? value = some schema) (hmerged : value.IsMerged) :
    BareAlike schema.toJson value := by
  have hleading := leadingOf?_of_ofJson? hread hmerged
  refine ⟨fun reference => ?_, fun depth => ?_⟩
  · rw [standsBare_iff, standsBare_iff value]
    unfold bareReference? bareAlternatives
    rw [hleading]
  · cases depth with
    | zero => exact Iff.rfl
    | succ depth =>
      unfold IsShallow bareAlternatives
      rw [hleading]

end ProgramConnector.TypeScript
