import Mathlib.Data.List.Nodup
import ProgramConnector.Json.Pointer

/-!
# Values inside of documents

All values of a document, itself included, with what passes from a document to the values inside of
it: they are no larger, they are met by pointers, what they have under a key the document has under
it too, and where no object of the document repeats a key none of theirs does.
-/

namespace ProgramConnector

namespace Members

variable {α β : Type}

/-- What is found among members is one of them. -/
theorem mem_of_find? {key : String} {value : α} {members : List (String × α)}
    (h : find? key members = some value) : (key, value) ∈ members := by
  induction members with
  | nil => exact nomatch h
  | cons member rest ih =>
    obtain ⟨name, first⟩ := member
    rw [find?] at h
    split at h
    · rename_i hname
      rw [beq_iff_eq.1 hname, Option.some.inj h]
      exact List.mem_cons_self
    · exact List.mem_cons_of_mem _ (ih h)

/-- Nothing is found under a key that no member has. -/
theorem find?_eq_none_iff {key : String} {members : List (String × α)} :
    find? key members = none ↔ key ∉ keys members := by
  induction members with
  | nil => simp [find?, keys]
  | cons member rest ih =>
    obtain ⟨name, value⟩ := member
    by_cases h : name = key
    · simp [find?, keys, h]
    · have hkey : key ≠ name := fun he => h he.symm
      simpa [find?, keys, h, hkey] using ih

/-- Where no key is repeated, every member is found under its key. -/
theorem find?_eq_some_of_mem {key : String} {value : α} {members : List (String × α)}
    (hn : (keys members).Nodup) (h : (key, value) ∈ members) : find? key members = some value := by
  induction members with
  | nil => exact absurd h List.not_mem_nil
  | cons member rest ih =>
    obtain ⟨name, first⟩ := member
    rw [keys, List.map_cons, List.nodup_cons] at hn
    rcases List.mem_cons.1 h with he | hm
    · obtain ⟨rfl, rfl⟩ := Prod.mk.inj he
      simp [find?]
    · have hne : name ≠ key := by
        intro he
        exact hn.1 (List.mem_map.2 ⟨(key, value), hm, he.symm⟩)
      simp [find?, hne, ih hn.2 hm]

/-- A member that no other one shares its key with is put in front of the others. -/
theorem insertFirst_of_not_mem {key : String} {members : List (String × α)}
    (h : key ∉ keys members) (value : α) :
    insertFirst key value members = (key, value) :: members := by
  have hw : without key members = members := by
    refine List.filter_eq_self.2 fun member hm => ?_
    have hne : member.1 ≠ key := fun he => h (he ▸ List.mem_map_of_mem hm)
    simpa using hne
  rw [insertFirst, hw, find?_eq_none_iff.2 h]
  rfl

/-- What is found after a member was put in front of others. -/
theorem find?_insertFirst (key other : String) (value : α) (members : List (String × α)) :
    find? other (insertFirst key value members) =
      if key = other then some ((find? other members).getD value) else find? other members := by
  by_cases h : key = other
  · simp [insertFirst, find?, h]
  · simp [insertFirst, find?, h, find?_without_of_ne fun he => h he.symm]

/-- A member put in front of others repeats no key. -/
theorem nodup_keys_insertFirst {members : List (String × α)} (h : (keys members).Nodup)
    (key : String) (value : α) : (keys (insertFirst key value members)).Nodup := by
  have hs : (keys (without key members)).Sublist (keys members) :=
    List.filter_sublist.map Prod.fst
  have hn : key ∉ keys (without key members) := by simp [keys, without]
  exact List.nodup_cons.2 ⟨hn, h.sublist hs⟩

/-- What is among members after one was put in front of them. -/
theorem mem_insertFirst {key : String} {value : α} {members : List (String × α)}
    {member : String × α} (h : member ∈ insertFirst key value members) :
    member = (key, value) ∨ member ∈ members := by
  rcases List.mem_cons.1 h with rfl | hm
  · cases hf : find? key members with
    | none => exact .inl rfl
    | some found => exact .inr (mem_of_find? hf)
  · exact .inr (List.mem_of_mem_filter hm)

end Members

namespace Json

/-! ## Induction -/

/-- What containers have when everything in them has it, all documents have. -/
theorem containerInduction {P : Json → Prop} (null : P .null) (bool : ∀ value, P (.bool value))
    (num : ∀ value, P (.num value)) (str : ∀ value, P (.str value))
    (arr : ∀ elements, (∀ element ∈ elements, P element) → P (.arr elements))
    (obj : ∀ members, (∀ member ∈ members, P member.2) → P (.obj members)) (value : Json) :
    P value :=
  @Json.rec P (fun elements => ∀ element ∈ elements, P element)
    (fun members => ∀ member ∈ members, P member.2) (fun member => P member.2)
    null bool num str arr obj
    (fun _ h => absurd h List.not_mem_nil) (fun _ _ hf hr => List.forall_mem_cons.2 ⟨hf, hr⟩)
    (fun _ h => absurd h List.not_mem_nil) (fun _ _ hf hr => List.forall_mem_cons.2 ⟨hf, hr⟩)
    (fun _ _ h => h) value

/-! ## The values of a document -/

mutual

/-- The values of a document, each before those inside of it. -/
def values : Json → List Json
  | .arr elements => .arr elements :: elementValues elements
  | .obj members => .obj members :: memberValues members
  | .null => [.null]
  | .bool value => [.bool value]
  | .num value => [.num value]
  | .str value => [.str value]

/-- The values of the elements of an array. -/
def elementValues : List Json → List Json
  | [] => []
  | value :: rest => values value ++ elementValues rest

/-- The values of the members of an object. -/
def memberValues : List (String × Json) → List Json
  | [] => []
  | (_, value) :: rest => values value ++ memberValues rest

end

/-- Whether a value is an object. -/
def isObject : Json → Bool
  | .obj _ => true
  | _ => false

/-- The objects of a document. -/
def objects (document : Json) : List Json := document.values.filter isObject

/-- The texts under a key of a document, at any depth. -/
def textsUnder (key : String) (document : Json) : List String :=
  (document.valuesUnder key).filterMap text?

section Values

variable {value inner : Json} {elements : List Json} {members : List (String × Json)}

/-- A value of the elements is one of some element. -/
theorem mem_elementValues : inner ∈ elementValues elements ↔
    ∃ element ∈ elements, inner ∈ element.values := by
  induction elements with
  | nil => simp [elementValues]
  | cons first rest ih => simp [elementValues, ih]

/-- A value of the members is one of some member. -/
theorem mem_memberValues : inner ∈ memberValues members ↔
    ∃ member ∈ members, inner ∈ member.2.values := by
  induction members with
  | nil => simp [memberValues]
  | cons first rest ih => simp [memberValues, ih]

/-- A document is one of its values. -/
theorem mem_values_self (value : Json) : value ∈ value.values := by
  cases value <;> simp [values]

/-- An element is a value of its array. -/
theorem mem_values_of_element (h : inner ∈ elements) : inner ∈ (Json.arr elements).values :=
  List.mem_cons_of_mem _ (mem_elementValues.2 ⟨inner, h, mem_values_self inner⟩)

/-- The value of a member is a value of its object. -/
theorem mem_values_of_member {key : String} (h : (key, inner) ∈ members) :
    inner ∈ (Json.obj members).values :=
  List.mem_cons_of_mem _ (mem_memberValues.2 ⟨_, h, mem_values_self inner⟩)

/-- The values of a value are values of the document. -/
theorem values_subset {value : Json} : ∀ inner ∈ value.values, inner.values ⊆ value.values := by
  induction value using containerInduction with
  | arr elements ih =>
    intro inner h
    rcases List.mem_cons.1 h with rfl | h
    · exact List.Subset.refl _
    · obtain ⟨element, he, hi⟩ := mem_elementValues.1 h
      exact fun other ho => List.mem_cons_of_mem _
        (mem_elementValues.2 ⟨element, he, ih element he inner hi ho⟩)
  | obj members ih =>
    intro inner h
    rcases List.mem_cons.1 h with rfl | h
    · exact List.Subset.refl _
    · obtain ⟨member, hm, hi⟩ := mem_memberValues.1 h
      exact fun other ho => List.mem_cons_of_mem _
        (mem_memberValues.2 ⟨member, hm, ih member hm inner hi ho⟩)
  | _ => simp [values]

/-! ## Sizes -/

/-- No document is empty. -/
theorem size_pos (value : Json) : 0 < value.size := by
  cases value <;> rw [size] <;> omega

/-- An element is no larger than all elements. -/
theorem size_le_sizeElements (h : inner ∈ elements) : inner.size ≤ sizeElements elements := by
  induction elements with
  | nil => exact absurd h List.not_mem_nil
  | cons first rest ih =>
    rw [sizeElements]
    rcases List.mem_cons.1 h with rfl | h
    · omega
    · have := ih h
      omega

/-- The value of a member is no larger than all members. -/
theorem size_le_sizeMembers {key : String} (h : (key, inner) ∈ members) :
    inner.size ≤ sizeMembers members := by
  induction members with
  | nil => exact absurd h List.not_mem_nil
  | cons first rest ih =>
    obtain ⟨name, value⟩ := first
    rw [sizeMembers]
    rcases List.mem_cons.1 h with he | h
    · obtain ⟨rfl, rfl⟩ := Prod.mk.inj he
      omega
    · have := ih h
      omega

/-- An element is smaller than its array. -/
theorem size_lt_of_element (h : inner ∈ elements) : inner.size < (Json.arr elements).size := by
  have := size_le_sizeElements h
  rw [size]
  omega

/-- The value of a member is smaller than its object. -/
theorem size_lt_of_member {key : String} (h : (key, inner) ∈ members) :
    inner.size < (Json.obj members).size := by
  have := size_le_sizeMembers h
  rw [size]
  omega

/-- No value of a document is larger than the document. -/
theorem size_le_of_mem_values {value : Json} : ∀ inner ∈ value.values, inner.size ≤ value.size := by
  induction value using containerInduction with
  | arr elements ih =>
    intro inner h
    rcases List.mem_cons.1 h with rfl | h
    · exact Nat.le_refl _
    · obtain ⟨element, he, hi⟩ := mem_elementValues.1 h
      exact Nat.le_trans (ih element he inner hi) (Nat.le_of_lt (size_lt_of_element he))
  | obj members ih =>
    intro inner h
    rcases List.mem_cons.1 h with rfl | h
    · exact Nat.le_refl _
    · obtain ⟨⟨key, value⟩, hm, hi⟩ := mem_memberValues.1 h
      exact Nat.le_trans (ih _ hm inner hi) (Nat.le_of_lt (size_lt_of_member hm))
  | _ => simp [values]

/-! ## Values under a key -/

/-- What an element has under a key, the elements have under it. -/
theorem mem_elementsUnder {key : String} {found : Json} (h : inner ∈ elements)
    (hf : found ∈ inner.valuesUnder key) : found ∈ elementsUnder key elements := by
  induction elements with
  | nil => exact absurd h List.not_mem_nil
  | cons first rest ih =>
    rw [elementsUnder]
    rcases List.mem_cons.1 h with rfl | h
    · exact List.mem_append_left _ hf
    · exact List.mem_append_right _ (ih h)

/-- What the value of a member has under a key, the members have under it. -/
theorem mem_membersUnder {key name : String} {found : Json} (h : (name, inner) ∈ members)
    (hf : found ∈ inner.valuesUnder key) : found ∈ membersUnder key members := by
  induction members with
  | nil => exact absurd h List.not_mem_nil
  | cons first rest ih =>
    obtain ⟨other, value⟩ := first
    rw [membersUnder]
    rcases List.mem_cons.1 h with he | h
    · obtain ⟨rfl, rfl⟩ := Prod.mk.inj he
      exact List.mem_append_left _ (List.mem_append_right _ hf)
    · exact List.mem_append_right _ (ih h)

/-- The value of a member is under its key. -/
theorem mem_membersUnder_self {key : String} (h : (key, inner) ∈ members) :
    inner ∈ membersUnder key members := by
  induction members with
  | nil => exact absurd h List.not_mem_nil
  | cons first rest ih =>
    obtain ⟨name, value⟩ := first
    rw [membersUnder]
    rcases List.mem_cons.1 h with he | h
    · obtain ⟨rfl, rfl⟩ := Prod.mk.inj he
      simp
    · exact List.mem_append_right _ (ih h)

/-- What a value of a document has under a key, the document has under it. -/
theorem valuesUnder_subset {key : String} {value : Json} :
    ∀ inner ∈ value.values, inner.valuesUnder key ⊆ value.valuesUnder key := by
  induction value using containerInduction with
  | arr elements ih =>
    intro inner h
    rcases List.mem_cons.1 h with rfl | h
    · exact List.Subset.refl _
    · obtain ⟨element, he, hi⟩ := mem_elementValues.1 h
      rw [valuesUnder]
      exact fun found hf => mem_elementsUnder he (ih element he inner hi hf)
  | obj members ih =>
    intro inner h
    rcases List.mem_cons.1 h with rfl | h
    · exact List.Subset.refl _
    · obtain ⟨⟨name, value⟩, hm, hi⟩ := mem_memberValues.1 h
      rw [valuesUnder]
      exact fun found hf => mem_membersUnder hm (ih _ hm inner hi hf)
  | _ => simp [values]

/-- A text under a key of an object of a document is one of the texts under it. -/
theorem mem_textsUnder {key text : String} {document : Json}
    (h : Json.obj members ∈ document.values) (hm : (key, Json.str text) ∈ members) :
    text ∈ document.textsUnder key := by
  refine List.mem_filterMap.2 ⟨.str text, valuesUnder_subset _ h ?_, rfl⟩
  rw [valuesUnder]
  exact mem_membersUnder_self hm

/-! ## Pointers -/

/-- One step leads to a value inside. -/
theorem mem_values_of_step? {step : List Char} (h : step? value step = some inner) :
    inner ∈ value.values := by
  cases value with
  | obj members => exact mem_values_of_member (Members.mem_of_find? h)
  | arr elements =>
    obtain ⟨place, -, hp⟩ := Option.bind_eq_some_iff.1 h
    exact mem_values_of_element (List.mem_of_getElem? hp)
  | _ => exact nomatch h

/-- Steps lead to a value inside. -/
theorem mem_values_of_steps {steps : List (List Char)}
    (h : steps.foldlM step? value = some inner) : inner ∈ value.values := by
  induction steps generalizing value with
  | nil =>
    cases h
    exact mem_values_self _
  | cons step rest ih =>
    rw [List.foldlM_cons] at h
    obtain ⟨next, hn, h⟩ := Option.bind_eq_some_iff.1 h
    exact values_subset next (mem_values_of_step? hn) (ih h)

/-- A pointer leads to a value inside. -/
theorem mem_values_of_follow? {pointer : List Char} (h : value.follow? pointer = some inner) :
    inner ∈ value.values := by
  obtain ⟨steps, -, h⟩ := Option.bind_eq_some_iff.1 h
  exact mem_values_of_steps h

/-! ## Documents without repeated keys -/

/-- No object of a document repeats a key. -/
def IsMerged (document : Json) : Prop :=
  ∀ members, Json.obj members ∈ document.values → (Members.keys members).Nodup

/-- The values of a document without repeated keys repeat none. -/
theorem IsMerged.of_mem_values (h : value.IsMerged) (hi : inner ∈ value.values) :
    inner.IsMerged :=
  fun members hm => h members (values_subset inner hi hm)

/-- A value without objects repeats no key. -/
theorem isMerged_of_values_eq (h : value.values = [value]) (hn : ∀ members, value ≠ .obj members) :
    value.IsMerged := by
  intro members hm
  rw [h] at hm
  exact absurd (List.mem_singleton.1 hm).symm (hn members)

/-- An array repeats no key when no element does. -/
theorem isMerged_arr (h : ∀ element ∈ elements, element.IsMerged) :
    (Json.arr elements).IsMerged := by
  intro members hm
  rcases List.mem_cons.1 hm with he | hm
  · exact nomatch he
  · obtain ⟨element, he, hi⟩ := mem_elementValues.1 hm
    exact h element he members hi

/-- An object repeats no key when its members have different ones and none repeats a key inside. -/
theorem isMerged_obj (hn : (Members.keys members).Nodup)
    (h : ∀ member ∈ members, member.2.IsMerged) : (Json.obj members).IsMerged := by
  intro inner hm
  rcases List.mem_cons.1 hm with he | hm
  · cases he
    exact hn
  · obtain ⟨member, hmem, hi⟩ := mem_memberValues.1 hm
    exact h member hmem inner hi

/-- Merged members have different keys, and each is a merged member. -/
theorem mergedMembers_spec (members : List (String × Json)) :
    (Members.keys (mergedMembers members)).Nodup ∧
      ∀ member ∈ mergedMembers members, ∃ value, (member.1, value) ∈ members ∧
        member.2 = value.merged := by
  induction members with
  | nil => exact ⟨List.nodup_nil, fun member h => absurd h List.not_mem_nil⟩
  | cons first rest ih =>
    obtain ⟨key, value⟩ := first
    rw [mergedMembers]
    refine ⟨Members.nodup_keys_insertFirst ih.1 _ _, fun member h => ?_⟩
    rcases Members.mem_insertFirst h with rfl | h
    · exact ⟨value, List.mem_cons_self, rfl⟩
    · obtain ⟨value, hv, he⟩ := ih.2 member h
      exact ⟨value, List.mem_cons_of_mem _ hv, he⟩

/-- Merged elements are the elements, each merged. -/
theorem mergedElements_eq_map (elements : List Json) :
    mergedElements elements = elements.map merged := by
  induction elements with
  | nil => rfl
  | cons first rest ih => rw [mergedElements, ih, List.map_cons]

/-- A merged document repeats no key. -/
theorem isMerged_merged (value : Json) : value.merged.IsMerged := by
  induction value using containerInduction with
  | arr elements ih =>
    rw [merged, mergedElements_eq_map]
    refine isMerged_arr fun element he => ?_
    obtain ⟨original, ho, rfl⟩ := List.mem_map.1 he
    exact ih original ho
  | obj members ih =>
    rw [merged]
    obtain ⟨hn, hm⟩ := mergedMembers_spec members
    refine isMerged_obj hn fun member h => ?_
    obtain ⟨original, ho, he⟩ := hm member h
    rw [he]
    exact ih _ ho
  | _ => exact isMerged_of_values_eq rfl (by simp [merged])

/-- A document without repeated keys is its own merged document. -/
theorem IsMerged.merged_eq {value : Json} (h : value.IsMerged) : value.merged = value := by
  induction value using containerInduction with
  | arr elements ih =>
    rw [merged, mergedElements_eq_map]
    congr 1
    refine (List.map_congr_left fun element he => ?_).trans (List.map_id elements)
    exact ih element he (h.of_mem_values (mem_values_of_element he))
  | obj members ih =>
    rw [merged]
    congr 1
    have hn := h members (mem_values_self _)
    have hinner : ∀ member ∈ members, member.2.merged = member.2 := fun member hm =>
      ih member hm (h.of_mem_values (mem_values_of_member hm))
    clear h ih
    induction members with
    | nil => rfl
    | cons first rest ih =>
      obtain ⟨key, value⟩ := first
      rw [Members.keys, List.map_cons, List.nodup_cons] at hn
      rw [mergedMembers, ih hn.2 fun member hm => hinner member (List.mem_cons_of_mem _ hm),
        Members.insertFirst_of_not_mem hn.1, hinner _ List.mem_cons_self]
  | _ => rfl

/-! ## Equality -/

/-- A number is the same as itself. -/
theorem same_self_number (number : Number) : number.same number = true := by
  cases number <;> simp [Number.same, Binary64.same]

/-- A document without repeated keys is the same as itself. -/
theorem IsMerged.same_self {value : Json} (h : value.IsMerged) : value.same value = true := by
  induction value using containerInduction with
  | num number => exact same_self_number number
  | arr elements ih =>
    have hinner : ∀ element ∈ elements, element.same element = true := fun element he =>
      ih element he (h.of_mem_values (mem_values_of_element he))
    clear h ih
    rw [same]
    induction elements with
    | nil => rfl
    | cons first rest ih =>
      rw [sameElements, hinner first List.mem_cons_self,
        ih fun element he => hinner element (List.mem_cons_of_mem _ he)]
      rfl
  | obj members ih =>
    have hinner : ∀ member ∈ members, member.2.same member.2 = true := fun member hm =>
      ih member hm (h.of_mem_values (mem_values_of_member hm))
    -- Every member is looked up among all of them, so the list that is gone through has to be told
    -- apart from the list that is searched.
    have hsub : ∀ part ⊆ members, sameMembers part members = true := by
      intro part hpart
      induction part with
      | nil => rfl
      | cons first rest ihpart =>
        obtain ⟨key, value⟩ := first
        have hm := hpart List.mem_cons_self
        rw [sameMembers, Members.find?_eq_some_of_mem (h members (mem_values_self _)) hm,
          ihpart fun member hr => hpart (List.mem_cons_of_mem _ hr)]
        simpa using hinner _ hm
    rw [same, hsub members (List.Subset.refl _)]
    simp
  | _ => simp [same]

end Values

end Json

end ProgramConnector
