import ProgramConnector.Proofs.Json.Values

/-!
# Objects that repeat keys

An object may be written with a key more than once. The last value under the key is the one that
counts, and it is what is found in the merged object; taking all members under a key away may come
before or after the merging.
-/

namespace ProgramConnector

namespace Members

variable {α : Type} {key name : String} {value : α} {members front behind : List (String × α)}

/-- The last value under a key. -/
def last? (key : String) (members : List (String × α)) : Option α := find? key members.reverse

/-- What is found among members in two parts. -/
theorem find?_append : find? key (front ++ behind) = (find? key front).or (find? key behind) := by
  induction front with
  | nil => rfl
  | cons member front ih =>
    obtain ⟨name, value⟩ := member
    rw [List.cons_append, find?, find?]
    split
    · rfl
    · exact ih

/-- The last value under a key is that of a later member, or else that of the first one. -/
theorem last?_cons :
    last? key ((name, value) :: members) =
      (last? key members).or (if name = key then some value else none) := by
  rw [last?, List.reverse_cons, find?_append, last?, find?, find?]
  simp only [beq_iff_eq]

/-- There is no last value under a key that no member has. -/
theorem last?_eq_none_iff : last? key members = none ↔ key ∉ keys members := by
  rw [last?, find?_eq_none_iff, keys, keys, List.map_reverse, List.mem_reverse]

/-- The members under other keys than those of a member put before them. -/
theorem without_insertFirst_self :
    without key (insertFirst key value members) = without key members := by
  simp [insertFirst, without]

/-- Members under a key may be taken away before or after a member under another key is put before
the others. -/
theorem without_insertFirst_of_ne (h : name ≠ key) :
    without key (insertFirst name value members) =
      insertFirst name value (without key members) := by
  have hkept : without key ((name, (find? name members).getD value) :: without name members) =
      (name, (find? name members).getD value) :: without key (without name members) :=
    List.filter_cons_of_pos (by simpa using h)
  have hcomm : without key (without name members) = without name (without key members) := by
    unfold without
    rw [List.filter_filter, List.filter_filter]
    simp only [Bool.and_comm]
  rw [insertFirst, hkept, hcomm, insertFirst, find?_without_of_ne h]

end Members

namespace Json

variable {key : String} {members : List (String × Json)}

/-- What is found among merged members is the last value under the key, merged. -/
theorem find?_mergedMembers_eq_last? :
    Members.find? key (mergedMembers members) = (Members.last? key members).map merged := by
  induction members with
  | nil => rfl
  | cons member rest ih =>
    obtain ⟨name, value⟩ := member
    rw [mergedMembers, Members.find?_insertFirst, ih, Members.last?_cons]
    by_cases hname : name = key
    · rw [if_pos hname, if_pos hname]
      cases Members.last? key rest <;> rfl
    · rw [if_neg hname, if_neg hname, Option.or_none]

/-- What holds of all merged members holds of the last values under all keys, merged. -/
theorem forall_mem_mergedMembers {P : String → Json → Prop} :
    (∀ member ∈ mergedMembers members, P member.1 member.2) ↔
      ∀ key, ∀ value ∈ Members.last? key members, P key value.merged := by
  constructor
  · intro h key value hvalue
    have hfind : Members.find? key (mergedMembers members) = some value.merged := by
      rw [find?_mergedMembers_eq_last?, hvalue, Option.map_some]
    exact h _ (Members.mem_of_find? hfind)
  · rintro h ⟨key, value⟩ hmember
    have hfind := Members.find?_eq_some_of_mem (mergedMembers_spec members).1 hmember
    rw [find?_mergedMembers_eq_last?, Option.map_eq_some_iff] at hfind
    obtain ⟨raw, hraw, rfl⟩ := hfind
    exact h key raw hraw

/-- Merging keeps the keys. -/
theorem mem_keys_mergedMembers :
    key ∈ Members.keys (mergedMembers members) ↔ key ∈ Members.keys members := by
  rw [← not_iff_not, ← Members.find?_eq_none_iff, find?_mergedMembers_eq_last?,
    Option.map_eq_none_iff, Members.last?_eq_none_iff]

/-- Members under a key may be taken away before or after the merging. -/
theorem without_mergedMembers :
    Members.without key (mergedMembers members) = mergedMembers (Members.without key members) := by
  induction members with
  | nil => rfl
  | cons member rest ih =>
    obtain ⟨name, value⟩ := member
    rw [mergedMembers]
    by_cases hname : name = key
    · subst hname
      rw [Members.without_insertFirst_self, ih]
      congr 1
      exact (List.filter_cons_of_neg (by simp)).symm
    · have hkept : Members.without key ((name, value) :: rest) =
          (name, value) :: Members.without key rest :=
        List.filter_cons_of_pos (by simpa using hname)
      rw [Members.without_insertFirst_of_ne hname, ih, hkept, mergedMembers]

end Json

end ProgramConnector
