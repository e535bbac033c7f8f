import Mathlib.Data.List.Forall2
import Mathlib.Data.List.Perm.Lattice
import Mathlib.Data.Option.Basic
import ProgramConnector.Proofs.Json.Values

/-!
# Documents up to the order of members

Two documents are reorderings of one another when they differ in the order of members only, at any
depth. Where no key is repeated that is so exactly when every key leads to reorderings of one
another, and then the documents are the same.
-/

namespace ProgramConnector

namespace Members

variable {α β : Type} {R : α → β → Prop} {as : List (String × α)} {bs : List (String × β)}

/-- Related results stay related when a missing one is replaced. -/
theorem rel_getD {found : Option α} {other : Option β} (h : Option.Rel R found other) {a : α}
    {b : β} (hab : R a b) : R (found.getD a) (other.getD b) := by
  cases h with
  | none => exact hab
  | some hfound => exact hfound

/-- Related results are found together. -/
theorem rel_isSome_iff {found : Option α} {other : Option β} (h : Option.Rel R found other) :
    found.isSome ↔ other.isSome := by
  cases h <;> exact Iff.rfl

/-- Members under the same keys, place by place, with related values. -/
def Parallel (R : α → β → Prop) : List (String × α) → List (String × β) → Prop :=
  List.Forall₂ fun a b => a.1 = b.1 ∧ R a.2 b.2

/-- Parallel members have the same keys. -/
theorem Parallel.keys_eq (h : Parallel R as bs) : keys as = keys bs := by
  induction h with
  | nil => rfl
  | cons hab _ ih => exact congrArg₂ List.cons hab.1 ih

/-- Under every key parallel members have related values. -/
theorem Parallel.find? (h : Parallel R as bs) (key : String) :
    Option.Rel R (find? key as) (find? key bs) := by
  induction h with
  | nil => exact .none
  | @cons a b _ _ hab _ ih =>
    obtain ⟨name, value⟩ := a
    obtain ⟨other, value'⟩ := b
    obtain ⟨rfl, hvalue⟩ := hab
    simp only [Members.find?]
    split
    · exact .some hvalue
    · exact ih

/-- Parallel members stay parallel without a key. -/
theorem Parallel.without (h : Parallel R as bs) (key : String) :
    Parallel R (without key as) (without key bs) := by
  induction h with
  | nil => exact .nil
  | @cons a b _ _ hab _ ih =>
    simp only [Members.without, List.filter_cons, hab.1] at ih ⊢
    split
    · exact .cons hab ih
    · exact ih

/-- Parallel members stay parallel with related values in front. -/
theorem Parallel.insertFirst (h : Parallel R as bs) (key : String) {a : α} {b : β} (hab : R a b) :
    Parallel R (insertFirst key a as) (insertFirst key b bs) :=
  .cons ⟨rfl, rel_getD (h.find? key) hab⟩ (h.without key)

/-- A key is one of some members when something is found under it. -/
theorem mem_keys_iff {key : String} : key ∈ keys as ↔ (find? key as).isSome := by
  rw [← not_iff_not, ← find?_eq_none_iff, Option.not_isSome_iff_eq_none]

end Members

namespace Json

/-- Two documents differ in the order of members only. -/
inductive Reordered : Json → Json → Prop
  /-- A document and itself. -/
  | refl (value : Json) : Reordered value value
  /-- Arrays, place by place. -/
  | arr {as bs : List Json} (length : as.length = bs.length)
      (elements : ∀ (place : Nat) (a b : Json), as[place]? = some a → bs[place]? = some b →
        Reordered a b) : Reordered (.arr as) (.arr bs)
  /-- Objects, key by key. -/
  | obj {as bs : List (String × Json)} (keys : (Members.keys as).Perm (Members.keys bs))
      (values : ∀ (key : String) (a b : Json), Members.find? key as = some a →
        Members.find? key bs = some b → Reordered a b) : Reordered (.obj as) (.obj bs)

section Reordered

variable {a b : Json} {as bs : List Json} {members others : List (String × Json)}

/-- Arrays of reordered elements are reordered. -/
theorem Reordered.of_forall₂ (h : List.Forall₂ Reordered as bs) :
    Reordered (.arr as) (.arr bs) := by
  refine .arr h.length_eq fun place a b ha hb => ?_
  obtain ⟨hplace, rfl⟩ := List.getElem?_eq_some_iff.1 ha
  obtain ⟨hplace', rfl⟩ := List.getElem?_eq_some_iff.1 hb
  exact h.get hplace hplace'

/-- Objects without repeated keys are reordered when every key leads to reordered values. -/
theorem Reordered.of_find? (hm : (Members.keys members).Nodup) (ho : (Members.keys others).Nodup)
    (h : ∀ key, Option.Rel Reordered (Members.find? key members) (Members.find? key others)) :
    Reordered (.obj members) (.obj others) := by
  refine .obj ((List.perm_ext_iff_of_nodup hm ho).2 fun key => ?_) fun key a b ha hb => ?_
  · rw [Members.mem_keys_iff, Members.mem_keys_iff, Members.rel_isSome_iff (h key)]
  · have hkey := h key
    rw [ha, hb] at hkey
    cases hkey with
    | some hvalue => exact hvalue

/-- Parallel objects with reordered values are reordered. -/
theorem Reordered.of_parallel (hm : (Members.keys members).Nodup)
    (h : Members.Parallel Reordered members others) : Reordered (.obj members) (.obj others) :=
  .of_find? hm (h.keys_eq ▸ hm) h.find?

/-- Elements that are the same place by place. -/
theorem sameElements_of_getElem? (hlength : as.length = bs.length)
    (h : ∀ (place : Nat) (a b : Json), as[place]? = some a → bs[place]? = some b →
      a.same b = true) : sameElements as bs = true := by
  induction as generalizing bs with
  | nil => rw [List.length_eq_zero_iff.1 hlength.symm, sameElements]
  | cons a as ih =>
    cases bs with
    | nil => cases hlength
    | cons b bs =>
      rw [sameElements, h 0 a b rfl rfl, ih (Nat.succ.inj hlength)]
      · rfl
      · exact fun place a b ha hb => h (place + 1) a b ha hb

/-- Members that are found among others with the same values. -/
theorem sameMembers_of_find? (h : ∀ member ∈ members, ∃ other,
    Members.find? member.1 others = some other ∧ member.2.same other = true) :
    sameMembers members others = true := by
  induction members with
  | nil => rfl
  | cons member rest ih =>
    obtain ⟨key, value⟩ := member
    obtain ⟨⟨other, hother, hsame⟩, hrest⟩ := List.forall_mem_cons.1 h
    rw [sameMembers, hother, ih hrest]
    simpa using hsame

/-- A document without repeated keys is the same as its reorderings. -/
theorem Reordered.same (h : Reordered a b) (ha : a.IsMerged) : a.same b = true := by
  induction h with
  | refl value => exact ha.same_self
  | arr length elements ih =>
    rw [Json.same]
    refine sameElements_of_getElem? length fun place a b hfirst hsecond => ?_
    exact ih place a b hfirst hsecond
      (ha.of_mem_values (mem_values_of_element (List.mem_of_getElem? hfirst)))
  | @obj as bs keys values ih =>
    have hlength : as.length = bs.length := by simpa [Members.keys] using keys.length_eq
    rw [Json.same, hlength, sameMembers_of_find?]
    · simp
    intro member hm
    have hkey : member.1 ∈ Members.keys bs := keys.mem_iff.1 (List.mem_map_of_mem hm)
    obtain ⟨other, hother⟩ := Option.isSome_iff_exists.1 (Members.mem_keys_iff.1 hkey)
    refine ⟨other, hother, ih member.1 member.2 other ?_ hother ?_⟩
    · exact Members.find?_eq_some_of_mem (ha as (mem_values_self _)) hm
    · exact ha.of_mem_values (mem_values_of_member hm)

end Reordered

end Json

end ProgramConnector
