import ProgramConnector.Proofs.Json.Reordering
import ProgramConnector.Proofs.Schema.RoundTrip
import ProgramConnector.Proofs.TypeScript.BareReferences

/-!
# Values that are the same

Whether two values are the same does not depend on the order of members. So it is enough to look up
the members of one value in the other one, and among values that repeat no key it makes no
difference which of the two is gone through: to be the same is an equivalence. It is one among
schemas in normal form.
-/

namespace ProgramConnector.TypeScript

/-! ## Values -/

section Values

variable {a b c : Json} {as bs cs : List Json} {members others : List (String × Json)}

/-- Doubles that are the same as another one are the same. -/
theorem same_trans_double {x y z : Binary64} (h : x.same y = true) (h' : y.same z = true) :
    x.same z = true := by
  simp only [Binary64.same, Bool.or_eq_true, Bool.and_eq_true, beq_iff_eq] at h h' ⊢
  rcases h with ⟨hx, hy⟩ | rfl
  · rcases h' with ⟨-, hz⟩ | rfl
    · exact .inl ⟨hx, hz⟩
    · exact .inl ⟨hx, hy⟩
  · exact h'

/-- Doubles are the same in either order. -/
theorem same_symm_double {x y : Binary64} (h : x.same y = true) : y.same x = true := by
  simp only [Binary64.same, Bool.or_eq_true, Bool.and_eq_true, beq_iff_eq] at h ⊢
  exact h.imp And.symm Eq.symm

/-- Numbers that are the same as another one are the same. -/
theorem same_trans_number {x y z : Number} (h : x.same y = true) (h' : y.same z = true) :
    x.same z = true := by
  cases x with
  | whole x =>
    cases y with
    | whole y =>
      obtain rfl := beq_iff_eq.1 h
      exact h'
    | double y => cases h
  | double x =>
    cases y with
    | whole y => cases h
    | double y =>
      cases z with
      | whole z => cases h'
      | double z => exact same_trans_double h h'

/-- Numbers are the same in either order. -/
theorem same_symm_number {x y : Number} (h : x.same y = true) : y.same x = true := by
  cases x with
  | whole x =>
    cases y with
    | whole y => exact beq_iff_eq.2 (beq_iff_eq.1 h).symm
    | double y => cases h
  | double x =>
    cases y with
    | whole y => cases h
    | double y => exact same_symm_double h

/-- Lists that are the same as another one are the same, if this is so of their elements. -/
theorem sameElements_trans
    (h : ∀ a ∈ as, ∀ {b c : Json}, a.same b = true → b.same c = true → a.same c = true)
    (hab : Json.sameElements as bs = true) (hbc : Json.sameElements bs cs = true) :
    Json.sameElements as cs = true := by
  induction as generalizing bs cs with
  | nil =>
    cases bs with
    | nil => exact hbc
    | cons b bs => simp [Json.sameElements] at hab
  | cons a as ih =>
    cases bs with
    | nil => simp [Json.sameElements] at hab
    | cons b bs =>
      cases cs with
      | nil => simp [Json.sameElements] at hbc
      | cons c cs =>
        obtain ⟨hfirst, hrest⟩ := List.forall_mem_cons.1 h
        rw [Json.sameElements, Bool.and_eq_true] at hab hbc ⊢
        exact ⟨hfirst hab.1 hbc.1, ih hrest hab.2 hbc.2⟩

/-- Values that are the same as another one are the same. -/
theorem same_trans (hab : a.same b = true) (hbc : b.same c = true) : a.same c = true := by
  induction a using Json.containerInduction generalizing b c with
  | num x =>
    cases b with
    | num y =>
      cases c with
      | num z =>
        rw [Json.same] at hab hbc ⊢
        exact same_trans_number hab hbc
      | _ => simp [Json.same] at hbc
    | _ => simp [Json.same] at hab
  | arr elements ih =>
    cases b with
    | arr bs =>
      cases c with
      | arr cs =>
        rw [Json.same] at hab hbc ⊢
        exact sameElements_trans ih hab hbc
      | _ => simp [Json.same] at hbc
    | _ => simp [Json.same] at hab
  | obj members ih =>
    cases b with
    | obj others =>
      cases c with
      | obj more =>
        rw [Json.same, Bool.and_eq_true, beq_iff_eq] at hab hbc ⊢
        refine ⟨hab.1.trans hbc.1, Json.sameMembers_of_find? fun member hm => ?_⟩
        obtain ⟨other, hother, hsame⟩ := exists_of_sameMembers hab.2 hm
        obtain ⟨last, hlast, hsame'⟩ := exists_of_sameMembers hbc.2 (Members.mem_of_find? hother)
        exact ⟨last, hlast, ih member hm hsame hsame'⟩
      | _ => simp [Json.same] at hbc
    | _ => simp [Json.same] at hab
  | null =>
    cases b with
    | null => exact hbc
    | _ => simp [Json.same] at hab
  | bool x =>
    cases b with
    | bool y =>
      rw [Json.same, beq_iff_eq] at hab
      exact hab ▸ hbc
    | _ => simp [Json.same] at hab
  | str x =>
    cases b with
    | str y =>
      rw [Json.same, beq_iff_eq] at hab
      exact hab ▸ hbc
    | _ => simp [Json.same] at hab

/-- Lists are the same in either order, if this is so of their elements. -/
theorem sameElements_symm (h : ∀ a ∈ as, ∀ {b : Json}, Kin a b → b.same a = true)
    (hall : List.Forall₂ Kin as bs) : Json.sameElements bs as = true := by
  induction hall with
  | nil => rfl
  | cons hkin _ ih =>
    obtain ⟨hfirst, hrest⟩ := List.forall_mem_cons.1 h
    rw [Json.sameElements, hfirst hkin, ih hrest]
    rfl

/-- Values that repeat no key are the same in either order. -/
theorem Kin.symm (h : Kin a b) : b.same a = true := by
  induction a using Json.containerInduction generalizing b with
  | num x =>
    have hsame := h.same
    cases b with
    | num y =>
      rw [Json.same] at hsame ⊢
      exact same_symm_number hsame
    | _ => simp [Json.same] at hsame
  | arr elements ih =>
    have helements := h.spec.2.2
    cases b with
    | arr bs =>
      rw [Json.same]
      cases helements with
      | some hall => exact sameElements_symm ih hall
    | _ => cases helements
  | obj members ih =>
    have hsame := h.same
    cases b with
    | obj others =>
      rw [Json.same, Bool.and_eq_true, beq_iff_eq] at hsame ⊢
      refine ⟨hsame.1.symm, Json.sameMembers_of_find? fun member hm => ?_⟩
      have hfind := Members.find?_eq_some_of_mem (h.merged' others (Json.mem_values_self _)) hm
      have hrel := h.rel_find? member.1
      rw [hfind] at hrel
      cases hfirst : Members.find? member.1 members with
      | none =>
        rw [hfirst] at hrel
        cases hrel
      | some value =>
        rw [hfirst] at hrel
        cases hrel with
        | some hkin =>
          exact ⟨value, rfl, ih (member.1, value) (Members.mem_of_find? hfirst) hkin⟩
    | _ => simp [Json.same] at hsame
  | null =>
    have hsame := h.same
    cases b with
    | null => rfl
    | _ => simp [Json.same] at hsame
  | bool x =>
    have hsame := h.same
    cases b with
    | bool y =>
      rw [Json.same, beq_iff_eq] at hsame ⊢
      exact hsame.symm
    | _ => simp [Json.same] at hsame
  | str x =>
    have hsame := h.same
    cases b with
    | str y =>
      rw [Json.same, beq_iff_eq] at hsame ⊢
      exact hsame.symm
    | _ => simp [Json.same] at hsame

end Values

/-! ## Schemas -/

section Schemas

variable {a b c a' b' : Schema}

/-- Schemas that are the same as another one are the same. -/
theorem same_trans_schema (hab : a.same b = true) (hbc : b.same c = true) : a.same c = true :=
  TypeScript.same_trans hab hbc

/-- Schemas in normal form are the same in either order. -/
theorem same_symm_schema (ha : a.IsNormal) (hb : b.IsNormal) (h : a.same b = true) :
    b.same a = true :=
  Kin.symm ⟨ha.isMerged_toJson, hb.isMerged_toJson, h⟩

/-- Whether two schemas in normal form are the same does not change when both give way to schemas
that are the same. -/
theorem same_congr_schema (ha : a.IsNormal) (hb : b.IsNormal) (ha' : a'.IsNormal)
    (hb' : b'.IsNormal) (haa : a.same a' = true) (hbb : b.same b' = true) : a.same b = a'.same b' := by
  refine Bool.eq_iff_iff.2 ⟨fun hab => ?_, fun hab => ?_⟩
  · exact same_trans_schema (same_symm_schema ha ha' haa) (same_trans_schema hab hbb)
  · exact same_trans_schema haa (same_trans_schema hab (same_symm_schema hb hb' hbb))

end Schemas

end ProgramConnector.TypeScript
