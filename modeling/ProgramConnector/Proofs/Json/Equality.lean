import ProgramConnector.Proofs.Json.Values

/-!
# Equality of documents

Documents are equal when they are built alike, the order of members and repeated keys included.
This is decidable, so that what is read from a given text can be computed.
-/

namespace ProgramConnector.Json

mutual

/-- Whether two documents are built alike. -/
def isEqual : Json → Json → Bool
  | .null, .null => true
  | .bool a, .bool b => a == b
  | .num a, .num b => a == b
  | .str a, .str b => a == b
  | .arr as, .arr bs => areEqual as bs
  | .obj as, .obj bs => areEqualMembers as bs
  | _, _ => false

/-- Whether documents are built alike, place by place. -/
def areEqual : List Json → List Json → Bool
  | [], [] => true
  | a :: as, b :: bs => isEqual a b && areEqual as bs
  | _, _ => false

/-- Whether members have the same keys and are built alike, place by place. -/
def areEqualMembers : List (String × Json) → List (String × Json) → Bool
  | [], [] => true
  | (key, a) :: as, (name, b) :: bs => key == name && isEqual a b && areEqualMembers as bs
  | _, _ => false

end

section Lists

variable {elements : List Json} {members : List (String × Json)}

/-- Elements are built alike when they are equal, if this is so for each of them. -/
theorem areEqual_iff
    (h : ∀ element ∈ elements, ∀ other, isEqual element other = true ↔ element = other)
    (others : List Json) : areEqual elements others = true ↔ elements = others := by
  induction elements generalizing others with
  | nil => cases others <;> simp [areEqual]
  | cons first rest ih =>
    obtain ⟨hfirst, hrest⟩ := List.forall_mem_cons.1 h
    cases others with
    | nil => simp [areEqual]
    | cons other others =>
      rw [areEqual, Bool.and_eq_true, hfirst, ih hrest, List.cons.injEq]

/-- Members are built alike when they are equal, if this is so for the value of each of them. -/
theorem areEqualMembers_iff
    (h : ∀ member ∈ members, ∀ other, isEqual member.2 other = true ↔ member.2 = other)
    (others : List (String × Json)) :
    areEqualMembers members others = true ↔ members = others := by
  induction members generalizing others with
  | nil => cases others <;> simp [areEqualMembers]
  | cons first rest ih =>
    obtain ⟨hfirst, hrest⟩ := List.forall_mem_cons.1 h
    cases others with
    | nil => simp [areEqualMembers]
    | cons other others =>
      rw [areEqualMembers, Bool.and_eq_true, Bool.and_eq_true, beq_iff_eq, hfirst, ih hrest,
        List.cons.injEq, Prod.ext_iff]

end Lists

/-- Documents are built alike exactly when they are equal. -/
theorem isEqual_iff (value other : Json) : isEqual value other = true ↔ value = other := by
  induction value using containerInduction generalizing other with
  | arr elements ih =>
    cases other with
    | arr others => rw [isEqual, areEqual_iff ih, arr.injEq]
    | _ => simp [isEqual]
  | obj members ih =>
    cases other with
    | obj others => rw [isEqual, areEqualMembers_iff ih, obj.injEq]
    | _ => simp [isEqual]
  | _ => cases other <;> simp [isEqual]

instance : DecidableEq Json := fun value other => decidable_of_iff _ (isEqual_iff value other)

end ProgramConnector.Json
