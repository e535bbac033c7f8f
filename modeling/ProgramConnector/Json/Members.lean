/-!
# Members

Associations in order, as the members of an object are. Looking up takes the first value under a
key. Putting keeps the place of a key that is there, and adds any other at the end; it changes what
is found under that key and under no other.
-/

namespace ProgramConnector.Members

variable {α : Type}

/-- The first value under a key. -/
def find? (key : String) : List (String × α) → Option α
  | [] => none
  | (name, value) :: rest => if name == key then some value else find? key rest

/-- The members under other keys. -/
def without (key : String) (members : List (String × α)) : List (String × α) :=
  members.filter fun member => member.1 != key

/-- A member put before others: the first place is kept, and a later value wins. -/
def insertFirst (key : String) (value : α) (members : List (String × α)) : List (String × α) :=
  (key, (find? key members).getD value) :: without key members

/-- Every key once, at its first place and with its last value. -/
def merged : List (String × α) → List (String × α)
  | [] => []
  | (key, value) :: rest => insertFirst key value (merged rest)

/-- A value put under a key: in its place if there is one, and else at the end. -/
def put (key : String) (value : α) : List (String × α) → List (String × α)
  | [] => [(key, value)]
  | (name, old) :: rest =>
    if name == key then (name, value) :: rest else (name, old) :: put key value rest

/-- The keys, in order. -/
def keys (members : List (String × α)) : List String := members.map Prod.fst

/-- What is put under a key is found there. -/
@[simp]
theorem find?_put_self (key : String) (value : α) (members : List (String × α)) :
    find? key (put key value members) = some value := by
  induction members with
  | nil => simp [put, find?]
  | cons member rest ih =>
    obtain ⟨name, old⟩ := member
    by_cases h : name = key <;> simp [put, find?, h, ih]

/-- What is under other keys stays when a value is put. -/
theorem find?_put_of_ne {key other : String} (h : other ≠ key) (value : α)
    (members : List (String × α)) : find? other (put key value members) = find? other members := by
  induction members with
  | nil => simp [put, find?, h.symm]
  | cons member rest ih =>
    obtain ⟨name, old⟩ := member
    by_cases hn : name = key
    · subst hn
      simp [put, find?, h.symm]
    · simp [put, find?, hn, ih]

/-- What is found under a key is put there again without a change. -/
theorem put_of_find? {key : String} {value : α} {members : List (String × α)}
    (h : find? key members = some value) : put key value members = members := by
  induction members with
  | nil => exact nomatch h
  | cons member rest ih =>
    obtain ⟨name, old⟩ := member
    by_cases hn : name = key
    · simp only [find?, hn, beq_self_eq_true, if_true, Option.some.injEq] at h
      simp [put, hn, h]
    · simp only [find?, beq_iff_eq, hn, if_false] at h
      simp [put, hn, ih h]

/-- A value under a new key is put at the end. -/
theorem put_of_find?_eq_none {key : String} {value : α} {members : List (String × α)}
    (h : find? key members = none) : put key value members = members ++ [(key, value)] := by
  induction members with
  | nil => rfl
  | cons member rest ih =>
    obtain ⟨name, old⟩ := member
    by_cases hn : name = key
    · simp [find?, hn] at h
    · simp only [find?, beq_iff_eq, hn, if_false] at h
      simp [put, hn, ih h]

/-- Something made from every member stays the same when a value gives way to one from which the
same is made. -/
theorem map_put {β : Type} {f : String → α → β} {key : String} {old value : α}
    {members : List (String × α)} (h : find? key members = some old)
    (hf : f key value = f key old) :
    (put key value members).map (fun member => (member.1, f member.1 member.2)) =
      members.map fun member => (member.1, f member.1 member.2) := by
  induction members with
  | nil => exact nomatch h
  | cons member rest ih =>
    obtain ⟨name, first⟩ := member
    by_cases hn : name = key
    · simp only [find?, hn, beq_self_eq_true, if_true, Option.some.injEq] at h
      simp [put, hn, h, hf]
    · simp only [find?, beq_iff_eq, hn, if_false] at h
      simp [put, hn, ih h]

/-- Nothing is left under a key that is taken away. -/
@[simp]
theorem find?_without_self (key : String) (members : List (String × α)) :
    find? key (without key members) = none := by
  induction members with
  | nil => rfl
  | cons member rest ih =>
    obtain ⟨name, old⟩ := member
    unfold without at ih ⊢
    by_cases h : name = key <;> simp [find?, h, ih]

/-- What is under other keys stays when a key is taken away. -/
theorem find?_without_of_ne {key other : String} (h : other ≠ key) (members : List (String × α)) :
    find? other (without key members) = find? other members := by
  induction members with
  | nil => rfl
  | cons member rest ih =>
    obtain ⟨name, old⟩ := member
    unfold without at ih ⊢
    by_cases hn : name = key
    · subst hn
      simp [find?, h.symm, ih]
    · simp [find?, hn, ih]

end ProgramConnector.Members
