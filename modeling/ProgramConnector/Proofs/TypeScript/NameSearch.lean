import Mathlib.Data.Finset.Card
import Mathlib.Order.Bounds.Defs
import ProgramConnector.Proofs.TypeScript.UniqueName

/-!
# The search for a free name

A name is searched for by trying the base and then the base with one number after the other, as long
as the candidate is in use. The search has no bound of its own. It ends because its candidates are
all different and only so many names are in use, and it ends with the name that is taken. A number
that is tried is never greater than the number of names in use, so 32 bits with a sign hold all of
them as long as fewer than `2 ^ 31` names are.
-/

namespace ProgramConnector.TypeScript

/-- A search for a name: the candidate at hand, and the number that is tried next. -/
structure NameSearch where
  /-- The candidate. -/
  candidate : String
  /-- The next number. -/
  next : Nat

namespace NameSearch

/-- The search starts with the base itself. -/
def start (base : String) : NameSearch := ⟨base, 1⟩

/-- A round of the search: the base with the next number is the candidate. -/
def round (base : String) (search : NameSearch) : NameSearch :=
  ⟨base ++ toString search.next, search.next + 1⟩

/-- A search ends with a name after so many rounds. While the candidate is in use there is one more
round, and the first candidate that is not in use is the name. -/
inductive Finds (names : Finset String) (base : String) : NameSearch → Nat → String → Prop
  /-- The candidate is free. -/
  | free {search : NameSearch} (isFree : search.candidate ∉ names) :
    Finds names base search 0 search.candidate
  /-- The candidate is in use. -/
  | taken {search : NameSearch} {rounds : Nat} {name : String} (inUse : search.candidate ∈ names)
      (later : Finds names base (search.round base) rounds name) :
    Finds names base search (rounds + 1) name

end NameSearch

/-- The candidate after so many rounds: the base, and then the base with the number of the round. -/
def numbered (base : String) : Nat → String
  | 0 => base
  | k + 1 => base ++ toString (k + 1)

/-- Different rounds have different candidates. -/
theorem numbered_injective (base : String) : Function.Injective (numbered base) := by
  intro j k h
  cases j with
  | zero =>
    cases k with
    | zero => rfl
    | succ k => exact absurd h.symm (append_number_ne base (k + 1))
  | succ j =>
    cases k with
    | zero => exact absurd h (append_number_ne base (j + 1))
    | succ k => exact append_number_injective base h

/-- The candidates for a name are those of the first rounds. -/
theorem nameCandidates_eq_map (base : String) (count : Nat) :
    nameCandidates base count = (List.range (count + 1)).map (numbered base) := by
  rw [List.range_succ_eq_map, List.map_cons, List.map_map]
  rfl

section Rounds

variable {names : Finset String} {base : String} {rounds : Nat}

/-- A round is the first one whose candidate is free. -/
def IsFirstFree (names : Finset String) (base : String) (rounds : Nat) : Prop :=
  numbered base rounds ∉ names ∧ ∀ k < rounds, numbered base k ∈ names

/-- The name that is taken is the candidate of the first round in which it is free. -/
theorem exists_isFirstFree (used : List String) (base : String) :
    ∃ rounds, IsFirstFree used.toFinset (if base.isEmpty then "Type" else base) rounds ∧
      uniqueName used base = numbered (if base.isEmpty then "Type" else base) rounds := by
  have hfound := uniqueName_eq_some used base
  rw [nameCandidates_eq_map] at hfound
  obtain ⟨hfree, rounds, hlt, hname, hbefore⟩ := List.find?_eq_some_iff_getElem.1 hfound
  simp only [List.getElem_map, List.getElem_range] at hname hbefore
  refine ⟨rounds, ⟨?_, fun k hk => ?_⟩, hname.symm⟩
  · rw [hname]
    simpa using hfree
  · simpa using hbefore k hk

/-- The candidates before the first free one are different names in use, so there are no more rounds
than names. -/
theorem IsFirstFree.le_card (h : IsFirstFree names base rounds) : rounds ≤ names.card :=
  Finset.le_card_of_inj_on_range (numbered base) h.2 fun _ _ _ _ he => numbered_injective base he

/-- A search that has come to a round before the first free one goes on to it. -/
theorem IsFirstFree.finds_of_le (h : IsFirstFree names base rounds) {left done : Nat}
    (hleft : done + left = rounds) :
    NameSearch.Finds names base ⟨numbered base done, done + 1⟩ left (numbered base rounds) := by
  induction left generalizing done with
  | zero =>
    subst hleft
    exact .free h.1
  | succ left ih =>
    have hinUse : numbered base done ∈ names := h.2 done (by omega)
    have hlater : NameSearch.Finds names base ⟨numbered base (done + 1), done + 1 + 1⟩ left
        (numbered base rounds) := ih (by omega)
    exact .taken hinUse hlater

/-- A search ends in one way only. -/
theorem NameSearch.Finds.unique {search : NameSearch} {count : Nat} {name other : String}
    (h : Finds names base search rounds name) (h' : Finds names base search count other) :
    count = rounds ∧ other = name := by
  induction h generalizing count with
  | free isFree =>
    cases h' with
    | free => exact ⟨rfl, rfl⟩
    | taken inUse => exact absurd inUse isFree
  | taken inUse later ih =>
    cases h' with
    | free isFree => exact absurd inUse isFree
    | taken _ later' =>
      obtain ⟨hcount, hname⟩ := ih later'
      exact ⟨congrArg (· + 1) hcount, hname⟩

/-- When the base is in use, the number of the first free candidate is the smallest one that makes a
free name. -/
theorem IsFirstFree.isLeast (h : IsFirstFree names base rounds) (hbase : base ∈ names) :
    IsLeast {k | 1 ≤ k ∧ base ++ toString k ∉ names} rounds ∧
      numbered base rounds = base ++ toString rounds := by
  obtain ⟨hfree, hbefore⟩ := h
  cases rounds with
  | zero => exact absurd hbase hfree
  | succ rounds =>
    refine ⟨⟨⟨Nat.le_add_left 1 rounds, hfree⟩, ?_⟩, rfl⟩
    rintro k ⟨hpos, hk⟩
    by_contra hlt
    obtain ⟨j, rfl⟩ := Nat.exists_eq_succ_of_ne_zero (Nat.one_le_iff_ne_zero.1 hpos)
    exact hk (hbefore (j + 1) (by omega))

/-- When the base is free, it is the first free candidate. -/
theorem IsFirstFree.eq_zero (h : IsFirstFree names base rounds) (hbase : base ∉ names) :
    rounds = 0 := by
  by_contra hne
  exact hbase (h.2 0 (Nat.pos_of_ne_zero hne))

end Rounds

/-- Whatever names are in use, the search for a name ends, after no more rounds than there are names
in use, and a number that is tried is never greater than that. It ends with the base (`Type` for an
empty base) if that is free, and otherwise with the base and the smallest number that makes a free
name. This is the name that is taken. It was not in use, and nothing but it is added to the block. -/
theorem takeName_finds (block : Block) (base : String) :
    let stem := if base = "" then "Type" else base
    let names := block.used.toFinset
    ∃ name rounds,
      (takeName base).run block = .ok (name, { block with used := name :: block.used }) ∧
      (∀ count found, (NameSearch.start stem).Finds names stem count found ↔
        count = rounds ∧ found = name) ∧
      rounds ≤ names.card ∧
      (stem ∉ names → rounds = 0 ∧ name = stem) ∧
      (stem ∈ names → IsLeast {k | 1 ≤ k ∧ stem ++ toString k ∉ names} rounds ∧
        name = stem ++ toString rounds) ∧
      name ∉ names ∧ (name :: block.used).toFinset = insert name names := by
  intro stem names
  have hstem : (if base.isEmpty then "Type" else base) = stem := by
    simp only [stem, String.isEmpty_iff]
  obtain ⟨rounds, hfirst, hname⟩ := exists_isFirstFree block.used base
  rw [hstem] at hfirst hname
  have hfinds : (NameSearch.start stem).Finds names stem rounds (numbered stem rounds) :=
    hfirst.finds_of_le (Nat.zero_add rounds)
  refine ⟨numbered stem rounds, rounds, ?_, fun count found => ⟨hfinds.unique, ?_⟩,
    hfirst.le_card, fun hfree => ?_, hfirst.isLeast, hfirst.1, List.toFinset_cons⟩
  · rw [← hname]
    rfl
  · rintro ⟨rfl, rfl⟩
    exact hfinds
  · obtain rfl := hfirst.eq_zero hfree
    exact ⟨rfl, rfl⟩

/-- Numbers that are in use already are skipped, in whatever order they came. -/
example : uniqueName ["Part", "Part2", "Part1"] "Part" = "Part3" := by decide

end ProgramConnector.TypeScript
