import Mathlib.Data.List.Forall2

/-!
# Results of computations

What is known of a computation that may fail once it is known to succeed, and where a computation
over a list fails: at its first element that does.
-/

namespace ProgramConnector

variable {ε α β : Type}

/-- A result that depends on another one is there when both are. -/
theorem bind_eq_ok {x : Except ε α} {f : α → Except ε β} {r : β} (h : x >>= f = .ok r) :
    ∃ a, x = .ok a ∧ f a = .ok r := by
  cases x with
  | error e => exact nomatch h
  | ok a => exact ⟨a, rfl, h⟩

/-- A result that is rewritten when it succeeds. -/
theorem map_eq_bind (x : Except ε α) (f : α → β) : x.map f = x >>= fun a => .ok (f a) := by
  cases x <;> rfl

/-- Two computations agree on what is made of their results when they start with results of which
the same is made, and go on so that this is enough. -/
theorem map_bind_eq {γ δ : Type} {x y : Except ε α} {f : α → γ} {next next' : α → Except ε β}
    {g : β → δ} (h : x.map f = y.map f)
    (hnext : ∀ a b, f a = f b → (next a).map g = (next' b).map g) :
    (x >>= next).map g = (y >>= next').map g := by
  cases x with
  | error e =>
    cases y with
    | error e' =>
      cases h
      rfl
    | ok b => exact nomatch h
  | ok a =>
    cases y with
    | error e => exact nomatch h
    | ok b => exact hnext a b (Except.ok.inj h)

/-- Where the same is made of two results, both are failures, or both are there. -/
theorem both_of_map_eq {x y : Except ε α} {f : α → β} (h : x.map f = y.map f) :
    (∃ e, x = .error e ∧ y = .error e) ∨ ∃ a b, x = .ok a ∧ y = .ok b ∧ f a = f b := by
  cases x with
  | error e =>
    cases y with
    | error e' =>
      cases h
      exact .inl ⟨e, rfl, rfl⟩
    | ok b => exact nomatch h
  | ok a =>
    cases y with
    | error e => exact nomatch h
    | ok b => exact .inr ⟨a, b, rfl, rfl, Except.ok.inj h⟩

/-- A check passes when it is known to have a result. -/
theorem eq_ok_of_toBool {x : Except ε Unit} (h : x.toBool = true) : x = .ok () := by
  cases x with
  | error e => exact absurd h Bool.false_ne_true
  | ok _ => rfl

/-- A result is there when something made from it is known. -/
theorem eq_ok_of_toOption_map {x : Except ε α} {f : α → β} {r : β}
    (h : x.toOption.map f = some r) : ∃ a, x = .ok a ∧ f a = r := by
  cases x with
  | error e => simp [Except.toOption] at h
  | ok a => exact ⟨a, rfl, Option.some.inj h⟩

/-- A result is there when it is known to be. -/
theorem eq_ok_of_toOption {x : Except ε α} {r : α} (h : x.toOption = some r) : x = .ok r := by
  cases x with
  | error e => exact nomatch h
  | ok a => rw [Option.some.inj h]

/-- The failure of a computation, if it fails. -/
def failure? : Except ε α → Option ε
  | .error e => some e
  | .ok _ => none

/-- A computation fails when its failure is known. -/
theorem eq_error_of_failure? {x : Except ε α} {e : ε} (h : failure? x = some e) : x = .error e := by
  cases x with
  | error other => rw [Option.some.inj h]
  | ok a => exact nomatch h

section Lists

variable {f : α → Except ε β} {front behind xs : List α} {x : α} {e : ε}

/-- All elements of a list have results exactly when each of them has one. -/
theorem mapM_eq_ok_iff {ys : List β} :
    xs.mapM f = .ok ys ↔ List.Forall₂ (fun x y => f x = .ok y) xs ys := by
  induction xs generalizing ys with
  | nil =>
    rw [List.forall₂_nil_left_iff]
    exact Iff.intro (fun h => (Except.ok.inj h).symm) fun h => by rw [h]; rfl
  | cons x rest ih =>
    rw [List.mapM_cons]
    constructor
    · intro h
      obtain ⟨y, hy, h⟩ := bind_eq_ok h
      obtain ⟨others, hothers, h⟩ := bind_eq_ok h
      cases h
      exact .cons hy (ih.1 hothers)
    · rintro (_ | ⟨hy, hothers⟩)
      rw [hy, ih.2 hothers]
      rfl

/-- Where every element has a result, all results can be collected. -/
theorem exists_mapM_eq_ok (h : ∀ x ∈ xs, ∃ b, f x = .ok b) : ∃ ys, xs.mapM f = .ok ys := by
  induction xs with
  | nil => exact ⟨[], rfl⟩
  | cons x rest ih =>
    obtain ⟨⟨b, hb⟩, hrest⟩ := List.forall_mem_cons.1 h
    obtain ⟨ys, hys⟩ := ih hrest
    refine ⟨b :: ys, ?_⟩
    rw [List.mapM_cons, hb, hys]
    rfl

/-- Collecting results fails at the first element that has none. -/
theorem mapM_eq_error (hfront : ∀ y ∈ front, ∃ b, f y = .ok b) (hx : f x = .error e) :
    (front ++ x :: behind).mapM f = .error e := by
  induction front with
  | nil =>
    rw [List.nil_append, List.mapM_cons, hx]
    rfl
  | cons first front ih =>
    obtain ⟨⟨b, hb⟩, hrest⟩ := List.forall_mem_cons.1 hfront
    rw [List.cons_append, List.mapM_cons, hb, ih hrest]
    rfl

/-- A series of checks fails at the first element that does not pass. -/
theorem forM_eq_error {f : α → Except ε PUnit} (hfront : ∀ y ∈ front, f y = .ok ⟨⟩)
    (hx : f x = .error e) : (front ++ x :: behind).forM f = .error e := by
  induction front with
  | nil =>
    change (f x >>= fun _ => behind.forM f) = .error e
    rw [hx]
    rfl
  | cons first front ih =>
    obtain ⟨hfirst, hrest⟩ := List.forall_mem_cons.1 hfront
    change (f first >>= fun _ => (front ++ x :: behind).forM f) = .error e
    rw [hfirst]
    exact ih hrest

/-- Either every element has a result, or there is a first one that has none. -/
theorem all_ok_or_first_error (f : α → Except ε β) (xs : List α) :
    (∀ x ∈ xs, ∃ b, f x = .ok b) ∨
    ∃ front x behind e, xs = front ++ x :: behind ∧ (∀ y ∈ front, ∃ b, f y = .ok b) ∧
      f x = .error e := by
  induction xs with
  | nil => exact .inl fun _ hx => nomatch hx
  | cons first rest ih =>
    cases hfirst : f first with
    | error e => exact .inr ⟨[], first, rest, e, rfl, (fun _ hy => nomatch hy), hfirst⟩
    | ok b =>
      rcases ih with hall | ⟨front, x, behind, e, rfl, hfront, hx⟩
      · exact .inl (List.forall_mem_cons.2 ⟨⟨b, hfirst⟩, hall⟩)
      · exact .inr ⟨first :: front, x, behind, e, rfl, List.forall_mem_cons.2 ⟨⟨b, hfirst⟩, hfront⟩,
          hx⟩

/-- What is at a place of one list has something at its place in the other one. -/
theorem exists_right_of_forall₂ {R : α → β → Prop} {ys : List β} (h : List.Forall₂ R xs ys)
    (hx : x ∈ xs) : ∃ y ∈ ys, R x y := by
  induction h with
  | nil => exact absurd hx List.not_mem_nil
  | cons hfirst _ ih =>
    rcases List.mem_cons.1 hx with rfl | hx
    · exact ⟨_, List.mem_cons_self, hfirst⟩
    · obtain ⟨y, hy, hxy⟩ := ih hx
      exact ⟨y, List.mem_cons_of_mem _ hy, hxy⟩

/-- The same with the lists exchanged. -/
theorem exists_left_of_forall₂ {R : α → β → Prop} {ys : List β} (h : List.Forall₂ R xs ys) {y : β}
    (hy : y ∈ ys) : ∃ x ∈ xs, R x y :=
  exists_right_of_forall₂ h.flip hy

end Lists

end ProgramConnector
