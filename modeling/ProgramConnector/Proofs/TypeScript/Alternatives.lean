import ProgramConnector.Proofs.TypeScript.Scanning
import ProgramConnector.Proofs.TypeScript.TypeTree

/-!
# Alternatives of a type

A type is the text of its alternatives with a separator between them. Where it is the element of a
list or a member of a combination, it is put in parentheses when the scan meets a separator. The
scan misses all of them exactly when it is inside of brackets or quotes behind every alternative but
the last one.
-/

namespace ProgramConnector.TypeScript

namespace TypeTree

/-- The alternatives of a type, or the parts that hold together, without repetitions. A type that is
neither is its only one. -/
def alternatives (setting : Setting) (tree : TypeTree) (level : Nat) : List String :=
  match tree with
  | .literals values => distinct (values.map (literal setting.profile.types.any))
  | .tagged parts => distinct (texts setting parts level)
  | .combined _ parts => distinct ((texts setting parts level).map parenthesized)
  | .any => [TypeTree.any.text setting level]
  | .scalar tag => [(TypeTree.scalar tag).text setting level]
  | .named name => [name]
  | .untypedList => [TypeTree.untypedList.text setting level]
  | .list element => [(TypeTree.list element).text setting level]
  | .tuple places => [(TypeTree.tuple places).text setting level]
  | .object members => [(TypeTree.object members).text setting level]

/-- What stands between the alternatives of a type. -/
def join : TypeTree → Join
  | .combined join _ => join
  | _ => .alternatives

/-- Parts without repetitions are there when there are parts. -/
theorem distinct_ne_nil {part : String} {parts : List String} (h : part ∈ parts) :
    distinct parts ≠ [] := by
  intro hnil
  have hm := mem_distinct.2 h
  rw [hnil] at hm
  exact nomatch hm

/-- Parts are joined by the separator when there are any. -/
theorem joinParts_eq_intercalate (setting : Setting) (separator : String) {parts : List String}
    (h : parts ≠ []) : joinParts setting separator parts = separator.intercalate parts := by
  unfold joinParts
  rw [if_neg]
  simpa using h

/-- A type is the text of its alternatives. -/
theorem text_eq_intercalate (setting : Setting) (tree : TypeTree) (level : Nat)
    (h : tree.alternatives setting level ≠ []) :
    tree.text setting level =
      tree.join.separator.intercalate (tree.alternatives setting level) := by
  cases tree with
  | literals values =>
    cases values with
    | nil => exact absurd rfl h
    | cons value values => rfl
  | tagged parts => exact joinParts_eq_intercalate setting " | " h
  | combined join parts => exact joinParts_eq_intercalate setting join.separator h
  | _ => exact (String.intercalate_singleton).symm

/-- A type without alternatives is that of everything or of nothing. -/
theorem text_of_alternatives_eq_nil (setting : Setting) (tree : TypeTree) (level : Nat)
    (h : tree.alternatives setting level = []) :
    tree.text setting level = setting.profile.types.any ∨ tree.text setting level = "never" := by
  cases tree with
  | literals values =>
    cases values with
    | nil => exact .inr rfl
    | cons value values =>
      exact absurd h (distinct_ne_nil (List.mem_map_of_mem List.mem_cons_self))
  | tagged parts =>
    refine .inl ?_
    have hd : distinct (texts setting parts level) = [] := h
    rw [text, hd]
    rfl
  | combined join parts =>
    refine .inl ?_
    have hd : distinct ((texts setting parts level).map parenthesized) = [] := h
    rw [text, hd]
    rfl
  | _ => exact absurd h (List.cons_ne_nil _ _)

end TypeTree

/-! ## Hidden alternatives -/

/-- The state behind a separator that the scan passes over. -/
def ScanState.unescaped : ScanState → ScanState
  | .escaped depth => .quoted depth
  | .quoted depth => .quoted depth
  | .code depth => .code depth

/-- From a state, the scan reaches the end of parts with separators between them: behind every part
but the last one it is inside of brackets or quotes. -/
inductive Hidden : ScanState → List String → Prop
  /-- The last part. -/
  | last {state next : ScanState} {part : String} (scanned : state.after part.toList = some next) :
    Hidden state [part]
  /-- A part with others behind it. -/
  | part {state next : ScanState} {part other : String} {rest : List String}
      (scanned : state.after part.toList = some next) (inside : next ≠ .code 0)
      (more : Hidden next.unescaped (other :: rest)) : Hidden state (part :: other :: rest)

/-- A separator is met outside, and passed over inside. -/
theorem after_separator (join : Join) (state : ScanState) :
    (state = .code 0 ∧ state.after join.separator.toList = none) ∨
      (state ≠ .code 0 ∧ state.after join.separator.toList = some state.unescaped) := by
  cases state with
  | escaped depth => exact .inr ⟨nofun, by cases join <;> rfl⟩
  | quoted depth => exact .inr ⟨nofun, by cases join <;> rfl⟩
  | code depth =>
    cases depth with
    | zero => exact .inl ⟨rfl, by cases join <;> rfl⟩
    | succ depth => exact .inr ⟨nofun, by cases join <;> rfl⟩

/-- The scan reaches the end of parts with separators between them when they are hidden. -/
theorem isSome_after_intercalate (join : Join) (state : ScanState) {parts : List String}
    (hne : parts ≠ []) :
    (state.after (join.separator.intercalate parts).toList).isSome = true ↔ Hidden state parts := by
  induction parts generalizing state with
  | nil => exact absurd rfl hne
  | cons part rest ih =>
    cases rest with
    | nil =>
      rw [String.intercalate_singleton]
      constructor
      · intro h
        obtain ⟨next, hnext⟩ := Option.isSome_iff_exists.1 h
        exact .last hnext
      · rintro (h | _)
        rw [h]
        rfl
    | cons other rest =>
      have hrest := fun next => ih next (List.cons_ne_nil other rest)
      rw [String.intercalate_cons_cons, String.toList_append, String.toList_append,
        ScanState.after_append, ScanState.after_append]
      cases hp : state.after part.toList with
      | none =>
        refine ⟨fun h => absurd h Bool.false_ne_true, ?_⟩
        rintro (_ | ⟨scanned, _, _⟩)
        rw [hp] at scanned
        exact absurd scanned (Option.some_ne_none _).symm
      | some next =>
        rw [Option.bind_some]
        rcases after_separator join next with ⟨hzero, hnone⟩ | ⟨hinside, hsome⟩
        · rw [hnone]
          refine ⟨fun h => absurd h Bool.false_ne_true, ?_⟩
          rintro (_ | ⟨scanned, inside, _⟩)
          rw [hp] at scanned
          exact absurd (Option.some.inj scanned ▸ hzero) inside
        · rw [hsome, Option.bind_some, hrest]
          refine ⟨.part hp hinside, ?_⟩
          rintro (_ | ⟨scanned, _, more⟩)
          rw [hp] at scanned
          rw [Option.some.inj scanned]
          exact more

/-- An expression in parentheses is longer. -/
theorem ne_parenthesis (text : String) : text ≠ "(" ++ text ++ ")" := by
  intro h
  have hlength := congrArg String.length h
  rw [String.length_append, String.length_append] at hlength
  have hone : "(".length = 1 := rfl
  omega

/-- An expression is put in parentheses when it is compound. -/
theorem parenthesized_eq_iff (text : String) :
    parenthesized text = "(" ++ text ++ ")" ↔ isCompound text = true := by
  unfold parenthesized
  by_cases h : isCompound text = true
  · rw [if_pos h]
    exact ⟨fun _ => h, fun _ => rfl⟩
  · rw [if_neg h]
    exact ⟨fun he => absurd he (ne_parenthesis text), fun hc => absurd hc h⟩

/-- A type is put in parentheses unless its alternatives are hidden from the scan. -/
theorem parenthesized_text_iff (setting : Setting) (tree : TypeTree) (level : Nat)
    (h : tree.alternatives setting level ≠ []) :
    parenthesized (tree.text setting level) = "(" ++ tree.text setting level ++ ")" ↔
      ¬Hidden (.code 0) (tree.alternatives setting level) := by
  rw [parenthesized_eq_iff, isCompound_eq_isNone, tree.text_eq_intercalate setting level h,
    ← isSome_after_intercalate tree.join (.code 0) h, Option.isNone_iff_eq_none,
    Option.isSome_iff_ne_none, not_not]

/-- Two alternatives of which the first one is balanced are not hidden. -/
theorem not_hidden_of_balanced {part other : String} {rest : List String}
    (h : Balanced part.toList) : ¬Hidden (.code 0) (part :: other :: rest) := by
  rintro (_ | ⟨scanned, inside, _⟩)
  have hzero := h 0
  rw [BalancedAt, scanned] at hzero
  exact inside (Option.some.inj hzero)

end ProgramConnector.TypeScript
