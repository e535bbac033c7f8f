import ProgramConnector.Json.Printer
import ProgramConnector.Naming.TypeName

/-!
# Type expressions

The texts that stand for types: literals, property names, and unions whose parts bind together. An
expression that has an alternative bar or an ampersand outside of brackets and quotes is compound
and goes into parentheses wherever it is part of another one.
-/

namespace ProgramConnector.TypeScript

/-- Where a scan of an expression stands. -/
inductive ScanState where
  /-- Outside of quotes, inside of this many brackets. -/
  | code (depth : Nat)
  /-- Inside of quotes. -/
  | quoted (depth : Nat)
  /-- Inside of quotes, behind a backslash. -/
  | escaped (depth : Nat)

/-- Whether an alternative bar or an ampersand is met outside of brackets and quotes. Closing
brackets without a partner are passed over. -/
def compoundFrom : ScanState → List Char → Bool
  | _, [] => false
  | .escaped depth, _ :: rest => compoundFrom (.quoted depth) rest
  | .quoted depth, c :: rest =>
    if c == '\\' then compoundFrom (.escaped depth) rest
    else if c == '"' then compoundFrom (.code depth) rest
    else compoundFrom (.quoted depth) rest
  | .code depth, c :: rest =>
    if c == '"' then compoundFrom (.quoted depth) rest
    else if c == '\x7b' || c == '[' || c == '(' || c == '<' then
      compoundFrom (.code (depth + 1)) rest
    else if c == '\x7d' || c == ']' || c == ')' || c == '>' then
      compoundFrom (.code (depth - 1)) rest
    else if (c == '|' || c == '&') && depth == 0 then true
    else compoundFrom (.code depth) rest

/-- Whether an expression is compound. -/
def isCompound (expression : String) : Bool := compoundFrom (.code 0) expression.toList

/-- An expression as part of another one. -/
def parenthesized (expression : String) : String :=
  if isCompound expression then "(" ++ expression ++ ")" else expression

/-- The literal type of a value; containers have none and are of type `any`. -/
def literal (any : String) : Json → String
  | .arr _ => any
  | .obj _ => any
  | value => value.toText

/-- A property name as it is declared: an identifier stands for itself, all else is quoted. -/
def propertyKey (name : String) : String :=
  if Naming.isIdentifier name.toList then name else (Json.str name).toText

/-- A part behind others, unless it is among them. -/
def addDistinct (seen : List String) (part : String) : List String :=
  if seen.contains part then seen else seen ++ [part]

/-- Parts without repetitions, each at its first place. -/
def distinct (parts : List String) : List String := parts.foldl addDistinct []

/-- The part is there after it has been added, beside those before it. -/
theorem mem_addDistinct {seen : List String} {part other : String} :
    other ∈ addDistinct seen part ↔ other ∈ seen ∨ other = part := by
  unfold addDistinct
  by_cases h : part ∈ seen
  · simp only [List.contains_eq_mem, h, decide_true, if_true]
    exact ⟨Or.inl, fun ho => ho.elim id fun he => he ▸ h⟩
  · simp [h]

/-- Adding a part repeats none. -/
theorem nodup_addDistinct {seen : List String} (h : seen.Nodup) (part : String) :
    (addDistinct seen part).Nodup := by
  unfold addDistinct
  by_cases hp : part ∈ seen
  · simpa [hp] using h
  · have hn : ∀ other ∈ seen, other ≠ part := fun other ho he => hp (he ▸ ho)
    simpa [hp] using List.nodup_append.2 ⟨h, List.pairwise_singleton _ part, by simpa using hn⟩

/-- A part is among the distinct parts when it is among the parts. -/
theorem mem_distinct {parts : List String} {part : String} :
    part ∈ distinct parts ↔ part ∈ parts := by
  have h : ∀ seen, part ∈ parts.foldl addDistinct seen ↔ part ∈ seen ∨ part ∈ parts := by
    induction parts with
    | nil => simp
    | cons first rest ih =>
      intro seen
      rw [List.foldl_cons, ih, mem_addDistinct, List.mem_cons, or_assoc]
  simpa [distinct] using h []

/-- No part is repeated. -/
theorem nodup_distinct (parts : List String) : (distinct parts).Nodup := by
  have h : ∀ seen : List String, seen.Nodup → (parts.foldl addDistinct seen).Nodup := by
    induction parts with
    | nil => exact fun _ hs => hs
    | cons first rest ih => exact fun seen hs => ih _ (nodup_addDistinct hs first)
  exact h [] List.nodup_nil

end ProgramConnector.TypeScript
