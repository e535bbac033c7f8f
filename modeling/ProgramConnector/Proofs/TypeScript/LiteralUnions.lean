import ProgramConnector.Proofs.Json.Atoms
import ProgramConnector.Proofs.TypeScript.Scanning
import ProgramConnector.TypeScript.Compiler

/-!
# Unions of literals

A list of allowed values becomes a union of their literals. The union is split at the bars outside
of quotes into the literals, whatever the texts among them hold, and each literal is read back as
its value. A literal stands for one value only, so leaving out repeated literals leaves out repeated
values: what is read back are the values without repetitions, each at its first place.
-/

namespace ProgramConnector.TypeScript

/-! ## Pieces of a union -/

/-- A text in front of the first piece. -/
def inFront (front : List Char) : List (List Char) → List (List Char)
  | [] => [front]
  | piece :: pieces => (front ++ piece) :: pieces

/-- The pieces of a union, given whether it starts inside of quotes: it is split at every bar with
spaces around it that is outside of quotes. Inside of quotes the character behind a backslash does
not close them. -/
def unionPieces : Bool → List Char → List (List Char)
  | _, [] => [[]]
  | true, '\\' :: c :: rest => inFront ['\\', c] (unionPieces true rest)
  | true, c :: rest => inFront [c] (unionPieces (c != '"') rest)
  | false, ' ' :: '|' :: ' ' :: rest => [] :: unionPieces false rest
  | false, c :: rest => inFront [c] (unionPieces (c == '"') rest)

/-- Two texts in front make up one. -/
theorem inFront_inFront (front more : List Char) (pieces : List (List Char)) :
    inFront front (inFront more pieces) = inFront (front ++ more) pieces := by
  cases pieces with
  | nil => rfl
  | cons piece pieces => exact congrArg (· :: pieces) (List.append_assoc front more piece).symm

/-- A text in front makes a piece. -/
theorem inFront_ne_nil (front : List Char) (pieces : List (List Char)) :
    inFront front pieces ≠ [] := by
  cases pieces <;> exact List.cons_ne_nil _ _

/-- There is always a piece. -/
theorem unionPieces_ne_nil (quoted : Bool) (text : List Char) : unionPieces quoted text ≠ [] := by
  fun_cases unionPieces quoted text
  case case1 => exact List.cons_ne_nil _ _
  case case4 => exact List.cons_ne_nil _ _
  all_goals exact inFront_ne_nil _ _

/-- A text that is not split: with anything behind it, it is the start of the first piece. -/
def IsPiece (text : List Char) : Prop :=
  ∀ rest, unionPieces false (text ++ rest) = inFront text (unionPieces false rest)

/-- Texts that are not split are put together from such texts. -/
theorem isAdditive_isPiece : IsAdditive IsPiece where
  nil rest := by
    obtain ⟨piece, pieces, hpieces⟩ := List.exists_cons_of_ne_nil (unionPieces_ne_nil false rest)
    rw [List.nil_append, hpieces]
    rfl
  append {text more} h h' rest := by
    rw [List.append_assoc, h (more ++ rest), h' rest, inFront_inFront]

/-- A character without a meaning for unions is not split. -/
theorem isPiece_singleton {c : Char} (hspace : c ≠ ' ') (hquote : c ≠ '"') : IsPiece [c] := by
  intro rest
  rw [List.singleton_append, unionPieces.eq_5 c rest fun _ h => absurd h hspace,
    beq_false_of_ne hquote]

/-- A text without spaces and quotes is not split. -/
theorem isPiece_of_forall {text : List Char} (h : ∀ c ∈ text, c ≠ ' ' ∧ c ≠ '"') :
    IsPiece text := by
  induction text with
  | nil => exact isAdditive_isPiece.nil
  | cons c rest ih =>
    obtain ⟨hc, hrest⟩ := List.forall_mem_cons.1 h
    exact isAdditive_isPiece.append (isPiece_singleton hc.1 hc.2) (ih hrest)

/-! ## Literals -/

/-- Identifier characters are no spaces and no quotes. -/
theorem isPiece_of_isPlain {text : List Char} (h : Naming.IsPlain text) : IsPiece text := by
  refine isPiece_of_forall fun c hc => ⟨?_, ?_⟩ <;> rintro rfl <;> exact absurd (h _ hc) (by decide)

/-- A number is not split. -/
theorem isPiece_printNumber (value : Number) : IsPiece (Json.printNumber value) := by
  refine isPiece_of_forall fun c hc => ⟨?_, ?_⟩ <;> rintro rfl <;>
    exact absurd (isNumeral_printNumber value _ hc) (by decide)

/-- A character that stands for itself inside of quotes. -/
theorem unionPieces_quoted {c : Char} (hquote : c ≠ '"') (hslash : c ≠ '\\') (rest : List Char) :
    unionPieces true (c :: rest) = inFront [c] (unionPieces true rest) := by
  have hopen : (c != '"') = true := bne_iff_ne.2 hquote
  rw [unionPieces.eq_3 c rest fun _ _ h => absurd h hslash, hopen]

/-- An escaped character does not close the quotes. -/
theorem unionPieces_escapedChar (c : Char) (rest : List Char) :
    unionPieces true (Json.escapedChar c ++ rest) =
      inFront (Json.escapedChar c) (unionPieces true rest) := by
  have hdigit : ∀ n rest, unionPieces true (Json.hexDigit n :: rest) =
      inFront [Json.hexDigit n] (unionPieces true rest) :=
    fun n rest => unionPieces_quoted (Json.hexDigit_ne (by decide) n)
      (Json.hexDigit_ne (by decide) n) rest
  rcases Json.escapedChar_cases c with ⟨letter, -, -, heq⟩ | ⟨-, heq⟩ | ⟨hquote, hslash, -, heq⟩
  · rw [heq]
    exact unionPieces.eq_2 letter rest
  · rw [heq, List.cons_append, List.cons_append, unionPieces.eq_2, List.cons_append,
      unionPieces_quoted (by decide) (by decide), List.cons_append,
      unionPieces_quoted (by decide) (by decide), List.cons_append, hdigit, List.cons_append,
      hdigit, List.nil_append]
    simp only [inFront_inFront, List.cons_append, List.nil_append]
  · rw [heq]
    exact unionPieces_quoted hquote hslash rest

/-- Escaped characters do not close the quotes. -/
theorem unionPieces_flatMap_escapedChar (text rest : List Char) :
    unionPieces true (text.flatMap Json.escapedChar ++ rest) =
      inFront (text.flatMap Json.escapedChar) (unionPieces true rest) := by
  induction text with
  | nil =>
    obtain ⟨piece, pieces, hpieces⟩ := List.exists_cons_of_ne_nil (unionPieces_ne_nil true rest)
    rw [List.flatMap_nil, List.nil_append, hpieces]
    rfl
  | cons c text ih =>
    rw [List.flatMap_cons, List.append_assoc, unionPieces_escapedChar, ih, inFront_inFront]

/-- A printed text is not split, whatever it holds. -/
theorem isPiece_printText (text : List Char) : IsPiece (Json.printText text) := by
  intro rest
  have hclose : unionPieces true ('"' :: rest) = inFront ['"'] (unionPieces false rest) :=
    unionPieces.eq_3 '"' rest fun _ _ h => absurd h (by decide)
  have hopen : ∀ more, unionPieces false ('"' :: more) = inFront ['"'] (unionPieces true more) :=
    fun more => unionPieces.eq_5 '"' more fun _ h => absurd h (by decide)
  rw [Json.printText, List.cons_append, List.cons_append, List.append_assoc, List.singleton_append,
    hopen, unionPieces_flatMap_escapedChar, hclose, inFront_inFront, inFront_inFront]
  rfl

/-- An atom is its own literal. -/
theorem literal_of_isAtom {value : Json} (h : value.IsAtom) (any : String) :
    literal any value = value.toText := by
  cases h <;> rfl

/-- The literal of an atom is not split. -/
theorem isPiece_toText {value : Json} (h : value.IsAtom) : IsPiece value.toText.toList := by
  rw [← literal_of_isAtom h ""]
  exact literal_of_parts isAdditive_isPiece.nil (fun _ => isPiece_of_isPlain) isPiece_printNumber
    isPiece_printText value

/-- A union of texts that are not split is split into these texts. -/
theorem unionPieces_intercalate {parts : List String} (hne : parts ≠ [])
    (h : ∀ part ∈ parts, IsPiece part.toList) :
    unionPieces false (" | ".intercalate parts).toList = parts.map String.toList := by
  induction parts with
  | nil => exact absurd rfl hne
  | cons part rest ih =>
    obtain ⟨hpart, hrest⟩ := List.forall_mem_cons.1 h
    cases rest with
    | nil =>
      have hread := hpart []
      rw [List.append_nil] at hread
      rw [String.intercalate_singleton, hread]
      exact congrArg (· :: []) (List.append_nil part.toList)
    | cons other rest =>
      have hbar : ∀ more, unionPieces false (" | ".toList ++ more) = [] :: unionPieces false more :=
        unionPieces.eq_4
      rw [String.intercalate_cons_cons, String.toList_append, String.toList_append,
        List.append_assoc, hpart, hbar, ih (List.cons_ne_nil _ _) hrest]
      exact congrArg (· :: _) (List.append_nil part.toList)

/-! ## Repetitions -/

/-- Adding parts to distinct ones adds those that are new, without repetitions. -/
theorem foldl_addDistinct (parts seen : List String) :
    parts.foldl addDistinct seen =
      seen ++ (parts.filter fun part => !seen.contains part).eraseDups := by
  induction parts generalizing seen with
  | nil => simp
  | cons part rest ih =>
    rw [List.foldl_cons, ih, addDistinct]
    by_cases hseen : part ∈ seen
    · rw [if_pos (by simpa using hseen), List.filter_cons_of_neg (by simpa using hseen)]
    · rw [if_neg (by simpa using hseen), List.filter_cons_of_pos (by simpa using hseen),
        List.eraseDups_cons, List.filter_filter, List.append_assoc, List.singleton_append]
      congr 4
      funext other
      by_cases hother : other = part <;> simp [hother]

/-- Distinct parts are the parts without repetitions, each at its first place. -/
theorem distinct_eq_eraseDups (parts : List String) : distinct parts = parts.eraseDups := by
  rw [distinct, foldl_addDistinct]
  simp

/-- Images that agree where values are alike have repetitions where the values have. -/
theorem eraseDups_map {alike : Json → Json → Bool} {f : Json → String} {values : List Json}
    (h : ∀ value ∈ values, ∀ other ∈ values, (f value == f other) = alike value other) :
    (values.map f).eraseDups = (values.eraseDupsBy alike).map f := by
  match values with
  | [] => rfl
  | value :: rest =>
    have hfilter : (rest.map f).filter (fun image => !image == f value) =
        (rest.filter fun other => decide (alike other value = false)).map f := by
      rw [List.filter_map]
      refine congrArg (List.map f) (List.filter_congr fun other ho => ?_)
      have hother := h other (List.mem_cons_of_mem _ ho) value List.mem_cons_self
      rw [Function.comp_apply, hother]
      cases alike other value <;> rfl
    rw [List.map_cons, List.eraseDups_cons, List.eraseDupsBy_cons, List.map_cons, hfilter]
    refine congrArg (f value :: ·) (eraseDups_map fun a ha b hb => ?_)
    exact h a (List.mem_cons_of_mem _ (List.mem_filter.1 ha).1) b
      (List.mem_cons_of_mem _ (List.mem_filter.1 hb).1)
termination_by values.length
decreasing_by exact Nat.lt_succ_of_le (List.length_filter_le _ _)

/-- Distinct literals are the literals of the atoms without repetitions. -/
theorem distinct_literals {values : List Json} (h : ∀ value ∈ values, value.IsAtom)
    (any : String) : distinct (values.map (literal any)) =
      (values.eraseDupsBy Json.same).map Json.toText := by
  have htexts : values.map (literal any) = values.map Json.toText :=
    List.map_congr_left fun value hv => literal_of_isAtom (h value hv) any
  rw [htexts, distinct_eq_eraseDups]
  refine eraseDups_map fun value hv other ho => Bool.eq_iff_iff.2 ?_
  rw [(h value hv).same_eq_true_iff (h other ho), beq_iff_eq]
  exact ⟨(h value hv).eq_of_toText (h other ho), congrArg Json.toText⟩

/-- What is left without repetitions is among the values. -/
theorem mem_of_mem_eraseDupsBy {alike : Json → Json → Bool} {values : List Json} {value : Json}
    (h : value ∈ values.eraseDupsBy alike) : value ∈ values := by
  match values with
  | [] => exact h
  | first :: rest =>
    rw [List.eraseDupsBy_cons] at h
    rcases List.mem_cons.1 h with rfl | h
    · exact List.mem_cons_self
    · exact List.mem_cons_of_mem _ (List.mem_filter.1 (mem_of_mem_eraseDupsBy h)).1
termination_by values.length
decreasing_by exact Nat.lt_succ_of_le (List.length_filter_le _ _)

/-! ## Lists of allowed values -/

/-- The document that a piece is read as. -/
def readPiece (piece : List Char) : Except Problem Json := Json.ofText (String.ofList piece)

/-- The expression of a list of allowed values that are atoms is a union, and its pieces are read
back as exactly these values without repetitions, each at its first place. -/
theorem readPieces_of_enumeration (setting : Setting) (below : Below) (level : Nat)
    (facts : SchemaFacts) (properties : Properties) (items : Items) (extra : Extra)
    (values : List Json) (hreference : facts.keyword? "$ref" = none)
    (hconstant : facts.keyword? "const" = none)
    (hvalues : facts.keyword? "enum" = some (.arr values)) (hne : values ≠ [])
    (hatoms : ∀ value ∈ values, value.IsAtom) (block : Block) : ∃ union : String,
      (inlineExpression setting below level facts properties items extra).run block =
        .ok (union, block) ∧
      (unionPieces false union.toList).map readPiece =
        (values.eraseDupsBy Json.same).map Except.ok := by
  obtain ⟨first, rest, rfl⟩ := List.exists_cons_of_ne_nil hne
  refine ⟨" | ".intercalate (distinct ((first :: rest).map (literal setting.profile.types.any))),
    ?_, ?_⟩
  · unfold inlineExpression
    rw [hreference, hconstant, hvalues]
    rfl
  · have hleft : (first :: rest).eraseDupsBy Json.same ≠ [] := by
      rw [List.eraseDupsBy_cons]
      exact List.cons_ne_nil _ _
    have hatom : ∀ value ∈ (first :: rest).eraseDupsBy Json.same, value.IsAtom :=
      fun value hv => hatoms value (mem_of_mem_eraseDupsBy hv)
    rw [distinct_literals hatoms, unionPieces_intercalate (by simpa using hleft)
      (List.forall_mem_map.2 fun value hv => isPiece_toText (hatom value hv)), List.map_map,
      List.map_map]
    refine List.map_congr_left fun value hv => ?_
    rw [Function.comp_apply, Function.comp_apply, readPiece, String.ofList_toList,
      (hatom value hv).ofText_toText]

/-- Values of every kind, with a bar and quotes inside of a text, and one of them repeated. -/
def mixedValues : List Json :=
  [.str "a | \"b\\", .num (.whole 1), .str "1", .null, .num (.whole 1), .bool true, .str "null",
    .num (.whole (-9223372036854775808))]

/-- The facts of a schema that lists these values. -/
def mixedFacts : SchemaFacts := ⟨none, none, [("enum", .arr mixedValues)]⟩

/-- All of these values are read back, and the repeated one is read once. -/
theorem readPieces_of_enumeration_mixed : mixedFacts.keyword? "$ref" = none ∧
    mixedFacts.keyword? "const" = none ∧ mixedFacts.keyword? "enum" = some (.arr mixedValues) ∧
    mixedValues ≠ [] ∧ (∀ value ∈ mixedValues, value.IsAtom) ∧ ∃ union : String,
      (inlineExpression ⟨{}, "Root", .null⟩ ⟨fun _ _ => throw .exhausted, fun _ => throw .exhausted⟩
        0 mixedFacts .absent .absent .absent).run (Block.start "Root" none) =
        .ok (union, Block.start "Root" none) ∧
      (unionPieces false union.toList).map readPiece =
        [.ok (.str "a | \"b\\"), .ok (.num (.whole 1)), .ok (.str "1"), .ok .null,
          .ok (.bool true), .ok (.str "null"), .ok (.num (.whole (-9223372036854775808)))] := by
  have hatoms : ∀ value ∈ mixedValues, value.IsAtom := by
    simp only [mixedValues, List.forall_mem_cons]
    exact ⟨.str _, .whole (by decide) (by decide), .str _, .null, .whole (by decide) (by decide),
      .bool _, .str _, .whole (by decide) (by decide), fun _ h => absurd h List.not_mem_nil⟩
  obtain ⟨union, hrun, hread⟩ := readPieces_of_enumeration ⟨{}, "Root", .null⟩
    ⟨fun _ _ => throw .exhausted, fun _ => throw .exhausted⟩ 0 mixedFacts .absent .absent .absent
    mixedValues rfl rfl rfl (List.cons_ne_nil _ _) hatoms (Block.start "Root" none)
  exact ⟨rfl, rfl, rfl, List.cons_ne_nil _ _, hatoms, union, hrun, hread⟩

end ProgramConnector.TypeScript
