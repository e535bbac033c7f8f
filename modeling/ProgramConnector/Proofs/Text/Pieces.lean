import Mathlib.Data.List.Basic
import ProgramConnector.Text.Lines

/-!
# Pieces and lines

A text that is split at a separator is put together again from its pieces, and two texts with the
separator between them are split apart. The lines of a text are its pieces at line feeds, without an
empty last one, and breaking a pair of characters up leaves the lines apart.
-/

namespace ProgramConnector.Text

/-! ## Pieces -/

/-- The last of the pieces that a text is put together from are its end. -/
theorem suffix_intercalate (separator : List Char) (front : List (List Char))
    {last : List (List Char)} (h : last ≠ []) :
    List.intercalate separator last <:+ List.intercalate separator (front ++ last) := by
  induction front with
  | nil => exact List.suffix_refl _
  | cons piece front ih =>
    have hmore : front ++ last ≠ [] := List.append_ne_nil_of_right_ne_nil front h
    obtain ⟨next, more, hne⟩ := List.exists_cons_of_ne_nil hmore
    rw [List.cons_append, hne, List.intercalate_cons_cons, ← hne]
    exact List.suffix_append_of_suffix ih

/-- The first of the pieces that a text is put together from are its start. -/
theorem prefix_intercalate (separator : List Char) (front more : List (List Char)) :
    List.intercalate separator front <+: List.intercalate separator (front ++ more) := by
  induction front with
  | nil => exact List.nil_prefix
  | cons piece front ih =>
    cases front with
    | nil =>
      cases more with
      | nil => exact List.prefix_refl _
      | cons next more =>
        rw [List.intercalate_singleton, List.singleton_append, List.intercalate_cons_cons,
          List.append_assoc]
        exact List.prefix_append _ _
    | cons next front =>
      rw [List.cons_append, List.cons_append, List.intercalate_cons_cons,
        List.intercalate_cons_cons]
      exact List.prefix_append_right_inj _ |>.2 ih

/-- A character of a text that is put together from pieces is in the separator or in a piece. -/
theorem mem_of_mem_intercalate {separator : List Char} {pieces : List (List Char)} {c : Char}
    (h : c ∈ List.intercalate separator pieces) : c ∈ separator ∨ ∃ piece ∈ pieces, c ∈ piece := by
  induction pieces with
  | nil => exact absurd h List.not_mem_nil
  | cons piece rest ih =>
    cases rest with
    | nil =>
      rw [List.intercalate_singleton] at h
      exact .inr ⟨piece, List.mem_cons_self, h⟩
    | cons next more =>
      rw [List.intercalate_cons_cons, List.mem_append, List.mem_append] at h
      rcases h with (h | h) | h
      · exact .inr ⟨piece, List.mem_cons_self, h⟩
      · exact .inl h
      · exact (ih h).imp_right fun ⟨other, ho, hc⟩ => ⟨other, List.mem_cons_of_mem _ ho, hc⟩

/-- A text without the separator is one piece. -/
theorem splitAt_of_not_mem {separator : Char} {text : List Char} (h : separator ∉ text) :
    splitAt separator text = [text] := by
  induction text with
  | nil => rfl
  | cons c rest ih =>
    obtain ⟨hc, hrest⟩ := not_or.1 (List.mem_cons.not.1 h)
    rw [splitAt, if_neg (by simpa using Ne.symm hc), ih hrest]

/-- The pieces on both sides of a separator are split apart from each other. -/
theorem splitAt_append_cons (separator : Char) (front behind : List Char) :
    splitAt separator (front ++ separator :: behind) =
      splitAt separator front ++ splitAt separator behind := by
  induction front with
  | nil => simp [splitAt]
  | cons c front ih =>
    rw [List.cons_append, splitAt, splitAt, ih]
    by_cases hc : c = separator
    · simp [hc]
    · obtain ⟨piece, pieces, hpieces⟩ := List.exists_cons_of_ne_nil (splitAt_ne_nil separator front)
      simp [hc, hpieces]

/-- Pieces without the separator are split apart again. -/
theorem splitAt_intercalate {separator : Char} {pieces : List (List Char)} (hne : pieces ≠ [])
    (h : ∀ piece ∈ pieces, separator ∉ piece) :
    splitAt separator (List.intercalate [separator] pieces) = pieces := by
  induction pieces with
  | nil => exact absurd rfl hne
  | cons piece rest ih =>
    obtain ⟨hpiece, hrest⟩ := List.forall_mem_cons.1 h
    cases rest with
    | nil => rw [List.intercalate_singleton, splitAt_of_not_mem hpiece]
    | cons next more =>
      rw [List.intercalate_cons_cons, List.append_assoc, List.singleton_append,
        splitAt_append_cons, splitAt_of_not_mem hpiece, ih (List.cons_ne_nil next more) hrest]
      rfl

/-- A text without the separator goes on with the last piece in front of it. -/
theorem splitAt_append_of_not_mem {separator : Char} (front : List Char) {behind : List Char}
    (h : separator ∉ behind) : ∃ pieces last, splitAt separator front = pieces ++ [last] ∧
      splitAt separator (front ++ behind) = pieces ++ [last ++ behind] := by
  induction front with
  | nil => exact ⟨[], [], rfl, splitAt_of_not_mem h⟩
  | cons c front ih =>
    obtain ⟨pieces, last, hfront, hall⟩ := ih
    rw [List.cons_append, splitAt, splitAt, hfront, hall]
    split
    · exact ⟨[] :: pieces, last, rfl, rfl⟩
    · cases pieces with
      | nil => exact ⟨[], c :: last, rfl, rfl⟩
      | cons piece pieces => exact ⟨(c :: piece) :: pieces, last, rfl, rfl⟩

/-- What stands in front of a text goes with its first piece. -/
theorem splitAt_append_of_not_mem_front {separator : Char} {front : List Char}
    (h : separator ∉ front) {behind piece : List Char} {pieces : List (List Char)}
    (hbehind : splitAt separator behind = piece :: pieces) :
    splitAt separator (front ++ behind) = (front ++ piece) :: pieces := by
  induction front with
  | nil => exact hbehind
  | cons c front ih =>
    obtain ⟨hc, hfront⟩ := not_or.1 (List.mem_cons.not.1 h)
    rw [List.cons_append, splitAt, if_neg (by simpa using Ne.symm hc), ih hfront]
    rfl

/-! ## Lines -/

/-- The lines on both sides of a line feed are those in front and those behind. -/
theorem lines_append_cons (front behind : List Char) :
    lines (front ++ '\n' :: behind) = splitAt '\n' front ++ lines behind := by
  have hne := splitAt_ne_nil '\n' behind
  unfold lines
  rw [splitAt_append_cons]
  dsimp only
  rw [List.getLast?_append_of_ne_nil _ hne, List.dropLast_append_of_ne_nil hne]
  split <;> rfl

/-- A line with its line feed comes in front of the other lines. -/
theorem lines_line {line : List Char} (h : '\n' ∉ line) (behind : List Char) :
    lines (line ++ '\n' :: behind) = line :: lines behind := by
  rw [lines_append_cons, splitAt_of_not_mem h]
  rfl

/-- A text that does not end with a line feed has all its pieces for lines. -/
theorem lines_append_of_not_mem {front behind : List Char} (h : '\n' ∉ behind)
    (hne : behind ≠ []) : lines (front ++ behind) = splitAt '\n' (front ++ behind) := by
  obtain ⟨pieces, last, -, hall⟩ := splitAt_append_of_not_mem front h
  unfold lines
  rw [hall]
  dsimp only
  rw [List.getLast?_concat, if_neg]
  simp [hne]

/-- A line holds no line feed. -/
theorem not_mem_of_mem_lines {text line : List Char} (h : line ∈ lines text) : '\n' ∉ line := by
  unfold lines at h
  dsimp only at h
  split at h
  · exact not_mem_of_mem_splitAt (List.dropLast_subset _ h)
  · exact not_mem_of_mem_splitAt h

/-- A text that is not empty has a line. -/
theorem lines_ne_nil {text : List Char} (h : text ≠ []) : lines text ≠ [] := by
  intro hnil
  have hpieces := splitAt_ne_nil '\n' text
  have htext := intercalate_splitAt '\n' text
  unfold lines at hnil
  generalize splitAt '\n' text = pieces at hnil hpieces htext
  dsimp only at hnil
  split at hnil
  · rename_i hlast
    obtain ⟨last, rfl⟩ : ∃ last, pieces = [last] := by
      cases pieces with
      | nil => exact absurd rfl hpieces
      | cons piece rest =>
        cases rest with
        | nil => exact ⟨piece, rfl⟩
        | cons other rest => exact nomatch hnil
    rw [List.getLast?_singleton, beq_iff_eq, Option.some.injEq] at hlast
    rw [hlast, List.intercalate_singleton] at htext
    exact h htext.symm
  · exact hpieces hnil

/-! ## Replaced pairs -/

section Pairs

variable {first second : Char} {replacement : List Char}

/-- A pair that is replaced leaves nothing only of nothing. -/
theorem replacePair_eq_nil_iff (hne : replacement ≠ []) {text : List Char} :
    replacePair first second replacement text = [] ↔ text = [] := by
  match text with
  | [] => simp [replacePair]
  | [c] => simp [replacePair]
  | c :: d :: rest =>
    rw [replacePair]
    split <;> simp [hne]

/-- A pair in which there is no separator, with a replacement in which there is none, is replaced
piece by piece. -/
theorem splitAt_replacePair {separator : Char} (hfirst : first ≠ separator)
    (hsecond : second ≠ separator) (hreplacement : separator ∉ replacement) (text : List Char) :
    splitAt separator (replacePair first second replacement text) =
      (splitAt separator text).map (replacePair first second replacement) := by
  induction text using replacePair.induct first second with
  | case1 => rfl
  | case2 c =>
    rw [replacePair, splitAt]
    split <;> rfl
  | case3 c d rest hpair ih =>
    obtain ⟨piece, pieces, hpieces⟩ := List.exists_cons_of_ne_nil (splitAt_ne_nil separator rest)
    rw [hpieces, List.map_cons] at ih
    have hpair' := hpair
    rw [Bool.and_eq_true, beq_iff_eq, beq_iff_eq] at hpair'
    have hfront : separator ∉ [c, d] := by
      simp [hpair'.1, hpair'.2, hfirst.symm, hsecond.symm]
    have htext : splitAt separator (c :: d :: rest) = (c :: d :: piece) :: pieces :=
      splitAt_append_of_not_mem_front hfront hpieces
    rw [replacePair, if_pos hpair, splitAt_append_of_not_mem_front hreplacement ih, htext,
      List.map_cons, replacePair, if_pos hpair]
  | case4 c d rest hpair ih =>
    obtain ⟨piece, pieces, hpieces⟩ :=
      List.exists_cons_of_ne_nil (splitAt_ne_nil separator (d :: rest))
    rw [replacePair, if_neg hpair, splitAt, splitAt, ih, hpieces]
    split
    · rfl
    · -- Of the first piece of the rest, the first character is that of the rest, if any.
      have hpiece : piece = [] ∨ ∃ more, piece = d :: more := by
        rw [splitAt] at hpieces
        split at hpieces
        · exact .inl (List.cons.inj hpieces).1.symm
        · split at hpieces
          · exact .inr ⟨_, (List.cons.inj hpieces).1.symm⟩
          · exact .inr ⟨[], (List.cons.inj hpieces).1.symm⟩
      rcases hpiece with rfl | ⟨more, rfl⟩
      · rfl
      · rw [List.map_cons, List.map_cons, replacePair, if_neg hpair]

/-- A pair without line feeds, with a replacement without any, is replaced line by line. -/
theorem lines_replacePair (hfirst : first ≠ '\n') (hsecond : second ≠ '\n')
    (hreplacement : '\n' ∉ replacement) (hne : replacement ≠ []) (text : List Char) :
    lines (replacePair first second replacement text) =
      (lines text).map (replacePair first second replacement) := by
  unfold lines
  rw [splitAt_replacePair hfirst hsecond hreplacement]
  dsimp only
  have hlast : ((splitAt '\n' text).map (replacePair first second replacement)).getLast? ==
      some [] ↔ (splitAt '\n' text).getLast? == some [] := by
    rw [List.getLast?_map, beq_iff_eq, beq_iff_eq, Option.map_eq_some_iff]
    simp [replacePair_eq_nil_iff hne]
  by_cases h : (splitAt '\n' text).getLast? == some []
  · rw [if_pos h, if_pos (hlast.2 h), List.map_dropLast]
  · rw [if_neg h, if_neg fun hmap => h (hlast.1 hmap)]

end Pairs

end ProgramConnector.Text
