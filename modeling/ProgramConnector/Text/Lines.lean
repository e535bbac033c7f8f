import ProgramConnector.Text.Classes

/-!
# Lines of a text

Splitting a text at a character, trimming, and replacing one piece of text by another. All of it
works on lists of characters, left to right. The pieces of a split text hold no separator, and with
separators between them they are the text again.
-/

namespace ProgramConnector.Text

/-- The pieces of a text between occurrences of `separator`, in order; there is always one. -/
def splitAt (separator : Char) : List Char → List (List Char)
  | [] => [[]]
  | c :: rest =>
    if c == separator then [] :: splitAt separator rest
    else
      match splitAt separator rest with
      | piece :: pieces => (c :: piece) :: pieces
      | [] => [[c]]

/-- There is always a piece. -/
theorem splitAt_ne_nil (separator : Char) (text : List Char) : splitAt separator text ≠ [] := by
  induction text with
  | nil => simp [splitAt]
  | cons c rest ih =>
    unfold splitAt
    split
    · simp
    · split <;> simp_all

/-- The pieces of a text with the separator between them are the text. -/
theorem intercalate_splitAt (separator : Char) (text : List Char) :
    List.intercalate [separator] (splitAt separator text) = text := by
  induction text with
  | nil => rfl
  | cons c rest ih =>
    obtain ⟨piece, pieces, hp⟩ := List.exists_cons_of_ne_nil (splitAt_ne_nil separator rest)
    rw [hp] at ih
    by_cases h : c = separator
    · subst h
      simp only [splitAt, beq_self_eq_true, if_true, hp]
      rw [← ih]
      rfl
    · have hc : (c == separator) = false := by simp [h]
      simp only [splitAt, hc, hp, Bool.false_eq_true, if_false]
      cases pieces with
      | nil => simpa [List.intercalate] using ih
      | cons next more => simpa [List.intercalate] using ih

/-- No piece holds the separator. -/
theorem not_mem_of_mem_splitAt {separator : Char} {text piece : List Char}
    (h : piece ∈ splitAt separator text) : separator ∉ piece := by
  induction text generalizing piece with
  | nil => simp_all [splitAt]
  | cons c rest ih =>
    obtain ⟨first, pieces, hp⟩ := List.exists_cons_of_ne_nil (splitAt_ne_nil separator rest)
    rw [hp] at ih
    by_cases hc : c = separator
    · subst hc
      simp only [splitAt, beq_self_eq_true, if_true, hp] at h
      rcases List.mem_cons.1 h with rfl | h
      · exact List.not_mem_nil
      · exact ih h
    · have hb : (c == separator) = false := by simp [hc]
      simp only [splitAt, hb, hp, Bool.false_eq_true, if_false] at h
      rcases List.mem_cons.1 h with rfl | h
      · have hf := ih List.mem_cons_self
        simp [hf, Ne.symm hc]
      · exact ih (List.mem_cons_of_mem _ h)

/-- The lines of a text: what line feeds separate, without an empty last line. -/
def lines (text : List Char) : List (List Char) :=
  let pieces := splitAt '\n' text
  if pieces.getLast? == some [] then pieces.dropLast else pieces

/-- A text without the white space at its end. -/
def trimEnd (text : List Char) : List Char :=
  (text.reverse.dropWhile isBlank).reverse

/-- Every occurrence of the two characters `first second` replaced by `replacement`, from left to
right and without overlaps. -/
def replacePair (first second : Char) (replacement : List Char) : List Char → List Char
  | [] => []
  | [c] => [c]
  | c :: d :: rest =>
    if c == first && d == second then replacement ++ replacePair first second replacement rest
    else c :: replacePair first second replacement (d :: rest)

end ProgramConnector.Text
