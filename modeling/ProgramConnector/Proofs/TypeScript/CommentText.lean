import ProgramConnector.TypeScript.DocComment

/-!
# Comments stay open

A comment ends at a star with a slash behind it. Where two such characters meet in a text, a
backslash is put between them, so no line of a comment ends it.
-/

namespace ProgramConnector.TypeScript

open Text

/-- A text that ends a comment somewhere. -/
def EndsComment (text : List Char) : Prop := ['*', '/'] <:+: text

section EndsComment

variable {text part : List Char}

/-- A text that ends no comment has no part that does. -/
theorem not_endsComment_of_infix (h : ¬ EndsComment text) (hpart : part <:+: text) :
    ¬ EndsComment part := fun hends => h (hends.trans hpart)

/-- A character in front of a text ends a comment only when it is a star and the text starts with a
slash. -/
theorem endsComment_cons_iff {c : Char} : EndsComment (c :: text) ↔
    (c = '*' ∧ text.head? = some '/') ∨ EndsComment text := by
  rw [EndsComment, List.infix_cons_iff, List.cons_prefix_cons]
  cases text with
  | nil => simp [EndsComment]
  | cons d rest => simp [EndsComment, List.cons_prefix_cons, eq_comm]

end EndsComment

/-! ## The lines of a comment -/

/-- The first character is kept when the sequence that ends a comment is replaced. -/
theorem head?_replacePair (text : List Char) :
    (replacePair '*' '/' ['*', '\\', '/'] text).head? = text.head? := by
  match text with
  | [] => rfl
  | [c] => rfl
  | c :: d :: rest =>
    rw [replacePair]
    split
    · rename_i hpair
      rw [Bool.and_eq_true, beq_iff_eq] at hpair
      rw [hpair.1]
      rfl
    · rfl

/-- A text in which the sequence that ends a comment is replaced ends none. -/
theorem not_endsComment_replacePair (text : List Char) :
    ¬ EndsComment (replacePair '*' '/' ['*', '\\', '/'] text) := by
  induction text using replacePair.induct '*' '/' with
  | case1 => simp [replacePair, EndsComment]
  | case2 c =>
    rw [replacePair, endsComment_cons_iff]
    simp [EndsComment]
  | case3 c d rest hpair ih =>
    rw [replacePair, if_pos hpair]
    simp only [List.cons_append, List.nil_append, endsComment_cons_iff, List.head?_cons]
    simp [ih]
  | case4 c d rest hpair ih =>
    rw [replacePair, if_neg hpair, endsComment_cons_iff, head?_replacePair]
    rintro (⟨rfl, hhead⟩ | hends)
    · rw [List.head?_cons, Option.some.injEq] at hhead
      exact hpair (by simp [hhead])
    · exact ih hends

/-- The pieces of a text are parts of it, and the first one is in front. -/
theorem splitAt_parts (separator : Char) (text : List Char) : ∃ first pieces,
    splitAt separator text = first :: pieces ∧ first <+: text ∧
      ∀ piece ∈ pieces, piece <:+: text := by
  induction text with
  | nil => exact ⟨[], [], rfl, List.prefix_rfl, fun piece hp => absurd hp List.not_mem_nil⟩
  | cons c rest ih =>
    obtain ⟨first, pieces, heq, hfirst, hpieces⟩ := ih
    have hrest : rest <:+: c :: rest := (List.suffix_cons c rest).isInfix
    rw [splitAt]
    split
    · refine ⟨[], splitAt separator rest, rfl, List.nil_prefix, ?_⟩
      rw [heq, List.forall_mem_cons]
      exact ⟨hfirst.isInfix.trans hrest, fun piece hp => (hpieces piece hp).trans hrest⟩
    · rw [heq]
      exact ⟨c :: first, pieces, rfl, List.cons_prefix_cons.2 ⟨rfl, hfirst⟩,
        fun piece hp => (hpieces piece hp).trans hrest⟩

/-- A piece of a text is a part of it. -/
theorem infix_of_mem_splitAt {separator : Char} {text piece : List Char}
    (h : piece ∈ splitAt separator text) : piece <:+: text := by
  obtain ⟨first, pieces, heq, hfirst, hpieces⟩ := splitAt_parts separator text
  rw [heq] at h
  rcases List.mem_cons.1 h with rfl | h
  · exact hfirst.isInfix
  · exact hpieces piece h

/-- A line of a text is a part of it. -/
theorem infix_of_mem_lines {text line : List Char} (h : line ∈ lines text) : line <:+: text := by
  unfold lines at h
  dsimp only at h
  split at h
  · exact infix_of_mem_splitAt (List.dropLast_subset _ h)
  · exact infix_of_mem_splitAt h

/-- A text without the white space at its end is a part of it. -/
theorem infix_trimEnd (text : List Char) : trimEnd text <:+: text := by
  have hsuffix : text.reverse.dropWhile isBlank <:+ text.reverse := List.dropWhile_suffix _
  rw [← List.reverse_prefix, List.reverse_reverse] at hsuffix
  exact hsuffix.isInfix

/-- No line of a text that may stand in a comment ends it. -/
theorem not_endsComment_of_mem_commentLines {text : String} {line : List Char}
    (h : line ∈ commentLines text) : ¬ EndsComment line := by
  obtain ⟨whole, hwhole, rfl⟩ := List.mem_map.1 h
  exact not_endsComment_of_infix (not_endsComment_replacePair text.toList)
    ((infix_trimEnd whole).trans (infix_of_mem_lines hwhole))

end ProgramConnector.TypeScript
