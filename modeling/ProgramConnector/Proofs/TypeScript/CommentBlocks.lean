import Mathlib.Data.List.TakeWhile
import ProgramConnector.Proofs.Text.Pieces
import ProgramConnector.Proofs.TypeScript.CommentText

/-!
# Blocks of comments

A comment is closed once, by its last line, whatever its text is: neither the lines of the text nor
the places where lines meet close it before. Behind the margin it has one line per line of the text,
in order.
-/

namespace ProgramConnector.TypeScript

open Text

/-! ## Closing a comment -/

/-- The sequence that ends a comment stands in a text in one place, in front of the last line
feed. -/
def ClosesOnce (text : List Char) : Prop :=
  ∃ body, ∀ before behind, text = before ++ '*' :: '/' :: behind ↔ before = body ∧ behind = ['\n']

section Closing

variable {text more body : List Char}

/-- A text that ends no comment goes on with a line feed and another one. -/
theorem not_endsComment_append (h : ¬EndsComment text) (hmore : ¬EndsComment more) :
    ¬EndsComment (text ++ '\n' :: more) := by
  induction text with
  | nil =>
    rw [List.nil_append, endsComment_cons_iff]
    simpa using hmore
  | cons c rest ih =>
    rw [endsComment_cons_iff, not_or] at h
    rw [List.cons_append, endsComment_cons_iff, not_or]
    refine ⟨?_, ih h.2⟩
    cases rest with
    | nil => simp
    | cons d rest => exact h.1

/-- A text without stars in front of one that ends no comment. -/
theorem not_endsComment_append_of_not_mem (h : '*' ∉ text) (hmore : ¬EndsComment more) :
    ¬EndsComment (text ++ more) := by
  induction text with
  | nil => exact hmore
  | cons c rest ih =>
    obtain ⟨hc, hrest⟩ := not_or.1 (List.mem_cons.not.1 h)
    rw [List.cons_append, endsComment_cons_iff, not_or]
    exact ⟨fun hstar => hc hstar.1.symm, ih hrest⟩

/-- A body in front of the closing sequence in which nothing ends a comment makes a text that is
closed once. -/
theorem closesOnce_of_not_endsComment (h : ¬EndsComment (body ++ ['*'])) :
    ClosesOnce (body ++ ['*', '/', '\n']) := by
  refine ⟨body, fun before behind => ⟨fun heq => ?_, ?_⟩⟩
  · rcases List.append_eq_append_iff.1 heq with ⟨between, rfl, hrest⟩ | ⟨between, hbody, hrest⟩
    · -- The other place cannot be behind the start of the closing sequence.
      rcases between with _ | ⟨a, _ | ⟨b, _ | ⟨c, between⟩⟩⟩
      · exact ⟨List.append_nil body, (List.cons.inj (List.cons.inj hrest).2).2.symm⟩
      · exact absurd (List.cons.inj (List.cons.inj hrest).2).1 (by decide)
      · exact absurd (List.cons.inj (List.cons.inj (List.cons.inj hrest).2).2).1 (by decide)
      · simp at hrest
    · -- Nor can it be in the body.
      rcases between with _ | ⟨a, _ | ⟨b, between⟩⟩
      · exact ⟨(hbody.trans (List.append_nil before)).symm,
          (List.cons.inj (List.cons.inj hrest).2).2⟩
      · exact absurd (List.cons.inj (List.cons.inj hrest).2).1 (by decide)
      · obtain ⟨ha, hrest⟩ := List.cons.inj hrest
        obtain ⟨hb, -⟩ := List.cons.inj hrest
        refine absurd ⟨before, between ++ ['*'], ?_⟩ h
        rw [hbody, ← ha, ← hb]
        simp
  · rintro ⟨rfl, rfl⟩
    rfl

/-- White space. -/
def IsBlankText (text : List Char) : Prop := ∀ c ∈ text, isBlank c = true

/-- Nothing is white space. -/
theorem isBlankText_nil : IsBlankText [] := fun _ hc => absurd hc List.not_mem_nil

/-- A text can be checked for white space. -/
theorem isBlankText_of_all (h : text.all isBlank = true) : IsBlankText text :=
  List.all_eq_true.1 h

/-- A line feed is white space. -/
theorem isBlankText_lineFeed : IsBlankText ['\n'] := isBlankText_of_all (by decide)

/-- White space goes on with white space. -/
theorem IsBlankText.append (h : IsBlankText text) (hmore : IsBlankText more) :
    IsBlankText (text ++ more) :=
  fun c hc => (List.mem_append.1 hc).elim (h c) (hmore c)

/-- White space has no stars. -/
theorem IsBlankText.not_mem (h : IsBlankText text) : '*' ∉ text :=
  fun hstar => absurd (h '*' hstar) (by decide)

/-- What stands behind the star of the margin in the line of a comment. -/
def marginText (line : List Char) : List Char := if line.isEmpty then [] else ' ' :: line

/-- What stands behind the star is in the line of the text. -/
theorem not_mem_marginText {line : List Char} (h : '\n' ∉ line) : '\n' ∉ marginText line := by
  unfold marginText
  split
  · exact List.not_mem_nil
  · simpa using h

/-- A line of a comment is its margin and what stands behind it. -/
theorem toList_commentLine (pad : String) (line : List Char) : (commentLine pad line).toList =
    (pad.toList ++ ' ' :: '*' :: marginText line) ++ ['\n'] := by
  unfold commentLine marginText
  cases line with
  | nil =>
    simp only [List.isEmpty_nil, if_true, String.toList_append, List.append_assoc]
    rfl
  | cons c rest =>
    simp only [List.isEmpty_cons, Bool.false_eq_true, if_false, String.toList_append,
      String.toList_ofList, List.append_assoc]
    rfl

/-- What stands in a comment between its opening and the sequence that ends it. -/
def commentBody (pad : String) (shown : List (List Char)) : List Char :=
  '\n' :: (shown.flatMap (fun line => (commentLine pad line).toList) ++ (pad.toList ++ [' ']))

/-- A comment is its opening, its body and its closing. -/
theorem toList_commentBlock (pad : String) (shown : List (List Char)) :
    (commentBlock pad shown).toList =
      pad.toList ++ (['/', '*', '*'] ++ (commentBody pad shown ++ ['*', '/', '\n'])) := by
  unfold commentBlock commentBody
  simp only [String.toList_append, String.toList_join, List.flatMap_map, List.append_assoc,
    List.cons_append]
  rfl

variable {pad : String} {shown : List (List Char)}

/-- Lines that end no comment end none up to the slash that closes it. -/
theorem not_endsComment_commentLines (hpad : '*' ∉ pad.toList)
    (h : ∀ line ∈ shown, ¬EndsComment line) :
    ¬EndsComment (shown.flatMap (fun line => (commentLine pad line).toList) ++
      (pad.toList ++ [' ', '*'])) := by
  induction shown with
  | nil =>
    have hclosing : ¬EndsComment [' ', '*'] := by
      unfold EndsComment
      decide
    rw [List.flatMap_nil, List.nil_append]
    exact not_endsComment_append_of_not_mem hpad hclosing
  | cons line rest ih =>
    obtain ⟨hline, hrest⟩ := List.forall_mem_cons.1 h
    have hstar : ¬EndsComment ('*' :: marginText line) := by
      unfold marginText
      split
      · exact fun hends => absurd hends.length_le (by simp)
      · simpa [endsComment_cons_iff] using hline
    have hspace : ¬EndsComment ([' '] ++ '*' :: marginText line) :=
      not_endsComment_append_of_not_mem (by decide) hstar
    rw [List.flatMap_cons, toList_commentLine, List.append_assoc, List.append_assoc]
    exact not_endsComment_append (not_endsComment_append_of_not_mem hpad hspace) (ih hrest)

/-- The body of a comment of lines that do not end it ends none, up to the slash behind it. -/
theorem not_endsComment_commentBody (hpad : '*' ∉ pad.toList)
    (h : ∀ line ∈ shown, ¬EndsComment line) : ¬EndsComment (commentBody pad shown ++ ['*']) := by
  have hfeed : '*' ∉ ['\n'] := by decide
  have hbody := not_endsComment_append_of_not_mem hfeed (not_endsComment_commentLines hpad h)
  unfold commentBody
  simpa using hbody

/-- A comment of lines that do not end it is closed once. -/
theorem closesOnce_commentBlock (hpad : '*' ∉ pad.toList)
    (h : ∀ line ∈ shown, ¬EndsComment line) : ClosesOnce (commentBlock pad shown).toList := by
  have hopening : ¬EndsComment (pad.toList ++ ['/', '*', '*']) := by
    refine not_endsComment_append_of_not_mem hpad ?_
    unfold EndsComment
    decide
  have hbody := not_endsComment_append hopening (not_endsComment_commentLines hpad h)
  have htext : (commentBlock pad shown).toList =
      (pad.toList ++ (['/', '*', '*'] ++ commentBody pad shown)) ++ ['*', '/', '\n'] := by
    rw [toList_commentBlock]
    simp only [List.append_assoc]
  rw [htext]
  refine closesOnce_of_not_endsComment ?_
  unfold commentBody
  simpa using hbody

end Closing

/-! ## The lines of a comment -/

/-- What stands behind the margin in a line: white space up to a space, and then a star. -/
def behindMargin? (line : List Char) : Option (List Char) :=
  match (line.takeWhile isBlank).getLast?, line.dropWhile isBlank with
  | some ' ', '*' :: rest => some rest
  | _, _ => none

/-- What stands behind the margin in the lines of a text that have one. -/
def marginTexts (text : List Char) : List (List Char) := (lines text).filterMap behindMargin?

section Margins

variable {blank front behind : List Char}

/-- White space and a star are a margin when a space comes last. -/
theorem behindMargin?_margin (h : IsBlankText blank) (behind : List Char) :
    behindMargin? (blank ++ ' ' :: '*' :: behind) = some behind := by
  have hspace : isBlank ' ' = true := by decide
  have hstar : isBlank '*' = false := by decide
  unfold behindMargin?
  rw [List.takeWhile_append_of_pos h, List.dropWhile_append_of_pos h]
  simp [hspace, hstar]

/-- White space alone has no margin. -/
theorem behindMargin?_blank (h : IsBlankText blank) : behindMargin? blank = none := by
  unfold behindMargin?
  rw [List.dropWhile_eq_nil_iff.2 h]
  split
  · rename_i hnil
    exact nomatch hnil
  · rfl

/-- The opening of a comment has no margin. -/
theorem behindMargin?_opening (h : IsBlankText blank) :
    behindMargin? (blank ++ ['/', '*', '*']) = none := by
  have hslash : isBlank '/' = false := by decide
  unfold behindMargin?
  rw [List.dropWhile_append_of_pos h, List.dropWhile_cons_of_neg (by simp [hslash])]
  split
  · rename_i hcons
    exact absurd (List.cons.inj hcons).1 (by decide)
  · rfl

/-- Of white space in front of a text only the last line counts, which goes on with the text. -/
theorem filterMap_splitAt_blank (h : IsBlankText blank) (hbehind : '\n' ∉ behind) :
    ∃ last, IsBlankText last ∧
      (splitAt '\n' (blank ++ behind)).filterMap behindMargin? =
        (behindMargin? (last ++ behind)).toList := by
  obtain ⟨pieces, last, hblank, hall⟩ := splitAt_append_of_not_mem blank hbehind
  have hpiece : ∀ piece ∈ splitAt '\n' blank, IsBlankText piece :=
    fun piece hp c hc => h c ((infix_of_mem_splitAt hp).subset hc)
  rw [hblank] at hpiece
  refine ⟨last, hpiece last (List.mem_append_right _ List.mem_cons_self), ?_⟩
  have hnone : pieces.filterMap behindMargin? = [] := by
    rw [List.filterMap_eq_nil_iff]
    exact fun piece hp => behindMargin?_blank (hpiece piece (List.mem_append_left _ hp))
  rw [hall, List.filterMap_append, hnone, List.nil_append]
  cases hread : behindMargin? (last ++ behind) <;> simp [hread]

/-- A last line behind white space and a margin is read behind its margin. -/
theorem marginTexts_last (h : IsBlankText blank) (hbehind : '\n' ∉ behind) :
    marginTexts (blank ++ ' ' :: '*' :: behind) = [behind] := by
  have hline : '\n' ∉ ' ' :: '*' :: behind := by simpa using hbehind
  obtain ⟨last, hlast, hread⟩ := filterMap_splitAt_blank h hline
  unfold marginTexts
  rw [lines_append_of_not_mem hline (List.cons_ne_nil _ _), hread, behindMargin?_margin hlast]
  rfl

/-- A line behind white space and a margin is read behind its margin. -/
theorem marginTexts_line (h : IsBlankText blank) (hbehind : '\n' ∉ behind) (rest : List Char) :
    marginTexts ((blank ++ ' ' :: '*' :: behind) ++ '\n' :: rest) = behind :: marginTexts rest := by
  have hline : '\n' ∉ ' ' :: '*' :: behind := by simpa using hbehind
  obtain ⟨last, hlast, hread⟩ := filterMap_splitAt_blank h hline
  unfold marginTexts
  rw [lines_append_cons, List.filterMap_append, hread, behindMargin?_margin hlast]
  rfl

/-- The opening of a comment is not read. -/
theorem marginTexts_opening (h : IsBlankText blank) (rest : List Char) :
    marginTexts ((blank ++ ['/', '*', '*']) ++ '\n' :: rest) = marginTexts rest := by
  have hopening : '\n' ∉ ['/', '*', '*'] := by decide
  obtain ⟨last, hlast, hread⟩ := filterMap_splitAt_blank h hopening
  unfold marginTexts
  rw [lines_append_cons, List.filterMap_append, hread, behindMargin?_opening hlast]
  rfl

variable {pad : String} {shown : List (List Char)}

/-- The lines of a comment are read behind their margin. -/
theorem marginTexts_commentLines (hpad : IsBlankText pad.toList) (h : ∀ line ∈ shown, '\n' ∉ line)
    (rest : List Char) :
    marginTexts (shown.flatMap (fun line => (commentLine pad line).toList) ++ rest) =
      shown.map marginText ++ marginTexts rest := by
  induction shown with
  | nil => rfl
  | cons line more ih =>
    obtain ⟨hline, hmore⟩ := List.forall_mem_cons.1 h
    rw [List.flatMap_cons, toList_commentLine, List.append_assoc, List.append_assoc,
      List.singleton_append, marginTexts_line hpad (not_mem_marginText hline), ih hmore]
    rfl

/-- A comment has a margin in front of each of its lines, and in front of the slash that closes
it. -/
theorem marginTexts_commentBlock (hpad : IsBlankText pad.toList)
    (h : ∀ line ∈ shown, '\n' ∉ line) :
    marginTexts (commentBlock pad shown).toList = shown.map marginText ++ [['/']] := by
  have htext : (commentBlock pad shown).toList = (pad.toList ++ ['/', '*', '*']) ++ '\n' ::
      (shown.flatMap (fun line => (commentLine pad line).toList) ++
        ((pad.toList ++ ' ' :: '*' :: ['/']) ++ '\n' :: [])) := by
    rw [toList_commentBlock]
    unfold commentBody
    simp
  rw [htext, marginTexts_opening hpad, marginTexts_commentLines hpad h,
    marginTexts_line hpad (by decide)]
  rfl

/-- Without white space around it a comment has the same margins. -/
theorem marginTexts_comment (hpad : IsBlankText pad.toList) (h : ∀ line ∈ shown, '\n' ∉ line) :
    marginTexts (['/', '*', '*'] ++ (commentBody pad shown ++ ['*', '/'])) =
      shown.map marginText ++ [['/']] := by
  have htext : ['/', '*', '*'] ++ (commentBody pad shown ++ ['*', '/']) =
      ([] ++ ['/', '*', '*']) ++ '\n' ::
        (shown.flatMap (fun line => (commentLine pad line).toList) ++
          (pad.toList ++ ' ' :: '*' :: ['/'])) := by
    unfold commentBody
    simp
  rw [htext, marginTexts_opening isBlankText_nil, marginTexts_commentLines hpad h,
    marginTexts_last hpad (by decide)]

end Margins

/-! ## The comment of a text -/

/-- A line of a text as it stands in a comment: the sequence that would close the comment is broken,
and white space at the end is dropped. -/
def shownLine (line : List Char) : List Char := trimEnd (replacePair '*' '/' ['*', '\\', '/'] line)

/-- The lines of a comment are those of its text. -/
theorem commentLines_eq (text : String) :
    commentLines text = (lines text.toList).map shownLine := by
  unfold commentLines
  rw [lines_replacePair (by decide) (by decide) (by decide) (by decide), List.map_map]
  rfl

/-- A line of a comment has no line feed. -/
theorem not_mem_of_mem_commentLines {text : String} {line : List Char}
    (h : line ∈ commentLines text) : '\n' ∉ line := by
  obtain ⟨whole, hwhole, rfl⟩ := List.mem_map.1 h
  exact fun hfeed => not_mem_of_mem_lines hwhole ((infix_trimEnd whole).subset hfeed)

/-- A character that is no blank is kept where white space at the end is dropped. -/
theorem mem_trimEnd {text : List Char} {c : Char} (h : c ∈ text) (hc : isBlank c = false) :
    c ∈ trimEnd text := by
  have hboth : c ∈ text.reverse.takeWhile isBlank ++ text.reverse.dropWhile isBlank := by
    rw [List.takeWhile_append_dropWhile]
    exact List.mem_reverse.2 h
  rcases List.mem_append.1 hboth with hblank | hkept
  · exact absurd (List.mem_takeWhile_imp hblank) (by simp [hc])
  · exact List.mem_reverse.2 hkept

/-- Where no sequence that ends a comment is replaced the text stays, and where one is there is a
backslash. -/
theorem replacePair_eq_or_mem (text : List Char) :
    replacePair '*' '/' ['*', '\\', '/'] text = text ∨
      '\\' ∈ replacePair '*' '/' ['*', '\\', '/'] text := by
  induction text using replacePair.induct '*' '/' with
  | case1 => exact .inl rfl
  | case2 c => exact .inl rfl
  | case3 c d rest hpair ih =>
    rw [replacePair, if_pos hpair]
    exact .inr (by simp)
  | case4 c d rest hpair ih =>
    rw [replacePair, if_neg hpair]
    rcases ih with heq | hmem
    · exact .inl (by rw [heq])
    · exact .inr (List.mem_cons_of_mem c hmem)

/-- A text without stars has no sequence to replace. -/
theorem replacePair_of_not_mem {text : List Char} (h : '*' ∉ text) :
    replacePair '*' '/' ['*', '\\', '/'] text = text := by
  induction text using replacePair.induct '*' '/' with
  | case1 => rfl
  | case2 c => rfl
  | case3 c d rest hpair ih =>
    rw [Bool.and_eq_true, beq_iff_eq] at hpair
    exact absurd hpair.1 fun hc => h (by simp [hc])
  | case4 c d rest hpair ih =>
    rw [replacePair, if_neg hpair, ih fun hrest => h (List.mem_cons_of_mem c hrest)]

/-- A line is shown as a text without stars and backslashes only if it is this text with white
space behind it. -/
theorem shownLine_eq_iff {line shown : List Char} (hstar : '*' ∉ shown) (hslash : '\\' ∉ shown) :
    shownLine line = shown ↔ trimEnd line = shown := by
  have hkept : '*' ∉ trimEnd line → '*' ∉ line := fun h hmem => h (mem_trimEnd hmem (by decide))
  unfold shownLine
  constructor
  · intro h
    rcases replacePair_eq_or_mem line with heq | hmem
    · rwa [heq] at h
    · exact absurd (h ▸ mem_trimEnd hmem (by decide)) hslash
  · rintro rfl
    rw [replacePair_of_not_mem (hkept hstar)]

/-! ## The comment at the start of a text -/

/-- A text up to the sequence that ends a comment, and with it. -/
def throughEnd : List Char → List Char
  | [] => []
  | c :: rest =>
    if c == '*' && rest.head? == some '/' then ['*', '/'] else c :: throughEnd rest

/-- The comment that a text starts with, if it starts with one. -/
def leadingComment (text : List Char) : List Char :=
  if ['/', '*', '*'].isPrefixOf text then ['/', '*', '*'] ++ throughEnd (text.drop 3) else []

/-- The text in front of the sequence that ends a comment is kept. -/
theorem throughEnd_append {body : List Char} (h : ¬EndsComment (body ++ ['*']))
    (behind : List Char) :
    throughEnd (body ++ '*' :: '/' :: behind) = body ++ ['*', '/'] := by
  induction body with
  | nil => rfl
  | cons c rest ih =>
    rw [List.cons_append, endsComment_cons_iff, not_or] at h
    have hhead : (rest ++ '*' :: '/' :: behind).head? = (rest ++ ['*']).head? := by
      cases rest <;> rfl
    have hopen : ¬(c == '*' && (rest ++ '*' :: '/' :: behind).head? == some '/') = true := by
      rw [hhead, Bool.and_eq_true, beq_iff_eq, beq_iff_eq]
      exact h.1
    rw [List.cons_append, throughEnd, if_neg hopen, ih h.2, List.cons_append]

/-- The comment of a text that opens one goes on to the sequence that ends it. -/
theorem leadingComment_opening (rest : List Char) :
    leadingComment (['/', '*', '*'] ++ rest) = ['/', '*', '*'] ++ throughEnd rest := by
  unfold leadingComment
  rw [if_pos (by simp)]
  rfl

/-- The comment that stands in front of a text is the one that the text starts with. -/
theorem leadingComment_comment {pad : String} {shown : List (List Char)}
    (hpad : '*' ∉ pad.toList) (h : ∀ line ∈ shown, ¬EndsComment line) (behind : List Char) :
    leadingComment (['/', '*', '*'] ++ (commentBody pad shown ++ '*' :: '/' :: behind)) =
      ['/', '*', '*'] ++ (commentBody pad shown ++ ['*', '/']) := by
  rw [leadingComment_opening, throughEnd_append (not_endsComment_commentBody hpad h)]

/-- The lines of the comment that a text starts with are its opening, its lines behind their margin
and its closing. -/
theorem lines_leadingComment {shown : List (List Char)}
    (hends : ∀ line ∈ shown, ¬EndsComment line) (hfeed : ∀ line ∈ shown, '\n' ∉ line)
    (behind : List Char) :
    lines (leadingComment ((commentBlock "" shown).toList ++ behind)) =
      ['/', '*', '*'] :: shown.map (fun line => ' ' :: '*' :: marginText line) ++
        [[' ', '*', '/']] := by
  have hpad : '*' ∉ "".toList := List.not_mem_nil
  have hfront : (commentBlock "" shown).toList ++ behind =
      ['/', '*', '*'] ++ (commentBody "" shown ++ '*' :: '/' :: '\n' :: behind) := by
    rw [toList_commentBlock]
    simp
  have hbody : ['/', '*', '*'] ++ (commentBody "" shown ++ ['*', '/']) = ['/', '*', '*'] ++ '\n' ::
      (shown.flatMap (fun line => (commentLine "" line).toList) ++ [' ', '*', '/']) := by
    unfold commentBody
    simp
  rw [hfront, leadingComment_comment hpad hends, hbody, lines_line (by decide)]
  clear hends hfront hbody
  induction shown with
  | nil => rfl
  | cons line rest ih =>
    obtain ⟨hline, hrest⟩ := List.forall_mem_cons.1 hfeed
    have hmargin : '\n' ∉ ' ' :: '*' :: marginText line := by
      simpa using not_mem_marginText hline
    have hread := lines_line hmargin
      (rest.flatMap (fun line => (commentLine "" line).toList) ++ [' ', '*', '/'])
    rw [List.flatMap_cons, toList_commentLine, String.toList_empty, List.nil_append,
      List.append_assoc, List.append_assoc, List.singleton_append, hread]
    exact congrArg _ (congrArg _ (List.cons.inj (ih hrest)).2)

end ProgramConnector.TypeScript
