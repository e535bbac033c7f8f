import Mathlib.Data.List.TakeWhile
import Mathlib.Tactic.SplitIfs
import ProgramConnector.Proofs.Files.Resolution
import ProgramConnector.Proofs.Text.Pieces

/-!
# Texts of paths

A path without its last component does not end with a slash, unless it is the root. A path joined
from a directory and a plain name has that name as its last component, and where the last step of a
path is a name, its text ends with that name. The parent of a joined path has the steps of the
directory.
-/

namespace ProgramConnector

namespace Path

open Text

/-- The pieces of a path that lead somewhere. -/
def heldPieces (path : List Char) : List (List Char) :=
  (splitAt '/' path).filter fun piece => !isVoid piece

/-- A path is put together from a start and pieces: the start is the root, a dot or nothing, and
behind a dot there is a slash, if anything. -/
structure IsHeaded (path head : List Char) (body : List (List Char)) : Prop where
  /-- The start. -/
  start : head = ['/'] ∨ head = ['.'] ∨ head = []
  /-- Behind a dot. -/
  dot : head = ['.'] → body = [] ∨ ∃ more, body = [] :: more
  /-- The pieces hold no slash. -/
  pieces : ∀ piece ∈ body, '/' ∉ piece
  /-- The text. -/
  text : path = head ++ List.intercalate ['/'] body

/-- What a path starts with, and the pieces after it, are those that it is put together from. -/
theorem isHeaded_headAndBody (path : List Char) :
    IsHeaded path (headAndBody path).1 (headAndBody path).2 := by
  unfold headAndBody
  split
  · rename_i rest
    refine ⟨.inl rfl, by simp, fun _ => not_mem_of_mem_splitAt, ?_⟩
    rw [intercalate_splitAt]
    rfl
  · exact ⟨.inr (.inl rfl), fun _ => .inl rfl, fun _ hpiece => absurd hpiece List.not_mem_nil, rfl⟩
  · rename_i rest
    refine ⟨.inr (.inl rfl), fun _ => .inr ⟨splitAt '/' rest, rfl⟩,
      fun _ => not_mem_of_mem_splitAt, ?_⟩
    rw [intercalate_splitAt]
    rfl
  · exact ⟨.inr (.inr rfl), by simp, fun _ => not_mem_of_mem_splitAt,
      (intercalate_splitAt '/' path).symm⟩

/-- Pieces on both sides of a slash are held. -/
theorem heldPieces_append_cons (front behind : List Char) :
    heldPieces (front ++ '/' :: behind) = heldPieces front ++ heldPieces behind := by
  rw [heldPieces, splitAt_append_cons, List.filter_append]
  rfl

/-- Of the pieces that a text is put together from, those that lead somewhere are held. -/
theorem heldPieces_intercalate {body : List (List Char)} (h : ∀ piece ∈ body, '/' ∉ piece) :
    heldPieces (List.intercalate ['/'] body) = body.filter fun piece => !isVoid piece := by
  cases body with
  | nil => rfl
  | cons first rest => rw [heldPieces, splitAt_intercalate (List.cons_ne_nil first rest) h]

/-- Of the pieces after its start, a path holds those that lead somewhere. -/
theorem IsHeaded.heldPieces_eq {path head : List Char} {body : List (List Char)}
    (h : IsHeaded path head body) :
    heldPieces path = body.filter fun piece => !isVoid piece := by
  rw [h.text]
  rcases h.start with hhead | hhead | hhead
  · subst hhead
    exact (heldPieces_append_cons [] _).trans (heldPieces_intercalate h.pieces)
  · rcases h.dot hhead with hbody | ⟨more, hbody⟩
    · subst hhead hbody
      rfl
    · subst hhead hbody
      cases more with
      | nil => rfl
      | cons next more =>
        rw [List.intercalate_cons_cons]
        refine (heldPieces_append_cons ['.'] _).trans (heldPieces_intercalate fun piece hp => ?_)
        exact h.pieces piece (List.mem_cons_of_mem _ hp)
  · subst hhead
    exact heldPieces_intercalate h.pieces

/-- The start of a path with fewer pieces after it is a path. -/
theorem IsHeaded.of_append {path head : List Char} {front more : List (List Char)}
    (h : IsHeaded path head (front ++ more)) :
    IsHeaded (head ++ List.intercalate ['/'] front) head front := by
  refine ⟨h.start, fun hdot => ?_, fun piece hp => h.pieces piece (List.mem_append_left _ hp), rfl⟩
  cases front with
  | nil => exact .inl rfl
  | cons first rest =>
    rcases h.dot hdot with hnil | ⟨others, hcons⟩
    · exact absurd hnil (List.cons_ne_nil _ _)
    · exact .inr ⟨rest, by rw [(List.cons.inj hcons).1]⟩

/-- The parent of a path that ends with a name is the start of its text, without that name. -/
theorem parent?_spec {path parent : String} {before : List (List Char)} {last : List Char}
    (h : parent? path = some parent) (hpieces : pieces path = before ++ [last])
    (hlast : isVoid last = false) :
    heldPieces parent.toList = before.filter (fun piece => !isVoid piece) ∧
      parent.toList <+: path.toList := by
  have hheaded := isHeaded_headAndBody path.toList
  have hheld : heldPieces path.toList = before.filter (fun piece => !isVoid piece) ++ [last] := by
    unfold heldPieces
    change (pieces path).filter _ = _
    rw [hpieces, List.filter_append]
    simp [hlast]
  rw [hheaded.heldPieces_eq] at hheld
  unfold parent? at h
  generalize headAndBody path.toList = parts at h hheaded hheld
  obtain ⟨head, body⟩ := parts
  dsimp only at h hheaded hheld
  -- The pieces are those of the parent, pieces that lead nowhere, the name and others of these.
  have hbody : body = (body.reverse.dropWhile isVoid).reverse ++
      (body.reverse.takeWhile isVoid).reverse := by
    rw [← List.reverse_append, List.takeWhile_append_dropWhile, List.reverse_reverse]
  have hvoids (pieces : List (List Char)) :
      (pieces.takeWhile isVoid).reverse.filter (fun piece => !isVoid piece) = [] := by
    refine List.filter_eq_nil_iff.2 fun piece hp => ?_
    simpa using List.mem_takeWhile_imp (List.mem_reverse.1 hp)
  split at h
  · rename_i hnone
    rw [hbody, hnone, List.filter_append, hvoids] at hheld
    simp at hheld
  · rename_i dropped rest hsome
    cases h
    rw [String.toList_ofList]
    have hdropped : isVoid dropped = false := by
      simpa [hsome] using List.head?_dropWhile_not isVoid body.reverse
    have hrest : rest.reverse = (rest.dropWhile isVoid).reverse ++
        (rest.takeWhile isVoid).reverse := by
      rw [← List.reverse_append, List.takeWhile_append_dropWhile]
    rw [hsome, List.reverse_cons, hrest, List.append_assoc, List.append_assoc] at hbody
    rw [hbody] at hheaded hheld
    have hparent := hheaded.of_append
    refine ⟨?_, ?_⟩
    · rw [hparent.heldPieces_eq]
      simp only [List.filter_append, hvoids, List.append_nil, List.nil_append,
        List.filter_singleton, hdropped, Bool.not_false] at hheld ⊢
      exact (List.append_inj' hheld rfl).1
    · rw [hheaded.text]
      exact List.prefix_append_right_inj _ |>.2 (prefix_intercalate _ _ _)

/-- An absolute path starts with the root. -/
theorem headAndBody_of_isAbsolute {path : String} (h : isAbsolute path = true) :
    (headAndBody path.toList).1 = ['/'] := by
  obtain ⟨rest, hrest⟩ := List.head?_eq_some_iff.1 (beq_iff_eq.1 h)
  rw [hrest]
  rfl

/-- A path that ends with a name has a parent, which starts where the path does. -/
theorem exists_parent {path : String} {before : List (List Char)} {last : List Char}
    (hpieces : pieces path = before ++ [last]) (hlast : isVoid last = false) :
    ∃ parent, parent? path = some parent ∧
      heldPieces parent.toList = before.filter (fun piece => !isVoid piece) ∧
      isAbsolute parent = isAbsolute path := by
  obtain ⟨parent, hparent, hroot⟩ : ∃ parent, parent? path = some parent ∧
      (isAbsolute path = true → parent ≠ "") := by
    have hhead : isAbsolute path = true → _ := headAndBody_of_isAbsolute
    have hin : last ∈ pieces path := hpieces ▸ List.mem_append_right before (List.mem_cons_self)
    have hheld : last ∈ heldPieces path.toList := List.mem_filter.2 ⟨hin, by simp [hlast]⟩
    rw [(isHeaded_headAndBody path.toList).heldPieces_eq] at hheld
    unfold parent?
    generalize headAndBody path.toList = parts at hhead hheld
    obtain ⟨head, body⟩ := parts
    dsimp only at hhead hheld ⊢
    split
    · rename_i hnone
      obtain ⟨hin, hnonvoid⟩ := List.mem_filter.1 hheld
      have hvoid := List.dropWhile_eq_nil_iff.1 hnone last (List.mem_reverse.2 hin)
      rw [hvoid] at hnonvoid
      exact nomatch hnonvoid
    · refine ⟨_, rfl, fun habsolute hempty => ?_⟩
      have hnil := congrArg String.toList hempty
      rw [hhead habsolute, String.toList_ofList] at hnil
      exact nomatch hnil
  obtain ⟨hheld, rest, hrest⟩ := parent?_spec hparent hpieces hlast
  refine ⟨parent, hparent, hheld, ?_⟩
  by_cases hempty : parent = ""
  · have hrelative : isAbsolute path = false :=
      Bool.eq_false_iff.2 fun habsolute => hroot habsolute hempty
    rw [hrelative, hempty]
    rfl
  · rw [isAbsolute, isAbsolute, ← hrest, List.head?_append_of_ne_nil _ (by simpa using hempty)]

/-- A path without its last component is the root, or does not end with a slash. -/
theorem getLast?_parent? {path parent : String} (h : parent? path = some parent) :
    parent = "/" ∨ parent.toList.getLast? ≠ some '/' := by
  obtain ⟨hhead, -, hpieces, -⟩ := isHeaded_headAndBody path.toList
  unfold parent? at h
  generalize headAndBody path.toList = parts at h hhead hpieces
  obtain ⟨head, body⟩ := parts
  dsimp only at h hhead hpieces
  split at h
  · split_ifs at h
    cases h
    exact .inr (by simp)
  · rename_i dropped rest hbody
    cases h
    rw [String.toList_ofList]
    have hvoid := List.head?_dropWhile_not isVoid rest
    cases hkept : rest.dropWhile isVoid with
    | nil =>
      rw [List.reverse_nil, List.intercalate_nil, List.append_nil]
      rcases hhead with rfl | rfl | rfl
      · exact .inl rfl
      · exact .inr (by simp)
      · exact .inr (by simp)
    | cons last more =>
      rw [hkept] at hvoid
      have hlast : last ∈ body := by
        have hrest : last ∈ rest :=
          (List.dropWhile_suffix isVoid).subset (hkept ▸ List.mem_cons_self)
        have hdropped : last ∈ body.reverse.dropWhile isVoid := hbody ▸ List.mem_cons_of_mem _ hrest
        exact List.mem_reverse.1 ((List.dropWhile_suffix isVoid).subset hdropped)
      have hne : last ≠ [] := by
        rintro rfl
        simp [isVoid] at hvoid
      have hend : last <:+ List.intercalate ['/'] (more.reverse ++ [last]) := by
        simpa using suffix_intercalate ['/'] more.reverse (List.cons_ne_nil last [])
      obtain ⟨before, hbefore⟩ := hend
      rw [List.reverse_cons, ← hbefore, ← List.append_assoc, List.getLast?_append_of_ne_nil _ hne]
      exact .inr fun hslash => hpieces last hlast (List.mem_of_getLast? hslash)

/-- A path that does not end with a slash has none to lose at its end, and neither has the root. -/
theorem withoutEndSlashes_of_getLast? {path : String}
    (h : path = "/" ∨ path.toList.getLast? ≠ some '/') :
    FileSystem.withoutEndSlashes path = path := by
  rcases h with rfl | hlast
  · decide
  · have hkept : path.toList.reverse.dropWhile (· == '/') = path.toList.reverse := by
      rw [← List.head?_reverse] at hlast
      cases hreverse : path.toList.reverse with
      | nil => rfl
      | cons c rest =>
        rw [hreverse] at hlast
        rw [List.dropWhile_cons_of_neg]
        simpa using hlast
    unfold FileSystem.withoutEndSlashes
    simp only [hkept, List.reverse_reverse, String.ofList_toList, ite_self]

/-- Relative paths are put behind the same text when they are taken from the same base. -/
theorem join_eq_append (base : String) :
    ∃ front, ∀ step, isAbsolute step = false → join base step = front ++ step := by
  by_cases hend : (base.isEmpty || base.toList.getLast? == some '/') = true
  · refine ⟨base, fun step hstep => ?_⟩
    rw [join, if_neg (by simp [hstep]), if_pos hend]
  · refine ⟨base ++ "/", fun step hstep => ?_⟩
    rw [join, if_neg (by simp [hstep]), if_neg hend]

/-- A step without a slash is relative. -/
theorem isAbsolute_of_not_mem {step : String} (h : '/' ∉ step.toList) :
    isAbsolute step = false := by
  unfold isAbsolute
  rw [beq_eq_false_iff_ne]
  exact fun hfirst => h (List.mem_of_head? hfirst)

section Names

variable {path step name : String} {before : List (List Char)} {last text : List Char}

/-- The last piece of a path is its file name when it is a name. -/
theorem fileName?_of_pieces (h : pieces path = before ++ [last]) (hvoid : isVoid last = false)
    (hup : last ≠ ['.', '.']) : fileName? path = some last := by
  have hbody : (((pieces path).filter fun piece => !isVoid piece).map componentOf).getLast? =
      some (.name last) := by
    rw [h, List.filter_append, List.map_append]
    simp [hvoid, componentOf, hup]
  unfold fileName? components
  split_ifs
  · rw [List.getLast?_cons, hbody]
    rfl
  · rw [List.getLast?_cons, hbody]
    rfl
  · rw [hbody]

/-- The pieces of a relative path that is taken from a directory come behind those of the directory,
but for an empty one at the end of these. -/
theorem exists_pieces_join (base : String) (hrelative : isAbsolute step = false) :
    ∃ before, pieces (join base step) = before ++ pieces step ∧
      (pieces base = before ∨ pieces base = before ++ [[]]) := by
  unfold join
  rw [hrelative]
  simp only [Bool.false_eq_true, if_false]
  by_cases hempty : base = ""
  · subst hempty
    exact ⟨[], rfl, .inr rfl⟩
  split_ifs with hend
  · have hlast : base.toList.getLast? = some '/' := by simpa [hempty] using hend
    obtain ⟨front, hfront⟩ := List.getLast?_eq_some_iff.1 hlast
    refine ⟨splitAt '/' front, ?_, .inr ?_⟩
    · rw [pieces, String.toList_append, hfront, List.append_assoc]
      exact splitAt_append_cons '/' front step.toList
    · rw [pieces, hfront]
      exact splitAt_append_cons '/' front []
  · refine ⟨pieces base, ?_, .inl rfl⟩
    rw [pieces, String.toList_append, String.toList_append, List.append_assoc]
    exact splitAt_append_cons '/' base.toList step.toList

/-- A relative path that is taken from a directory starts where the directory does. -/
theorem isAbsolute_join (base : String) (hrelative : isAbsolute step = false) :
    isAbsolute (join base step) = isAbsolute base := by
  unfold join
  rw [hrelative]
  simp only [Bool.false_eq_true, if_false]
  by_cases hempty : base = ""
  · subst hempty
    exact hrelative
  have hfirst (behind : String) : isAbsolute (base ++ behind) = isAbsolute base := by
    have hne : base.toList ≠ [] := by simpa using hempty
    rw [isAbsolute, String.toList_append, List.head?_append_of_ne_nil _ hne, isAbsolute]
  split_ifs
  · exact hfirst step
  · rw [String.append_assoc]
    exact hfirst ("/" ++ step)

/-- The pieces of a relative path that is taken from a directory come behind the directory, whose
pieces are held, and the path starts where the directory does. -/
theorem pieces_join_of_relative (base : String) (hrelative : isAbsolute step = false) :
    (∃ before, pieces (join base step) = before ++ pieces step ∧
      before.filter (fun piece => !isVoid piece) = heldPieces base.toList) ∧
    isAbsolute (join base step) = isAbsolute base := by
  obtain ⟨before, hjoined, hbase⟩ := exists_pieces_join base hrelative
  refine ⟨⟨before, hjoined, ?_⟩, isAbsolute_join base hrelative⟩
  change _ = (pieces base).filter _
  rcases hbase with hbase | hbase
  · rw [hbase]
  · rw [hbase, List.filter_append]
    exact (List.append_nil _).symm

/-- A name taken from a directory is a piece of its own behind the directory, whose pieces are held,
and the path starts where the directory does. -/
theorem pieces_join (base : String) (hslash : '/' ∉ step.toList) :
    (∃ before, pieces (join base step) = before ++ [step.toList] ∧
      before.filter (fun piece => !isVoid piece) = heldPieces base.toList) ∧
    isAbsolute (join base step) = isAbsolute base := by
  have hone : pieces step = [step.toList] := splitAt_of_not_mem hslash
  rw [← hone]
  exact pieces_join_of_relative base (isAbsolute_of_not_mem hslash)

/-- A plain name taken from a directory is the file name. -/
theorem fileName?_join (base : String) (hslash : '/' ∉ step.toList)
    (hvoid : isVoid step.toList = false) (hup : step.toList ≠ ['.', '.']) :
    fileName? (join base step) = some step.toList := by
  obtain ⟨⟨before, hpieces, -⟩, -⟩ := pieces_join base hslash
  exact fileName?_of_pieces hpieces hvoid hup

/-- Where the last step of a path is a name, it is the last piece, and the steps before it are the
pieces before it that lead somewhere. -/
theorem pieces_of_steps {front : List String} (h : FileSystem.steps path = front ++ [name])
    (hname : FileSystem.IsName name) :
    ∃ before, pieces path = before ++ [name.toList] ∧ isVoid name.toList = false ∧
      front = (before.filter fun piece => !isVoid piece).map String.ofList := by
  obtain ⟨before, last, hpieces⟩ := List.eq_nil_or_concat'
    (pieces path) |>.resolve_left (splitAt_ne_nil '/' path.toList)
  unfold FileSystem.steps at h
  rw [hpieces] at h
  cases hvoid : isVoid last with
  | true =>
    simp only [List.getLast?_concat, Option.any_some, hvoid, if_true] at h
    obtain ⟨-, hdot⟩ := List.append_inj' h rfl
    exact absurd (List.cons.inj hdot).1.symm hname.stays
  | false =>
    simp only [List.getLast?_concat, Option.any_some, hvoid, Bool.false_eq_true, if_false,
      List.append_nil, List.filter_append, List.filter_cons, Bool.not_false, if_true,
      List.filter_nil, List.map_append, List.map_cons, List.map_nil] at h
    obtain ⟨hfront, hlast⟩ := List.append_inj' h rfl
    have heq : last = name.toList := by rw [← (List.cons.inj hlast).1, String.toList_ofList]
    subst heq
    exact ⟨before, hpieces, hvoid, hfront.symm⟩

/-- Where the last step of a path is a name, it is the file name, and the text of the path ends with
it. -/
theorem fileName?_of_steps {front : List String} (h : FileSystem.steps path = front ++ [name])
    (hname : FileSystem.IsName name) :
    fileName? path = some name.toList ∧ name.toList <:+ path.toList := by
  obtain ⟨before, hpieces, hvoid, -⟩ := pieces_of_steps h hname
  have hpath : List.intercalate ['/'] (before ++ [name.toList]) = path.toList :=
    hpieces ▸ intercalate_splitAt '/' path.toList
  have hend : name.toList <:+ path.toList := by
    simpa [hpath] using suffix_intercalate ['/'] before (List.cons_ne_nil name.toList [])
  exact ⟨fileName?_of_pieces hpieces hvoid fun hup => hname.rises (String.toList_inj.1 hup), hend⟩

/-- A file name is a piece of the path that leads somewhere, and not up. -/
theorem fileName?_spec (h : fileName? path = some text) :
    '/' ∉ text ∧ isVoid text = false ∧ text ≠ ['.', '.'] := by
  have hlast : (components path).getLast? = some (.name text) := by
    unfold fileName? at h
    split at h
    · rename_i other hother
      cases h
      exact hother
    · exact nomatch h
  have hbody : Component.name text ∈
      ((pieces path).filter fun piece => !isVoid piece).map componentOf := by
    have hmem := List.mem_of_getLast? hlast
    unfold components at hmem
    split_ifs at hmem
    · exact (List.mem_cons.1 hmem).resolve_left (by simp)
    · exact (List.mem_cons.1 hmem).resolve_left (by simp)
    · exact hmem
  obtain ⟨piece, hpiece, hname⟩ := List.mem_map.1 hbody
  obtain ⟨hin, hnonvoid⟩ := List.mem_filter.1 hpiece
  unfold componentOf at hname
  split_ifs at hname with hup
  cases hname
  exact ⟨not_mem_of_mem_splitAt hin, by simpa using hnonvoid, by simpa using hup⟩

/-- A name ends with its extension and the dot before it. -/
theorem suffix_of_extensionOfName? {extension : List Char}
    (h : extensionOfName? text = some extension) : '.' :: extension <:+ text := by
  unfold extensionOfName? at h
  split at h
  · rename_i after before more hreverse
    split_ifs at h
    cases h
    have hpieces : splitAt '.' text = more.reverse ++ [before, extension] := by
      rw [← List.reverse_reverse (splitAt '.' text), hreverse]
      simp
    have hend := suffix_intercalate ['.'] more.reverse (List.cons_ne_nil before [extension])
    rw [← hpieces, intercalate_splitAt, List.intercalate_cons_cons,
      List.intercalate_singleton] at hend
    exact (List.suffix_append before _).trans (by simpa using hend)
  · exact nomatch h

end Names

end Path

end ProgramConnector
