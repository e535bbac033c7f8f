import ProgramConnector.Proofs.Files.Directory

/-!
# Paths of a walk

A walk takes the names of entries from the path that it starts at, one after the other. Each of them
is one more component. Where the path leads to a directory, through whatever links, the path of a
file below it leads to that file, and what is read there is the content of the file.
-/

namespace ProgramConnector

/-- The path at which a walk from a directory meets what is below it. -/
def walkedPath (directory : String) (below : List String) : String :=
  below.foldl Path.join directory

namespace Path

open FileSystem Text

section Components

variable {base name : String}

/-- A path starts with a dot when its directory does. -/
theorem head?_pieces_join (h : IsFileName name) :
    (pieces (join base name)).head? = some ['.'] ↔ (pieces base).head? = some ['.'] := by
  have hdot : name.toList ≠ ['.'] := fun heq => h.stays (String.toList_inj.1 heq)
  have hname : pieces name = [name.toList] := splitAt_of_not_mem h.noSlash
  obtain ⟨before, hjoined, hbase⟩ := exists_pieces_join base (isAbsolute_of_not_mem h.noSlash)
  rw [hjoined, hname]
  cases before with
  | nil =>
    -- The directory is empty, and a name is no dot.
    have hempty : pieces base = [[]] := hbase.resolve_left (splitAt_ne_nil '/' base.toList)
    simp [hempty, hdot]
  | cons first rest =>
    rcases hbase with hbase | hbase
    · rw [hbase]
      rfl
    · rw [hbase]
      rfl

/-- A name taken from a directory is one more component. -/
theorem components_join (h : IsFileName name) (base : String) :
    components (join base name) = components base ++ [.name name.toList] := by
  obtain ⟨⟨before, hpieces, hbefore⟩, habsolute⟩ := pieces_join base h.noSlash
  have hup : name.toList ≠ ['.', '.'] := fun heq => h.rises (String.toList_inj.1 heq)
  have hbody : ((pieces (join base name)).filter fun piece => !isVoid piece).map componentOf =
      ((pieces base).filter fun piece => !isVoid piece).map componentOf ++
        [.name name.toList] := by
    rw [hpieces, List.filter_append, hbefore, List.map_append]
    simp [h.isVoid, componentOf, hup, heldPieces, pieces]
  have hdot : (pieces (join base name)).head? = some ['.'] ↔ (pieces base).head? = some ['.'] :=
    head?_pieces_join h
  unfold components
  rw [hbody, habsolute]
  simp only [beq_iff_eq, hdot]
  split_ifs <;> rfl

/-- The components of the path of a walk are those of its directory and the names below it. -/
theorem components_walkedPath {below : List String} (h : ∀ name ∈ below, IsFileName name)
    (directory : String) : components (walkedPath directory below) =
      components directory ++ below.map fun name => .name name.toList := by
  induction below generalizing directory with
  | nil => exact (List.append_nil _).symm
  | cons name rest ih =>
    obtain ⟨hname, hrest⟩ := List.forall_mem_cons.1 h
    have hbelow := ih hrest (join directory name)
    rw [components_join hname, List.append_assoc] at hbelow
    exact hbelow

/-- Different names are different components. -/
theorem name_injective : Function.Injective fun name : String => Component.name name.toList :=
  fun _ _ h => String.toList_inj.1 (Component.name.inj h)

/-- Walks from a directory whose paths have the same components meet the same place below it. -/
theorem eq_of_components_walkedPath {directory : String} {names below : List String}
    (hnames : ∀ name ∈ names, IsFileName name) (hbelow : ∀ name ∈ below, IsFileName name)
    (h : components (walkedPath directory names) = components (walkedPath directory below)) :
    names = below := by
  rw [components_walkedPath hnames, components_walkedPath hbelow] at h
  exact name_injective.list_map (List.append_cancel_left h)

end Components

end Path

namespace FileSystem

section Arriving

variable {root : Node} {links left : Nat} {here steps location : List String} {step : String}

/-- Steps that arrive before a directory enter it. -/
theorem Arrives.enter_last (h : Arrives root links here steps left location) (hstep : IsName step)
    (hentry : root.entryAt? (location ++ [step]) = some .directory) :
    Arrives root links here (steps ++ [step]) left (location ++ [step]) := by
  induction h with
  | stay => exact .enter hstep hentry .stay
  | same next ih => exact .same (ih hentry)
  | up next ih => exact .up (ih hentry)
  | enter name entry next ih => exact .enter name entry (ih hentry)
  | @follow links left here rest location first target name entry next ih =>
    have hnext := ih hentry
    rw [List.append_assoc] at hnext
    exact .follow name entry hnext

/-- Steps arrive where they arrive with a dot behind them. -/
theorem Arrives.without_dot (h : Arrives root links here (steps ++ ["."]) left location) :
    Arrives root links here steps left location := by
  generalize hall : steps ++ ["."] = all at h
  induction h generalizing steps with
  | stay => simp at hall
  | same next ih =>
    cases steps with
    | nil =>
      cases hall
      exact next
    | cons first rest =>
      obtain ⟨rfl, hrest⟩ := List.cons.inj hall
      exact .same (ih hrest)
  | up next ih =>
    cases steps with
    | nil => simp at hall
    | cons first rest =>
      obtain ⟨rfl, hrest⟩ := List.cons.inj hall
      exact .up (ih hrest)
  | enter name entry next ih =>
    cases steps with
    | nil => exact absurd (List.cons.inj hall).1.symm name.stays
    | cons first rest =>
      obtain ⟨rfl, hrest⟩ := List.cons.inj hall
      exact .enter name entry (ih hrest)
  | follow name entry next ih =>
    cases steps with
    | nil => exact absurd (List.cons.inj hall).1.symm name.stays
    | cons first rest =>
      obtain ⟨rfl, rfl⟩ := List.cons.inj hall
      exact .follow name entry (ih (List.append_assoc _ _ _))

end Arriving

section Below

variable {files : FileSystem} {directory name : String} {below location : List String}
  {left : Nat} {entries : List (String × Node)} {content : ByteArray} {mode : Nat}

/-- The steps of a file lead somewhere when those of its directory do. -/
theorem IsFileName.leadingSteps_join (h : IsFileName name) (directory : String) :
    leadingSteps (Path.join directory name) = leadingSteps directory ++ [name] := by
  obtain ⟨⟨before, hpieces, hbefore⟩, -⟩ := Path.pieces_join directory h.noSlash
  have hheld : Path.heldPieces (Path.join directory name).toList =
      Path.heldPieces directory.toList ++ [name.toList] := by
    change (Path.pieces (Path.join directory name)).filter _ = _
    rw [hpieces, List.filter_append, hbefore]
    simp [h.isVoid]
  rw [leadingSteps, hheld, List.map_append, List.map_singleton, String.ofList_toList]
  rfl

/-- The path of a walk is taken from where its directory starts. -/
theorem startOf_walkedPath (h : ∀ name ∈ below, IsFileName name) (here : List String)
    (directory : String) :
    startOf here (walkedPath directory below) = startOf here directory := by
  induction below generalizing directory with
  | nil => rfl
  | cons name rest ih =>
    obtain ⟨hname, hrest⟩ := List.forall_mem_cons.1 h
    exact (ih hrest _).trans (hname.startOf_join here directory)

/-- The path of a walk goes through the directories that it meets. -/
theorem arrives_walkedPath (h : ∀ name ∈ below, IsFileName name)
    (hnode : files.root.at? (location ++ below) = some (.directory entries))
    (harrives : Arrives files.root linkLimit (startOf files.current directory)
      (leadingSteps directory) left location) :
    Arrives files.root linkLimit (startOf files.current (walkedPath directory below))
      (leadingSteps (walkedPath directory below)) left (location ++ below) := by
  induction below generalizing directory location with
  | nil =>
    rw [List.append_nil]
    exact harrives
  | cons name rest ih =>
    obtain ⟨hname, hrest⟩ := List.forall_mem_cons.1 h
    have hsplit : location ++ name :: rest = location ++ [name] ++ rest := by
      rw [List.append_assoc, List.singleton_append]
    have hentry : files.root.entryAt? (location ++ [name]) = some .directory := by
      refine Node.entryAt?_eq_directory_iff.2 ?_
      rw [hsplit] at hnode
      cases rest with
      | nil => exact ⟨entries, by rwa [List.append_nil] at hnode⟩
      | cons next rest => exact Node.at?_of_append hnode
    have hnext := harrives.enter_last hname.toIsName hentry
    rw [← hname.leadingSteps_join, ← hname.startOf_join files.current directory] at hnext
    rw [hsplit] at hnode ⊢
    exact ih hrest hnode hnext

/-- A path that leads to a directory arrives there. -/
theorem exists_arrives_of_resolve (hresolve : files.resolve true directory = .ok (.taken location))
    (hnode : files.root.at? location = some (.directory entries)) :
    ∃ left, Arrives files.root linkLimit (startOf files.current directory)
      (leadingSteps directory) left location := by
  obtain ⟨-, hfinds⟩ := resolve_eq_ok_iff.1 hresolve
  have hentry := Node.entryAt?_eq_directory_iff.2 ⟨entries, hnode⟩
  obtain ⟨left, harrives⟩ := hfinds.arrives_of_directory hentry
  rcases steps_eq directory with hsteps | hsteps
  · exact ⟨left, hsteps ▸ harrives⟩
  · exact ⟨left, (hsteps ▸ harrives).without_dot⟩

/-- All steps of the path of something below a directory lead somewhere. -/
theorem steps_walkedPath (h : ∀ name ∈ below, IsFileName name) (hne : below ≠ [])
    (directory : String) :
    steps (walkedPath directory below) = leadingSteps (walkedPath directory below) := by
  obtain ⟨above, name, rfl⟩ := (List.eq_nil_or_concat' below).resolve_left hne
  have hname : IsFileName name := h name (List.mem_append_right above List.mem_cons_self)
  have hpath : walkedPath directory (above ++ [name]) =
      Path.join (walkedPath directory above) name := List.foldl_append
  rw [hpath, hname.steps_join, hname.leadingSteps_join]

/-- The steps of the path of a walk lead to the file that it meets, and nowhere with steps behind
them. -/
theorem resolveSteps_walkedPath (h : ∀ name ∈ below, IsFileName name)
    (hlocation : files.root.at? location = some (.directory entries))
    (harrives : Arrives files.root linkLimit (startOf files.current directory)
      (leadingSteps directory) left location)
    (hfile : (Node.directory entries).at? below = some (.file content mode)) (rest : List String) :
    resolveSteps files.root true linkLimit (startOf files.current directory)
      (leadingSteps (walkedPath directory below) ++ rest) =
        if rest.isEmpty then .ok (.taken (location ++ below)) else .error .notADirectory := by
  obtain ⟨above, name, rfl⟩ := (List.eq_nil_or_concat' below).resolve_left fun hnil => by
    rw [hnil] at hfile
    exact nomatch hfile
  obtain ⟨habove, hname⟩ := List.forall_mem_append.1 h
  have hname : IsFileName name := hname name (List.mem_singleton_self name)
  have hnode : files.root.at? (location ++ (above ++ [name])) = some (.file content mode) := by
    rw [Node.at?_append, hlocation]
    exact hfile
  rw [← List.append_assoc] at hnode
  obtain ⟨inner, hinner⟩ := Node.at?_of_append hnode
  have hdirectory := arrives_walkedPath habove hinner harrives
  rw [startOf_walkedPath habove] at hdirectory
  have hpath : walkedPath directory (above ++ [name]) =
      Path.join (walkedPath directory above) name := List.foldl_append
  rw [hpath, hname.leadingSteps_join, List.append_assoc, hdirectory.resolveSteps_append (.inr rfl),
    List.singleton_append, resolveSteps_name hname.toIsName, hnode, List.append_assoc]

/-- What is read at the path of a walk is the text of the file that it meets, unless no system call
accepts the path or the file does not let its owner read it. -/
theorem readText_walkedPath (h : files.node true directory = .ok (.directory entries))
    (hbelow : ∀ name ∈ below, IsFileName name)
    (hfile : (Node.directory entries).at? below = some (.file content mode)) :
    files.readText (walkedPath directory below) =
      match pathFault? (walkedPath directory below) with
      | some fault => .error fault
      | none =>
        if mayRead mode then
          match String.fromUTF8? content with
          | some text => .ok text
          | none => .error .invalidText
        else .error .permissionDenied := by
  obtain ⟨location, hdirectory, hlocation⟩ := node_eq_ok_iff.1 h
  obtain ⟨left, harrives⟩ := exists_arrives_of_resolve hdirectory hlocation
  have hne : below ≠ [] := by
    rintro rfl
    exact nomatch hfile
  have hresolve := resolveSteps_walkedPath hbelow hlocation harrives hfile []
  rw [List.append_nil, ← steps_walkedPath hbelow hne,
    ← startOf_walkedPath hbelow files.current directory] at hresolve
  have hnode : files.root.at? (location ++ below) = some (.file content mode) := by
    rw [Node.at?_append, hlocation]
    exact hfile
  cases hfault : pathFault? (walkedPath directory below) with
  | some fault =>
    have hnothing : files.node true (walkedPath directory below) = .error fault := by
      unfold node resolve
      rw [hfault]
      rfl
    unfold readText read
    rw [hnothing]
    rfl
  | none =>
    have hplace : files.resolve true (walkedPath directory below) =
        .ok (.taken (location ++ below)) := by
      unfold resolve
      rw [hfault]
      exact hresolve
    unfold readText
    rw [read_of_node (node_eq_ok_iff.2 ⟨location ++ below, hplace, hnode⟩)]
    split_ifs <;> rfl

end Below

end FileSystem

end ProgramConnector
