import ProgramConnector.Proofs.Files.Resolution

/-!
# Following paths with links

Links may stand on the way of a path. Steps arrive at a directory when every one of them stays, goes
up, enters a directory or follows a link, and as long as directories and links stay what they are,
they arrive at the same directory. What comes behind them in a path is taken from there. Which place
all steps of a path lead to is told by one relation, with a case for every kind of step. A directory
has room for a file at a place that a path leads to, and the path leads to what has come to stand
there.
-/

namespace ProgramConnector.FileSystem

/-- What is done at a link while so many links may be followed. -/
def onLink (root : Node) (follow : Bool) :
    Nat → List String → String → List String → Except OsError Place
  | 0, _, _, _ => .error .tooManyLinks
  | links + 1, here, target, rest =>
    resolveSteps root follow links (startOf here target) (steps target ++ rest)

/-- Steps arrive at a location. Before them `links` links may be followed, and `left` behind
them. -/
inductive Arrives (root : Node) : Nat → List String → List String → Nat → List String → Prop where
  /-- No step is left. -/
  | stay {links : Nat} {here : List String} : Arrives root links here [] links here
  /-- A dot stays. -/
  | same {links left : Nat} {here rest location : List String}
    (next : Arrives root links here rest left location) :
    Arrives root links here ("." :: rest) left location
  /-- Two dots go up. -/
  | up {links left : Nat} {here rest location : List String}
    (next : Arrives root links here.dropLast rest left location) :
    Arrives root links here (".." :: rest) left location
  /-- A directory is entered. -/
  | enter {links left : Nat} {here rest location : List String} {step : String}
    (name : IsName step) (entry : root.entryAt? (here ++ [step]) = some .directory)
    (next : Arrives root links (here ++ [step]) rest left location) :
    Arrives root links here (step :: rest) left location
  /-- A link is followed. -/
  | follow {links left : Nat} {here rest location : List String} {step target : String}
    (name : IsName step) (entry : root.entryAt? (here ++ [step]) = some (.link target))
    (next : Arrives root links (startOf here target) (steps target ++ rest) left location) :
    Arrives root (links + 1) here (step :: rest) left location

/-- Where steps lead in a tree with links, while so many links may be followed. A link at the end is
followed only with `follow`. -/
inductive Finds (root : Node) (follow : Bool) : Nat → List String → List String → Place → Prop where
  /-- No step is left. -/
  | stay {links : Nat} {here : List String} : Finds root follow links here [] (.taken here)
  /-- A dot stays. -/
  | same {links : Nat} {here rest : List String} {place : Place}
    (next : Finds root follow links here rest place) :
    Finds root follow links here ("." :: rest) place
  /-- Two dots go up. -/
  | up {links : Nat} {here rest : List String} {place : Place}
    (next : Finds root follow links here.dropLast rest place) :
    Finds root follow links here (".." :: rest) place
  /-- A directory is entered. -/
  | enter {links : Nat} {here rest : List String} {step : String} {place : Place}
    (name : IsName step) (entry : root.entryAt? (here ++ [step]) = some .directory)
    (next : Finds root follow links (here ++ [step]) rest place) :
    Finds root follow links here (step :: rest) place
  /-- A file has to come last. -/
  | file {links : Nat} {here : List String} {step : String} {content : ByteArray} {mode : Nat}
    (name : IsName step) (entry : root.entryAt? (here ++ [step]) = some (.file content mode)) :
    Finds root follow links here [step] (.taken (here ++ [step]))
  /-- A free name has to come last. -/
  | free {links : Nat} {here : List String} {step : String} (name : IsName step)
    (entry : root.entryAt? (here ++ [step]) = none) :
    Finds root follow links here [step] (.free (here ++ [step]) false)
  /-- Behind a free name there may be a dot. -/
  | freeSlash {links : Nat} {here : List String} {step : String} (name : IsName step)
    (entry : root.entryAt? (here ++ [step]) = none) :
    Finds root follow links here [step, "."] (.free (here ++ [step]) true)
  /-- A link at the end may not be followed. -/
  | link {links : Nat} {here : List String} {step target : String} (name : IsName step)
    (entry : root.entryAt? (here ++ [step]) = some (.link target)) (stays : follow = false) :
    Finds root follow links here [step] (.taken (here ++ [step]))
  /-- A link is followed. -/
  | follow {links : Nat} {here rest : List String} {step target : String} {place : Place}
    (name : IsName step) (entry : root.entryAt? (here ++ [step]) = some (.link target))
    (last : rest ≠ [] ∨ follow = true)
    (next : Finds root follow links (startOf here target) (steps target ++ rest) place) :
    Finds root follow (links + 1) here (step :: rest) place

section Steps

variable {root later : Node} {follow : Bool} {links left : Nat}
  {here steps last location : List String} {place : Place}

/-- Steps are walked until a link is met. -/
theorem resolveSteps_eq_walkSteps (root : Node) (follow : Bool) (links : Nat)
    (here steps : List String) : resolveSteps root follow links here steps =
      walkSteps root (onLink root follow links) follow here steps := by
  cases links <;> rfl

/-- A step that is a name looks at what stands at the name. -/
theorem resolveSteps_name {step : String} (h : IsName step) (rest : List String) :
    resolveSteps root follow links here (step :: rest) =
      match root.at? (here ++ [step]) with
      | none =>
        if rest.isEmpty then .ok (.free (here ++ [step]) false)
        else if rest == ["."] then .ok (.free (here ++ [step]) true)
        else .error .notFound
      | some (.directory _) => resolveSteps root follow links (here ++ [step]) rest
      | some (.file _ _) =>
        if rest.isEmpty then .ok (.taken (here ++ [step])) else .error .notADirectory
      | some (.link target) =>
        if rest.isEmpty && !follow then .ok (.taken (here ++ [step]))
        else onLink root follow links here target rest := by
  simp only [resolveSteps_eq_walkSteps]
  exact walkSteps_name h

/-- A directory is entered. -/
theorem resolveSteps_directory {step : String} (h : IsName step)
    (hentry : root.entryAt? (here ++ [step]) = some .directory) (rest : List String) :
    resolveSteps root follow links here (step :: rest) =
      resolveSteps root follow links (here ++ [step]) rest := by
  obtain ⟨entries, hnode⟩ := Node.entryAt?_eq_directory_iff.1 hentry
  rw [resolveSteps_name h, hnode]

/-- A link is followed unless it comes last. -/
theorem resolveSteps_link {step target : String} (h : IsName step)
    (hentry : root.entryAt? (here ++ [step]) = some (.link target)) {rest : List String}
    (hrest : rest ≠ [] ∨ follow = true) :
    resolveSteps root follow links here (step :: rest) =
      onLink root follow links here target rest := by
  rw [resolveSteps_name h, Node.entryAt?_eq_link_iff.1 hentry]
  refine if_neg fun hlast => ?_
  simp only [Bool.and_eq_true, List.isEmpty_iff, Bool.not_eq_true'] at hlast
  rcases hrest with hrest | hfollow
  · exact hrest hlast.1
  · exact absurd (hfollow.symm.trans hlast.2) (by decide)

/-- A dot stays. -/
theorem resolveSteps_same (rest : List String) :
    resolveSteps root follow links here ("." :: rest) =
      resolveSteps root follow links here rest := by
  simp only [resolveSteps_eq_walkSteps]
  rfl

/-- Two dots go up. -/
theorem resolveSteps_up (rest : List String) :
    resolveSteps root follow links here (".." :: rest) =
      resolveSteps root follow links here.dropLast rest := by
  simp only [resolveSteps_eq_walkSteps]
  rfl

/-- What comes behind steps that arrive is taken from where they arrive. -/
theorem Arrives.resolveSteps_append (h : Arrives root links here steps left location)
    (hlast : last ≠ [] ∨ follow = true) :
    resolveSteps root follow links here (steps ++ last) =
      resolveSteps root follow left location last := by
  induction h with
  | stay => rfl
  | same next ih => exact (resolveSteps_same _).trans ih
  | up next ih => exact (resolveSteps_up _).trans ih
  | enter name entry next ih =>
    rw [List.cons_append, resolveSteps_directory name entry]
    exact ih
  | @follow links left here rest location step target name entry next ih =>
    have hrest : rest ++ last ≠ [] ∨ follow = true := by
      exact hlast.imp_left (List.append_ne_nil_of_right_ne_nil rest)
    rw [List.cons_append, resolveSteps_link name entry hrest, ← ih, List.append_assoc]
    rfl

/-- A step that neither stays nor goes up is a name, or leads nowhere because it is too long. -/
theorem isName_or_nameTooLong {step : String} (hstays : step ≠ ".") (hrises : step ≠ "..") :
    IsName step ∨ ∀ here rest,
      resolveSteps root follow links here (step :: rest) = .error .nameTooLong := by
  by_cases hlong : nameLimit < step.utf8ByteSize
  · refine .inr fun here rest => ?_
    rw [resolveSteps_eq_walkSteps, walkSteps, if_neg (by simpa using hstays),
      if_neg (by simpa using hrises), if_pos hlong]
  · exact .inl ⟨hstays, hrises, Nat.not_lt.1 hlong⟩

/-- Steps that lead to a place are found there, where the links on their way are. -/
theorem finds_of_links
    (hlinks : ∀ here step target rest, IsName step →
      root.entryAt? (here ++ [step]) = some (.link target) → (rest ≠ [] ∨ follow = true) →
      onLink root follow links here target rest = .ok place →
      Finds root follow links here (step :: rest) place)
    (h : resolveSteps root follow links here steps = .ok place) :
    Finds root follow links here steps place := by
  induction steps generalizing here with
  | nil =>
    rw [resolveSteps_eq_walkSteps] at h
    cases h
    exact .stay
  | cons step rest ih =>
    by_cases hstays : step = "."
    · subst hstays
      exact .same (ih ((resolveSteps_same rest).symm.trans h))
    by_cases hrises : step = ".."
    · subst hrises
      exact .up (ih ((resolveSteps_up rest).symm.trans h))
    rcases isName_or_nameTooLong hstays hrises with hstep | hlong
    swap
    · exact nomatch (hlong here rest).symm.trans h
    rw [resolveSteps_name hstep] at h
    cases hnode : root.at? (here ++ [step]) with
    | none =>
      rw [hnode] at h
      have hentry := Node.entryAt?_eq_none_iff.2 hnode
      dsimp only at h
      split_ifs at h with hempty hslash
      · cases h
        rw [List.isEmpty_iff.1 hempty]
        exact .free hstep hentry
      · cases h
        rw [eq_of_beq hslash]
        exact .freeSlash hstep hentry
    | some node =>
      rw [hnode] at h
      cases node with
      | directory entries =>
        exact .enter hstep (Node.entryAt?_eq_directory_iff.2 ⟨entries, hnode⟩) (ih h)
      | file content mode =>
        dsimp only at h
        split_ifs at h with hempty
        cases h
        rw [List.isEmpty_iff.1 hempty]
        exact .file hstep (Node.entryAt?_eq_file_iff.2 hnode)
      | link target =>
        have hentry := Node.entryAt?_eq_link_iff.2 hnode
        dsimp only at h
        split_ifs at h with hlast
        · obtain ⟨hempty, hfollow⟩ := Bool.and_eq_true_iff.1 hlast
          cases h
          rw [List.isEmpty_iff.1 hempty]
          exact .link hstep hentry (by simpa using hfollow)
        · refine hlinks here step target rest hstep hentry ?_ h
          by_contra hnot
          simp_all

/-- Steps that lead to a place are found there. -/
theorem finds_of_resolveSteps (h : resolveSteps root follow links here steps = .ok place) :
    Finds root follow links here steps place := by
  -- At a link the steps get longer, and there is one link less to follow.
  induction links generalizing here steps with
  | zero => exact finds_of_links (fun _ _ _ _ _ _ _ hnot => nomatch hnot) h
  | succ links ih =>
    exact finds_of_links (fun _ _ _ _ hstep hentry hlast hlink =>
      .follow hstep hentry hlast (ih hlink)) h

/-- Steps lead to the place where they are found. -/
theorem Finds.resolveSteps_eq (h : Finds root follow links here steps place) :
    resolveSteps root follow links here steps = .ok place := by
  induction h with
  | stay =>
    rw [resolveSteps_eq_walkSteps]
    rfl
  | same next ih => exact (resolveSteps_same _).trans ih
  | up next ih => exact (resolveSteps_up _).trans ih
  | enter name entry next ih => exact (resolveSteps_directory name entry _).trans ih
  | file name entry =>
    rw [resolveSteps_name name, Node.entryAt?_eq_file_iff.1 entry]
    rfl
  | free name entry =>
    rw [resolveSteps_name name, Node.entryAt?_eq_none_iff.1 entry]
    rfl
  | freeSlash name entry =>
    rw [resolveSteps_name name, Node.entryAt?_eq_none_iff.1 entry]
    rfl
  | link name entry stays =>
    rw [resolveSteps_name name, Node.entryAt?_eq_link_iff.1 entry, stays]
    rfl
  | follow name entry last next ih => exact (resolveSteps_link name entry last).trans ih

/-- Steps before a name arrive somewhere when they lead anywhere. -/
theorem Finds.exists_arrives {all : List String} {name : String} (hname : name ≠ ".")
    (h : Finds root follow links here all place) (hall : all = steps ++ [name]) :
    ∃ left location, Arrives root links here steps left location := by
  have hone (step : String) (steps : List String) (hall : [step] = steps ++ [name]) :
      steps = [] := by
    simpa using congrArg List.length hall
  induction h generalizing steps with
  | stay => exact absurd hall.symm (by simp)
  | same next ih =>
    rcases List.append_eq_cons_iff.1 hall.symm with ⟨rfl, -⟩ | ⟨more, rfl, hmore⟩
    · exact ⟨_, _, .stay⟩
    · obtain ⟨left, location, harrives⟩ := ih hmore
      exact ⟨left, location, .same harrives⟩
  | up next ih =>
    rcases List.append_eq_cons_iff.1 hall.symm with ⟨rfl, -⟩ | ⟨more, rfl, hmore⟩
    · exact ⟨_, _, .stay⟩
    · obtain ⟨left, location, harrives⟩ := ih hmore
      exact ⟨left, location, .up harrives⟩
  | enter step entry next ih =>
    rcases List.append_eq_cons_iff.1 hall.symm with ⟨rfl, -⟩ | ⟨more, rfl, hmore⟩
    · exact ⟨_, _, .stay⟩
    · obtain ⟨left, location, harrives⟩ := ih hmore
      exact ⟨left, location, .enter step entry harrives⟩
  | follow step entry last next ih =>
    rcases List.append_eq_cons_iff.1 hall.symm with ⟨rfl, -⟩ | ⟨more, rfl, rfl⟩
    · exact ⟨_, _, .stay⟩
    · obtain ⟨left, location, harrives⟩ := ih (List.append_assoc _ more [name]).symm
      exact ⟨left, location, .follow step entry harrives⟩
  | freeSlash step entry =>
    have hdot : some "." = some name := by simpa using congrArg List.getLast? hall
    exact absurd (Option.some.inj hdot).symm hname
  | file step entry =>
    rw [hone _ _ hall]
    exact ⟨_, _, .stay⟩
  | free step entry =>
    rw [hone _ _ hall]
    exact ⟨_, _, .stay⟩
  | link step entry stays =>
    rw [hone _ _ hall]
    exact ⟨_, _, .stay⟩

/-- Steps that lead to a directory arrive there. -/
theorem Finds.arrives_of_directory (hdirectory : root.entryAt? location = some .directory)
    (h : Finds root true links here steps (.taken location)) :
    ∃ left, Arrives root links here steps left location := by
  generalize hplace : Place.taken location = place at h
  induction h with
  | stay =>
    cases hplace
    exact ⟨_, .stay⟩
  | same next ih =>
    obtain ⟨left, harrives⟩ := ih hplace
    exact ⟨left, .same harrives⟩
  | up next ih =>
    obtain ⟨left, harrives⟩ := ih hplace
    exact ⟨left, .up harrives⟩
  | enter name entry next ih =>
    obtain ⟨left, harrives⟩ := ih hplace
    exact ⟨left, .enter name entry harrives⟩
  | file name entry =>
    cases hplace
    exact nomatch entry.symm.trans hdirectory
  | free name entry => exact nomatch hplace
  | freeSlash name entry => exact nomatch hplace
  | link name entry stays => exact nomatch stays
  | follow name entry last next ih =>
    obtain ⟨left, harrives⟩ := ih hplace
    exact ⟨left, .follow name entry harrives⟩

/-- Steps that lead to something lead there or to a link when a link at their end is not
followed. -/
theorem Finds.exists_taken (h : Finds root true links here steps (.taken location)) :
    ∃ other, Finds root false links here steps (.taken other) ∧
      (other = location ∨ ∃ target, root.at? other = some (.link target)) := by
  generalize hplace : Place.taken location = place at h
  induction h with
  | stay =>
    cases hplace
    exact ⟨_, .stay, .inl rfl⟩
  | same next ih =>
    obtain ⟨other, hother, hwhere⟩ := ih hplace
    exact ⟨other, .same hother, hwhere⟩
  | up next ih =>
    obtain ⟨other, hother, hwhere⟩ := ih hplace
    exact ⟨other, .up hother, hwhere⟩
  | enter name entry next ih =>
    obtain ⟨other, hother, hwhere⟩ := ih hplace
    exact ⟨other, .enter name entry hother, hwhere⟩
  | file name entry =>
    cases hplace
    exact ⟨_, .file name entry, .inl rfl⟩
  | free name entry => exact nomatch hplace
  | freeSlash name entry => exact nomatch hplace
  | link name entry stays => exact nomatch stays
  | @follow links here rest step target place name entry last next ih =>
    by_cases hrest : rest = []
    · subst hrest
      exact ⟨_, .link name entry rfl, .inr ⟨target, Node.entryAt?_eq_link_iff.1 entry⟩⟩
    · obtain ⟨other, hother, hwhere⟩ := ih hplace
      exact ⟨other, .follow name entry (.inl hrest) hother, hwhere⟩

/-- Steps arrive where they arrived before, as long as directories and links stay. -/
theorem Arrives.persist (h : Arrives root links here steps left location)
    (hdirectory : ∀ location, root.entryAt? location = some .directory →
      later.entryAt? location = some .directory)
    (hlink : ∀ location target, root.entryAt? location = some (.link target) →
      later.entryAt? location = some (.link target)) :
    Arrives later links here steps left location := by
  induction h with
  | stay => exact .stay
  | same next ih => exact .same ih
  | up next ih => exact .up ih
  | enter name entry next ih => exact .enter name (hdirectory _ entry) ih
  | follow name entry next ih => exact .follow name (hlink _ _ entry) ih

/-- Where there is no link, steps arrive at the location that they denote. -/
theorem Arrives.location_eq (hlinks : root.IsUnlinked)
    (h : Arrives root links here steps left location) : location = locate here steps := by
  induction h with
  | stay => rfl
  | same next ih => exact ih
  | up next ih => exact ih
  | enter name entry next ih => exact ih.trans (name.locate_cons _ _).symm
  | follow name entry next ih => exact absurd entry (hlinks _ _)

end Steps

section Places

variable {root later : Node} {follow : Bool} {links : Nat} {here steps : List String}
  {place : Place}

/-- A directory has room for a file at a place that steps lead to. -/
theorem Finds.hasRoom (hhere : root.entryAt? here = some .directory)
    (h : Finds root follow links here steps place) (hplace : IsWritable root.entryAt? place) :
    root.HasRoom place.location := by
  induction h with
  | stay =>
    obtain ⟨_, _, hfile⟩ := hplace
    exact nomatch hfile.symm.trans hhere
  | same next ih => exact ih hhere hplace
  | up next ih => exact ih (entryAt?_dropLast hhere) hplace
  | enter name entry next ih => exact ih entry hplace
  | file name entry =>
    obtain ⟨entries, habove⟩ := Node.entryAt?_eq_directory_iff.1 hhere
    refine ⟨⟨_, _, entries, rfl, habove⟩, fun node hnode => ?_⟩
    have hfile := hnode.symm.trans (Node.entryAt?_eq_file_iff.1 entry)
    rw [Option.some.inj hfile]
    rfl
  | free name entry =>
    obtain ⟨entries, habove⟩ := Node.entryAt?_eq_directory_iff.1 hhere
    refine ⟨⟨_, _, entries, rfl, habove⟩, fun node hnode => ?_⟩
    exact nomatch hnode.symm.trans (Node.entryAt?_eq_none_iff.1 entry)
  | freeSlash name entry => exact absurd hplace (by simp [IsWritable])
  | link name entry stays =>
    obtain ⟨_, _, hfile⟩ := hplace
    exact nomatch hfile.symm.trans entry
  | follow name entry last next ih => exact ih (entryAt?_startOf hhere _) hplace

/-- Steps that lead to a place for a file end with a name. -/
theorem Finds.last (hhere : root.entryAt? here = some .directory)
    (h : Finds root follow links here steps place) (hplace : IsWritable root.entryAt? place) :
    ∃ front name, steps = front ++ [name] ∧ IsName name := by
  induction h with
  | stay =>
    obtain ⟨_, _, hfile⟩ := hplace
    exact nomatch hfile.symm.trans hhere
  | same next ih =>
    obtain ⟨front, name, rfl, hname⟩ := ih hhere hplace
    exact ⟨"." :: front, name, rfl, hname⟩
  | up next ih =>
    obtain ⟨front, name, rfl, hname⟩ := ih (entryAt?_dropLast hhere) hplace
    exact ⟨".." :: front, name, rfl, hname⟩
  | @enter links here rest step place hstep entry next ih =>
    obtain ⟨front, name, rfl, hname⟩ := ih entry hplace
    exact ⟨step :: front, name, rfl, hname⟩
  | file hstep entry => exact ⟨[], _, rfl, hstep⟩
  | free hstep entry => exact ⟨[], _, rfl, hstep⟩
  | freeSlash hstep entry => exact absurd hplace (by simp [IsWritable])
  | link hstep entry stays => exact ⟨[], _, rfl, hstep⟩
  | @follow links here rest step target place hstep entry last next ih =>
    obtain ⟨front, name, hsteps, hname⟩ := ih (entryAt?_startOf hhere target) hplace
    rcases List.eq_nil_or_concat' rest with rfl | ⟨more, other, rfl⟩
    · exact ⟨[], step, rfl, hstep⟩
    · rw [← List.append_assoc] at hsteps
      obtain ⟨-, hother⟩ := List.append_inj' hsteps rfl
      rw [(List.cons.inj hother).1]
      exact ⟨step :: more, name, rfl, hname⟩

/-- A name leads to the directory or the file that stands there. -/
theorem finds_of_present {step : String} (name : IsName step)
    (h : root.entryAt? (here ++ [step]) = some .directory ∨
      ∃ content mode, root.entryAt? (here ++ [step]) = some (.file content mode)) :
    Finds root follow links here [step] (.taken (here ++ [step])) := by
  rcases h with hdirectory | ⟨content, mode, hfile⟩
  · exact .enter name hdirectory .stay
  · exact .file name hfile

/-- Steps that lead to a place for a file lead to what has come to stand there, as long as
directories and links stay. -/
theorem Finds.fill (hdirectory : ∀ location, root.entryAt? location = some .directory →
      later.entryAt? location = some .directory)
    (hlink : ∀ location target, root.entryAt? location = some (.link target) →
      later.entryAt? location = some (.link target))
    (h : Finds root follow links here steps place) (hplace : IsWritable root.entryAt? place)
    (hnew : later.entryAt? place.location = some .directory ∨
      ∃ content mode, later.entryAt? place.location = some (.file content mode)) :
    Finds later true links here steps (.taken place.location) := by
  induction h with
  | stay => exact .stay
  | same next ih => exact .same (ih hplace hnew)
  | up next ih => exact .up (ih hplace hnew)
  | enter name entry next ih => exact .enter name (hdirectory _ entry) (ih hplace hnew)
  | file name entry => exact finds_of_present name hnew
  | free name entry => exact finds_of_present name hnew
  | freeSlash name entry => exact absurd hplace (by simp [IsWritable])
  | link name entry stays =>
    obtain ⟨_, _, hfile⟩ := hplace
    exact nomatch hfile.symm.trans entry
  | follow name entry last next ih =>
    exact .follow name (hlink _ _ entry) (.inr rfl) (ih hplace hnew)

/-- Nothing stands at a free name. -/
theorem Finds.free_eq_none {location : List String} {slash : Bool}
    (h : Finds root follow links here steps (.free location slash)) :
    root.entryAt? location = none := by
  generalize hplace : Place.free location slash = place at h
  induction h with
  | stay => exact nomatch hplace
  | same next ih => exact ih hplace
  | up next ih => exact ih hplace
  | enter name entry next ih => exact ih hplace
  | file name entry => exact nomatch hplace
  | free name entry =>
    cases hplace
    exact entry
  | freeSlash name entry =>
    cases hplace
    exact entry
  | link name entry stays => exact nomatch hplace
  | follow name entry last next ih => exact ih hplace

end Places


section Resolving

variable {files : FileSystem} {follow : Bool} {path : String} {place : Place}
  {location : List String}

/-- A path leads to a place when it is a path at all and its steps lead there. -/
theorem resolve_eq_ok_iff : files.resolve follow path = .ok place ↔
    pathFault? path = none ∧
      Finds files.root follow linkLimit (startOf files.current path) (steps path) place := by
  unfold resolve
  cases pathFault? path with
  | some fault => simp
  | none =>
    rw [eq_self, true_and]
    exact ⟨finds_of_resolveSteps, Finds.resolveSteps_eq⟩

/-- A path that leads to something leads there or to a link when a link at its end is not
followed. -/
theorem exists_taken_of_resolve (h : files.resolve true path = .ok (.taken location)) :
    ∃ other, files.resolve false path = .ok (.taken other) ∧
      (other = location ∨ ∃ target, files.root.at? other = some (.link target)) := by
  obtain ⟨haccepted, hfinds⟩ := resolve_eq_ok_iff.1 h
  obtain ⟨other, hother, hwhere⟩ := hfinds.exists_taken
  exact ⟨other, resolve_eq_ok_iff.2 ⟨haccepted, hother⟩, hwhere⟩

/-- A directory has room at a place for a file that a path leads to, and the path ends with a
name. -/
theorem hasRoom_of_resolve (hcurrent : files.entryAt? files.current = some .directory)
    (hresolve : files.resolve follow path = .ok place)
    (hplace : IsWritable files.entryAt? place) :
    files.root.HasRoom place.location ∧
      ∃ front name, steps path = front ++ [name] ∧ IsName name := by
  obtain ⟨-, hfinds⟩ := resolve_eq_ok_iff.1 hresolve
  have hstart := entryAt?_startOf hcurrent path
  exact ⟨hfinds.hasRoom hstart hplace, hfinds.last hstart hplace⟩

end Resolving

end ProgramConnector.FileSystem
