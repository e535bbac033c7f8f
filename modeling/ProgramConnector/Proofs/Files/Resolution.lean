import Mathlib.Tactic.SplitIfs
import ProgramConnector.Proofs.Files.Entries

/-!
# Following paths without links

In a file system without links, where a path leads is decided by its steps alone, and whether it
leads anywhere is decided by the entries on its way. So a path that leads to something keeps leading
there while directories stay directories and files stay files.
-/

namespace ProgramConnector

namespace Place

/-- The location of a place. -/
def location : Place → List String
  | .taken location => location
  | .free location _ => location

end Place

namespace FileSystem

/-- The entry at a location. -/
def entryAt? (files : FileSystem) (location : List String) : Option Entry :=
  files.root.entryAt? location

/-- A file system without links, with a directory to work in. -/
structure IsPlain (files : FileSystem) : Prop where
  /-- There is no link. -/
  unlinked : files.root.IsUnlinked
  /-- The working directory is a directory. -/
  current : files.entryAt? files.current = some .directory

/-- The location that steps lead to from another one where there is no link. -/
def locate (here : List String) (steps : List String) : List String :=
  steps.foldl (fun here step =>
    if step == "." then here else if step == ".." then here.dropLast else here ++ [step]) here

/-- The location that a path denotes where there is no link. -/
def location (files : FileSystem) (path : String) : List String :=
  locate (startOf files.current path) (steps path)

/-- A step to a name of a directory. -/
structure IsName (step : String) : Prop where
  /-- The step does not stay. -/
  stays : step ≠ "."
  /-- The step does not go up. -/
  rises : step ≠ ".."
  /-- The name is not too long. -/
  short : step.utf8ByteSize ≤ nameLimit

/-- Where steps lead among entries without links. -/
inductive Leads (entryAt? : List String → Option Entry) :
    List String → List String → Place → Prop where
  /-- No step is left. -/
  | stay {here : List String} : Leads entryAt? here [] (.taken here)
  /-- A dot stays. -/
  | same {here rest : List String} {place : Place} (next : Leads entryAt? here rest place) :
    Leads entryAt? here ("." :: rest) place
  /-- Two dots go up. -/
  | up {here rest : List String} {place : Place} (next : Leads entryAt? here.dropLast rest place) :
    Leads entryAt? here (".." :: rest) place
  /-- A name of a directory is entered. -/
  | enter {here rest : List String} {step : String} {place : Place} (name : IsName step)
    (entry : entryAt? (here ++ [step]) = some .directory)
    (next : Leads entryAt? (here ++ [step]) rest place) : Leads entryAt? here (step :: rest) place
  /-- A file has to come last. -/
  | file {here : List String} {step : String} {content : ByteArray} {mode : Nat}
    (name : IsName step) (entry : entryAt? (here ++ [step]) = some (.file content mode)) :
    Leads entryAt? here [step] (.taken (here ++ [step]))
  /-- A free name has to come last. -/
  | free {here : List String} {step : String} (name : IsName step)
    (entry : entryAt? (here ++ [step]) = none) :
    Leads entryAt? here [step] (.free (here ++ [step]) false)
  /-- Behind a free name there may be a dot. -/
  | freeSlash {here : List String} {step : String} (name : IsName step)
    (entry : entryAt? (here ++ [step]) = none) :
    Leads entryAt? here [step, "."] (.free (here ++ [step]) true)

/-- Entries that stay what they are: directories stay directories, and files stay files, perhaps
with another content. -/
structure Persist (entryAt? later : List String → Option Entry) : Prop where
  /-- Directories stay. -/
  directory : ∀ location, entryAt? location = some .directory → later location = some .directory
  /-- Files stay. -/
  file : ∀ location content mode, entryAt? location = some (.file content mode) →
    ∃ content mode, later location = some (.file content mode)

/-- A place that a file can be written to: a file, or a free name without anything behind it. -/
def IsWritable (entryAt? : List String → Option Entry) : Place → Prop
  | .taken location => ∃ content mode, entryAt? location = some (.file content mode)
  | .free _ slash => slash = false

/-- Steps do not go up from a place where something has come to stand: where nothing was in front of
two dots, there is still nothing. -/
def LeavesOld (entryAt? later : List String → Option Entry) (here steps : List String) : Prop :=
  ∀ front behind, steps = front ++ ".." :: behind →
    entryAt? (locate here front) = none → later (locate here front) = none

section Leads

variable {entryAt? later : List String → Option Entry} {here steps location : List String}
  {place : Place}

/-- A step to a name enters it. -/
theorem IsName.locate_cons {step : String} (h : IsName step) (here rest : List String) :
    locate here (step :: rest) = locate (here ++ [step]) rest := by
  simp [locate, h.stays, h.rises]

/-- A name behind steps is a name of the directory that they denote. -/
theorem IsName.locate_append {name : String} (h : IsName name) (here front : List String) :
    locate here (front ++ [name]) = locate here front ++ [name] := by
  have hlast : locate (locate here front) [name] = locate here front ++ [name] :=
    h.locate_cons (locate here front) []
  rw [← hlast, locate, List.foldl_append]
  rfl

/-- Steps lead to the location that they denote. -/
theorem Leads.location_eq (h : Leads entryAt? here steps place) :
    place.location = locate here steps := by
  induction h with
  | stay => rfl
  | same next ih => exact ih
  | up next ih => exact ih
  | enter name entry next ih => rw [ih, name.locate_cons]
  | file name entry => exact (name.locate_cons _ []).symm
  | free name entry => exact (name.locate_cons _ []).symm
  | freeSlash name entry => exact (name.locate_cons _ ["."]).symm

/-- What steps lead to, they still lead to later. -/
theorem Leads.persist (hp : Persist entryAt? later)
    (h : Leads entryAt? here steps (.taken location)) :
    Leads later here steps (.taken location) := by
  generalize hplace : Place.taken location = place at h
  induction h with
  | stay => exact .stay
  | same next ih => exact .same (ih hplace)
  | up next ih => exact .up (ih hplace)
  | enter name entry next ih => exact .enter name (hp.directory _ entry) (ih hplace)
  | file name entry =>
    obtain ⟨_, _, hlater⟩ := hp.file _ _ _ entry
    exact .file name hlater
  | free name entry => exact nomatch hplace
  | freeSlash name entry => exact nomatch hplace

/-- What holds of steps going up holds after the first of them. -/
theorem LeavesOld.tail {step : String} {rest : List String}
    (h : LeavesOld entryAt? later here (step :: rest)) :
    LeavesOld entryAt? later (locate here [step]) rest := by
  intro front behind hrest
  exact h (step :: front) behind (by rw [hrest, List.cons_append])

/-- What holds of steps going up holds after a name is entered. -/
theorem LeavesOld.enter {step : String} {rest : List String} (hname : IsName step)
    (h : LeavesOld entryAt? later here (step :: rest)) :
    LeavesOld entryAt? later (here ++ [step]) rest := by
  have htail := h.tail
  rw [hname.locate_cons] at htail
  exact htail

/-- Steps that start where nothing was, and do not leave it, lead to where nothing was. -/
theorem Leads.eq_none_of_absent
    (hbelow : ∀ location name, entryAt? location = none → entryAt? (location ++ [name]) = none)
    (hleaves : LeavesOld entryAt? later here steps) (hhere : entryAt? here = none)
    (hlater : later here = some .directory) (h : Leads later here steps (.taken location)) :
    entryAt? location = none := by
  generalize hplace : Place.taken location = place at h
  induction h with
  | stay =>
    cases hplace
    exact hhere
  | same next ih => exact ih hleaves.tail hhere hlater hplace
  | up next ih => exact absurd ((hleaves [] _ rfl hhere).symm.trans hlater) (by simp)
  | enter name entry next ih =>
    exact ih (hleaves.enter name) (hbelow _ _ hhere) entry hplace
  | file name entry =>
    cases hplace
    exact hbelow _ _ hhere
  | free name entry => exact nomatch hplace
  | freeSlash name entry => exact nomatch hplace

/-- Steps that lead to a file later on led there before, when the file was there before and the
steps do not go up from a directory that was not. -/
theorem Leads.back {content : ByteArray} {mode : Nat}
    (hup : ∀ location, entryAt? location = some .directory →
      entryAt? location.dropLast = some .directory)
    (hbelow : ∀ location name, entryAt? location = none → entryAt? (location ++ [name]) = none)
    (hnew : ∀ location, later location = some .directory →
      entryAt? location = some .directory ∨ entryAt? location = none)
    (hleaves : LeavesOld entryAt? later here steps) (hhere : entryAt? here = some .directory)
    (hfile : entryAt? location = some (.file content mode))
    (h : Leads later here steps (.taken location)) :
    Leads entryAt? here steps (.taken location) := by
  generalize hplace : Place.taken location = place at h
  induction h with
  | stay => exact .stay
  | same next ih => exact .same (ih hleaves.tail hhere hplace)
  | up next ih => exact .up (ih hleaves.tail (hup _ hhere) hplace)
  | enter name entry next ih =>
    have hnext := hleaves.enter name
    rcases hnew _ entry with hold | habsent
    · exact .enter name hold (ih hnext hold hplace)
    · subst hplace
      have hnone := next.eq_none_of_absent hbelow hnext habsent entry
      exact absurd (hnone.symm.trans hfile) (by simp)
  | file name entry =>
    cases hplace
    exact .file name hfile
  | free name entry => exact nomatch hplace
  | freeSlash name entry => exact nomatch hplace

end Leads

section Walk

variable {root : Node} {onLink : List String → String → List String → Except OsError Place}
  {follow : Bool} {place : Place}

/-- A step that is a name looks at what stands at the name. -/
theorem walkSteps_name {here rest : List String} {step : String} (h : IsName step) :
    walkSteps root onLink follow here (step :: rest) =
      match root.at? (here ++ [step]) with
      | none =>
        if rest.isEmpty then .ok (.free (here ++ [step]) false)
        else if rest == ["."] then .ok (.free (here ++ [step]) true)
        else .error .notFound
      | some (.directory _) => walkSteps root onLink follow (here ++ [step]) rest
      | some (.file _ _) =>
        if rest.isEmpty then .ok (.taken (here ++ [step])) else .error .notADirectory
      | some (.link target) =>
        if rest.isEmpty && !follow then .ok (.taken (here ++ [step]))
        else onLink here target rest := by
  have hstays : ¬ (step == ".") = true := by simpa using h.stays
  have hrises : ¬ (step == "..") = true := by simpa using h.rises
  exact (if_neg hstays).trans ((if_neg hrises).trans (if_neg (Nat.not_lt.2 h.short)))

/-- Steps that lead somewhere are taken there. -/
theorem walkSteps_of_leads {here steps : List String} (h : Leads root.entryAt? here steps place) :
    walkSteps root onLink follow here steps = .ok place := by
  induction h with
  | stay => rfl
  | same next ih => exact ih
  | up next ih => exact ih
  | enter name entry next ih =>
    obtain ⟨entries, hentries⟩ := Node.entryAt?_eq_directory_iff.1 entry
    rw [walkSteps_name name, hentries]
    exact ih
  | file name entry =>
    rw [walkSteps_name name, Node.entryAt?_eq_file_iff.1 entry]
    rfl
  | free name entry =>
    rw [walkSteps_name name, Node.entryAt?_eq_none_iff.1 entry]
    rfl
  | freeSlash name entry =>
    rw [walkSteps_name name, Node.entryAt?_eq_none_iff.1 entry]
    rfl

/-- Where there is no link, steps that are taken to a place lead there. -/
theorem leads_of_walkSteps (hlinks : root.IsUnlinked) {here steps : List String}
    (h : walkSteps root onLink follow here steps = .ok place) :
    Leads root.entryAt? here steps place := by
  induction steps generalizing here with
  | nil =>
    cases h
    exact .stay
  | cons step rest ih =>
    by_cases hstays : step = "."
    · subst hstays
      exact .same (ih h)
    by_cases hrises : step = ".."
    · subst hrises
      exact .up (ih h)
    by_cases hlong : nameLimit < step.utf8ByteSize
    · rw [walkSteps, if_neg (by simpa using hstays), if_neg (by simpa using hrises),
        if_pos hlong] at h
      exact nomatch h
    have hname : IsName step := ⟨hstays, hrises, Nat.not_lt.1 hlong⟩
    rw [walkSteps_name hname] at h
    cases hnode : root.at? (here ++ [step]) with
    | none =>
      rw [hnode] at h
      have hentry := Node.entryAt?_eq_none_iff.2 hnode
      dsimp only at h
      split_ifs at h with hempty hslash
      · cases h
        rw [List.isEmpty_iff.1 hempty]
        exact .free hname hentry
      · cases h
        rw [eq_of_beq hslash]
        exact .freeSlash hname hentry
    | some node =>
      rw [hnode] at h
      cases node with
      | directory entries => exact .enter hname (Node.entryAt?_eq_directory_iff.2 ⟨_, hnode⟩) (ih h)
      | file content mode =>
        dsimp only at h
        split_ifs at h with hempty
        cases h
        rw [List.isEmpty_iff.1 hempty]
        exact .file hname (Node.entryAt?_eq_file_iff.2 hnode)
      | link target =>
        exact absurd (by rw [Node.entryAt?, hnode]; rfl) (hlinks (here ++ [step]) target)

end Walk

section Directories

variable {root : Node} {here location : List String}

/-- What is above a directory is a directory. -/
theorem entryAt?_dropLast (h : root.entryAt? location = some .directory) :
    root.entryAt? location.dropLast = some .directory := by
  rcases List.eq_nil_or_concat' location with rfl | ⟨above, name, rfl⟩
  · exact h
  · obtain ⟨_, hnode⟩ := Node.entryAt?_eq_directory_iff.1 h
    rw [List.dropLast_concat]
    exact Node.entryAt?_eq_directory_iff.2 (Node.at?_of_append hnode)

/-- The top of a tree is a directory when there is a directory. -/
theorem entryAt?_top (h : root.entryAt? here = some .directory) :
    root.entryAt? [] = some .directory := by
  cases here with
  | nil => exact h
  | cons name rest =>
    obtain ⟨_, hnode⟩ := Node.entryAt?_eq_directory_iff.1 h
    have hbelow : root.at? ([] ++ name :: rest) = some _ := hnode
    exact Node.entryAt?_eq_directory_iff.2 (Node.at?_of_append hbelow)

/-- Paths that are taken from a directory start at a directory. -/
theorem entryAt?_startOf (h : root.entryAt? here = some .directory) (path : String) :
    root.entryAt? (startOf here path) = some .directory := by
  unfold startOf
  split
  · exact entryAt?_top h
  · exact h

end Directories

section Resolve

variable {files : FileSystem} {follow : Bool} {path : String} {place : Place}

/-- Where there is no link, a path leads to a place when it is a path at all and its steps lead
there. -/
theorem IsPlain.resolve_eq_ok_iff (h : files.IsPlain) : files.resolve follow path = .ok place ↔
    pathFault? path = none ∧
      Leads files.entryAt? (startOf files.current path) (steps path) place := by
  unfold resolve
  cases pathFault? path with
  | some fault => simp
  | none =>
    rw [eq_self, true_and]
    change resolveSteps files.root follow (39 + 1) _ _ = _ ↔ _
    exact ⟨leads_of_walkSteps h.unlinked, walkSteps_of_leads⟩

/-- There is nothing below nothing. -/
theorem entryAt?_append_singleton {location : List String} (h : files.entryAt? location = none)
    (name : String) : files.entryAt? (location ++ [name]) = none := by
  have hnode := Node.entryAt?_eq_none_iff.1 h
  refine Node.entryAt?_eq_none_iff.2 ?_
  rw [Node.at?_append, hnode]
  rfl

/-- A path leads to the location that it denotes. -/
theorem IsPlain.location_eq (h : files.IsPlain) (hpath : files.resolve follow path = .ok place) :
    place.location = files.location path :=
  (h.resolve_eq_ok_iff.1 hpath).2.location_eq

end Resolve

end FileSystem

end ProgramConnector
