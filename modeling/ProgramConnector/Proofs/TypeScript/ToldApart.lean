import ProgramConnector.Proofs.TypeScript.NamedElements
import ProgramConnector.Proofs.TypeScript.SameValues

/-!
# Blocks that tell schemas apart

A titled schema is declared only when none of the schemas before it is the same, and under a name
that is not in use. So a block tells titled schemas apart by their names: two have the same name
when they are the same, and no other two have it. The names are neither that of the root nor those
of references, whatever the titles are and whichever numbers are added to names.
-/

namespace ProgramConnector.TypeScript

/-- The titled schemas of a block have names that tell them apart from one another, from the root
and from references. -/
structure Block.TellsApart (rootName : String) (block : Block) : Prop where
  /-- The names of the block are in order. -/
  wellNamed : block.WellNamed
  /-- The root is declared. -/
  root : rootName ∈ block.names
  /-- Titled schemas have a title and are in normal form. -/
  titled : ∀ entry ∈ block.titled, entry.1.title.isSome ∧ entry.1.IsNormal
  /-- Two titled schemas have the same name when they are the same. -/
  same : ∀ entry ∈ block.titled, ∀ other ∈ block.titled,
    entry.2 = other.2 ↔ entry.1.same other.1 = true
  /-- The name of a titled schema is that of nothing else. -/
  apart : ∀ entry ∈ block.titled, entry.2 ≠ rootName ∧
    ∀ reference ∈ block.references, reference.2 ≠ entry.2

namespace Block

section Apart

variable {setting : Setting} {rootName name : String} {b : Block} {schema : Schema}

/-- A name that is not in use is that of no declaration. -/
theorem WellNamed.ne_uniqueName (h : b.WellNamed) {declared : String}
    (hdeclared : declared ∈ b.names) (base : String) : declared ≠ uniqueName b.used base := by
  rintro rfl
  refine uniqueName_not_mem b.used base ?_
  rw [h.used] at hdeclared ⊢
  exact List.mem_reverse.2 hdeclared

/-- A titled schema that is the same as none before it is told apart from all of them. -/
theorem TellsApart.openTitled (h : b.TellsApart rootName) (setting : Setting)
    (hschema : schema.IsNormal) {title : String} (htitle : schema.title = some title)
    (hnew : ∀ entry ∈ b.titled, entry.1.same schema = false)
    (hname : name = uniqueName b.used (Naming.typeName title)) :
    (b.opened name schema.description (b.titled ++ [(schema, name)])
      b.references).TellsApart rootName := by
  have hfresh {declared : String} (hd : declared ∈ b.names) : declared ≠ name :=
    hname ▸ h.wellNamed.ne_uniqueName hd _
  have hold {entry : Schema × String} (he : entry ∈ b.titled) : entry.2 ≠ name :=
    hfresh (h.wellNamed.titled entry he).1
  have hother {entry : Schema × String} (he : entry ∈ b.titled) : ¬ schema.same entry.1 = true := by
    intro hsame
    have hback := same_symm_schema hschema (h.titled entry he).2 hsame
    rw [hnew entry he] at hback
    cases hback
  refine ⟨(isKept_wellNamed setting).titled b schema title name h.wellNamed htitle hnew hname, ?_,
    ?_, ?_, ?_⟩
  · rw [names_opened]
    exact List.mem_append_left _ h.root
  · exact List.forall_mem_append.2 ⟨h.titled,
      List.forall_mem_singleton.2 ⟨Option.isSome_of_eq_some htitle, hschema⟩⟩
  · refine List.forall_mem_append.2 ⟨fun entry he => List.forall_mem_append.2 ⟨h.same entry he, ?_⟩,
      List.forall_mem_singleton.2 (List.forall_mem_append.2 ⟨fun entry he => ?_, ?_⟩)⟩
    · exact List.forall_mem_singleton.2 (iff_of_false (hold he) (by simp [hnew entry he]))
    · exact iff_of_false (hold he).symm (hother he)
    · exact List.forall_mem_singleton.2 (iff_of_true rfl hschema.same_self)
  · refine List.forall_mem_append.2 ⟨h.apart, List.forall_mem_singleton.2 ⟨?_, fun other ho => ?_⟩⟩
    · exact (hfresh h.root).symm
    · exact hfresh (h.wellNamed.references other ho).1

/-- A reference gets a name that no titled schema has. -/
theorem TellsApart.openReference (h : b.TellsApart rootName) {reference : String} {target : Schema}
    (hroot : reference ≠ "#") (htarget : setting.target? reference = some target)
    (hnew : reference ∉ Members.keys b.references)
    (hname : name = uniqueName b.used (Naming.typeName (referenceBase reference target))) :
    (b.opened name target.description b.titled
      ((reference, name) :: b.references)).TellsApart rootName := by
  have hfresh {declared : String} (hd : declared ∈ b.names) : declared ≠ name :=
    hname ▸ h.wellNamed.ne_uniqueName hd _
  refine ⟨(isKept_wellNamed setting).reference b reference target name h.wellNamed hroot htarget
    hnew hname, ?_, h.titled, h.same, fun entry he => ⟨(h.apart entry he).1, ?_⟩⟩
  · rw [names_opened]
    exact List.mem_append_left _ h.root
  · refine List.forall_mem_cons.2 ⟨?_, (h.apart entry he).2⟩
    exact (hfresh (h.wellNamed.titled entry he).1).symm

/-- A body changes no name. -/
theorem TellsApart.complete (h : b.TellsApart rootName) (place : Nat) (body : Body) :
    (b.complete place body).TellsApart rootName := by
  refine ⟨h.wellNamed.complete place body, ?_, h.titled, h.same, h.apart⟩
  rw [names_complete]
  exact h.root

/-- The block in which only the root is declared has no titled schemas. -/
theorem tellsApart_start (rootName : String) (description : Option String) :
    (Block.start rootName description).TellsApart rootName := by
  have hnamed : (Block.start rootName description).WellNamed :=
    Block.wellNamed_empty.opened (by simp) (by simp) (by simp)
  exact ⟨hnamed, List.mem_singleton_self _, fun _ he => absurd he List.not_mem_nil,
    fun _ he => absurd he List.not_mem_nil, fun _ he => absurd he List.not_mem_nil⟩

end Apart

end Block

end ProgramConnector.TypeScript
