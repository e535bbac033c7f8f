import ProgramConnector.Proofs.Catalog.Acceptance
import ProgramConnector.Proofs.Wrapper.FunctionReading

/-!
# Names at the top level of the functions module

The functions of accepted programs differ from one another by their names, and no check compares
them with the names that the header of their module binds. So the module binds a name twice exactly
when a function has the name of something in the header.
-/

namespace ProgramConnector.Catalog

open Wrapper

/-- The name of a function is not empty. -/
theorem toList_ne_nil_of_isFunctionName {name : String} (h : isFunctionName name = true) :
    name.toList ≠ [] := by
  intro hnil
  rw [isFunctionName, hnil] at h
  exact absurd h Bool.false_ne_true

/-- Names of functions that differ from one another are repeated behind the header exactly when one
of them is a name of the header. -/
theorem nodup_headerNames_append_iff {names : List String} (h : names.Nodup) :
    (headerNames ++ names).Nodup ↔ ∀ name ∈ names, name ∉ headerNames := by
  have hheader : headerNames.Nodup := by decide
  rw [List.nodup_append]
  constructor
  · rintro ⟨-, -, hdisjoint⟩ name hname hheaderName
    exact hdisjoint name hheaderName name hname rfl
  · intro hapart
    refine ⟨hheader, h, fun name hheaderName other hother heq => ?_⟩
    rw [heq] at hheaderName
    exact hapart other hother hheaderName

/-- Whenever programs are loaded, their functions module binds the names of its header and then
those of the functions, which differ from one another; no name is bound twice exactly when no
function has a name of the header. -/
theorem topLevelNames_of_load {files : FileSystem} {directory : String}
    {configuration : Option String} {programs : List Program}
    (h : load files directory configuration = .ok programs) (options : Options) :
    topLevelNames? (renderModule programs options) =
      some (headerNames ++ functionNames programs) ∧
    (functionNames programs).Nodup ∧
    ((headerNames ++ functionNames programs).Nodup ↔
      ∀ program ∈ programs, program.names.function ∉ headerNames) := by
  obtain ⟨-, -, haccepted⟩ := load_eq_ok_iff.1 h
  have hnames : ∀ program ∈ programs, program.names.function.toList ≠ [] := fun program hp =>
    toList_ne_nil_of_isFunctionName (haccepted.named program hp)
  refine ⟨topLevelNames?_renderModule options hnames, haccepted.distinct, ?_⟩
  rw [nodup_headerNames_append_iff haccepted.distinct, functionNames, List.forall_mem_map]

/-- Two programs are loaded, and their module binds the name of the second one twice. -/
theorem topLevelNames_of_load_wordFiles : ∃ first second,
    load wordFiles "programs" none = .ok [first, second] ∧
    topLevelNames? (renderModule [first, second] {}) = some ["sdk", "types", "utils",
      "buildVersion", "apiKey", "executeProgramEndpoint", "delete", "sdk"] ∧
    second.names.function = "sdk" := by
  obtain ⟨first, second, hload, -, hdelete, hsdk⟩ := exists_load_wordFiles
  obtain ⟨hnames, -, -⟩ := topLevelNames_of_load hload {}
  refine ⟨first, second, hload, hnames.trans ?_, hsdk⟩
  rw [functionNames, List.map_cons, List.map_singleton, hdelete, hsdk]
  rfl

end ProgramConnector.Catalog
