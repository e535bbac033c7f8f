import Mathlib.Data.List.Perm.Subperm
import ProgramConnector.Proofs.Schema.RoundTrip
import ProgramConnector.Proofs.TypeScript.Agreement

/-!
# What a block accounts for

Every declaration of a block is that of its root, of a titled schema or of a reference. The titled
schemas are read from different objects of the document, and the references are different texts
under `$ref` in it, so there are only so many declarations.
-/

namespace ProgramConnector.TypeScript

/-- A value of a document that is read as a schema. -/
structure IsReadAt (document value : Json) (schema : Schema) : Prop where
  /-- The value is one of the document. -/
  inside : value ∈ document.values
  /-- The schema is read from it. -/
  read : Schema.ofJson? value = some schema

/-- The different texts under `$ref` in a document. -/
def referenceTexts (document : Json) : List String := distinct (document.textsUnder "$ref")

/-- A block accounts for its declarations in a document. -/
structure Block.Accounts (document : Json) (block : Block) : Prop where
  /-- There is a declaration for the root, for each titled schema and for each reference. -/
  declarations : block.declarations.length = 1 + block.titled.length + block.references.length
  /-- The titled schemas are read from objects. -/
  titled : ∀ entry ∈ block.titled, ∃ members, IsReadAt document (.obj members) entry.1
  /-- No two of them are the same. -/
  apart : block.titled.Pairwise fun entry other => entry.1.same other.1 = false
  /-- The references are texts under `$ref`. -/
  references : Members.keys block.references ⊆ document.textsUnder "$ref"
  /-- No reference is there twice. -/
  once : (Members.keys block.references).Nodup

/-- Whether no reference of a block was resolved twice, and there are no more declarations than the
document has objects and different references, and one for the root. -/
def Block.isFrugal (document : Json) (block : Block) : Bool :=
  decide (Members.keys block.references).Nodup &&
    decide (block.declarations.length ≤
      1 + document.objects.length + (referenceTexts document).length)

section Reading

variable {document value : Json} {schema : Schema}

/-- A part of a schema is read from a smaller value. -/
theorem IsReadAt.part (h : IsReadAt document value schema) (hm : document.IsMerged) {part : Schema}
    (hp : HasPart schema part) :
    ∃ inner, IsReadAt document inner part ∧ inner.size < value.size := by
  obtain ⟨hinside, hread⟩ := h
  have hsubset := Json.values_subset value hinside
  cases hp with
  | child isChild =>
    obtain ⟨inner, hi, hlt, hr⟩ := Schema.exists_value_of_child hread isChild
    exact ⟨inner, ⟨hsubset hi, hr⟩, hlt⟩
  | @member _ _ _ _ keyword elements element _ isKeyword isElement isSchema =>
    obtain ⟨members, rfl, hmem⟩ := Schema.exists_member_of_keyword? hread
      (hm.of_mem_values hinside) rfl isKeyword
    have houter := hsubset (Json.mem_values_of_member hmem)
    refine ⟨element, ⟨Json.values_subset _ houter (Json.mem_values_of_element isElement),
      isSchema⟩, ?_⟩
    exact Nat.lt_trans (Json.size_lt_of_element isElement) (Json.size_lt_of_member hmem)

/-- The reference of a schema is one of the texts under `$ref`. -/
theorem IsReadAt.reference (h : IsReadAt document value schema) (hm : document.IsMerged)
    {facts : SchemaFacts} (hfacts : schema.facts? = some facts) {reference : String}
    (hr : facts.keyword? "$ref" = some (.str reference)) :
    reference ∈ document.textsUnder "$ref" := by
  obtain ⟨members, rfl, hmem⟩ := Schema.exists_member_of_keyword? h.read
    (hm.of_mem_values h.inside) hfacts hr
  exact Json.mem_textsUnder h.inside hmem

/-- The target of a reference is read from a value of the document. -/
theorem exists_isReadAt_of_target? {setting : Setting} {reference : String}
    (h : setting.target? reference = some schema) :
    ∃ value, IsReadAt setting.document value schema := by
  unfold Setting.target? at h
  split at h
  · obtain ⟨value, hv, hs⟩ := Option.bind_eq_some_iff.1 h
    exact ⟨value, Json.mem_values_of_follow? hv, hs⟩
  · exact nomatch h

/-- A titled schema is read from an object. -/
theorem IsReadAt.exists_members (h : IsReadAt document value schema) {title : String}
    (ht : schema.title = some title) : ∃ members, IsReadAt document (.obj members) schema := by
  rcases Schema.ofJson?_eq_some h.read with ⟨allowed, -, rfl⟩ | ⟨members, parts, rfl, -, -⟩
  · exact nomatch ht
  · exact ⟨members, h⟩

end Reading

namespace Block.Accounts

variable {document : Json} {block : Block}

/-- The block in which only the root has its place accounts for it. -/
theorem start (document : Json) (rootName : String) (description : Option String) :
    (Block.start rootName description).Accounts document :=
  ⟨rfl, fun _ he => absurd he List.not_mem_nil, List.Pairwise.nil, List.nil_subset _,
    List.nodup_nil⟩

/-- A body changes nothing. -/
theorem complete (h : block.Accounts document) (place : Nat) (body : Body) :
    (block.complete place body).Accounts document := by
  refine ⟨?_, h.titled, h.apart, h.references, h.once⟩
  exact (List.length_modify _ _ _).trans h.declarations

/-- A titled schema that is not the same as one before is accounted for. -/
theorem openTitled (h : block.Accounts document) {schema : Schema} {members : List (String × Json)}
    (hread : IsReadAt document (.obj members) schema)
    (hnew : ∀ entry ∈ block.titled, entry.1.same schema = false) (name : String)
    (description : Option String) :
    (block.opened name description (block.titled ++ [(schema, name)]) block.references).Accounts
      document := by
  refine ⟨?_, fun entry he => ?_, ?_, h.references, h.once⟩
  · have hlength := h.declarations
    simp only [Block.opened, List.length_append, List.length_singleton]
    omega
  · rcases List.mem_append.1 he with he | he
    · exact h.titled entry he
    · rw [List.mem_singleton.1 he]
      exact ⟨members, hread⟩
  · refine List.pairwise_append.2 ⟨h.apart, List.pairwise_singleton _ _, fun entry he other ho => ?_⟩
    rw [List.mem_singleton.1 ho]
    exact hnew entry he

/-- A reference that is resolved for the first time is accounted for. -/
theorem openReference (h : block.Accounts document) {reference : String}
    (htext : reference ∈ document.textsUnder "$ref")
    (hnew : reference ∉ Members.keys block.references) (name : String)
    (description : Option String) :
    (block.opened name description block.titled ((reference, name) :: block.references)).Accounts
      document := by
  refine ⟨?_, h.titled, h.apart, List.cons_subset.2 ⟨htext, h.references⟩,
    List.nodup_cons.2 ⟨hnew, h.once⟩⟩
  have hlength := h.declarations
  simp only [Block.opened, List.length_append, List.length_cons, List.length_nil]
  omega

/-- There are at most as many references as different texts under `$ref`. -/
theorem length_references_le (h : block.Accounts document) :
    block.references.length ≤ (referenceTexts document).length := by
  have hsubset : Members.keys block.references ⊆ referenceTexts document :=
    fun key hk => mem_distinct.2 (h.references hk)
  have hle := (List.subperm_of_subset h.once hsubset).length_le
  rwa [Members.keys, List.length_map] at hle

/-- There are at most as many titled schemas as objects: a schema that is read is the same as itself,
so schemas that are not the same are read from different objects. -/
theorem length_titled_le (h : block.Accounts document) :
    block.titled.length ≤ document.objects.length := by
  have hnodup : (block.titled.map Prod.fst).Nodup := by
    refine List.pairwise_map.2 (h.apart.imp_of_mem fun {entry other} he _ hne heq => ?_)
    obtain ⟨members, hread⟩ := h.titled entry he
    have hself := (Schema.isNormal_of_ofJson? hread.read).same_self
    rw [← heq, hself] at hne
    exact nomatch hne
  have hsubset : block.titled.map Prod.fst ⊆ document.objects.filterMap Schema.ofJson? := by
    intro schema hs
    obtain ⟨entry, he, rfl⟩ := List.mem_map.1 hs
    obtain ⟨members, hread⟩ := h.titled entry he
    exact List.mem_filterMap.2 ⟨.obj members, List.mem_filter.2 ⟨hread.inside, rfl⟩, hread.read⟩
  calc block.titled.length = (block.titled.map Prod.fst).length := (List.length_map _).symm
    _ ≤ (document.objects.filterMap Schema.ofJson?).length :=
      (List.subperm_of_subset hnodup hsubset).length_le
    _ ≤ document.objects.length := List.length_filterMap_le _ _

/-- There are no more declarations than there is to account for. -/
theorem isFrugal (h : block.Accounts document) : block.isFrugal document = true := by
  have hd := h.declarations
  have ht := h.length_titled_le
  have hr := h.length_references_le
  refine Bool.and_eq_true_iff.2 ⟨decide_eq_true h.once, decide_eq_true ?_⟩
  omega

end Block.Accounts

end ProgramConnector.TypeScript
