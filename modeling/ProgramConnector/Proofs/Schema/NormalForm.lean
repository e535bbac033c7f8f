import ProgramConnector.Proofs.Json.Values
import ProgramConnector.Schema.Document
import ProgramConnector.Schema.Titles

/-!
# The normal form of schemas

A schema that is read is in normal form: no keyword and no property is repeated at any depth. The
schemas directly below it are read from smaller values inside of its document, and titling the
elements of lists keeps the normal form.
-/

namespace ProgramConnector

/-! ## The schemas directly below a schema -/

/-- The schemas of the properties. -/
def Properties.schemas : Properties → List Schema
  | .absent => []
  | .listed entries => entries.map Prod.snd

/-- The schemas of the items. -/
def Items.schemas : Items → List Schema
  | .absent => []
  | .tuple places => places
  | .each element => [element]

/-- The schema of additional properties. -/
def Extra.schemas : Extra → List Schema
  | .absent => []
  | .allowed _ => []
  | .typed schema => [schema]

/-- The schemas directly below a schema. -/
def Schema.children : Schema → List Schema
  | .bool _ => []
  | .object _ properties items extra => properties.schemas ++ items.schemas ++ extra.schemas

/-! ## The normal form -/

/-- Keywords that hold no schema, in normal form: none is repeated, none has a part of its own, and
their values repeat no key. -/
structure SchemaFacts.IsNormal (facts : SchemaFacts) : Prop where
  /-- No keyword is repeated. -/
  nodup : (Members.keys facts.keywords).Nodup
  /-- No keyword has a part of its own. -/
  apart : ∀ name ∈ Members.keys facts.keywords, name ∉ partKeywords
  /-- No value repeats a key. -/
  merged : ∀ keyword ∈ facts.keywords, keyword.2.IsMerged

/-- No property is repeated. -/
def Properties.IsNormal : Properties → Prop
  | .absent => True
  | .listed entries => (Members.keys entries).Nodup

/-- A truth value is no schema of additional properties: it says whether there may be any. -/
def Extra.IsNormal : Extra → Prop
  | .typed (.bool _) => False
  | _ => True

/-- A schema whose own keywords are in normal form. -/
def Schema.IsNormalAt : Schema → Prop
  | .bool _ => True
  | .object facts properties _ extra => facts.IsNormal ∧ properties.IsNormal ∧ extra.IsNormal

/-- A schema in normal form. -/
inductive Schema.IsNormal : Schema → Prop
  /-- Its own keywords are in normal form, and so are the schemas below it. -/
  | intro {schema : Schema} (own : schema.IsNormalAt)
    (children : ∀ child ∈ schema.children, child.IsNormal) : Schema.IsNormal schema

/-! ## Reading -/

section Reading

variable {value : Json} {schema : Schema} {members : List (String × Json)}

/-- Reading an object is reading its members, none of which repeats a keyword with a part of its
own. -/
theorem Schema.ofJson?_obj_eq_some : Schema.ofJson? (.obj members) = some schema ↔
    partsOnce members = true ∧ ∃ parts, partsOfJson? members = some parts ∧
      parts.toSchema = schema := by
  rw [Schema.ofJson?]
  split
  · rename_i h
    simp only [h, true_and, Option.map_eq_some_iff]
  · rename_i h
    simp only [h, false_and, reduceCtorEq]

/-- The schemas of a list are those of its elements. -/
theorem schemasOfJson?_spec {values : List Json} {schemas : List Schema}
    (h : schemasOfJson? values = some schemas) :
    ∀ schema ∈ schemas, ∃ value ∈ values, Schema.ofJson? value = some schema := by
  induction values generalizing schemas with
  | nil =>
    cases h
    exact fun schema hm => absurd hm List.not_mem_nil
  | cons value rest ih =>
    rw [schemasOfJson?] at h
    obtain ⟨first, hf, h⟩ := Option.bind_eq_some_iff.1 h
    obtain ⟨others, ho, h⟩ := Option.bind_eq_some_iff.1 h
    cases h
    intro schema hm
    rcases List.mem_cons.1 hm with rfl | hm
    · exact ⟨value, List.mem_cons_self, hf⟩
    · obtain ⟨other, hother, hs⟩ := ih ho schema hm
      exact ⟨other, List.mem_cons_of_mem _ hother, hs⟩

/-- Properties that are read are those of members, none repeated. -/
theorem propertiesOfJson?_spec {entries : List (String × Schema)}
    (h : propertiesOfJson? members = some entries) :
    (Members.keys entries).Nodup ∧ ∀ entry ∈ entries, ∃ value, (entry.1, value) ∈ members ∧
      Schema.ofJson? value = some entry.2 := by
  induction members generalizing entries with
  | nil =>
    cases h
    exact ⟨List.nodup_nil, fun entry hm => absurd hm List.not_mem_nil⟩
  | cons member rest ih =>
    obtain ⟨name, value⟩ := member
    rw [propertiesOfJson?] at h
    obtain ⟨others, ho, h⟩ := Option.bind_eq_some_iff.1 h
    obtain ⟨first, hf, h⟩ := Option.bind_eq_some_iff.1 h
    cases h
    obtain ⟨hn, hs⟩ := ih ho
    refine ⟨Members.nodup_keys_insertFirst hn name first, fun entry hm => ?_⟩
    rcases Members.mem_insertFirst hm with rfl | hm
    · exact ⟨value, List.mem_cons_self, hf⟩
    · obtain ⟨other, hother, hentry⟩ := hs entry hm
      exact ⟨other, List.mem_cons_of_mem _ hother, hentry⟩

/-- The properties of a value are not repeated, and are schemas inside of it. -/
theorem Properties.ofJson?_spec {properties : Properties}
    (h : Properties.ofJson? value = some properties) :
    properties.IsNormal ∧ ∀ schema ∈ properties.schemas, ∃ inner ∈ value.values,
      Schema.ofJson? inner = some schema := by
  cases value with
  | null =>
    cases h
    exact ⟨trivial, fun schema hm => absurd hm List.not_mem_nil⟩
  | obj members =>
    rw [Properties.ofJson?] at h
    obtain ⟨entries, he, rfl⟩ := Option.map_eq_some_iff.1 h
    obtain ⟨hn, hs⟩ := propertiesOfJson?_spec he
    refine ⟨hn, fun schema hm => ?_⟩
    obtain ⟨entry, hentry, rfl⟩ := List.mem_map.1 hm
    obtain ⟨inner, hi, hs⟩ := hs entry hentry
    exact ⟨inner, Json.mem_values_of_member hi, hs⟩
  | _ => exact nomatch h

/-- The items of a value are schemas inside of it. -/
theorem Items.ofJson?_spec {items : Items} (h : Items.ofJson? value = some items) :
    ∀ schema ∈ items.schemas, ∃ inner ∈ value.values, Schema.ofJson? inner = some schema := by
  cases value with
  | null =>
    cases h
    exact fun schema hm => absurd hm List.not_mem_nil
  | arr places =>
    rw [Items.ofJson?] at h
    obtain ⟨schemas, hp, rfl⟩ := Option.map_eq_some_iff.1 h
    intro schema hm
    obtain ⟨inner, hi, hs⟩ := schemasOfJson?_spec hp schema hm
    exact ⟨inner, Json.mem_values_of_element hi, hs⟩
  | bool allowed =>
    cases h
    intro schema hm
    exact ⟨.bool allowed, Json.mem_values_self _, by rw [List.mem_singleton.1 hm, Schema.ofJson?]⟩
  | obj members =>
    rw [Items.ofJson?] at h
    split at h
    · rename_i honce
      obtain ⟨parts, hp, rfl⟩ := Option.map_eq_some_iff.1 h
      intro schema hm
      refine ⟨.obj members, Json.mem_values_self _, ?_⟩
      exact Schema.ofJson?_obj_eq_some.2 ⟨honce, parts, hp, (List.mem_singleton.1 hm).symm⟩
    · exact nomatch h
  | _ => exact nomatch h

/-- The additional properties of a value are no truth value as a schema, and are a schema inside of
it. -/
theorem Extra.ofJson?_spec {extra : Extra} (h : Extra.ofJson? value = some extra) :
    extra.IsNormal ∧ ∀ schema ∈ extra.schemas, ∃ inner ∈ value.values,
      Schema.ofJson? inner = some schema := by
  cases value with
  | null =>
    cases h
    exact ⟨trivial, fun schema hm => absurd hm List.not_mem_nil⟩
  | bool allowed =>
    cases h
    exact ⟨trivial, fun schema hm => absurd hm List.not_mem_nil⟩
  | obj members =>
    rw [Extra.ofJson?] at h
    split at h
    · rename_i honce
      obtain ⟨parts, hp, rfl⟩ := Option.map_eq_some_iff.1 h
      refine ⟨trivial, fun schema hm => ⟨.obj members, Json.mem_values_self _, ?_⟩⟩
      exact Schema.ofJson?_obj_eq_some.2 ⟨honce, parts, hp, (List.mem_singleton.1 hm).symm⟩
    · exact nomatch h
  | _ => exact nomatch h

/-- What reading one more member in front does: it fills the part of its keyword, or it is kept as
it is. -/
inductive ReadsMember (name : String) (value : Json) (before : SchemaParts) : SchemaParts → Prop
  /-- Type tags. -/
  | tags {tags : Option TypeTags} (isName : name = "type")
    (h : TypeTags.ofJson? value = some tags) :
    ReadsMember name value before { before with facts := { before.facts with tags := tags } }
  /-- A title. -/
  | title {title : Option String} (isName : name = "title") (h : titleOfJson? value = some title) :
    ReadsMember name value before { before with facts := { before.facts with title := title } }
  /-- Properties. -/
  | properties {properties : Properties} (isName : name = "properties")
    (h : Properties.ofJson? value = some properties) :
    ReadsMember name value before { before with properties := properties }
  /-- Items. -/
  | items {items : Items} (isName : name = "items") (h : Items.ofJson? value = some items) :
    ReadsMember name value before { before with items := items }
  /-- Additional properties. -/
  | extra {extra : Extra} (isName : name = "additionalProperties")
    (h : Extra.ofJson? value = some extra) :
    ReadsMember name value before { before with extra := extra }
  /-- Any other keyword. -/
  | keyword (h : name ∉ partKeywords) : ReadsMember name value before
      { before with facts := { before.facts with
        keywords := Members.insertFirst name value.merged before.facts.keywords } }

/-- Reading members is reading the first one on top of the others. -/
theorem partsOfJson?_cons {name : String} {rest : List (String × Json)} {parts : SchemaParts}
    (h : partsOfJson? ((name, value) :: rest) = some parts) :
    ∃ before, partsOfJson? rest = some before ∧ ReadsMember name value before parts := by
  rw [partsOfJson?] at h
  obtain ⟨before, hb, h⟩ := Option.bind_eq_some_iff.1 h
  refine ⟨before, hb, ?_⟩
  split at h
  · obtain ⟨tags, ht, h⟩ := Option.bind_eq_some_iff.1 h
    cases h
    exact .tags (beq_iff_eq.1 ‹_›) ht
  split at h
  · obtain ⟨title, ht, h⟩ := Option.bind_eq_some_iff.1 h
    cases h
    exact .title (beq_iff_eq.1 ‹_›) ht
  split at h
  · obtain ⟨properties, hp, h⟩ := Option.bind_eq_some_iff.1 h
    cases h
    exact .properties (beq_iff_eq.1 ‹_›) hp
  split at h
  · obtain ⟨items, hi, h⟩ := Option.bind_eq_some_iff.1 h
    cases h
    exact .items (beq_iff_eq.1 ‹_›) hi
  split at h
  · obtain ⟨extra, he, h⟩ := Option.bind_eq_some_iff.1 h
    cases h
    exact .extra (beq_iff_eq.1 ‹_›) he
  · cases h
    refine .keyword ?_
    simp_all [partKeywords]

/-- What holds of the parts of a schema object that is read from members. -/
structure SchemaParts.IsReadFrom (members : List (String × Json)) (parts : SchemaParts) :
    Prop where
  /-- The keywords are in normal form. -/
  normal : parts.toSchema.IsNormalAt
  /-- A keyword without a part of its own is that of a member. -/
  keywords : ∀ keyword ∈ parts.facts.keywords, ∃ value, (keyword.1, value) ∈ members ∧
    keyword.2 = value.merged
  /-- The schemas below are those of values inside of the members. -/
  children : ∀ child ∈ parts.toSchema.children, ∃ member ∈ members, ∃ inner ∈ member.2.values,
    Schema.ofJson? inner = some child

/-- More may be read in front. -/
theorem SchemaParts.IsReadFrom.cons {parts : SchemaParts} (h : parts.IsReadFrom members)
    (member : String × Json) : parts.IsReadFrom (member :: members) := by
  refine ⟨h.normal, fun keyword hk => ?_, fun child hc => ?_⟩
  · obtain ⟨value, hv, he⟩ := h.keywords keyword hk
    exact ⟨value, List.mem_cons_of_mem _ hv, he⟩
  · obtain ⟨other, ho, hi⟩ := h.children child hc
    exact ⟨other, List.mem_cons_of_mem _ ho, hi⟩

/-- The schemas below parts are those of the properties, the items and the additional properties. -/
theorem SchemaParts.forall_children_iff {parts : SchemaParts} {p : Schema → Prop} :
    (∀ child ∈ parts.toSchema.children, p child) ↔ (∀ child ∈ parts.properties.schemas, p child) ∧
      (∀ child ∈ parts.items.schemas, p child) ∧ ∀ child ∈ parts.extra.schemas, p child := by
  change (∀ child ∈ parts.properties.schemas ++ parts.items.schemas ++ parts.extra.schemas,
    p child) ↔ _
  rw [List.forall_mem_append, List.forall_mem_append, and_assoc]

/-- Keywords stay in normal form with one more that has no part of its own. -/
theorem SchemaFacts.IsNormal.insertFirst {facts : SchemaFacts} (h : facts.IsNormal) {name : String}
    (hname : name ∉ partKeywords) (value : Json) :
    { facts with
      keywords := Members.insertFirst name value.merged facts.keywords : SchemaFacts }.IsNormal := by
  refine ⟨Members.nodup_keys_insertFirst h.nodup _ _, fun other ho => ?_, fun keyword hk => ?_⟩
  · obtain ⟨keyword, hk, rfl⟩ := List.mem_map.1 ho
    rcases Members.mem_insertFirst hk with rfl | hk
    · exact hname
    · exact h.apart _ (List.mem_map_of_mem hk)
  · rcases Members.mem_insertFirst hk with rfl | hk
    · exact Json.isMerged_merged value
    · exact h.merged keyword hk

/-- Reading one more member in front. -/
theorem ReadsMember.isReadFrom {name : String} {before parts : SchemaParts}
    (hr : ReadsMember name value before parts) (hb : before.IsReadFrom members) :
    parts.IsReadFrom ((name, value) :: members) := by
  obtain ⟨⟨hfacts, hproperties, hextra⟩, hkeywords, hchildren⟩ := hb.cons (name, value)
  obtain ⟨hbp, hbi, hbe⟩ := SchemaParts.forall_children_iff.1 hchildren
  have hhere : ∀ schemas : List Schema,
      (∀ schema ∈ schemas, ∃ inner ∈ value.values, Schema.ofJson? inner = some schema) →
      ∀ schema ∈ schemas, ∃ member ∈ (name, value) :: members, ∃ inner ∈ member.2.values,
        Schema.ofJson? inner = some schema :=
    fun schemas hs schema hm => ⟨(name, value), List.mem_cons_self, hs schema hm⟩
  cases hr with
  | tags isName h =>
    exact ⟨⟨⟨hfacts.1, hfacts.2, hfacts.3⟩, hproperties, hextra⟩, hkeywords, hchildren⟩
  | title isName h =>
    exact ⟨⟨⟨hfacts.1, hfacts.2, hfacts.3⟩, hproperties, hextra⟩, hkeywords, hchildren⟩
  | properties isName h =>
    obtain ⟨hn, hs⟩ := Properties.ofJson?_spec h
    exact ⟨⟨hfacts, hn, hextra⟩, hkeywords,
      SchemaParts.forall_children_iff.2 ⟨hhere _ hs, hbi, hbe⟩⟩
  | items isName h =>
    exact ⟨⟨hfacts, hproperties, hextra⟩, hkeywords,
      SchemaParts.forall_children_iff.2 ⟨hbp, hhere _ (Items.ofJson?_spec h), hbe⟩⟩
  | extra isName h =>
    obtain ⟨hn, hs⟩ := Extra.ofJson?_spec h
    exact ⟨⟨hfacts, hproperties, hn⟩, hkeywords,
      SchemaParts.forall_children_iff.2 ⟨hbp, hbi, hhere _ hs⟩⟩
  | keyword h =>
    refine ⟨⟨hfacts.insertFirst h value, hproperties, hextra⟩, fun keyword hk => ?_, hchildren⟩
    rcases Members.mem_insertFirst hk with rfl | hk
    · exact ⟨value, List.mem_cons_self, rfl⟩
    · exact hkeywords keyword hk

/-- The parts of a schema object that is read from members. -/
theorem isReadFrom_of_partsOfJson? {parts : SchemaParts} (h : partsOfJson? members = some parts) :
    parts.IsReadFrom members := by
  induction members generalizing parts with
  | nil =>
    cases h
    refine ⟨⟨⟨List.nodup_nil, ?_, ?_⟩, trivial, trivial⟩, ?_, ?_⟩
    · exact fun name hn => absurd hn List.not_mem_nil
    · exact fun keyword hk => absurd hk List.not_mem_nil
    · exact fun keyword hk => absurd hk List.not_mem_nil
    · exact fun child hc => absurd hc List.not_mem_nil
  | cons member rest ih =>
    obtain ⟨before, hb, hr⟩ := partsOfJson?_cons h
    exact hr.isReadFrom (ih hb)

/-- A schema that is read is a truth value, or an object with the parts that its members have. -/
theorem Schema.ofJson?_eq_some (h : Schema.ofJson? value = some schema) :
    (∃ allowed, value = .bool allowed ∧ schema = .bool allowed) ∨
      ∃ (members : List (String × Json)) (parts : SchemaParts), value = .obj members ∧
        parts.toSchema = schema ∧ parts.IsReadFrom members := by
  cases value with
  | bool allowed =>
    cases h
    exact .inl ⟨allowed, rfl, rfl⟩
  | obj members =>
    obtain ⟨-, parts, hp, hs⟩ := Schema.ofJson?_obj_eq_some.1 h
    exact .inr ⟨members, parts, rfl, hs, isReadFrom_of_partsOfJson? hp⟩
  | _ => exact nomatch h

/-- A keyword without a part of its own is that of a member, when no object inside repeats a key. -/
theorem Schema.exists_member_of_keyword? (h : Schema.ofJson? value = some schema)
    (hm : value.IsMerged) {facts : SchemaFacts} (hfacts : schema.facts? = some facts)
    {name : String} {found : Json} (hk : facts.keyword? name = some found) :
    ∃ members, value = .obj members ∧ (name, found) ∈ members := by
  rcases Schema.ofJson?_eq_some h with ⟨allowed, -, rfl⟩ | ⟨members, parts, rfl, rfl, hr⟩
  · exact nomatch hfacts
  · cases hfacts
    obtain ⟨written, hw, he⟩ := hr.keywords (name, found) (Members.mem_of_find? hk)
    have hmerged := (hm.of_mem_values (Json.mem_values_of_member hw)).merged_eq
    have hfound : found = written := he.trans hmerged
    exact ⟨members, rfl, hfound ▸ hw⟩

/-- A schema below a schema that is read is read from a smaller value inside. -/
theorem Schema.exists_value_of_child (h : Schema.ofJson? value = some schema) {child : Schema}
    (hc : child ∈ schema.children) :
    ∃ inner ∈ value.values, inner.size < value.size ∧ Schema.ofJson? inner = some child := by
  rcases Schema.ofJson?_eq_some h with ⟨allowed, -, rfl⟩ | ⟨members, parts, rfl, rfl, hr⟩
  · exact absurd hc List.not_mem_nil
  · obtain ⟨⟨name, outer⟩, hm, inner, hi, hs⟩ := hr.children child hc
    refine ⟨inner, Json.values_subset outer (Json.mem_values_of_member hm) hi, ?_, hs⟩
    exact Nat.lt_of_le_of_lt (Json.size_le_of_mem_values inner hi) (Json.size_lt_of_member hm)

/-- A schema that is read is in normal form. -/
theorem Schema.isNormal_of_ofJson? (h : Schema.ofJson? value = some schema) : schema.IsNormal := by
  induction hsize : value.size using Nat.strongRecOn generalizing value schema with
  | ind size ih =>
    refine .intro ?_ fun child hc => ?_
    · rcases Schema.ofJson?_eq_some h with ⟨allowed, -, rfl⟩ | ⟨members, parts, -, rfl, hr⟩
      · trivial
      · exact hr.normal
    · obtain ⟨inner, -, hlt, hs⟩ := Schema.exists_value_of_child h hc
      exact ih inner.size (hsize ▸ hlt) hs rfl

end Reading

/-! ## Titles -/

section Titles

variable {root : String} {path : List String} {onPath : Bool} {schema : Schema}

/-- A schema that is another one, or that one with its elements titled. -/
def IsTitled (root : String) (original schema : Schema) : Prop :=
  schema = original ∨ ∃ path element, schema = original.titledAt root path element

/-- Titled entries are the entries, titled one by one under the same names. -/
theorem titledEntries_eq_map (root : String) (path : List String)
    (entries : List (String × Schema)) :
    titledEntries root path entries =
      entries.map fun entry => (entry.1, entry.2.titledAt root (path ++ [entry.1]) false) := by
  induction entries with
  | nil => rfl
  | cons entry rest ih => rw [titledEntries, ih, List.map_cons]

/-- The schemas of titled properties. -/
theorem Properties.exists_of_mem_titledAt {properties : Properties}
    (h : schema ∈ (properties.titledAt root path onPath).schemas) :
    ∃ original ∈ properties.schemas, IsTitled root original schema := by
  cases properties with
  | absent => exact absurd h List.not_mem_nil
  | listed entries =>
    cases onPath with
    | false => exact ⟨schema, h, .inl rfl⟩
    | true =>
      simp only [Properties.titledAt, Properties.schemas, titledEntries_eq_map, if_true,
        List.map_map, List.mem_map] at h
      obtain ⟨entry, he, rfl⟩ := h
      exact ⟨entry.2, List.mem_map_of_mem he, .inr ⟨_, _, rfl⟩⟩

/-- The schemas of titled places. -/
theorem exists_of_mem_titledPlaces {index : Nat} {places : List Schema}
    (h : schema ∈ titledPlaces root path index places) :
    ∃ original ∈ places, IsTitled root original schema := by
  induction places generalizing index with
  | nil => exact absurd h List.not_mem_nil
  | cons place rest ih =>
    rw [titledPlaces] at h
    rcases List.mem_cons.1 h with rfl | h
    · exact ⟨place, List.mem_cons_self, .inr ⟨_, _, rfl⟩⟩
    · obtain ⟨original, ho, ht⟩ := ih h
      exact ⟨original, List.mem_cons_of_mem _ ho, ht⟩

/-- The schemas of titled items. -/
theorem Items.exists_of_mem_titledAt {items : Items}
    (h : schema ∈ (items.titledAt root path onPath).schemas) :
    ∃ original ∈ items.schemas, IsTitled root original schema := by
  cases items with
  | absent => exact absurd h List.not_mem_nil
  | tuple places =>
    cases onPath with
    | false => exact ⟨schema, h, .inl rfl⟩
    | true => exact exists_of_mem_titledPlaces h
  | each element =>
    refine ⟨element, List.mem_cons_self, ?_⟩
    cases onPath with
    | false => exact .inl (List.mem_singleton.1 h)
    | true => exact .inr ⟨_, _, List.mem_singleton.1 h⟩

/-- The schemas of titled additional properties. -/
theorem Extra.exists_of_mem_titledAt {extra : Extra}
    (h : schema ∈ (extra.titledAt root path onPath).schemas) :
    ∃ original ∈ extra.schemas, IsTitled root original schema := by
  cases extra with
  | absent => exact absurd h List.not_mem_nil
  | allowed allowed => exact absurd h List.not_mem_nil
  | typed further =>
    refine ⟨further, List.mem_cons_self, ?_⟩
    cases onPath with
    | false => exact .inl (List.mem_singleton.1 h)
    | true => exact .inr ⟨_, _, List.mem_singleton.1 h⟩

/-- Titles repeat no property. -/
theorem Properties.IsNormal.titledAt {properties : Properties} (h : properties.IsNormal) :
    (properties.titledAt root path onPath).IsNormal := by
  cases properties with
  | absent => trivial
  | listed entries =>
    cases onPath with
    | false => exact h
    | true =>
      have hkeys : Members.keys (titledEntries root path entries) = Members.keys entries := by
        rw [titledEntries_eq_map, Members.keys, List.map_map]
        rfl
      change (Members.keys (titledEntries root path entries)).Nodup
      rw [hkeys]
      exact h

/-- Titles make no truth value of a schema of additional properties. -/
theorem Extra.IsNormal.titledAt {extra : Extra} (h : extra.IsNormal) :
    (extra.titledAt root path onPath).IsNormal := by
  cases extra with
  | absent => trivial
  | allowed allowed => trivial
  | typed further =>
    cases further with
    | bool allowed => exact absurd h id
    | object facts properties items extra => cases onPath <;> trivial

/-- Titled facts keep their keywords. -/
theorem SchemaFacts.keywords_titledAt (root : String) (path : List String) (element : Bool)
    (facts : SchemaFacts) : (facts.titledAt root path element).keywords = facts.keywords := by
  unfold SchemaFacts.titledAt
  split <;> rfl

/-- Facts with the same keywords are in normal form together. -/
theorem SchemaFacts.IsNormal.congr {facts other : SchemaFacts} (h : facts.IsNormal)
    (he : other.keywords = facts.keywords) : other.IsNormal := by
  refine ⟨?_, ?_, ?_⟩
  · rw [he]
    exact h.nodup
  · rw [he]
    exact h.apart
  · rw [he]
    exact h.merged

/-- An object with other titles below, and maybe another one itself, stays in normal form when the
schemas below it do. -/
theorem Schema.IsNormal.retitled {facts other : SchemaFacts} {properties : Properties}
    {items : Items} {extra : Extra} {below₁ below₂ : Bool}
    (h : (Schema.object facts properties items extra).IsNormal)
    (he : other.keywords = facts.keywords)
    (hbelow : ∀ child ∈ (Schema.object facts properties items extra).children,
      ∀ path element, (child.titledAt root path element).IsNormal) :
    (Schema.object other (properties.titledAt root path below₁) (items.titledAt root path below₂)
      (extra.titledAt root path below₁)).IsNormal := by
  obtain ⟨⟨hfacts, hproperties, hextra⟩, hchildren⟩ := h
  have htitled : ∀ original ∈ (Schema.object facts properties items extra).children,
      ∀ schema, IsTitled root original schema → schema.IsNormal := by
    rintro original ho schema (rfl | ⟨path, element, rfl⟩)
    · exact hchildren schema ho
    · exact hbelow original ho path element
  refine .intro ⟨hfacts.congr he, hproperties.titledAt, hextra.titledAt⟩ fun child hc => ?_
  rcases List.mem_append.1 hc with hc | hc
  · rcases List.mem_append.1 hc with hc | hc
    · obtain ⟨original, ho, ht⟩ := Properties.exists_of_mem_titledAt hc
      exact htitled original (List.mem_append_left _ (List.mem_append_left _ ho)) child ht
    · obtain ⟨original, ho, ht⟩ := Items.exists_of_mem_titledAt hc
      exact htitled original (List.mem_append_left _ (List.mem_append_right _ ho)) child ht
  · obtain ⟨original, ho, ht⟩ := Extra.exists_of_mem_titledAt hc
    exact htitled original (List.mem_append_right _ ho) child ht

/-- A schema with its elements titled stays in normal form. -/
theorem Schema.IsNormal.titledAt (h : schema.IsNormal) (root : String) :
    ∀ path element, (schema.titledAt root path element).IsNormal := by
  induction h with
  | @intro schema own children ih =>
    intro path element
    cases schema with
    | bool allowed => exact .intro own children
    | object facts properties items extra =>
      exact (Schema.IsNormal.intro own children).retitled
        (SchemaFacts.keywords_titledAt root path element facts) ih

/-- A root with the elements below it titled stays in normal form. -/
theorem Schema.IsNormal.titled (h : schema.IsNormal) (root : String) :
    (schema.titled root).IsNormal := by
  cases schema with
  | bool allowed => exact h
  | object facts properties items extra =>
    obtain ⟨own, children⟩ := h
    refine (Schema.IsNormal.intro own children).retitled ?_
      fun child hc path element => (children child hc).titledAt root path element
    rfl

end Titles

end ProgramConnector
