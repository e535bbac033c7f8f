import ProgramConnector.Proofs.Schema.NormalForm

/-!
# Schemas and their documents

A schema in normal form is read back from the document that is written for it, in which no object
repeats a key. So the schemas below a schema are those of the values inside of its document.
-/

namespace ProgramConnector

/-! ## Writing -/

section Writing

variable {schema : Schema} {facts : SchemaFacts} {properties : Properties} {items : Items}
  {extra : Extra}

/-- The members of the keywords with parts of their own. -/
def partMembers (facts : SchemaFacts) (properties : Properties) (items : Items) (extra : Extra) :
    List (String × Json) :=
  presentMember "type" (facts.tags.map TypeTags.toJson)
    ++ presentMember "title" (facts.title.map Json.str)
    ++ presentMember "properties" properties.toJson?
    ++ presentMember "items" items.toJson?
    ++ presentMember "additionalProperties" extra.toJson?

/-- A schema object is written as its parts and then its other keywords. -/
theorem Schema.toJson_object : (Schema.object facts properties items extra).toJson =
    .obj (partMembers facts properties items extra ++ facts.keywords) := by
  rw [Schema.toJson, partMembers]

/-- A member for a keyword has the key of the keyword, if it is there. -/
theorem keys_presentMember_sublist (name : String) (value : Option Json) :
    (Members.keys (presentMember name value)).Sublist [name] := by
  cases value with
  | none => exact List.nil_sublist _
  | some value => exact List.Sublist.refl _

/-- The keys of parts are some of the keywords with parts, in their order. -/
theorem keys_partMembers_sublist (facts : SchemaFacts) (properties : Properties) (items : Items)
    (extra : Extra) :
    (Members.keys (partMembers facts properties items extra)).Sublist partKeywords := by
  simp only [partMembers, Members.keys, List.map_append]
  have h : partKeywords = ["type"] ++ ["title"] ++ ["properties"] ++ ["items"]
      ++ ["additionalProperties"] := rfl
  rw [h]
  exact ((((keys_presentMember_sublist _ _).append (keys_presentMember_sublist _ _)).append
    (keys_presentMember_sublist _ _)).append (keys_presentMember_sublist _ _)).append
    (keys_presentMember_sublist _ _)

/-- A schema object in normal form is written without repeated keys. -/
theorem SchemaFacts.IsNormal.nodup_keys (h : facts.IsNormal) :
    (Members.keys (partMembers facts properties items extra ++ facts.keywords)).Nodup := by
  have hsub := keys_partMembers_sublist facts properties items extra
  rw [Members.keys, List.map_append]
  refine List.nodup_append.2 ⟨List.Nodup.sublist hsub (by decide), h.nodup, ?_⟩
  rintro name hn _ ho rfl
  exact h.apart name ho (hsub.subset hn)

/-- Properties are written under their names. -/
theorem propertyMembers_eq_map (entries : List (String × Schema)) :
    propertyMembers entries = entries.map fun entry => (entry.1, entry.2.toJson) := by
  induction entries with
  | nil => rfl
  | cons entry rest ih => rw [propertyMembers, ih, List.map_cons]

/-- Schemas are written one by one. -/
theorem schemaElements_eq_map (schemas : List Schema) :
    schemaElements schemas = schemas.map Schema.toJson := by
  induction schemas with
  | nil => rfl
  | cons schema rest ih => rw [schemaElements, ih, List.map_cons]

/-- Type tags are written without objects. -/
theorem TypeTags.isMerged_toJson (tags : TypeTags) : tags.toJson.IsMerged := by
  cases tags with
  | one tag => exact Json.isMerged_of_values_eq rfl (by simp [TypeTags.toJson])
  | many tags =>
    refine Json.isMerged_arr fun element he => ?_
    obtain ⟨tag, -, rfl⟩ := List.mem_map.1 he
    exact Json.isMerged_of_values_eq rfl (by simp)

/-- Properties are written without repeated keys when the schemas below are. -/
theorem Properties.IsNormal.isMerged_toJson? (h : properties.IsNormal)
    (hs : ∀ schema ∈ properties.schemas, schema.toJson.IsMerged) :
    ∀ value ∈ properties.toJson?, value.IsMerged := by
  cases properties with
  | absent => exact fun value hv => nomatch hv
  | listed entries =>
    intro value hv
    cases hv
    rw [propertyMembers_eq_map]
    refine Json.isMerged_obj ?_ fun member hm => ?_
    · rw [Members.keys, List.map_map]
      exact h
    · obtain ⟨entry, he, rfl⟩ := List.mem_map.1 hm
      exact hs _ (List.mem_map_of_mem he)

/-- Items are written without repeated keys when the schemas below are. -/
theorem Items.isMerged_toJson? (hs : ∀ schema ∈ items.schemas, schema.toJson.IsMerged) :
    ∀ value ∈ items.toJson?, value.IsMerged := by
  cases items with
  | absent => exact fun value hv => nomatch hv
  | tuple places =>
    intro value hv
    cases hv
    rw [schemaElements_eq_map]
    refine Json.isMerged_arr fun element he => ?_
    obtain ⟨place, hp, rfl⟩ := List.mem_map.1 he
    exact hs place hp
  | each element =>
    intro value hv
    cases hv
    exact hs element List.mem_cons_self

/-- Additional properties are written without repeated keys when the schema below is. -/
theorem Extra.isMerged_toJson? (hs : ∀ schema ∈ extra.schemas, schema.toJson.IsMerged) :
    ∀ value ∈ extra.toJson?, value.IsMerged := by
  cases extra with
  | absent => exact fun value hv => nomatch hv
  | allowed allowed =>
    intro value hv
    cases hv
    exact Json.isMerged_of_values_eq rfl (by simp)
  | typed further =>
    intro value hv
    cases hv
    exact hs further List.mem_cons_self

/-- A member for a keyword has the value of the keyword. -/
theorem value_of_mem_presentMember {name : String} {value : Option Json} {member : String × Json}
    (h : member ∈ presentMember name value) : member.2 ∈ value := by
  cases value with
  | none => exact absurd h List.not_mem_nil
  | some value =>
    rw [List.mem_singleton.1 h]
    rfl

/-- A schema in normal form is written without repeated keys. -/
theorem Schema.IsNormal.isMerged_toJson (h : schema.IsNormal) : schema.toJson.IsMerged := by
  induction h with
  | @intro schema own children ih =>
    cases schema with
    | bool allowed => exact Json.isMerged_of_values_eq rfl (by simp [Schema.toJson])
    | object facts properties items extra =>
      obtain ⟨hfacts, hproperties, -⟩ := own
      have hp := hproperties.isMerged_toJson? fun schema hs =>
        ih schema (List.mem_append_left _ (List.mem_append_left _ hs))
      have hi := Items.isMerged_toJson? fun schema hs =>
        ih schema (List.mem_append_left _ (List.mem_append_right _ hs))
      have he := Extra.isMerged_toJson? fun schema hs => ih schema (List.mem_append_right _ hs)
      rw [Schema.toJson_object]
      refine Json.isMerged_obj hfacts.nodup_keys fun member hm => ?_
      simp only [partMembers, List.mem_append] at hm
      rcases hm with ((((hm | hm) | hm) | hm) | hm) | hm
      · obtain ⟨tags, -, ht⟩ := Option.map_eq_some_iff.1 (value_of_mem_presentMember hm)
        rw [← ht]
        exact tags.isMerged_toJson
      · obtain ⟨title, -, ht⟩ := Option.map_eq_some_iff.1 (value_of_mem_presentMember hm)
        rw [← ht]
        exact Json.isMerged_of_values_eq rfl (by simp)
      · exact hp _ (value_of_mem_presentMember hm)
      · exact hi _ (value_of_mem_presentMember hm)
      · exact he _ (value_of_mem_presentMember hm)
      · exact hfacts.merged member hm

/-- A schema in normal form is the same as itself. -/
theorem Schema.IsNormal.same_self (h : schema.IsNormal) : schema.same schema = true :=
  h.isMerged_toJson.same_self

/-! ### Reading what was written -/

/-- Type tags are read back. -/
theorem TypeTags.ofJson?_toJson (tags : TypeTags) :
    TypeTags.ofJson? tags.toJson = some (some tags) := by
  cases tags with
  | one tag => rfl
  | many tags =>
    have h : (tags.map Json.str).mapM Json.text? = some tags := by
      induction tags with
      | nil => rfl
      | cons tag rest ih => rw [List.map_cons, List.mapM_cons, ih]; rfl
    rw [TypeTags.toJson, TypeTags.ofJson?, h]
    rfl

/-- Properties are read back when the schemas below are. -/
theorem Properties.IsNormal.ofJson?_toJson? (h : properties.IsNormal)
    (hs : ∀ schema ∈ properties.schemas, Schema.ofJson? schema.toJson = some schema) :
    Properties.ofJson? (properties.toJson?.getD .null) = some properties := by
  cases properties with
  | absent => rfl
  | listed entries =>
    have hentries : propertiesOfJson? (propertyMembers entries) = some entries := by
      induction entries with
      | nil => rfl
      | cons entry rest ih =>
        obtain ⟨name, schema⟩ := entry
        have hn := List.nodup_cons.1 h
        have hrest := ih hn.2 fun schema hm => hs schema (List.mem_cons_of_mem _ hm)
        rw [propertyMembers, propertiesOfJson?, hrest, hs schema List.mem_cons_self]
        change some (Members.insertFirst name schema rest) = _
        rw [Members.insertFirst_of_not_mem hn.1]
    rw [Properties.toJson?, Option.getD_some, Properties.ofJson?, hentries]
    rfl

/-- A schema object is read where items or additional properties are expected. -/
theorem Schema.toJson_object_parts
    (h : Schema.ofJson? (Schema.object facts properties items extra).toJson =
      some (.object facts properties items extra)) :
    ∃ members, (Schema.object facts properties items extra).toJson = .obj members ∧
      partsOnce members = true ∧ partsOfJson? members = some ⟨facts, properties, items, extra⟩ := by
  rw [Schema.toJson_object] at h ⊢
  obtain ⟨honce, ⟨facts', properties', items', extra'⟩, hp, he⟩ := Schema.ofJson?_obj_eq_some.1 h
  cases he
  exact ⟨_, rfl, honce, hp⟩

/-- Items are read back when the schemas below are. -/
theorem Items.ofJson?_toJson?
    (hs : ∀ schema ∈ items.schemas, Schema.ofJson? schema.toJson = some schema) :
    Items.ofJson? (items.toJson?.getD .null) = some items := by
  cases items with
  | absent => rfl
  | tuple places =>
    have hplaces : schemasOfJson? (schemaElements places) = some places := by
      induction places with
      | nil => rfl
      | cons place rest ih =>
        have hrest := ih fun schema hm => hs schema (List.mem_cons_of_mem _ hm)
        rw [schemaElements, schemasOfJson?, hs place List.mem_cons_self, hrest]
        rfl
    rw [Items.toJson?, Option.getD_some, Items.ofJson?, hplaces]
    rfl
  | each element =>
    have he := hs element List.mem_cons_self
    cases element with
    | bool allowed => rfl
    | object facts properties items extra =>
      obtain ⟨members, hm, honce, hp⟩ := Schema.toJson_object_parts he
      rw [Items.toJson?, Option.getD_some, hm, Items.ofJson?, if_pos honce, hp]
      rfl

/-- Additional properties are read back when the schema below is. -/
theorem Extra.IsNormal.ofJson?_toJson? (h : extra.IsNormal)
    (hs : ∀ schema ∈ extra.schemas, Schema.ofJson? schema.toJson = some schema) :
    Extra.ofJson? (extra.toJson?.getD .null) = some extra := by
  cases extra with
  | absent => rfl
  | allowed allowed => rfl
  | typed further =>
    have he := hs further List.mem_cons_self
    cases further with
    | bool allowed => exact absurd h id
    | object facts properties items extra =>
      obtain ⟨members, hm, honce, hp⟩ := Schema.toJson_object_parts he
      rw [Extra.toJson?, Option.getD_some, hm, Extra.ofJson?, if_pos honce, hp]
      rfl

/-- Keywords without parts of their own are read back. -/
theorem SchemaFacts.IsNormal.partsOfJson?_keywords (h : facts.IsNormal) :
    partsOfJson? facts.keywords = some ⟨⟨none, none, facts.keywords⟩, .absent, .absent, .absent⟩ := by
  obtain ⟨tags, title, keywords⟩ := facts
  obtain ⟨hn, hapart, hmerged⟩ := h
  dsimp only at hn hapart hmerged ⊢
  induction keywords with
  | nil => rfl
  | cons keyword rest ih =>
    obtain ⟨name, value⟩ := keyword
    have hn' := List.nodup_cons.1 hn
    have hrest := ih hn'.2 (fun other ho => hapart other (List.mem_cons_of_mem _ ho))
      fun other ho => hmerged other (List.mem_cons_of_mem _ ho)
    have hname := hapart name List.mem_cons_self
    have hvalue : value.merged = value := (hmerged (name, value) List.mem_cons_self).merged_eq
    simp only [partKeywords, List.mem_cons, List.not_mem_nil, or_false, not_or] at hname
    obtain ⟨htype, htitle, hproperties, hitems, hextra⟩ := hname
    rw [partsOfJson?, hrest]
    simp only [Option.bind_eq_bind, Option.bind_some, beq_iff_eq, htype, htitle, hproperties,
      hitems, hextra, if_false, hvalue, Members.insertFirst_of_not_mem hn'.1]
    rfl

section Parts

variable {rest : List (String × Json)} {parts : SchemaParts}

/-- Type tags in front of members. -/
theorem partsOfJson?_tags (h : partsOfJson? rest = some parts) (hnone : parts.facts.tags = none)
    (tags : Option TypeTags) :
    partsOfJson? (presentMember "type" (tags.map TypeTags.toJson) ++ rest) =
      some { parts with facts := { parts.facts with tags := tags } } := by
  cases tags with
  | none =>
    obtain ⟨⟨_, title, keywords⟩, properties, items, extra⟩ := parts
    cases hnone
    exact h
  | some tags =>
    change partsOfJson? (("type", tags.toJson) :: rest) = _
    rw [partsOfJson?, h]
    simp [TypeTags.ofJson?_toJson]

/-- A title in front of members. -/
theorem partsOfJson?_title (h : partsOfJson? rest = some parts) (hnone : parts.facts.title = none)
    (title : Option String) :
    partsOfJson? (presentMember "title" (title.map Json.str) ++ rest) =
      some { parts with facts := { parts.facts with title := title } } := by
  cases title with
  | none =>
    obtain ⟨⟨tags, _, keywords⟩, properties, items, extra⟩ := parts
    cases hnone
    exact h
  | some title =>
    change partsOfJson? (("title", .str title) :: rest) = _
    rw [partsOfJson?, h]
    simp [titleOfJson?]

/-- Properties in front of members. -/
theorem partsOfJson?_properties (h : partsOfJson? rest = some parts)
    (hnone : parts.properties = .absent)
    (hp : Properties.ofJson? (properties.toJson?.getD .null) = some properties) :
    partsOfJson? (presentMember "properties" properties.toJson? ++ rest) =
      some { parts with properties := properties } := by
  cases hv : properties.toJson? with
  | none =>
    rw [hv] at hp
    have he : Properties.absent = properties := Option.some.inj hp
    rw [← he, ← hnone]
    exact h
  | some value =>
    rw [hv] at hp
    change partsOfJson? (("properties", value) :: rest) = _
    rw [partsOfJson?, h]
    simp [show Properties.ofJson? value = some properties from hp]

/-- Items in front of members. -/
theorem partsOfJson?_items (h : partsOfJson? rest = some parts) (hnone : parts.items = .absent)
    (hi : Items.ofJson? (items.toJson?.getD .null) = some items) :
    partsOfJson? (presentMember "items" items.toJson? ++ rest) =
      some { parts with items := items } := by
  cases hv : items.toJson? with
  | none =>
    rw [hv] at hi
    have he : Items.absent = items := Option.some.inj hi
    rw [← he, ← hnone]
    exact h
  | some value =>
    rw [hv] at hi
    change partsOfJson? (("items", value) :: rest) = _
    rw [partsOfJson?, h]
    simp [show Items.ofJson? value = some items from hi]

/-- Additional properties in front of members. -/
theorem partsOfJson?_extra (h : partsOfJson? rest = some parts) (hnone : parts.extra = .absent)
    (he : Extra.ofJson? (extra.toJson?.getD .null) = some extra) :
    partsOfJson? (presentMember "additionalProperties" extra.toJson? ++ rest) =
      some { parts with extra := extra } := by
  cases hv : extra.toJson? with
  | none =>
    rw [hv] at he
    have ha : Extra.absent = extra := Option.some.inj he
    rw [← ha, ← hnone]
    exact h
  | some value =>
    rw [hv] at he
    change partsOfJson? (("additionalProperties", value) :: rest) = _
    rw [partsOfJson?, h]
    simp [show Extra.ofJson? value = some extra from he]

end Parts

/-- A schema in normal form is read back from the document that is written for it. -/
theorem Schema.IsNormal.ofJson?_toJson (h : schema.IsNormal) :
    Schema.ofJson? schema.toJson = some schema := by
  induction h with
  | @intro schema own children ih =>
    cases schema with
    | bool allowed => rfl
    | object facts properties items extra =>
      obtain ⟨hfacts, hproperties, hextra⟩ := own
      have hp := hproperties.ofJson?_toJson? fun schema hs =>
        ih schema (List.mem_append_left _ (List.mem_append_left _ hs))
      have hi := Items.ofJson?_toJson? fun schema hs =>
        ih schema (List.mem_append_left _ (List.mem_append_right _ hs))
      have he := hextra.ofJson?_toJson? fun schema hs => ih schema (List.mem_append_right _ hs)
      -- The members are read from the last one to the first, and each fills an empty part.
      have hkeywords := hfacts.partsOfJson?_keywords
      have hparts := partsOfJson?_tags (partsOfJson?_title (partsOfJson?_properties
        (partsOfJson?_items (partsOfJson?_extra hkeywords rfl he) rfl hi) rfl hp) rfl facts.title)
        rfl facts.tags
      rw [Schema.toJson_object]
      refine Schema.ofJson?_obj_eq_some.2 ⟨?_, ⟨facts, properties, items, extra⟩, ?_, rfl⟩
      · refine List.all_eq_true.2 fun name _ => decide_eq_true ?_
        exact List.nodup_iff_count_le_one.1 hfacts.nodup_keys name
      · simp only [partMembers, List.append_assoc]
        exact hparts

end Writing

end ProgramConnector
