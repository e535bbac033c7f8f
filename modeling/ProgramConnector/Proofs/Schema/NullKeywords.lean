import ProgramConnector.Proofs.Json.Reordering
import ProgramConnector.Proofs.Schema.RoundTrip

/-!
# What reading and writing a schema changes

A schema that is read is written as its document up to the order of members, without the keywords
with parts of their own that are null. Everything else is kept: the other keywords with their
values, be they null or not, the truth values, and the order of properties.
-/

namespace ProgramConnector

/-! ## Documents without null keywords -/

/-- What a value stands for in the document of a schema. -/
inductive SchemaRole where
  /-- A schema. -/
  | schema
  /-- The properties of a schema. -/
  | properties
  /-- The items of a schema: one schema or one per place. -/
  | items
  /-- Anything else. -/
  | other
deriving DecidableEq

/-- What the value of a keyword stands for. -/
def SchemaRole.ofKeyword (name : String) : SchemaRole :=
  if name == "properties" then .properties
  else if name == "items" then .items
  else if name == "additionalProperties" then .schema
  else .other

namespace Json

/-- Whether a value is null. -/
def isNull : Json → Bool
  | .null => true
  | _ => false

mutual

/-- The value without the keywords with parts of their own that are null, in every schema that is
met through properties, items and additional properties. -/
def withoutNulls : SchemaRole → Json → Json
  | .schema, .obj members => .obj (keywordsWithoutNulls members)
  | .properties, .obj members => .obj (membersWithoutNulls members)
  | .items, .obj members => .obj (keywordsWithoutNulls members)
  | .items, .arr elements => .arr (elementsWithoutNulls elements)
  | _, value => value

/-- The keywords of a schema. -/
def keywordsWithoutNulls : List (String × Json) → List (String × Json)
  | [] => []
  | (name, value) :: rest =>
    if partKeywords.contains name && value.isNull then keywordsWithoutNulls rest
    else (name, withoutNulls (.ofKeyword name) value) :: keywordsWithoutNulls rest

/-- Members that are schemas. -/
def membersWithoutNulls : List (String × Json) → List (String × Json)
  | [] => []
  | (name, value) :: rest => (name, withoutNulls .schema value) :: membersWithoutNulls rest

/-- Elements that are schemas. -/
def elementsWithoutNulls : List Json → List Json
  | [] => []
  | value :: rest => withoutNulls .schema value :: elementsWithoutNulls rest

end

section WithoutNulls

variable {members : List (String × Json)}

/-- Members are rewritten one by one. -/
theorem membersWithoutNulls_eq_map (members : List (String × Json)) :
    membersWithoutNulls members =
      members.map fun member => (member.1, member.2.withoutNulls .schema) := by
  induction members with
  | nil => rfl
  | cons member rest ih => rw [membersWithoutNulls, ih, List.map_cons]

/-- The keywords that are left are some of the keywords, in their order. -/
theorem keys_keywordsWithoutNulls_sublist (members : List (String × Json)) :
    (Members.keys (keywordsWithoutNulls members)).Sublist (Members.keys members) := by
  induction members with
  | nil => exact List.Sublist.refl _
  | cons member rest ih =>
    rw [keywordsWithoutNulls]
    split
    · exact ih.cons _
    · exact ih.cons_cons _

/-- What is left under a keyword. -/
theorem find?_keywordsWithoutNulls (hn : (Members.keys members).Nodup) (key : String) :
    Members.find? key (keywordsWithoutNulls members) =
      (Members.find? key members).bind fun value =>
        if partKeywords.contains key && value.isNull then none
        else some (value.withoutNulls (.ofKeyword key)) := by
  induction members with
  | nil => rfl
  | cons member rest ih =>
    obtain ⟨name, value⟩ := member
    obtain ⟨hname, hrest⟩ := List.nodup_cons.1 hn
    by_cases hkey : name = key
    · subst hkey
      simp only [keywordsWithoutNulls, Members.find?, BEq.rfl, if_true, Option.bind_some]
      split
      · rw [ih hrest, Members.find?_eq_none_iff.2 hname, Option.bind_none]
      · simp only [Members.find?, BEq.rfl, if_true]
    · have hne : (name == key) = false := by simp [hkey]
      simp only [keywordsWithoutNulls, Members.find?, hne, Bool.false_eq_true, if_false]
      split
      · exact ih hrest
      · simp only [Members.find?, hne, Bool.false_eq_true, if_false]
        exact ih hrest

/-- A value is null when its merged value is. -/
theorem isNull_merged (value : Json) : value.merged.isNull = value.isNull := by
  cases value <;> rfl

/-- Under a key that is not repeated merged members have the merged value. -/
theorem find?_mergedMembers {key : String} (h : (Members.keys members).count key ≤ 1) :
    Members.find? key (mergedMembers members) = (Members.find? key members).map merged := by
  induction members with
  | nil => rfl
  | cons member rest ih =>
    obtain ⟨name, value⟩ := member
    rw [Members.keys, List.map_cons, List.count_cons] at h
    rw [mergedMembers, Members.find?_insertFirst, Members.find?]
    by_cases hkey : name = key
    · subst hkey
      have hcount : (Members.keys rest).count name = 0 := by
        simp only [BEq.rfl, if_true] at h
        exact Nat.le_zero.1 (Nat.le_of_succ_le_succ h)
      have hrest := Members.find?_eq_none_iff.2 (List.count_eq_zero.1 hcount)
      rw [ih (hcount ▸ Nat.zero_le 1), hrest]
      simp
    · have hne : (name == key) = false := by simp [hkey]
      have hcount : (Members.keys rest).count key ≤ 1 := by simpa [Members.keys, hne] using h
      rw [if_neg hkey, hne, ih hcount, if_neg Bool.false_ne_true]

end WithoutNulls

end Json

/-! ## What is written for a keyword -/

/-- What is written for a value that was read: nothing for null, and else the value without null
keywords, up to the order of members. -/
def IsWritten (role : SchemaRole) (value : Json) (written : Option Json) : Prop :=
  Option.Rel Json.Reordered written
    (if value.isNull then none else some (value.merged.withoutNulls role))

/-- Schemas that are read from values of at most a size are written as these values. -/
def WritesUpTo (size : Nat) : Prop :=
  ∀ (value : Json) (schema : Schema), value.size ≤ size → Schema.ofJson? value = some schema →
    schema.toJson.Reordered (value.merged.withoutNulls .schema)

section Writing

variable {value : Json} {members : List (String × Json)}

/-- Texts are read from text values. -/
theorem eq_map_str_of_mapM_text? {elements : List Json} {texts : List String}
    (h : elements.mapM Json.text? = some texts) : elements = texts.map Json.str := by
  induction elements generalizing texts with
  | nil =>
    cases h
    rfl
  | cons element rest ih =>
    rw [List.mapM_cons] at h
    obtain ⟨text, ht, h⟩ := Option.bind_eq_some_iff.1 h
    obtain ⟨others, ho, h⟩ := Option.bind_eq_some_iff.1 h
    cases h
    cases element with
    | str _ =>
      cases ht
      rw [List.map_cons, ← ih ho]
    | _ => cases ht

/-- Type tags are written as they are. -/
theorem TypeTags.isWritten {tags : Option TypeTags} (h : TypeTags.ofJson? value = some tags) :
    IsWritten .other value (tags.map TypeTags.toJson) := by
  cases value with
  | null =>
    cases h
    exact .none
  | str tag =>
    cases h
    exact .some (.refl _)
  | arr elements =>
    rw [TypeTags.ofJson?] at h
    obtain ⟨names, hnames, rfl⟩ := Option.map_eq_some_iff.1 h
    obtain rfl := eq_map_str_of_mapM_text? hnames
    have hmerged : (Json.arr (names.map Json.str)).merged = .arr (names.map Json.str) :=
      (TypeTags.isMerged_toJson (.many names)).merged_eq
    rw [IsWritten, hmerged]
    exact .some (.refl _)
  | _ => cases h

/-- A title is written as it is. -/
theorem isWritten_title {title : Option String} (h : titleOfJson? value = some title) :
    IsWritten .other value (title.map Json.str) := by
  cases value with
  | null =>
    cases h
    exact .none
  | str text =>
    cases h
    exact .some (.refl _)
  | _ => cases h

/-- Properties that are read are, place by place, those of the merged members. -/
theorem parallel_propertiesOfJson? {entries : List (String × Schema)}
    (h : propertiesOfJson? members = some entries) (hs : WritesUpTo (Json.sizeMembers members)) :
    Members.Parallel (fun (schema : Schema) (merged : Json) =>
      schema.toJson.Reordered (merged.withoutNulls .schema)) entries
      (Json.mergedMembers members) := by
  induction members generalizing entries with
  | nil =>
    cases h
    exact .nil
  | cons member rest ih =>
    obtain ⟨name, value⟩ := member
    rw [Json.sizeMembers] at hs
    rw [propertiesOfJson?] at h
    obtain ⟨others, ho, h⟩ := Option.bind_eq_some_iff.1 h
    obtain ⟨schema, hschema, h⟩ := Option.bind_eq_some_iff.1 h
    cases h
    have hrest := ih ho fun inner schema hsize => hs inner schema (by omega)
    exact hrest.insertFirst name (hs value schema (by omega) hschema)

/-- Properties are written as the members that they are read from. -/
theorem Properties.isWritten {properties : Properties}
    (h : Properties.ofJson? value = some properties) (hs : WritesUpTo value.size) :
    IsWritten .properties value properties.toJson? := by
  cases value with
  | null =>
    cases h
    exact .none
  | obj members =>
    rw [Properties.ofJson?] at h
    obtain ⟨entries, he, rfl⟩ := Option.map_eq_some_iff.1 h
    rw [Json.size] at hs
    have hparallel := parallel_propertiesOfJson? he fun inner schema hsize =>
      hs inner schema (by omega)
    have hn : (Members.keys (propertyMembers entries)).Nodup := by
      rw [propertyMembers_eq_map, Members.keys, List.map_map]
      exact (propertiesOfJson?_spec he).1
    refine .some (.of_parallel hn ?_)
    rw [propertyMembers_eq_map, Json.membersWithoutNulls_eq_map]
    exact List.forall₂_map_left_iff.2 (List.forall₂_map_right_iff.2 hparallel)
  | _ => cases h

/-- Schemas of a list are written as its elements. -/
theorem forall₂_schemasOfJson? {values : List Json} {schemas : List Schema}
    (h : schemasOfJson? values = some schemas) (hs : WritesUpTo (Json.sizeElements values)) :
    List.Forall₂ Json.Reordered (schemaElements schemas)
      (Json.elementsWithoutNulls (Json.mergedElements values)) := by
  induction values generalizing schemas with
  | nil =>
    cases h
    exact .nil
  | cons value rest ih =>
    rw [Json.sizeElements] at hs
    rw [schemasOfJson?] at h
    obtain ⟨schema, hschema, h⟩ := Option.bind_eq_some_iff.1 h
    obtain ⟨others, ho, h⟩ := Option.bind_eq_some_iff.1 h
    cases h
    exact .cons (hs value schema (by omega) hschema)
      (ih ho fun inner schema hsize => hs inner schema (by omega))

/-- Items are written as the value that they are read from. -/
theorem Items.isWritten {items : Items} (h : Items.ofJson? value = some items)
    (hs : WritesUpTo value.size) : IsWritten .items value items.toJson? := by
  cases value with
  | null =>
    cases h
    exact .none
  | arr places =>
    rw [Items.ofJson?] at h
    obtain ⟨schemas, hp, rfl⟩ := Option.map_eq_some_iff.1 h
    rw [Json.size] at hs
    exact .some (.of_forall₂ (forall₂_schemasOfJson? hp fun inner schema hsize =>
      hs inner schema (by omega)))
  | bool allowed =>
    cases h
    exact .some (.refl _)
  | obj members =>
    rw [Items.ofJson?] at h
    split at h
    · rename_i honce
      obtain ⟨parts, hp, rfl⟩ := Option.map_eq_some_iff.1 h
      exact .some (hs _ _ (Nat.le_refl _) (Schema.ofJson?_obj_eq_some.2 ⟨honce, parts, hp, rfl⟩))
    · cases h
  | _ => cases h

/-- Additional properties are written as the value that they are read from. -/
theorem Extra.isWritten {extra : Extra} (h : Extra.ofJson? value = some extra)
    (hs : WritesUpTo value.size) : IsWritten .schema value extra.toJson? := by
  cases value with
  | null =>
    cases h
    exact .none
  | bool allowed =>
    cases h
    exact .some (.refl _)
  | obj members =>
    rw [Extra.ofJson?] at h
    split at h
    · rename_i honce
      obtain ⟨parts, hp, rfl⟩ := Option.map_eq_some_iff.1 h
      exact .some (hs _ _ (Nat.le_refl _) (Schema.ofJson?_obj_eq_some.2 ⟨honce, parts, hp, rfl⟩))
    · cases h
  | _ => cases h

end Writing

/-! ## Schema objects -/

/-- What is written for a keyword with a part of its own. -/
def SchemaParts.written? (parts : SchemaParts) (keyword : String) : Option Json :=
  if keyword = "type" then parts.facts.tags.map TypeTags.toJson
  else if keyword = "title" then parts.facts.title.map Json.str
  else if keyword = "properties" then parts.properties.toJson?
  else if keyword = "items" then parts.items.toJson?
  else if keyword = "additionalProperties" then parts.extra.toJson?
  else none

/-- The value under a keyword, null where the keyword is absent. -/
def keywordValue (keyword : String) (members : List (String × Json)) : Json :=
  (Members.find? keyword members).getD .null

section Objects

variable {name keyword : String} {value : Json} {members rest : List (String × Json)}
  {before parts : SchemaParts}

/-- Reading a member in front changes what is written for its keyword only. -/
theorem ReadsMember.written?_of_ne (h : ReadsMember name value before parts)
    (hne : keyword ≠ name) : parts.written? keyword = before.written? keyword := by
  unfold SchemaParts.written?
  cases h with
  | tags isName => simp only [isName ▸ hne, if_false]
  | title isName => simp only [isName ▸ hne, if_false]
  | properties isName => simp only [isName ▸ hne, if_false]
  | items isName => simp only [isName ▸ hne, if_false]
  | extra isName => simp only [isName ▸ hne, if_false]
  | keyword => rfl

/-- Reading a member in front writes it for its keyword. -/
theorem ReadsMember.isWritten (h : ReadsMember name value before parts)
    (hname : name ∈ partKeywords) (hs : WritesUpTo value.size) :
    IsWritten (.ofKeyword name) value (parts.written? name) := by
  cases h with
  | tags isName hvalue =>
    subst isName
    exact TypeTags.isWritten hvalue
  | title isName hvalue =>
    subst isName
    exact isWritten_title hvalue
  | properties isName hvalue =>
    subst isName
    exact Properties.isWritten hvalue hs
  | items isName hvalue =>
    subst isName
    exact Items.isWritten hvalue hs
  | extra isName hvalue =>
    subst isName
    exact Extra.isWritten hvalue hs
  | keyword hother => exact absurd hname hother

/-- For each keyword with a part of its own the value that was read is written. -/
theorem isWritten_of_partsOfJson? (h : partsOfJson? members = some parts)
    (hs : WritesUpTo (Json.sizeMembers members)) (hkeyword : keyword ∈ partKeywords) :
    IsWritten (.ofKeyword keyword) (keywordValue keyword members) (parts.written? keyword) := by
  induction members generalizing parts with
  | nil =>
    cases h
    have hempty : SchemaParts.empty.written? keyword = none := by
      simp [SchemaParts.written?, SchemaParts.empty, Properties.toJson?, Items.toJson?,
        Extra.toJson?]
    rw [hempty]
    exact .none
  | cons member rest ih =>
    obtain ⟨name, value⟩ := member
    rw [Json.sizeMembers] at hs
    obtain ⟨before, hb, hr⟩ := partsOfJson?_cons h
    by_cases hname : keyword = name
    · subst hname
      have hvalue : keywordValue keyword ((keyword, value) :: rest) = value := by
        simp [keywordValue, Members.find?]
      rw [hvalue]
      exact hr.isWritten hkeyword fun inner schema hsize => hs inner schema (by omega)
    · have hvalue : keywordValue keyword ((name, value) :: rest) = keywordValue keyword rest := by
        have hne : name ≠ keyword := fun he => hname he.symm
        simp [keywordValue, Members.find?, hne]
      rw [hvalue, hr.written?_of_ne hname]
      exact ih hb fun inner schema hsize => hs inner schema (by omega)

/-- Reading a member in front puts it in front of the keywords without parts of their own. -/
theorem ReadsMember.keyword?_eq (h : ReadsMember name value before parts)
    (hkeyword : keyword ∉ partKeywords) : parts.facts.keyword? keyword =
      if name = keyword then some ((before.facts.keyword? keyword).getD value.merged)
      else before.facts.keyword? keyword := by
  have hpart : name ∈ partKeywords → name ≠ keyword := fun hname he => hkeyword (he ▸ hname)
  cases h with
  | keyword => exact Members.find?_insertFirst name keyword value.merged before.facts.keywords
  | tags isName =>
    rw [if_neg (hpart (isName ▸ by decide))]
    rfl
  | title isName =>
    rw [if_neg (hpart (isName ▸ by decide))]
    rfl
  | properties isName => rw [if_neg (hpart (isName ▸ by decide))]
  | items isName => rw [if_neg (hpart (isName ▸ by decide))]
  | extra isName => rw [if_neg (hpart (isName ▸ by decide))]

/-- All other keywords have the values that they have in the merged members. -/
theorem keyword?_of_partsOfJson? (h : partsOfJson? members = some parts)
    (hkeyword : keyword ∉ partKeywords) :
    parts.facts.keyword? keyword = Members.find? keyword (Json.mergedMembers members) := by
  induction members generalizing parts with
  | nil =>
    cases h
    rfl
  | cons member rest ih =>
    obtain ⟨name, value⟩ := member
    obtain ⟨before, hb, hr⟩ := partsOfJson?_cons h
    rw [Json.mergedMembers, Members.find?_insertFirst, hr.keyword?_eq hkeyword, ih hb]

/-- Finding a keyword that is present or not in front of others. -/
theorem find?_presentMember_append (written : Option Json) :
    Members.find? keyword (presentMember name written ++ rest) =
      if keyword = name then written.or (Members.find? keyword rest)
      else Members.find? keyword rest := by
  by_cases h : keyword = name
  · subst h
    cases written <;> simp [presentMember, Members.find?]
  · have hne : name ≠ keyword := fun he => h he.symm
    cases written <;> simp [presentMember, Members.find?, h, hne]

/-- What is written under a keyword in the document of a schema object. -/
theorem find?_written (parts : SchemaParts) (hnormal : parts.facts.IsNormal) (keyword : String) :
    Members.find? keyword (partMembers parts.facts parts.properties parts.items parts.extra
      ++ parts.facts.keywords) =
      if keyword ∈ partKeywords then parts.written? keyword else parts.facts.keyword? keyword := by
  simp only [partMembers, List.append_assoc, find?_presentMember_append]
  by_cases hkeyword : keyword ∈ partKeywords
  · rw [if_pos hkeyword]
    have hnone : Members.find? keyword parts.facts.keywords = none :=
      Members.find?_eq_none_iff.2 fun hm => hnormal.apart keyword hm hkeyword
    rw [hnone]
    simp only [partKeywords, List.mem_cons, List.not_mem_nil, or_false] at hkeyword
    rcases hkeyword with rfl | rfl | rfl | rfl | rfl <;> simp [SchemaParts.written?]
  · rw [if_neg hkeyword]
    simp only [partKeywords, List.mem_cons, List.not_mem_nil, or_false, not_or] at hkeyword
    obtain ⟨htype, htitle, hproperties, hitems, hextra⟩ := hkeyword
    simp only [htype, htitle, hproperties, hitems, hextra, if_false]
    rfl

/-- Under every keyword a schema object is written as the members that it is read from. -/
theorem rel_find?_written (honce : partsOnce members = true)
    (h : partsOfJson? members = some parts) (hs : WritesUpTo (Json.sizeMembers members))
    (keyword : String) :
    Option.Rel Json.Reordered
      (Members.find? keyword (partMembers parts.facts parts.properties parts.items parts.extra
        ++ parts.facts.keywords))
      (Members.find? keyword (Json.keywordsWithoutNulls (Json.mergedMembers members))) := by
  have hnormal := (isReadFrom_of_partsOfJson? h).normal.1
  rw [find?_written parts hnormal,
    Json.find?_keywordsWithoutNulls (Json.mergedMembers_spec members).1]
  split
  · rename_i hkeyword
    have hcount : (Members.keys members).count keyword ≤ 1 :=
      of_decide_eq_true (List.all_eq_true.1 honce keyword hkeyword)
    have hwritten := isWritten_of_partsOfJson? h hs hkeyword
    rw [Json.find?_mergedMembers hcount]
    cases hfound : Members.find? keyword members with
    | none => simpa [keywordValue, hfound, IsWritten, Json.isNull] using hwritten
    | some value =>
      simpa [keywordValue, hfound, IsWritten, Json.isNull_merged, hkeyword] using hwritten
  · rename_i hkeyword
    rw [keyword?_of_partsOfJson? h hkeyword]
    have hrole : SchemaRole.ofKeyword keyword = .other := by
      simp only [partKeywords, List.mem_cons, List.not_mem_nil, or_false, not_or] at hkeyword
      simp [SchemaRole.ofKeyword, hkeyword]
    cases Members.find? keyword (Json.mergedMembers members) with
    | none => exact .none
    | some value => simpa [hkeyword, hrole, Json.withoutNulls] using .refl value

end Objects

/-! ## Round trips -/

section RoundTrip

variable {value : Json} {schema : Schema}

/-- Schemas are written as the values that they are read from, whatever the size of these is. -/
theorem writesUpTo (size : Nat) : WritesUpTo size := by
  induction size with
  | zero =>
    intro value schema hsize h
    exact absurd value.size_pos (Nat.not_lt.2 hsize)
  | succ size ih =>
    intro value schema hsize h
    cases value with
    | bool allowed =>
      cases h
      exact .refl _
    | obj members =>
      obtain ⟨honce, parts, hparts, rfl⟩ := Schema.ofJson?_obj_eq_some.1 h
      rw [Json.size] at hsize
      have hs : WritesUpTo (Json.sizeMembers members) := fun inner schema hinner =>
        ih inner schema (by omega)
      have hnormal := (isReadFrom_of_partsOfJson? hparts).normal.1
      rw [SchemaParts.toSchema, Schema.toJson_object]
      refine .of_find? hnormal.nodup_keys ?_ (rel_find?_written honce hparts hs)
      exact (Json.mergedMembers_spec members).1.sublist
        (Json.keys_keywordsWithoutNulls_sublist _)
    | _ => cases h

/-- A schema that is read is read back from its document. Up to the order of members this document is
the one that it was read from, with repeated members merged and without the null keywords that have
parts of their own. -/
theorem Schema.roundTrip_of_ofJson? (h : Schema.ofJson? value = some schema) :
    Schema.ofJson? schema.toJson = some schema ∧
      schema.toJson.Reordered (value.merged.withoutNulls .schema) ∧
      schema.toJson.same (value.merged.withoutNulls .schema) = true := by
  have hnormal := Schema.isNormal_of_ofJson? h
  have hwritten := writesUpTo value.size value schema (Nat.le_refl _) h
  exact ⟨hnormal.ofJson?_toJson, hwritten, hwritten.same hnormal.isMerged_toJson⟩

end RoundTrip

/-- A document with null keywords at several depths, three of them without parts of their own. -/
def sparseDocument : Json :=
  .obj [("default", .null), ("title", .null),
    ("additionalProperties", .obj [("items", .null), ("const", .null)]),
    ("properties", .obj [("b", .obj [("type", .null), ("enum", .arr [.null])]),
      ("a", .obj [("items", .arr [.obj [("title", .null)], .bool true]), ("type", .str "array")])])]

/-- The document without its null keywords that have parts of their own. -/
def fullDocument : Json :=
  .obj [("default", .null), ("additionalProperties", .obj [("const", .null)]),
    ("properties", .obj [("b", .obj [("enum", .arr [.null])]),
      ("a", .obj [("items", .arr [.obj [], .bool true]), ("type", .str "array")])])]

/-- The schema of the document. -/
def sparseSchema : Schema :=
  .object ⟨none, none, [("default", .null)]⟩
    (.listed [("b", .object ⟨none, none, [("enum", .arr [.null])]⟩ .absent .absent .absent),
      ("a", .object ⟨some (.one "array"), none, []⟩ .absent
        (.tuple [.object ⟨none, none, []⟩ .absent .absent .absent, .bool true]) .absent)])
    .absent (.typed (.object ⟨none, none, [("const", .null)]⟩ .absent .absent .absent))

/-- The keyword `default` and the values inside of other keywords stay null. -/
theorem Schema.roundTrip_of_ofJson?_sparse :
    Schema.ofJson? sparseDocument = some sparseSchema ∧
      Schema.ofJson? sparseSchema.toJson = some sparseSchema ∧
      sparseSchema.toJson.Reordered fullDocument ∧
      sparseSchema.toJson.same fullDocument = true ∧
      sparseSchema.toJson.same sparseDocument = false := by
  have hread : Schema.ofJson? sparseDocument = some sparseSchema := by rfl
  have hfull : sparseDocument.merged.withoutNulls .schema = fullDocument := by rfl
  obtain ⟨hback, hreordered, hsame⟩ := Schema.roundTrip_of_ofJson? hread
  rw [hfull] at hreordered hsame
  exact ⟨hread, hback, hreordered, hsame, by rfl⟩

end ProgramConnector
