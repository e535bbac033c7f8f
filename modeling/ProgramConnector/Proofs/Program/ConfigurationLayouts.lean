import ProgramConnector.Program.Configuration
import ProgramConnector.Proofs.Json.Equality
import ProgramConnector.Proofs.Json.RepeatedKeys
import ProgramConnector.Proofs.Results

/-!
# The two layouts of a configuration document

A configuration document holds its entries under `programs`, or it is itself the object of entries.
Both layouts are read alike, and either is refused when the form of a single entry is wrong.
-/

namespace ProgramConnector

/-! ## Reading objects -/

namespace Json

section Objects

variable {chars rest : List Char} {members : List (String × Json)}

/-- What is read as a scalar is no object, and what is not starts with a bracket or a brace. -/
theorem scalar?_cases {found : Option (Json × List Char)} (h : scalar? chars = .ok found) :
    (∃ value rest, found = some (value, rest) ∧ value.isObject = false) ∨
    found = none ∧ ∃ behind, chars = '[' :: behind ∨ chars = '\x7b' :: behind := by
  unfold scalar? at h
  split at h
  · exact nomatch h
  · obtain ⟨_, -, h⟩ := bind_eq_ok h
    cases h
    exact .inl ⟨_, _, rfl, rfl⟩
  · obtain ⟨_, -, h⟩ := bind_eq_ok h
    cases h
    exact .inl ⟨_, _, rfl, rfl⟩
  · obtain ⟨_, -, h⟩ := bind_eq_ok h
    cases h
    exact .inl ⟨_, _, rfl, rfl⟩
  · obtain ⟨⟨text, rest⟩, -, h⟩ := bind_eq_ok h
    cases h
    exact .inl ⟨_, _, rfl, rfl⟩
  · obtain ⟨⟨number, rest⟩, -, h⟩ := bind_eq_ok h
    cases h
    exact .inl ⟨_, _, rfl, rfl⟩
  · cases h
    exact .inr ⟨rfl, _, .inl rfl⟩
  · cases h
    exact .inr ⟨rfl, _, .inr rfl⟩
  · split at h
    · obtain ⟨⟨number, rest⟩, -, h⟩ := bind_eq_ok h
      cases h
      exact .inl ⟨_, _, rfl, rfl⟩
    · exact nomatch h

/-- What is read as an object starts with a brace. -/
theorem head_of_value_eq_obj {depth : Nat} (h : value depth chars = .ok (.obj members, rest)) :
    ∃ behind, skipSpace chars = '\x7b' :: behind := by
  rw [value.eq_def] at h
  dsimp only at h
  obtain ⟨found, hscalar, h⟩ := bind_eq_ok h
  rcases scalar?_cases hscalar with ⟨value, rest, rfl, hvalue⟩ | ⟨rfl, behind, hlist | hobject⟩
  · cases h
    exact nomatch hvalue
  · rw [hlist] at h
    cases depth with
    | zero => exact nomatch h
    | succ depth =>
      obtain ⟨⟨elements, after⟩, -, h⟩ := bind_eq_ok h
      exact nomatch Except.ok.inj h
  · exact ⟨behind, hobject⟩

end Objects

end Json

namespace Reader

/-- An object with arbitrary keys is read as the merged members of the document that its text
holds. -/
theorem object_ofText {source : String} {members : List (String × Json)}
    (h : Json.ofTextRaw source = .ok (.obj members)) :
    object.ofText source = .ok (Json.mergedMembers members) := by
  obtain ⟨⟨value, rest⟩, hvalue, hfinish⟩ := bind_eq_ok h
  rw [Json.finish] at hfinish
  split at hfinish
  · rename_i hrest
    cases hfinish
    obtain ⟨behind, hhead⟩ := Json.head_of_value_eq_obj hvalue
    have hread : object.fromText Json.nestingLimit source.toList =
        .ok (Json.mergedMembers members, rest) := by
      unfold object
      simp only [hhead, hvalue]
      rfl
    rw [ofText, hread]
    exact if_pos hrest
  · exact nomatch hfinish

/-! ## The forms of records -/

section Records

variable {α : Type} {fields : List (Field α)} {members : List (String × Json)}

/-- Where fields have different names, a field is found under its name alone. -/
theorem fieldNamed?_eq_some_iff (hnames : (fields.map Field.name).Nodup) {name : String}
    {field : Field α} :
    fieldNamed? name fields = some field ↔ field ∈ fields ∧ field.name = name := by
  constructor
  · intro h
    exact ⟨List.mem_of_find?_eq_some h, by simpa using List.find?_some h⟩
  · rintro ⟨hfield, rfl⟩
    obtain ⟨found, hfound⟩ : ∃ found, fieldNamed? field.name fields = some found :=
      Option.isSome_iff_exists.1 (List.find?_isSome.2 ⟨field, hfield, beq_self_eq_true _⟩)
    have hname : found.name = field.name := by simpa using List.find?_some hfound
    rw [hfound, List.inj_on_of_nodup_map hnames (List.mem_of_find?_eq_some hfound) hfield hname]

/-- Members are read as a record when every member that names a field has the form of this
field. -/
theorem isSome_membersFromJson_iff {record : α} :
    (membersFromJson fields members record).isSome ↔
      ∀ member ∈ members, ∀ field, fieldNamed? member.1 fields = some field →
        (field.change.fromJson member.2).isSome := by
  induction members generalizing record with
  | nil => simp [membersFromJson]
  | cons member rest ih =>
    obtain ⟨key, value⟩ := member
    rw [membersFromJson, List.forall_mem_cons]
    cases hfield : fieldNamed? key fields with
    | none => simp [ih]
    | some field =>
      cases hchange : field.change.fromJson value with
      | none => simp [hchange]
      | some change => simp [hchange, ih]

/-- Elements are read as a record when no more of them are there than fields, and each has the form
of the field at its place. -/
theorem isSome_elementsFromJson_iff {elements : List Json} {record : α} :
    (elementsFromJson fields elements record).isSome ↔
      List.Forall₂ (fun field element => (field.change.fromJson element).isSome = true)
        (fields.take elements.length) elements := by
  induction elements generalizing fields record with
  | nil => simp [elementsFromJson]
  | cons element rest ih =>
    cases fields with
    | nil => simp [elementsFromJson]
    | cons field fields =>
      rw [elementsFromJson, List.length_cons, List.take_succ_cons, List.forall₂_cons]
      cases hchange : field.change.fromJson element with
      | none => simp
      | some change => simp [ih]

/-- A merged object is read as a record when, for every field that it has, the last value under the
name of the field has the form of the field. -/
theorem isSome_record_obj_iff {defaults : α} (hnames : (fields.map Field.name).Nodup) :
    ((record defaults fields).fromJson (Json.obj members).merged).isSome ↔
      ∀ field ∈ fields, ∀ value ∈ Members.last? field.name members,
        (field.change.fromJson value.merged).isSome := by
  have hrecord : (record defaults fields).fromJson (Json.obj members).merged =
      membersFromJson fields (Json.mergedMembers members) defaults := by
    rw [Json.merged]
    rfl
  rw [hrecord, isSome_membersFromJson_iff]
  refine (Json.forall_mem_mergedMembers
    (P := fun key value => ∀ field, fieldNamed? key fields = some field →
      (field.change.fromJson value).isSome)).trans ⟨?_, ?_⟩
  · intro h field hfield value hvalue
    exact h field.name value hvalue field ((fieldNamed?_eq_some_iff hnames).2 ⟨hfield, rfl⟩)
  · intro h key value hvalue field hnamed
    obtain ⟨hfield, rfl⟩ := (fieldNamed?_eq_some_iff hnames).1 hnamed
    exact h field hfield value hvalue

end Records

end Reader

/-! ## The forms of entries -/

/-- The form of an optional truth value. -/
def Json.IsOptionalFlag (value : Json) : Prop := value = .null ∨ ∃ flag, value = .bool flag

/-- The form of an optional text. -/
def Json.IsOptionalText (value : Json) : Prop := value = .null ∨ ∃ text, value = .str text

/-- The form of an entry: an object in which the last readonly flag and the last description are of
their forms, whatever else it has, or a list of at most a flag and a description. -/
def Json.IsProgramEntry : Json → Prop
  | .obj members =>
    (∀ value ∈ Members.last? "readonly" members, value.IsOptionalFlag) ∧
      ∀ value ∈ Members.last? "description" members, value.IsOptionalText
  | .arr [] => True
  | .arr [readonly] => readonly.IsOptionalFlag
  | .arr [readonly, description] => readonly.IsOptionalFlag ∧ description.IsOptionalText
  | _ => False

namespace ProgramConfiguration

/-- An optional truth value is read when it has its form. -/
theorem isSome_flag_iff (value : Json) :
    ((Reader.optional Reader.flag).fromJson value.merged).isSome ↔ value.IsOptionalFlag := by
  cases value <;>
    simp [Json.merged, Json.IsOptionalFlag, Reader.optional, Reader.flag, Reader.scalar, Json.bool?]

/-- An optional text is read when it has its form. -/
theorem isSome_text_iff (value : Json) :
    ((Reader.optional Reader.text).fromJson value.merged).isSome ↔ value.IsOptionalText := by
  cases value <;>
    simp [Json.merged, Json.IsOptionalText, Reader.optional, Reader.text, Reader.scalar, Json.text?]

/-- A configuration is read from exactly the values that have the form of an entry. -/
theorem isSome_reader_iff (value : Json) :
    (reader.fromJson value.merged).isSome ↔ value.IsProgramEntry := by
  cases value with
  | obj members =>
    rw [reader, Reader.isSome_record_obj_iff (by decide)]
    simp only [List.forall_mem_cons, Field.of, Reader.map, Option.isSome_map, isSome_flag_iff,
      isSome_text_iff]
    simp [Json.IsProgramEntry]
  | arr elements =>
    have hrecord : ∀ fields : List (Field ProgramConfiguration),
        (Reader.record {} fields).fromJson (Json.arr elements).merged =
          Reader.elementsFromJson fields (elements.map Json.merged) {} := by
      intro fields
      rw [Json.merged, Json.mergedElements_eq_map]
      rfl
    rw [reader, hrecord, Reader.isSome_elementsFromJson_iff]
    obtain _ | ⟨readonly, _ | ⟨description, _ | ⟨_, _⟩⟩⟩ := elements
    · simp [Json.IsProgramEntry]
    · simp [Field.of, Reader.map, isSome_flag_iff, Json.IsProgramEntry]
    · simp [Field.of, Reader.map, isSome_flag_iff, isSome_text_iff, Json.IsProgramEntry]
    · simp [Json.IsProgramEntry]
  | _ => simp [Json.merged, reader, Reader.record, Json.IsProgramEntry]

end ProgramConfiguration

/-! ## The two layouts -/

namespace ProgramConfigurations

/-- Members with a schema among them, if there is one: the other members are given, so that none of
these is under `$schema`, and what counts under it is the text of the schema. -/
structure IsTagged (schema : Option String) (others members : List (String × Json)) : Prop where
  /-- The members besides the schema. -/
  others : Members.without "$schema" members = others
  /-- The schema, at any place. -/
  schema : Members.last? "$schema" members = schema.map Json.str

section Layouts

variable {entries members flatMembers wrappedMembers : List (String × Json)}
  {schema : Option String} {source flat wrapped : String}

/-- A schema may be put anywhere among other members. -/
theorem isTagged_of_append {front behind : List (String × Json)}
    (h : "$schema" ∉ Members.keys (front ++ behind)) (text : String) :
    IsTagged (some text) (front ++ behind) (front ++ ("$schema", .str text) :: behind) := by
  have hother : ∀ member ∈ front ++ behind, (member.1 != "$schema") = true := by
    intro member hmember
    simp only [bne_iff_ne, ne_eq]
    exact fun he => h (he ▸ List.mem_map_of_mem hmember)
  constructor
  · rw [← List.filter_eq_self.2 hother]
    simp [Members.without]
  · have hbehind : "$schema" ∉ Members.keys behind := fun hm => h (by
      rw [Members.keys, List.map_append]
      exact List.mem_append_right _ hm)
    rw [Members.last?, List.reverse_append, List.reverse_cons, List.append_assoc,
      Members.find?_append, ← Members.last?, Members.last?_eq_none_iff.2 hbehind]
    rfl

/-- Entries are read when each of them is. -/
theorem isSome_entriesOfMembers?_iff :
    (entriesOfMembers? members).isSome ↔
      ∀ member ∈ members, (ProgramConfiguration.reader.fromJson member.2).isSome := by
  induction members with
  | nil => simp [entriesOfMembers?]
  | cons member rest ih =>
    obtain ⟨identifier, value⟩ := member
    rw [entriesOfMembers?, List.forall_mem_cons, ← ih]
    cases ProgramConfiguration.reader.fromJson value <;>
      cases entriesOfMembers? rest <;> simp

/-- Entries are read under their identifiers. -/
theorem keys_of_entriesOfMembers? {programs : List (String × ProgramConfiguration)}
    (h : entriesOfMembers? members = some programs) :
    Members.keys programs = Members.keys members := by
  induction members generalizing programs with
  | nil =>
    cases h
    rfl
  | cons member rest ih =>
    obtain ⟨identifier, value⟩ := member
    rw [entriesOfMembers?] at h
    obtain ⟨entry, -, h⟩ := Option.bind_eq_some_iff.1 h
    obtain ⟨others, hothers, h⟩ := Option.bind_eq_some_iff.1 h
    cases h
    exact congrArg (identifier :: ·) (ih hothers)

/-- The schema of merged members is the one that counts among them. -/
theorem IsTagged.schema_mergedMembers (h : IsTagged schema entries members) :
    (Members.find? "$schema" (Json.mergedMembers members)).bind Json.text? = schema := by
  rw [Json.find?_mergedMembers_eq_last?, h.schema]
  cases schema with
  | none => rfl
  | some text => simp [Json.merged, Json.text?]

/-- Merged members besides the schema are the merged members that are given. -/
theorem IsTagged.without_mergedMembers (h : IsTagged schema entries members) :
    Members.without "$schema" (Json.mergedMembers members) = Json.mergedMembers entries := by
  rw [Json.without_mergedMembers, h.others]

/-- A document that is itself the object of entries. -/
theorem ofMembers?_flat (h : IsTagged schema entries members)
    (hentries : "programs" ∉ Members.keys entries) :
    ofMembers? (Json.mergedMembers members) =
      (entriesOfMembers? (Json.mergedMembers entries)).map (⟨schema, ·⟩) := by
  have hnone : Members.find? "programs" (Json.mergedMembers entries) = none :=
    Members.find?_eq_none_iff.2 (mt Json.mem_keys_mergedMembers.1 hentries)
  unfold ofMembers?
  rw [h.schema_mergedMembers, h.without_mergedMembers]
  dsimp only
  rw [hnone]
  exact Option.map_eq_bind.symm

/-- A document with the object of entries under a key of its own. -/
theorem ofMembers?_wrapped (h : IsTagged schema [("programs", .obj entries)] members) :
    ofMembers? (Json.mergedMembers members) =
      (entriesOfMembers? (Json.mergedMembers entries)).map (⟨schema, ·⟩) := by
  have hfound : Members.find? "programs" (Json.mergedMembers [("programs", .obj entries)]) =
      some (.obj (Json.mergedMembers entries)) := by
    rw [Json.find?_mergedMembers_eq_last?]
    simp [Members.last?, Members.find?, Json.merged]
  unfold ofMembers?
  rw [h.schema_mergedMembers, h.without_mergedMembers]
  dsimp only
  rw [hfound]
  exact Option.map_eq_bind.symm

/-- Configurations are read from the merged members of the object that a text holds. -/
theorem ofText_of_ofTextRaw (h : Json.ofTextRaw source = .ok (.obj members)) :
    ofText source =
      (ofMembers? (Json.mergedMembers members)).elim (.error .mismatched) .ok := by
  unfold ofText
  rw [Reader.object_ofText h]
  cases hread : ofMembers? (Json.mergedMembers members) <;>
    · simp only [bind, Except.bind, hread]
      rfl

/-- The merged entries of an object are read when the last value under every identifier has the form
of an entry. -/
theorem isSome_entriesOfMembers?_mergedMembers :
    (entriesOfMembers? (Json.mergedMembers entries)).isSome ↔
      ∀ identifier, ∀ value ∈ Members.last? identifier entries, value.IsProgramEntry := by
  rw [isSome_entriesOfMembers?_iff]
  refine (Json.forall_mem_mergedMembers
    (P := fun _ value => (ProgramConfiguration.reader.fromJson value).isSome)).trans ?_
  simp only [ProgramConfiguration.isSome_reader_iff]

/-- A program that is found in merged entries is one of their identifiers, and each of them is
found. -/
theorem isSome_get?_iff {programs : List (String × ProgramConfiguration)}
    (h : entriesOfMembers? (Json.mergedMembers entries) = some programs) (identifier : String) :
    (get? ⟨schema, programs⟩ identifier).isSome ↔ identifier ∈ Members.keys entries := by
  rw [get?, Option.isSome_iff_ne_none, ne_eq, Members.find?_eq_none_iff, not_not,
    keys_of_entriesOfMembers? h, Json.mem_keys_mergedMembers]

/-- Both layouts of a document are read alike, wherever the schema is put. They are read when the
last value under every identifier has the form of an entry; a single one that has not makes both
fail. The configurations that are read have the schema, and exactly the identifiers of the entries
are found in them. -/
theorem ofText_layouts (hprograms : "programs" ∉ Members.keys entries)
    (hflat : Json.ofTextRaw flat = .ok (.obj flatMembers))
    (hentries : IsTagged schema entries flatMembers)
    (hwrapped : Json.ofTextRaw wrapped = .ok (.obj wrappedMembers))
    (hlayer : IsTagged schema [("programs", .obj entries)] wrappedMembers) :
    ofText flat = ofText wrapped ∧
      ((∃ configurations, ofText flat = .ok configurations) ↔
        ∀ identifier, ∀ value ∈ Members.last? identifier entries, value.IsProgramEntry) ∧
      ∀ configurations, ofText flat = .ok configurations →
        configurations.schema = schema ∧
          ∀ identifier, (configurations.get? identifier).isSome ↔
            identifier ∈ Members.keys entries := by
  have hreadFlat := ofText_of_ofTextRaw hflat
  have hreadWrapped := ofText_of_ofTextRaw hwrapped
  rw [ofMembers?_flat hentries hprograms] at hreadFlat
  rw [ofMembers?_wrapped hlayer] at hreadWrapped
  refine ⟨hreadFlat.trans hreadWrapped.symm, ?_⟩
  rw [← isSome_entriesOfMembers?_mergedMembers, hreadFlat]
  cases hread : entriesOfMembers? (Json.mergedMembers entries) with
  | none => simp
  | some programs =>
    refine ⟨by simp, fun configurations h => ?_⟩
    cases h
    exact ⟨rfl, isSome_get?_iff hread⟩

/-- Entries in which an identifier is repeated, first with a value of another form. -/
def repeatedEntries : List (String × Json) :=
  [("a", .num (.whole 1)), ("b", .arr [.bool true]), ("a", .obj [])]

/-- The values that count among these entries have the form of an entry. -/
theorem isProgramEntry_of_repeatedEntries : ∀ identifier,
    ∀ value ∈ Members.last? identifier repeatedEntries, value.IsProgramEntry := by
  intro identifier value hvalue
  have hmem := Members.mem_of_find? hvalue
  simp only [repeatedEntries, List.reverse_cons, List.reverse_nil, List.nil_append,
    List.cons_append, List.mem_cons, List.not_mem_nil, or_false, Prod.mk.injEq] at hmem
  rcases hmem with ⟨rfl, rfl⟩ | ⟨rfl, rfl⟩ | ⟨rfl, rfl⟩
  · exact ⟨(fun _ h => nomatch h), fun _ h => nomatch h⟩
  · exact .inr ⟨true, rfl⟩
  · exact nomatch hvalue

/-- Two documents with these entries; the schema is among the entries of the one and in front of
those of the other. -/
theorem ofText_layouts_repeated :
    let flat := "\x7b\"a\": 1, \"$schema\": \"s\", \"b\": [true], \"a\": \x7b\x7d\x7d"
    let wrapped :=
      "\x7b\"$schema\": \"s\", \"programs\": \x7b\"a\": 1, \"b\": [true], \"a\": \x7b\x7d\x7d\x7d"
    ∃ configurations, ofText flat = .ok configurations ∧ ofText wrapped = .ok configurations ∧
      configurations.schema = some "s" ∧
      ∀ identifier, (configurations.get? identifier).isSome ↔ identifier ∈ ["a", "b", "a"] := by
  intro flat wrapped
  have hflat : Json.ofTextRaw flat = .ok (.obj (repeatedEntries.take 1 ++
      ("$schema", .str "s") :: repeatedEntries.drop 1)) := eq_ok_of_toOption (by decide +kernel)
  have hentries : IsTagged (some "s") (repeatedEntries.take 1 ++ repeatedEntries.drop 1)
      (repeatedEntries.take 1 ++ ("$schema", .str "s") :: repeatedEntries.drop 1) :=
    isTagged_of_append (by decide) "s"
  have hwrapped : Json.ofTextRaw wrapped = .ok (.obj ([] ++ ("$schema", .str "s") ::
      [("programs", .obj repeatedEntries)])) := eq_ok_of_toOption (by decide +kernel)
  have hlayer : IsTagged (some "s") ([] ++ [("programs", .obj repeatedEntries)])
      ([] ++ ("$schema", .str "s") :: [("programs", .obj repeatedEntries)]) :=
    isTagged_of_append (by decide) "s"
  obtain ⟨hsame, hread, hfound⟩ := ofText_layouts (by decide) hflat hentries hwrapped hlayer
  obtain ⟨configurations, hconfigurations⟩ := hread.2 isProgramEntry_of_repeatedEntries
  obtain ⟨hschema, hkeys⟩ := hfound configurations hconfigurations
  exact ⟨configurations, hconfigurations, hsame ▸ hconfigurations, hschema, hkeys⟩

end Layouts

end ProgramConfigurations

end ProgramConnector
