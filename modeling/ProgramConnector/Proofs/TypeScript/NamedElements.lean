import ProgramConnector.Proofs.Schema.TitledPaths
import ProgramConnector.Proofs.TypeScript.Agreement
import ProgramConnector.Proofs.TypeScript.Alternatives
import ProgramConnector.Proofs.TypeScript.ClosedBlock

/-!
# The names of elements

An element with the tag `object` at the end of a route is titled before a schema is compiled, and a
titled schema stands by a declared name wherever its type is expected. So such an element is never
written where it stands. Other elements keep the title that they have, if any: those without tags of
their own, and those in lists that only their keywords show, that are inside of combinations or that
are met through references.
-/

namespace ProgramConnector.TypeScript

variable {α : Type}

/-! ## Runs that are watched -/

/-- A step whose value is looked at together with the block that the step leaves. Where the look
fails, so does the step. -/
def watched (refusal : CompileError) (watch : α → Block → Bool) (step : Compile α) :
    Compile α := do
  let value ← step
  if watch value (← get) then return value else throw refusal

mutual

/-- The expression of a schema, with at most `bound` steps inside one another and a look at every
expression of a schema. -/
def expressionWatched (setting : Setting) (refusal : CompileError)
    (watch : Schema → String → Block → Bool) : Nat → Schema → Nat → Compile String
  | 0, _, _ => throw .exhausted
  | bound + 1, schema, level =>
    watched refusal (watch schema) (expression setting
      ⟨expressionWatched setting refusal watch bound, bodyWatched setting refusal watch bound⟩
      schema level)

/-- The body of a declared schema, with at most `bound` steps inside one another and a look at every
expression of a schema. -/
def bodyWatched (setting : Setting) (refusal : CompileError)
    (watch : Schema → String → Block → Bool) : Nat → Schema → Compile Body
  | 0, _ => throw .exhausted
  | bound + 1, schema =>
    declarationBody setting
      ⟨expressionWatched setting refusal watch bound, bodyWatched setting refusal watch bound⟩ schema

end

/-- The block of a schema, with a look at every expression of a schema that is compiled. -/
def blockWatched (refusal : CompileError) (watch : Schema → String → Block → Bool)
    (schema : Schema) (rootName : String) (profile : Profile) : Except CompileError Block := do
  let document := schema.toJson
  let setting : Setting := ⟨profile, rootName, document⟩
  let (body, block) ← (bodyWatched setting refusal watch (stepBound document) schema).run
    (Block.start rootName schema.description)
  return block.complete 0 body

/-- The run of a step whose value is looked at. -/
theorem run_watched (refusal : CompileError) (look : α → Block → Bool) (step : Compile α)
    (b : Block) : (watched refusal look step).run b =
      step.run b >>= fun result =>
        if look result.1 result.2 then .ok result else .error refusal := by
  rw [watched, StateT.run_bind]
  congr 1
  funext result
  change ((if look result.1 result.2 then Pure.pure result.1 else
    MonadExcept.throw refusal : Compile α).run result.2) = _
  split <;> rfl

/-- A look that succeeds wherever a step leads changes nothing. -/
theorem Agree.watched {fine : CompileError → Prop} {inv : Block → Prop} {refusal : CompileError}
    {watch : α → Block → Bool} {step step' : Compile α} (h : Agree fine inv step step')
    (hwatch : ∀ b value b', inv b → step.run b = .ok (value, b') → watch value b' = true) :
    Agree fine inv step (TypeScript.watched refusal watch step') := by
  intro b hb
  obtain ⟨heq, hends⟩ := h b hb
  refine ⟨?_, hends⟩
  rw [run_watched, heq]
  cases hrun : step.run b with
  | error error => rfl
  | ok result => exact if_pos (hwatch b result.1 result.2 hb hrun)

/-! ## Names and braces -/

/-- Whether a schema is compiled as an object: no keyword goes before its tags, and these are or
contain `object`, or its keywords show an object where there are no tags. -/
def isObjectLike : Schema → Bool
  | .bool _ => false
  | .object facts properties items extra =>
    (leading? facts).isNone && (effectiveTags facts properties items extra).contains "object"

/-- A text stands for a schema by name in a block: the schema is titled, and the text is a declared
name that a schema which is the same has. -/
structure Block.Names (block : Block) (schema : Schema) (text : String) : Prop where
  /-- The schema is titled. -/
  isTitled : schema.title.isSome
  /-- The text is a declared name. -/
  declared : text ∈ block.names
  /-- The text is made of identifier characters, so it is no type of its own. -/
  plain : Naming.IsPlain text.toList
  /-- The name is that of a schema that is the same. -/
  known : ∃ other, (other, text) ∈ block.titled ∧ (other = schema ∨ other.same schema)

/-- A text says in a block what a schema is compiled to where its type is expected: a titled schema
stands by name, and an untitled one that is compiled as an object in braces. -/
structure Block.Expresses (block : Block) (schema : Schema) (text : String) : Prop where
  /-- A titled schema. -/
  named : schema.title.isSome → block.Names schema text
  /-- An untitled object. -/
  braces : schema.title = none → isObjectLike schema = true → '\x7b' ∈ text.toList

section Tags

variable {setting : Setting} {below : Schema → TypeTree → Prop} {facts : SchemaFacts}
  {properties : Properties} {items : Items} {extra : Extra} {tag : String} {tags : List String}
  {tree : TypeTree} {parts : List TypeTree}

/-- What is in a part is in the joined parts. -/
theorem mem_intercalate {separator part : String} {parts : List String} (hp : part ∈ parts)
    {c : Char} (hc : c ∈ part.toList) : c ∈ (separator.intercalate parts).toList := by
  induction parts with
  | nil => exact absurd hp List.not_mem_nil
  | cons first rest ih =>
    cases rest with
    | nil =>
      rw [String.intercalate_singleton, ← List.mem_singleton.1 hp]
      exact hc
    | cons second rest =>
      rw [String.intercalate_cons_cons, String.toList_append, String.toList_append]
      rcases List.mem_cons.1 hp with rfl | hp
      · exact List.mem_append_left _ (List.mem_append_left _ hc)
      · exact List.mem_append_right _ (ih hp)

/-- An object is written in braces. -/
theorem mem_text_object (setting : Setting) (members : List (MemberHead × TypeTree)) (level : Nat) :
    '\x7b' ∈ ((TypeTree.object members).text setting level).toList := by
  rw [TypeTree.text]
  split
  · decide
  · rw [String.toList_append, String.toList_append, String.toList_append]
    refine List.mem_append_left _ (List.mem_append_left _ (List.mem_append_left _ ?_))
    decide

/-- The alternative of the tag `object` is written in braces. -/
theorem TagTree.mem_text (h : TagTree setting below facts properties items extra tag tree)
    (htag : tag = "object") (level : Nat) : '\x7b' ∈ (tree.text setting level).toList := by
  cases h with
  | object types => exact mem_text_object setting _ level
  | array type => exact absurd htag (by decide)
  | scalar notObject => exact absurd htag notObject

/-- Alternatives by tags have braces when one of the tags is `object`. -/
theorem mem_text_tagged (htag : "object" ∈ tags)
    (h : List.Forall₂ (TagTree setting below facts properties items extra) tags parts)
    (level : Nat) : '\x7b' ∈ ((TypeTree.tagged parts).text setting level).toList := by
  obtain ⟨place, hplace, hobject⟩ := List.mem_iff_getElem.1 htag
  have hplace' : place < parts.length := h.length_eq ▸ hplace
  have hbrace := (h.get hplace hplace').mem_text hobject level
  have htext : parts[place].text setting level ∈ TypeTree.texts setting parts level := by
    rw [TypeTree.texts_eq_map]
    exact List.mem_map_of_mem (List.getElem_mem hplace')
  have hnil := TypeTree.distinct_ne_nil htext
  rw [TypeTree.text, TypeTree.joinParts_eq_intercalate setting " | " hnil]
  exact mem_intercalate (mem_distinct.2 htext) hbrace

end Tags

section Names

variable {setting : Setting} {schema : Schema} {b b' : Block} {bound level : Nat} {text : String}

/-- A titled schema stands by its name. -/
theorem names_of_run (hw : b.WellNamed)
    (h : (expressionAt setting bound schema level).run b = .ok (text, b'))
    (htitle : schema.title.isSome) : b'.Names schema text := by
  obtain ⟨hw', -, tree, htree, rfl⟩ := (follows_at setting bound).expression schema level b _ b' hw h
  cases bound with
  | zero => exact htree.elim
  | succ bound =>
    cases htree with
    | bool allowed => cases htitle
    | inline untitled type =>
      rw [Schema.title, Schema.facts?, Option.bind_some, untitled] at htitle
      cases htitle
    | @titled _ other name isTitled known isSame =>
      obtain ⟨hdeclared, hplain⟩ := hw'.titled (other, name) known
      exact ⟨htitle, hdeclared, hplain, other, known, isSame⟩

/-- An untitled schema that is compiled as an object is written in braces where it stands. -/
theorem braces_of_run (hw : b.WellNamed)
    (h : (expressionAt setting bound schema level).run b = .ok (text, b'))
    (htitle : schema.title = none) (hobject : isObjectLike schema = true) :
    '\x7b' ∈ text.toList := by
  obtain ⟨-, -, tree, htree, rfl⟩ := (follows_at setting bound).expression schema level b _ b' hw h
  cases bound with
  | zero => exact htree.elim
  | succ bound =>
    cases htree with
    | bool allowed => cases hobject
    | titled isTitled known isSame =>
      rw [htitle] at isTitled
      cases isTitled
    | @inline facts properties items extra _ untitled type =>
      rw [isObjectLike, Bool.and_eq_true, Option.isNone_iff_eq_none] at hobject
      obtain ⟨hleading, htag⟩ := hobject
      have hnone : ∀ {found}, leading? facts ≠ some found := by
        simp [hleading]
      cases type with
      | @tagged parts _ types => exact mem_text_tagged (List.contains_iff_mem.1 htag) types level
      | reference leading type => exact absurd leading hnone
      | constant leading => exact absurd leading hnone
      | enumeration leading => exact absurd leading hnone
      | alternatives leading isUnion types => exact absurd leading hnone
      | together leading types => exact absurd leading hnone

/-- What the expression of a schema says when it is compiled. -/
theorem expresses_of_run (hw : b.WellNamed)
    (h : (expressionAt setting bound schema level).run b = .ok (text, b')) :
    b'.Expresses schema text :=
  ⟨names_of_run hw h, braces_of_run hw h⟩

end Names

/-! ## Looks that succeed -/

section Watching

variable {setting : Setting} {refusal : CompileError} {watch : Schema → String → Block → Bool}

/-- Declarations are opened under free names of identifier characters, so blocks stay well named
throughout a run. -/
theorem isKept_wellNamed (setting : Setting) : IsKept setting Block.WellNamed := by
  refine ⟨fun b schema title name hb _ _ hname => ?_,
    fun b reference target name hb _ _ _ hname => ?_, fun b place body hb => hb.complete place body⟩
  · have hplain := isPlain_uniqueName b.used (Naming.isPlain_typeName title)
    rw [← hname] at hplain
    refine hb.opened (hname ▸ uniqueName_not_mem b.used _) (fun entry he => ?_) fun _ he => .inl he
    rcases List.mem_append.1 he with he | he
    · exact .inl he
    · exact .inr ⟨by rw [List.mem_singleton.1 he], hplain⟩
  · have hplain :=
      isPlain_uniqueName b.used (Naming.isPlain_typeName (referenceBase reference target))
    rw [← hname] at hplain
    refine hb.opened (hname ▸ uniqueName_not_mem b.used _) (fun _ he => .inl he) fun entry he => ?_
    rcases List.mem_cons.1 he with rfl | he
    · exact .inr ⟨rfl, hplain⟩
    · exact .inl he

/-- Steps with a look agree with those without at every bound. -/
theorem agreeAll_watched (hwatch : ∀ schema text block, block.Expresses schema text →
    watch schema text block = true) (bound : Nat) :
    AgreeAll (fun _ => True) Block.WellNamed ⟨expressionAt setting bound, bodyAt setting bound⟩
      ⟨expressionWatched setting refusal watch bound, bodyWatched setting refusal watch bound⟩ := by
  induction bound with
  | zero =>
    refine ⟨fun schema level => ?_, fun schema => ?_⟩
    · simp only [expressionAt, expressionWatched]
      exact .throw trivial
    · simp only [bodyAt, bodyWatched]
      exact .throw trivial
  | succ bound ih =>
    obtain ⟨hexpression, hbody⟩ := (isKept_wellNamed setting).agreeAll (isFine_true setting) ih
    refine ⟨fun schema level => ?_, hbody⟩
    have hplain : Agree (fun _ => True) Block.WellNamed
        (expressionAt setting (bound + 1) schema level) _ := hexpression schema level
    exact hplain.watched fun b text b' hw hrun => hwatch schema text b' (expresses_of_run hw hrun)

/-- Looking at every expression of a schema that is compiled changes nothing. -/
theorem blockWatched_eq (hwatch : ∀ schema text block, block.Expresses schema text →
    watch schema text block = true) (schema : Schema) (rootName : String) (profile : Profile) :
    blockWatched refusal watch schema rootName profile = blockOf schema rootName profile := by
  have hstart : (Block.start rootName schema.description).WellNamed :=
    Block.wellNamed_empty.opened (by simp) (by simp) (by simp)
  dsimp only [blockWatched, blockOf]
  rw [((agreeAll_watched hwatch _).body schema _ hstart).1]

end Watching

/-! ## Elements on routes -/

/-- An element of a list that a route through a schema with titled elements leads to. -/
def IsRouteElement (root : String) (schema element : Schema) : Prop :=
  ∃ route, endsAtItem route = true ∧ (schema.titled root).at? route = some element

section Elements

variable {root : String} {schema element : Schema}

/-- An element with the tag `object` is titled. -/
theorem IsRouteElement.isSome_title (h : IsRouteElement root schema element)
    (htag : element.hasType "object" = true) : element.title.isSome := by
  obtain ⟨route, hitem, hat⟩ := h
  have hroute : route ≠ [] := by
    rintro rfl
    cases hitem
  rw [Schema.at?_titled root schema hroute, hitem] at hat
  obtain ⟨original, -, rfl⟩ := Option.map_eq_some_iff.1 hat
  rw [Schema.hasType_titledAt] at htag
  cases original with
  | bool allowed => cases htag
  | object facts properties items extra =>
    change facts.hasType "object" = true at htag
    simp [Schema.titledAt, SchemaFacts.titledAt, htag, Schema.title, Schema.facts?]

/-- Every element with the tag `object` that a route leads to is titled, and while the schema with
titled elements is compiled, such an element always stands by the declared name of a schema that is
the same. So does every other titled schema where its type is expected, and an untitled one that is
compiled as an object is written in braces. -/
theorem elements_named_of_titled (root : String) (schema : Schema) :
    (∀ element, IsRouteElement root schema element → element.hasType "object" = true →
      element.title.isSome) ∧
    ∀ (rootName : String) (profile : Profile) (refusal : CompileError)
      (watch : Schema → String → Block → Bool),
      (∀ part text block, block.Expresses part text →
        (IsRouteElement root schema part → part.hasType "object" = true →
          block.Names part text) → watch part text block = true) →
      blockWatched refusal watch (schema.titled root) rootName profile =
        blockOf (schema.titled root) rootName profile := by
  refine ⟨fun element h htag => h.isSome_title htag, fun rootName profile refusal watch hwatch => ?_⟩
  refine blockWatched_eq (fun part text block hexpresses => ?_) (schema.titled root) rootName profile
  exact hwatch part text block hexpresses fun h htag => hexpresses.named (h.isSome_title htag)

end Elements

/-! ## Elements off all routes -/

/-- A cell: an object with one text, with tags or without. -/
def cellSchema (tags : Option TypeTags) : Schema :=
  .object ⟨tags, none, []⟩
    (.listed [("a", .object ⟨some (.one "string"), none, []⟩ .absent .absent .absent)])
    .absent .absent

/-- A list, with tags or without. -/
def listSchema (tags : Option TypeTags) (element : Schema) : Schema :=
  .object ⟨tags, none, []⟩ .absent (.each element) .absent

/-- Lists whose elements are off all routes: an element without tags, a list without tags, a list
below an object without tags, one in a combination and one behind a reference. The last list is on a
route. -/
def looseSchema : Schema :=
  let cell := cellSchema (some (.one "object"))
  let cells := listSchema (some (.one "array")) cell
  let object (tags : Option TypeTags) (keywords : List (String × Json)) (properties : Properties) :=
    Schema.object ⟨tags, none, keywords⟩ properties .absent .absent
  object (some (.one "object")) [("definitions", .obj [("rows", cells.toJson)])] (.listed [
    ("untagged", listSchema (some (.one "array")) (cellSchema none)),
    ("list", listSchema none cell),
    ("below", object none [] (.listed [("rows", cells)])),
    ("choice", object none [("anyOf", .arr [cells.toJson])] .absent),
    ("target", object none [("$ref", .str "#/definitions/rows")] .absent),
    ("tagged", cells)])

set_option maxRecDepth 8000 in
/-- An element that is compiled as an object has no title and is written where it stands when it has
no tags of its own. So is an element with the tag `object` in every list that no route leads to. -/
theorem untitled_elements :
    ((listSchema (some (.one "array")) (cellSchema none)).titled "Rows").at? [.item] =
      some (cellSchema none) ∧
    isObjectLike (cellSchema none) = true ∧ (cellSchema none).title = none ∧
    compile ((listSchema (some (.one "array")) (cellSchema none)).titled "Rows") "Rows" {} =
      .ok "export type Rows = \x7b\n  a?: string;\n\x7d[];\n" ∧
    compile (looseSchema.titled "Loose") "Loose" {} = .ok ("export interface Loose \x7b\n" ++
      "  untagged?: \x7b\n    a?: string;\n  \x7d[];\n" ++
      "  list?: \x7b\n    a?: string;\n  \x7d[];\n" ++
      "  below?: \x7b\n    rows?: \x7b\n      a?: string;\n    \x7d[];\n  \x7d;\n" ++
      "  choice?: \x7b\n    a?: string;\n  \x7d[];\n  target?: Rows;\n" ++
      "  tagged?: LooseTaggedItem[];\n\x7d\n\n" ++
      "export type Rows = \x7b\n  a?: string;\n\x7d[];\n\n" ++
      "export interface LooseTaggedItem \x7b\n  a?: string;\n\x7d\n") := by
  exact ⟨by rfl, by rfl, by rfl, by rfl, by rfl⟩

/-- Whether a titled schema is written with identifier characters only. -/
def isNamePlain (part : Schema) (text : String) : Bool :=
  part.title.isNone || text.toList.all Naming.isIdentifierChar

set_option maxRecDepth 8000 in
/-- The element of the last list is titled, and every titled schema is written with identifier
characters while the lists are compiled. -/
theorem elements_named_of_titled_loose :
    (∃ element, (looseSchema.titled "Loose").at? [.property 5 "tagged", .item] = some element ∧
      element.hasType "object" = true ∧ element.title.isSome) ∧
    ∃ block, blockWatched .exhausted (fun part text _ => isNamePlain part text)
        (looseSchema.titled "Loose") "Loose" {} = .ok block ∧
      block.names = ["Loose", "Rows", "LooseTaggedItem"] := by
  obtain ⟨htitled, hrun⟩ := elements_named_of_titled "Loose" looseSchema
  have hplain : ∀ (part : Schema) (text : String) (block : Block), block.Expresses part text →
      isNamePlain part text = true := by
    intro part text block h
    unfold isNamePlain
    cases htitle : part.title with
    | none => rfl
    | some title =>
      have hnames := h.named (by rw [htitle]; rfl)
      exact List.all_eq_true.2 hnames.plain
  have hblock : (blockOf (looseSchema.titled "Loose") "Loose" {}).map Block.names =
      .ok ["Loose", "Rows", "LooseTaggedItem"] := by
    rfl
  refine ⟨?_, ?_⟩
  · refine ⟨_, rfl, by rfl, htitled _ ⟨[.property 5 "tagged", .item], by rfl, by rfl⟩ (by rfl)⟩
  · rw [hrun "Loose" {} .exhausted _ fun part text block h _ => hplain part text block h]
    cases hb : blockOf (looseSchema.titled "Loose") "Loose" {} with
    | error error =>
      rw [hb] at hblock
      cases hblock
    | ok block =>
      rw [hb] at hblock
      exact ⟨block, rfl, Except.ok.inj hblock⟩

end ProgramConnector.TypeScript
