import ProgramConnector.Proofs.Schema.NormalForm

/-!
# The titles of elements

Titling the elements of lists changes nothing but titles, and only where a route of steps leads:
through the items of schemas with the tag `array`, and through the properties and the additional
properties of schemas with the tag `object`. Along such a route every title is known: the root's, an
element's, which spells the route, or the one that was there before.
-/

namespace ProgramConnector

/-! ## Routes -/

/-- A step from a schema to one below it. -/
inductive SchemaStep where
  /-- To the schema of every element. -/
  | item
  /-- To the schema of one place of a tuple. -/
  | place (index : Nat)
  /-- To one property, by its number and its name. -/
  | property (index : Nat) (name : String)
  /-- To the schema of additional properties. -/
  | further
deriving DecidableEq

/-- What a step adds to the path of a title. -/
def SchemaStep.segment : SchemaStep → String
  | .item => "item"
  | .place index => "item" ++ toString index
  | .property _ name => name
  | .further => "additionalProperties"

/-- Whether a step leads to an element of a list. -/
def SchemaStep.isItem : SchemaStep → Bool
  | .item => true
  | .place _ => true
  | .property _ _ => false
  | .further => false

/-- The tag that lets a step through. -/
def SchemaStep.tag (step : SchemaStep) : String := if step.isItem then "array" else "object"

/-- Whether the tags of a schema include `tag`. -/
def Schema.hasType (schema : Schema) (tag : String) : Bool :=
  schema.facts?.any (·.hasType tag)

/-- The schema that a step leads to, whatever the tags are. -/
def Schema.below? : Schema → SchemaStep → Option Schema
  | .bool _, _ => none
  | .object _ _ items _, .item =>
    match items with
    | .each element => some element
    | _ => none
  | .object _ _ items _, .place index =>
    match items with
    | .tuple places => places[index]?
    | _ => none
  | .object _ properties _ _, .property index name =>
    match properties with
    | .listed entries =>
      entries[index]?.bind fun entry => if entry.1 = name then some entry.2 else none
    | .absent => none
  | .object _ _ _ extra, .further =>
    match extra with
    | .typed schema => some schema
    | _ => none

/-- The schema that a step leads to, if the tags let it through. -/
def Schema.step? (schema : Schema) (step : SchemaStep) : Option Schema :=
  if schema.hasType step.tag then schema.below? step else none

/-- The schema that a route leads to. -/
def Schema.at? (schema : Schema) (route : List SchemaStep) : Option Schema :=
  route.foldlM Schema.step? schema

/-- A route goes on from the schema that its first step leads to. -/
theorem Schema.at?_cons (schema : Schema) (step : SchemaStep) (rest : List SchemaStep) :
    schema.at? (step :: rest) = (schema.step? step).bind fun below => below.at? rest := rfl

/-- Whether a route ends at an element of a list. -/
def endsAtItem (route : List SchemaStep) : Bool := route.getLast?.any SchemaStep.isItem

/-- The title that a schema gets at the end of a route. At the root it is the one that it has, or
else the root's name. An element with the tag `object` gets the root's name and its route, with the
title that it has behind them. -/
def Schema.titleOn (root : String) (route : List SchemaStep) (schema : Schema) : Option String :=
  if route.isEmpty then schema.facts?.map fun facts => facts.title.getD root
  else if endsAtItem route && schema.hasType "object" then
    let title := root ++ "_" ++ "_".intercalate (route.map SchemaStep.segment)
    match schema.title with
    | some existing => some (title ++ "_" ++ existing)
    | none => some title
  else schema.title

/-! ## Schemas without titles -/

mutual

/-- A schema without its title and those of all schemas that routes lead to. -/
def Schema.untitled : Schema → Schema
  | .bool allowed => .bool allowed
  | .object facts properties items extra =>
    .object { facts with title := none } (properties.untitled (facts.hasType "object"))
      (items.untitled (facts.hasType "array")) (extra.untitled (facts.hasType "object"))

/-- Properties; they are left alone unless a route goes on through them. -/
def Properties.untitled (onRoute : Bool) : Properties → Properties
  | .absent => .absent
  | .listed entries => .listed (if onRoute then untitledEntries entries else entries)

/-- Each property. -/
def untitledEntries : List (String × Schema) → List (String × Schema)
  | [] => []
  | (name, schema) :: rest => (name, schema.untitled) :: untitledEntries rest

/-- Items; they are left alone unless a route goes on through them. -/
def Items.untitled (onRoute : Bool) : Items → Items
  | .absent => .absent
  | .tuple places => .tuple (if onRoute then untitledPlaces places else places)
  | .each element => .each (if onRoute then element.untitled else element)

/-- Each place of a tuple. -/
def untitledPlaces : List Schema → List Schema
  | [] => []
  | schema :: rest => schema.untitled :: untitledPlaces rest

/-- Additional properties; they are left alone unless a route goes on through them. -/
def Extra.untitled (onRoute : Bool) : Extra → Extra
  | .absent => .absent
  | .allowed allowed => .allowed allowed
  | .typed schema => .typed (if onRoute then schema.untitled else schema)

end

section Titled

/-- Titles keep the type tags. -/
theorem SchemaFacts.hasType_titledAt (root : String) (path : List String) (element : Bool)
    (facts : SchemaFacts) (tag : String) :
    (facts.titledAt root path element).hasType tag = facts.hasType tag := by
  unfold SchemaFacts.titledAt
  split <;> rfl

/-- Facts differ from titled ones in the title only. -/
theorem SchemaFacts.untitled_titledAt (root : String) (path : List String) (element : Bool)
    (facts : SchemaFacts) :
    { facts.titledAt root path element with title := none } = { facts with title := none } := by
  unfold SchemaFacts.titledAt
  split <;> rfl

mutual

/-- A schema differs from a titled one in titles on routes only. -/
theorem Schema.untitled_titledAt (root : String) (path : List String) (element : Bool)
    (schema : Schema) : (schema.titledAt root path element).untitled = schema.untitled := by
  cases schema with
  | bool allowed => rfl
  | object facts properties items extra =>
    rw [Schema.titledAt, Schema.untitled, Schema.untitled, SchemaFacts.untitled_titledAt]
    simp only [SchemaFacts.hasType_titledAt]
    rw [Properties.untitled_titledAt, Items.untitled_titledAt, Extra.untitled_titledAt]

/-- Properties differ from titled ones in titles on routes only. -/
theorem Properties.untitled_titledAt (root : String) (path : List String) (onRoute : Bool)
    (properties : Properties) :
    (properties.titledAt root path onRoute).untitled onRoute = properties.untitled onRoute := by
  cases properties with
  | absent => rfl
  | listed entries =>
    cases onRoute with
    | false => rfl
    | true => exact congrArg Properties.listed (untitledEntries_titledEntries root path entries)

/-- Entries differ from titled ones in titles on routes only. -/
theorem untitledEntries_titledEntries (root : String) (path : List String)
    (entries : List (String × Schema)) :
    untitledEntries (titledEntries root path entries) = untitledEntries entries := by
  cases entries with
  | nil => rfl
  | cons entry rest =>
    obtain ⟨name, schema⟩ := entry
    rw [titledEntries, untitledEntries, untitledEntries, Schema.untitled_titledAt,
      untitledEntries_titledEntries]

/-- Items differ from titled ones in titles on routes only. -/
theorem Items.untitled_titledAt (root : String) (path : List String) (onRoute : Bool)
    (items : Items) : (items.titledAt root path onRoute).untitled onRoute = items.untitled onRoute := by
  cases items with
  | absent => rfl
  | tuple places =>
    cases onRoute with
    | false => rfl
    | true => exact congrArg Items.tuple (untitledPlaces_titledPlaces root path 0 places)
  | each element =>
    cases onRoute with
    | false => rfl
    | true => exact congrArg Items.each (Schema.untitled_titledAt root _ true element)

/-- Places differ from titled ones in titles on routes only. -/
theorem untitledPlaces_titledPlaces (root : String) (path : List String) (index : Nat)
    (places : List Schema) :
    untitledPlaces (titledPlaces root path index places) = untitledPlaces places := by
  cases places with
  | nil => rfl
  | cons schema rest =>
    rw [titledPlaces, untitledPlaces, untitledPlaces, Schema.untitled_titledAt,
      untitledPlaces_titledPlaces]

/-- Additional properties differ from titled ones in titles on routes only. -/
theorem Extra.untitled_titledAt (root : String) (path : List String) (onRoute : Bool)
    (extra : Extra) : (extra.titledAt root path onRoute).untitled onRoute = extra.untitled onRoute := by
  cases extra with
  | absent => rfl
  | allowed allowed => rfl
  | typed schema =>
    cases onRoute with
    | false => rfl
    | true => exact congrArg Extra.typed (Schema.untitled_titledAt root _ false schema)

end

/-- A titled schema differs from the schema in titles on routes only. -/
theorem Schema.untitled_titled (root : String) (schema : Schema) :
    (schema.titled root).untitled = schema.untitled := by
  cases schema with
  | bool allowed => rfl
  | object facts properties items extra =>
    have hroot : ∀ tag, SchemaFacts.hasType
        { facts with title := some (facts.title.getD root) } tag = facts.hasType tag := fun _ => rfl
    simp only [Schema.titled, Schema.untitled, hroot, Properties.untitled_titledAt,
      Items.untitled_titledAt, Extra.untitled_titledAt]

/-! ## Titles along routes -/

/-- Titles keep the type tags. -/
theorem Schema.hasType_titledAt (root : String) (path : List String) (element : Bool)
    (schema : Schema) (tag : String) :
    (schema.titledAt root path element).hasType tag = schema.hasType tag := by
  cases schema with
  | bool allowed => rfl
  | object facts properties items extra =>
    exact SchemaFacts.hasType_titledAt root path element facts tag

/-- The places of a tuple are titled by their numbers. -/
theorem getElem?_titledPlaces (root : String) (path : List String) (index place : Nat)
    (places : List Schema) :
    (titledPlaces root path index places)[place]? = places[place]?.map
      (Schema.titledAt root (path ++ ["item" ++ toString (index + place)]) true) := by
  induction places generalizing index place with
  | nil => rfl
  | cons schema rest ih =>
    rw [titledPlaces]
    cases place with
    | zero => rfl
    | succ place => rw [List.getElem?_cons_succ, List.getElem?_cons_succ, ih, Nat.add_right_comm,
        Nat.add_assoc]

/-- The schema below an object whose parts are titled where its tags let a step through. -/
theorem below?_titled (root : String) (path : List String) (facts other : SchemaFacts)
    (properties : Properties) (items : Items) (extra : Extra) {step : SchemaStep}
    (h : facts.hasType step.tag = true) :
    (Schema.object other (properties.titledAt root path (facts.hasType "object"))
      (items.titledAt root path (facts.hasType "array"))
      (extra.titledAt root path (facts.hasType "object"))).below? step =
      ((Schema.object facts properties items extra).below? step).map
        (Schema.titledAt root (path ++ [step.segment]) step.isItem) := by
  cases step with
  | item =>
    have htag : facts.hasType "array" = true := h
    rw [htag]
    cases items <;> rfl
  | place index =>
    have htag : facts.hasType "array" = true := h
    rw [htag]
    cases items with
    | tuple places =>
      have hplace := getElem?_titledPlaces root path 0 index places
      rw [Nat.zero_add] at hplace
      exact hplace
    | _ => rfl
  | property index name =>
    have htag : facts.hasType "object" = true := h
    rw [htag]
    cases properties with
    | absent => rfl
    | listed entries =>
      simp only [Properties.titledAt, if_true, Schema.below?, titledEntries_eq_map,
        List.getElem?_map]
      cases entries[index]? with
      | none => rfl
      | some entry =>
        by_cases hname : entry.1 = name
        · simp [hname, SchemaStep.segment, SchemaStep.isItem]
        · simp [hname]
  | further =>
    have htag : facts.hasType "object" = true := h
    rw [htag]
    cases extra <;> rfl

/-- A step from a titled schema leads to what it leads to from the schema, titled. -/
theorem Schema.step?_titledAt (root : String) (path : List String) (element : Bool)
    (schema : Schema) (step : SchemaStep) :
    (schema.titledAt root path element).step? step = (schema.step? step).map
      (Schema.titledAt root (path ++ [step.segment]) step.isItem) := by
  rw [Schema.step?, Schema.step?, Schema.hasType_titledAt]
  split
  · rename_i h
    cases schema with
    | bool allowed => cases h
    | object facts properties items extra => exact below?_titled root path facts _ _ _ _ h
  · rfl

/-- A step from a schema with titled elements leads to what it leads to from the schema, titled. -/
theorem Schema.step?_titled (root : String) (schema : Schema) (step : SchemaStep) :
    (schema.titled root).step? step = (schema.step? step).map
      (Schema.titledAt root [step.segment] step.isItem) := by
  have htags : (schema.titled root).hasType step.tag = schema.hasType step.tag := by
    cases schema <;> rfl
  rw [Schema.step?, Schema.step?, htags]
  split
  · rename_i h
    cases schema with
    | bool allowed => cases h
    | object facts properties items extra => exact below?_titled root [] facts _ _ _ _ h
  · rfl

/-- A route from a titled schema leads to what it leads to from the schema, titled. -/
theorem Schema.at?_titledAt (root : String) (path : List String) (element : Bool)
    (schema : Schema) (route : List SchemaStep) :
    (schema.titledAt root path element).at? route = (schema.at? route).map
      (Schema.titledAt root (path ++ route.map SchemaStep.segment)
        ((route.getLast?.map SchemaStep.isItem).getD element)) := by
  induction route generalizing schema path element with
  | nil => simp [Schema.at?]
  | cons step rest ih =>
    have hlast : ((step :: rest).getLast?.map SchemaStep.isItem).getD element =
        (rest.getLast?.map SchemaStep.isItem).getD step.isItem := by
      rw [List.getLast?_cons]
      cases rest.getLast? <;> rfl
    rw [Schema.at?_cons, Schema.at?_cons, Schema.step?_titledAt, hlast]
    cases schema.step? step with
    | none => rfl
    | some below =>
      have hpath : path ++ (step :: rest).map SchemaStep.segment =
          path ++ [step.segment] ++ rest.map SchemaStep.segment := by simp
      rw [hpath]
      exact ih (path ++ [step.segment]) step.isItem below

/-- A route of at least one step from a schema with titled elements leads to what it leads to from
the schema, titled. -/
theorem Schema.at?_titled (root : String) (schema : Schema) {route : List SchemaStep}
    (h : route ≠ []) :
    (schema.titled root).at? route = (schema.at? route).map
      (Schema.titledAt root (route.map SchemaStep.segment) (endsAtItem route)) := by
  cases route with
  | nil => exact absurd rfl h
  | cons step rest =>
    have hlast : endsAtItem (step :: rest) =
        ((rest.getLast?.map SchemaStep.isItem).getD step.isItem) := by
      rw [endsAtItem, List.getLast?_cons]
      cases rest.getLast? <;> rfl
    rw [Schema.at?_cons, Schema.at?_cons, Schema.step?_titled, hlast]
    cases schema.step? step with
    | none => rfl
    | some below => exact Schema.at?_titledAt root [step.segment] step.isItem below rest

/-- The title of a schema that is titled at the end of a route. -/
theorem Schema.title_titledAt (root : String) {route : List SchemaStep} (h : route ≠ [])
    (schema : Schema) :
    (schema.titledAt root (route.map SchemaStep.segment) (endsAtItem route)).title =
      schema.titleOn root route := by
  have hroute : route.isEmpty = false := List.isEmpty_eq_false_iff.2 h
  have hpath : (route.map SchemaStep.segment).isEmpty = false := by simpa using h
  rw [Schema.titleOn, hroute, if_neg Bool.false_ne_true]
  cases schema with
  | bool allowed => simp [Schema.titledAt, Schema.hasType, Schema.facts?, Schema.title]
  | object facts properties items extra =>
    change (facts.titledAt root _ _).title = if endsAtItem route && facts.hasType "object" then
      _ else facts.title
    rw [SchemaFacts.titledAt, elementTitle, hpath, if_neg Bool.false_ne_true]
    split
    · change some _ = match facts.title with
        | some existing => _
        | none => _
      cases facts.title <;> rfl
    · rfl

/-- The titles along routes from a schema with titled elements. -/
theorem Schema.title_at?_titled (root : String) (schema : Schema) (route : List SchemaStep) :
    ((schema.titled root).at? route).map Schema.title =
      (schema.at? route).map (Schema.titleOn root route) := by
  by_cases h : route = []
  · subst h
    cases schema <;> rfl
  · rw [Schema.at?_titled root schema h, Option.map_map]
    congr 1
    exact funext fun below => Schema.title_titledAt root h below

/-- Titling the elements of lists changes nothing but titles on routes, and these are the titles that
the routes say. -/
theorem Schema.titled_spec (root : String) (schema : Schema) :
    (schema.titled root).untitled = schema.untitled ∧
      ∀ route, ((schema.titled root).at? route).map Schema.title =
        (schema.at? route).map (Schema.titleOn root route) :=
  ⟨schema.untitled_titled root, schema.title_at?_titled root⟩

example : (Schema.object ⟨some (.one "object"), some "Row", []⟩ .absent .absent .absent).titleOn
    "orders" [.property 0 "rows", .place 1] = some "orders_rows_item1_Row" := by
  rfl

end Titled

end ProgramConnector
