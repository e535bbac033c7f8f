import ProgramConnector.Proofs.Schema.TitledPaths

/-!
# Titling the elements of lists twice

A schema is known by what it is without the titles on its routes and by these titles. Titling a
second time leads along the same routes as titling once, keeps the title of the root, and puts the
root's name and the route in front of the title of every element with the tag `object` once more. So
it changes nothing exactly when no route ends at such an element.
-/

namespace ProgramConnector

/-! ## Schemas with the same titles -/

/-- Two schemas have the same titles along all routes. -/
def Schema.SameTitles (a b : Schema) : Prop :=
  ∀ route, (a.at? route).map Schema.title = (b.at? route).map Schema.title

section SameTitles

/-- What a step leads to has the same titles as well. -/
theorem Schema.SameTitles.step {a b below below' : Schema} (h : a.SameTitles b) {step : SchemaStep}
    (hstep : a.step? step = some below) (hstep' : b.step? step = some below') :
    below.SameTitles below' := by
  intro route
  have hroute := h (step :: route)
  rwa [Schema.at?_cons, Schema.at?_cons, hstep, hstep', Option.bind_some, Option.bind_some]
    at hroute

/-- A step from an object with the tag for it leads to what is below the object. -/
theorem Schema.step?_object {facts : SchemaFacts} {properties : Properties} {items : Items}
    {extra : Extra} {step : SchemaStep} (h : facts.hasType step.tag = true) :
    (Schema.object facts properties items extra).step? step =
      (Schema.object facts properties items extra).below? step :=
  if_pos h

/-- Facts are known by what they are without the title, and by the title. -/
theorem SchemaFacts.eq_of_untitled {facts other : SchemaFacts}
    (h : { facts with title := none } = { other with title := none })
    (htitle : facts.title = other.title) : facts = other := by
  obtain ⟨tags, title, keywords⟩ := facts
  obtain ⟨tags', title', keywords'⟩ := other
  obtain ⟨rfl, -, rfl⟩ := SchemaFacts.mk.inj h
  obtain rfl : title = title' := htitle
  rfl

mutual

/-- A schema is known by what it is without the titles on its routes, and by these titles. -/
theorem Schema.eq_of_sameTitles (a : Schema) {b : Schema} (h : a.untitled = b.untitled)
    (htitles : a.SameTitles b) : a = b := by
  cases a with
  | bool allowed =>
    cases b with
    | bool other => exact h
    | object => cases h
  | object facts properties items extra =>
    cases b with
    | bool other => cases h
    | object facts' properties' items' extra' =>
      obtain ⟨hfacts, hproperties, hitems, hextra⟩ := Schema.object.inj h
      obtain rfl := SchemaFacts.eq_of_untitled hfacts (Option.some.inj (htitles []))
      have hbelow (step : SchemaStep) (htag : facts.hasType step.tag = true) {below below' : Schema}
          (hstep : (Schema.object facts properties items extra).below? step = some below)
          (hstep' : (Schema.object facts properties' items' extra').below? step = some below') :
          below.SameTitles below' :=
        htitles.step ((Schema.step?_object htag).trans hstep)
          ((Schema.step?_object htag).trans hstep')
      have hproperties' := properties.eq_of_sameTitles hproperties
        fun htag entries entries' he he' index name below below' hentry hentry' =>
          hbelow (.property index name) htag (by simp [Schema.below?, he, hentry])
            (by simp [Schema.below?, he', hentry'])
      have hitems' := items.eq_of_sameTitles hitems
        (fun htag below below' hi hi' =>
          hbelow .item htag (by simp [Schema.below?, hi]) (by simp [Schema.below?, hi']))
        fun htag places places' hi hi' index below below' hplace hplace' =>
          hbelow (.place index) htag (by simp [Schema.below?, hi, hplace])
            (by simp [Schema.below?, hi', hplace'])
      have hextra' := extra.eq_of_sameTitles hextra fun htag below below' he he' =>
        hbelow .further htag (by simp [Schema.below?, he]) (by simp [Schema.below?, he'])
      rw [hproperties', hitems', hextra']
termination_by structural a

/-- Properties are known by what they are without titles on routes, and by these titles. -/
theorem Properties.eq_of_sameTitles {onRoute : Bool} (properties : Properties) {other : Properties}
    (h : properties.untitled onRoute = other.untitled onRoute)
    (htitles : onRoute = true → ∀ entries entries', properties = .listed entries →
      other = .listed entries' → ∀ (index : Nat) (name : String) (below below' : Schema),
        entries[index]? = some (name, below) → entries'[index]? = some (name, below') →
          below.SameTitles below') : properties = other := by
  cases properties with
  | absent =>
    cases other with
    | absent => rfl
    | listed => cases h
  | listed entries =>
    cases other with
    | absent => cases h
    | listed entries' =>
      cases onRoute with
      | false => exact h
      | true =>
        exact congrArg Properties.listed (entries_eq_of_sameTitles entries (Properties.listed.inj h)
          (htitles rfl entries entries' rfl rfl))
termination_by structural properties

/-- Entries are known by what they are without titles on routes, and by these titles. -/
theorem entries_eq_of_sameTitles (entries : List (String × Schema))
    {entries' : List (String × Schema)}
    (h : untitledEntries entries = untitledEntries entries')
    (htitles : ∀ (index : Nat) (name : String) (below below' : Schema),
      entries[index]? = some (name, below) → entries'[index]? = some (name, below') →
        below.SameTitles below') : entries = entries' := by
  cases entries with
  | nil =>
    cases entries' with
    | nil => rfl
    | cons => cases h
  | cons entry rest =>
    cases entries' with
    | nil => cases h
    | cons entry' rest' =>
      obtain ⟨name, schema⟩ := entry
      obtain ⟨name', schema'⟩ := entry'
      obtain ⟨hentry, hrest⟩ := List.cons.inj h
      obtain ⟨rfl, hschema⟩ := Prod.mk.inj hentry
      have hfirst := schema.eq_of_sameTitles hschema (htitles 0 name schema schema' rfl rfl)
      have hothers := entries_eq_of_sameTitles rest hrest fun index => htitles (index + 1)
      rw [hfirst, hothers]
termination_by structural entries

/-- Items are known by what they are without titles on routes, and by these titles. -/
theorem Items.eq_of_sameTitles {onRoute : Bool} (items : Items) {other : Items}
    (h : items.untitled onRoute = other.untitled onRoute)
    (heach : onRoute = true → ∀ below below', items = .each below → other = .each below' →
      below.SameTitles below')
    (htuple : onRoute = true → ∀ places places', items = .tuple places → other = .tuple places' →
      ∀ (index : Nat) (below below' : Schema), places[index]? = some below →
        places'[index]? = some below' → below.SameTitles below') : items = other := by
  cases items with
  | absent =>
    cases other with
    | absent => rfl
    | tuple => cases h
    | each => cases h
  | tuple places =>
    cases other with
    | absent => cases h
    | each => cases h
    | tuple places' =>
      cases onRoute with
      | false => exact h
      | true =>
        exact congrArg Items.tuple (places_eq_of_sameTitles places (Items.tuple.inj h)
          (htuple rfl places places' rfl rfl))
  | each element =>
    cases other with
    | absent => cases h
    | tuple => cases h
    | each element' =>
      cases onRoute with
      | false => exact h
      | true =>
        exact congrArg Items.each (element.eq_of_sameTitles (Items.each.inj h)
          (heach rfl element element' rfl rfl))
termination_by structural items

/-- Places are known by what they are without titles on routes, and by these titles. -/
theorem places_eq_of_sameTitles (places : List Schema) {places' : List Schema}
    (h : untitledPlaces places = untitledPlaces places')
    (htitles : ∀ (index : Nat) (below below' : Schema), places[index]? = some below →
      places'[index]? = some below' → below.SameTitles below') : places = places' := by
  cases places with
  | nil =>
    cases places' with
    | nil => rfl
    | cons => cases h
  | cons schema rest =>
    cases places' with
    | nil => cases h
    | cons schema' rest' =>
      obtain ⟨hschema, hrest⟩ := List.cons.inj h
      have hfirst := schema.eq_of_sameTitles hschema (htitles 0 schema schema' rfl rfl)
      have hothers := places_eq_of_sameTitles rest hrest fun index => htitles (index + 1)
      rw [hfirst, hothers]
termination_by structural places

/-- Additional properties are known by what they are without titles on routes, and by these
titles. -/
theorem Extra.eq_of_sameTitles {onRoute : Bool} (extra : Extra) {other : Extra}
    (h : extra.untitled onRoute = other.untitled onRoute)
    (htitles : onRoute = true → ∀ below below', extra = .typed below → other = .typed below' →
      below.SameTitles below') : extra = other := by
  cases extra with
  | absent =>
    cases other with
    | absent => rfl
    | allowed => cases h
    | typed => cases h
  | allowed allowed =>
    cases other with
    | absent => cases h
    | allowed => exact h
    | typed => cases h
  | typed schema =>
    cases other with
    | absent => cases h
    | allowed => cases h
    | typed schema' =>
      cases onRoute with
      | false => exact h
      | true =>
        exact congrArg Extra.typed (schema.eq_of_sameTitles (Extra.typed.inj h)
          (htitles rfl schema schema' rfl rfl))
termination_by structural extra

end

end SameTitles

/-! ## Titling again -/

section Again

variable {root : String} {schema below : Schema} {route : List SchemaStep}

/-- An element of a list with the tag `object`, at the end of a route. -/
def Schema.IsObjectElement (route : List SchemaStep) (below : Schema) : Prop :=
  endsAtItem route = true ∧ below.hasType "object" = true

instance (route : List SchemaStep) (below : Schema) : Decidable (below.IsObjectElement route) :=
  inferInstanceAs (Decidable (_ ∧ _))

/-- The end of a route from a schema with titled elements is tagged like the end of the route from
the schema. -/
theorem Schema.hasType_at?_titled (root : String) (schema : Schema) (route : List SchemaStep)
    (tag : String) : ((schema.titled root).at? route).map (·.hasType tag) =
      (schema.at? route).map (·.hasType tag) := by
  by_cases hroute : route = []
  · subst hroute
    cases schema <;> rfl
  · rw [Schema.at?_titled root schema hroute, Option.map_map]
    congr 1
    exact funext fun below => Schema.hasType_titledAt root _ _ below tag

/-- A schema that is titled already keeps its title as the root. -/
theorem Schema.titleOn_root_titled (root : String) (schema : Schema) :
    (schema.titled root).titleOn root [] = (schema.titled root).title := by
  cases schema <;> rfl

/-- A schema that is no element with the tag `object` gets no other title along a route of at least
one step. -/
theorem Schema.titleOn_of_not_element (root : String) (hroute : route ≠ [])
    (h : ¬ below.IsObjectElement route) : below.titleOn root route = below.title := by
  have hnot : (endsAtItem route && below.hasType "object") = false := by
    rw [← Bool.not_eq_true, Bool.and_eq_true]
    exact h
  rw [Schema.titleOn, List.isEmpty_eq_false_iff.2 hroute, hnot, if_neg Bool.false_ne_true,
    if_neg Bool.false_ne_true]

/-- An element with the tag `object` gets its route, with the title that it has behind it. -/
theorem Schema.titleOn_of_element (root : String) (h : below.IsObjectElement route) :
    below.titleOn root route = some (match below.title with
      | some existing => elementTitle root (route.map SchemaStep.segment) ++ "_" ++ existing
      | none => elementTitle root (route.map SchemaStep.segment)) := by
  have hroute : route ≠ [] := by
    rintro rfl
    cases h.1
  have hpath : (route.map SchemaStep.segment).isEmpty = false := by simpa using hroute
  rw [Schema.titleOn, List.isEmpty_eq_false_iff.2 hroute, h.1, h.2, if_neg Bool.false_ne_true,
    if_pos (Bool.and_self true), elementTitle, hpath, if_neg Bool.false_ne_true]
  cases below.title <;> rfl

/-- What titling twice makes of the schema at the end of a route, next to titling once. The title
that an element with the tag `object` has the first time stands behind its route the second time. -/
structure Schema.TitledAgain (root : String) (route : List SchemaStep)
    (below first second : Schema) : Prop where
  /-- An element with the tag `object` has two titles, and they differ. -/
  element : below.IsObjectElement route → ∃ title, first.title = some title ∧
    second.title = some (elementTitle root (route.map SchemaStep.segment) ++ "_" ++ title) ∧
    second.title ≠ first.title
  /-- Any other schema keeps the title that it has the first time. -/
  other : ¬ below.IsObjectElement route → second.title = first.title

/-- A text with something in front of it is another text. -/
theorem append_underscore_ne (front text : String) : front ++ "_" ++ text ≠ text := by
  intro h
  have hlength := congrArg String.length h
  rw [String.length_append, String.length_append] at hlength
  have hone : "_".length = 1 := rfl
  omega

/-- Titling twice leads along the same routes as titling once, and to these titles. -/
theorem Schema.exists_titledAgain (root : String) (h : schema.at? route = some below) :
    ∃ first second, (schema.titled root).at? route = some first ∧
      ((schema.titled root).titled root).at? route = some second ∧
      Schema.TitledAgain root route below first second := by
  have htags := Schema.hasType_at?_titled root schema route "object"
  have htitle := Schema.title_at?_titled root schema route
  have htitle' := Schema.title_at?_titled root (schema.titled root) route
  rw [h, Option.map_some] at htags htitle
  obtain ⟨first, hfirst, htag⟩ := Option.map_eq_some_iff.1 htags
  rw [hfirst, Option.map_some] at htitle htitle'
  obtain ⟨second, hsecond, hagain⟩ := Option.map_eq_some_iff.1 htitle'
  have helement : first.IsObjectElement route ↔ below.IsObjectElement route := by
    rw [Schema.IsObjectElement, Schema.IsObjectElement, htag]
  refine ⟨first, second, hfirst, hsecond, fun hobject => ?_, fun hobject => ?_⟩
  · have hsome := Option.some.inj htitle
    rw [Schema.titleOn_of_element root hobject] at hsome
    rw [Schema.titleOn_of_element root (helement.2 hobject), hsome] at hagain
    refine ⟨_, hsome, hagain, ?_⟩
    rw [hagain, hsome]
    exact fun heq => append_underscore_ne _ _ (Option.some.inj heq)
  · by_cases hroute : route = []
    · subst hroute
      obtain rfl : schema.titled root = first := Option.some.inj hfirst
      exact hagain.trans (Schema.titleOn_root_titled root schema)
    · exact hagain.trans
        (Schema.titleOn_of_not_element root hroute (mt helement.1 hobject))

/-- A route that leads nowhere leads nowhere when elements are titled. -/
theorem Schema.at?_titled_eq_none (root : String) (h : schema.at? route = none) :
    (schema.titled root).at? route = none := by
  have htags := Schema.hasType_at?_titled root schema route "object"
  rw [h, Option.map_none] at htags
  exact Option.map_eq_none_iff.1 htags

/-- Where no route ends at an element with the tag `object`, titling twice gives the titles that
titling once gives. -/
theorem Schema.sameTitles_titled_titled (root : String)
    (h : ∀ route below, schema.at? route = some below → ¬ below.IsObjectElement route) :
    ((schema.titled root).titled root).SameTitles (schema.titled root) := by
  intro route
  cases hat : schema.at? route with
  | none =>
    have honce := Schema.at?_titled_eq_none root hat
    rw [honce, Schema.at?_titled_eq_none root honce]
  | some below =>
    obtain ⟨first, second, hfirst, hsecond, hagain⟩ := Schema.exists_titledAgain root hat
    rw [hfirst, hsecond, Option.map_some, Option.map_some, hagain.other (h route below hat)]

/-- Titling the elements of lists a second time keeps the title of the root, and changes nothing
exactly when no route ends at an element with the tag `object`. It never changes anything but titles
on routes, leads along the routes of the schema, and changes the titles of exactly these elements:
the root's name and the route are put in front of the title that such an element has already. -/
theorem Schema.titled_titled_spec (root : String) (schema : Schema) :
    ((schema.titled root).titled root).title = (schema.titled root).title ∧
    ((schema.titled root).titled root = schema.titled root ↔
      ∀ route below, schema.at? route = some below → ¬ below.IsObjectElement route) ∧
    ((schema.titled root).titled root).untitled = (schema.titled root).untitled ∧
    ∀ route, match schema.at? route with
      | none => (schema.titled root).at? route = none ∧
        ((schema.titled root).titled root).at? route = none
      | some below => ∃ first second, (schema.titled root).at? route = some first ∧
        ((schema.titled root).titled root).at? route = some second ∧
        Schema.TitledAgain root route below first second := by
  have huntitled := (schema.titled root).untitled_titled root
  refine ⟨?_, ⟨fun heq route below hat hobject => ?_, fun h => ?_⟩, huntitled, fun route => ?_⟩
  · cases schema <;> rfl
  · obtain ⟨first, second, hfirst, hsecond, hagain⟩ := Schema.exists_titledAgain root hat
    rw [heq, hfirst] at hsecond
    obtain rfl := Option.some.inj hsecond
    obtain ⟨title, -, -, hne⟩ := hagain.element hobject
    exact hne rfl
  · exact Schema.eq_of_sameTitles _ huntitled (Schema.sameTitles_titled_titled root h)
  · cases hat : schema.at? route with
    | none =>
      have honce := Schema.at?_titled_eq_none root hat
      exact ⟨honce, Schema.at?_titled_eq_none root honce⟩
    | some below => exact Schema.exists_titledAgain root hat

example : let row := Schema.object ⟨some (.one "object"), none, []⟩ .absent .absent .absent
    let rows := Schema.object ⟨some (.one "array"), none, []⟩ .absent (.each row) .absent
    ((((rows.titled "rows").titled "rows").at? [.item]).map Schema.title) =
      some (some "rows_item_rows_item") := by
  rfl

end Again

end ProgramConnector
