import Bindery.Proofs.Method.Calls
import Bindery.Proofs.Method.Marks
import Bindery.Proofs.Method.Requests
import Bindery.Proofs.Method.Urls

/-!
# Arguments that are sent together

A sole parameter whose schema is an object with properties is sent as one object, at one place of the
request, with a key for each property. Otherwise no object is sent outside of a form.
-/
namespace Bindery

open Bindery.Schema (Definitions Description Node Operation Parameter)

/-- What a schema says: in place, or in the definition that it names. References are followed once. -/
inductive Describes (definitions : Definitions) : Node → Description → Prop
  | inPlace {node : Node} {description : Description} (said : node.described? = some description) :
      Describes definitions node description
  | byName {target name : String} {node : Node} {description : Description}
      (named : Schema.definitionName? target = some name) (defined : definitions.lookup name = some node)
      (said : node.described? = some description) : Describes definitions (.reference target) description

/-- The sole parameter of an operation is an object with some properties. -/
structure SoleObject (definitions : Definitions) (operation : Operation) (parameter : Parameter)
    (properties : List (String × Node)) : Prop where
  alone : operation.parameters = [parameter]
  object : ∃ node description, parameter.schema = some node ∧ Describes definitions node description ∧
    description.type = some "object" ∧ description.properties = properties
  something : properties ≠ []

/-- The parts of a request that hold one value, under a key where there are keys, and no other. -/
structure Request.SendsOnly (request : Request) (location : Location) (key : String) (value : Value) :
    Prop where
  path : urlValues request.url = if location = .path then [value] else []
  query : request.query = if location = .query then [(key, value)] else []
  headers : request.headers = if location = .header then [(key, value)] else []
  json : request.json = if location = .body then some value else none
  form : request.form = if location = .form then some value else none
  files : request.files = none

/-- A method that takes the properties of a parameter one by one and sends them as one object, unless
the parameter belongs in the path and the path has no placeholder for it. -/
structure SendsTogether (path : String) (parameter : Parameter) (properties : List (String × Node))
    (method : Noted Method) : Prop where
  documented : method.value.arguments.map (·.documented) = properties.map Prod.fst
  required : ∀ argument ∈ method.value.arguments, argument.required = true
  target : ∀ argument ∈ method.value.arguments,
    argument.target = ⟨parameter.name, decidedPlace path parameter⟩
  sent : ∃ location fields, decidedPlace path parameter = some location.label ∧
    fields.map Prod.fst = properties.map Prod.fst ∧
    fields.map Prod.snd = method.value.arguments.map (·.name) ∧ (fields.map Prod.fst).Nodup ∧
    if parameter.place = some Location.path.label ∧
        ¬ (Path.scan path.toList).any (Path.Placeholder.isNamed parameter.name) then
      method.value.request.values = [] ∧ .missingPlaceholder parameter.name path ∈ method.notices
    else method.value.request.SendsOnly location parameter.name (.group fields)

/-! ### Schemas -/

theorem definition?_eq_some_iff {definitions : Definitions} {target : String} {description : Description} :
    Schema.definition? definitions target = some description ↔
      ∃ name node, Schema.definitionName? target = some name ∧ definitions.lookup name = some node ∧
        node.described? = some description := by
  simp only [Schema.definition?, bind, Option.bind_eq_some_iff]
  constructor
  · rintro ⟨name, named, node, defined, said⟩
    exact ⟨name, node, named, defined, said⟩
  · rintro ⟨name, node, named, defined, said⟩
    exact ⟨name, named, node, defined, said⟩

/-- Following a reference finds what the schema says. -/
theorem Describes.resolve {definitions : Definitions} {node : Node} {description : Description}
    (describes : Describes definitions node description) :
    (Bindery.resolve definitions (some node)).value = description := by
  cases describes with
  | inPlace said =>
    cases node with
    | reference target => cases said
    | inline type text properties items enum =>
      cases said
      rfl
  | byName named defined said =>
    have found := definition?_eq_some_iff.mpr ⟨_, _, named, defined, said⟩
    simp only [Bindery.resolve, found, Noted.value_pure]

/-- A schema that has a type once it is resolved says so itself or by name. -/
theorem describes_resolve {definitions : Definitions} {node : Node} {type : String}
    (typed : (resolve definitions (some node)).value.type = some type) :
    Describes definitions node (resolve definitions (some node)).value := by
  cases node with
  | inline => exact .inPlace rfl
  | reference target =>
    cases found : Schema.definition? definitions target with
    | none =>
      simp only [resolve, found] at typed
      cases typed
    | some description =>
      obtain ⟨name, node, named, defined, said⟩ := definition?_eq_some_iff.mp found
      simp only [resolve, found, Noted.value_pure]
      exact .byName named defined said

theorem separable?_eq_some_iff {schema : Description} {properties : List (String × Node)} :
    Description.separable? schema = some properties ↔
      schema.type = some "object" ∧ schema.properties = properties ∧ properties ≠ [] := by
  have filled : (!schema.properties.isEmpty) = true ↔ schema.properties ≠ [] := by
    simp
  unfold Description.separable?
  constructor
  · intro separable
    split at separable
    next object =>
      cases separable
      exact ⟨object.1, rfl, filled.mp object.2⟩
    · cases separable
  · rintro ⟨object, rfl, something⟩
    rw [if_pos ⟨object, filled.mpr something⟩]

/-- The parameters that are taken apart are the sole ones that are objects. -/
theorem separated?_eq_some_iff {definitions : Definitions} {operation : Operation} {parameter : Parameter}
    {properties : List (String × Node)} :
    separated? definitions operation.parameters = some (parameter, properties) ↔
      SoleObject definitions operation parameter properties := by
  constructor
  · intro separated
    obtain ⟨alone, something⟩ := separated?_eq_some separated
    obtain ⟨⟨sole, node⟩, found, mapped⟩ := Option.bind_eq_some_iff.mp separated
    obtain ⟨others, separable, same⟩ := Option.map_eq_some_iff.mp mapped
    cases same
    obtain ⟨object, same, -⟩ := separable?_eq_some_iff.mp separable
    exact ⟨alone, ⟨node, _, (soleSchema?_eq_some found).2, describes_resolve object, object, same⟩, something⟩
  · rintro ⟨alone, ⟨node, description, schema, describes, object, same⟩, something⟩
    -- Ordering a single parameter changes nothing, so the search finds it first.
    have ordered : orderParameters operation.parameters = [parameter] :=
      List.perm_singleton.mp (alone ▸ orderParameters_perm operation.parameters)
    have separable := separable?_eq_some_iff.mpr ⟨object, same, something⟩
    simp [separated?, ordered, soleSchema?, schema, describes.resolve, separable]

/-! ### The object in the request -/

/-- The placeholder of a name is found in every URL that ends with the path. -/
theorem splitOnce_placeholder {path name text : String} (base : String)
    (found : (Path.placeholders path).lookup name = some text) :
    ∃ before after, splitOnce text.toList (base ++ path).toList = some (before, after) := by
  cases split : splitOnce text.toList (base ++ path).toList with
  | some parts => exact ⟨parts.1, parts.2, rfl⟩
  | none =>
    rw [Path.lookup_placeholders, Option.map_eq_some_iff] at found
    -- The text is that of a placeholder of the path, which the URL ends with, so the search cannot fail.
    obtain ⟨p, last, rfl⟩ := found
    obtain ⟨before, after, whole⟩ := Path.infix_of_mem_scan (Path.lastNamed?_eq_some last).1
    have joined : (base ++ path).toList = (base.toList ++ before) ++ (p.text ++ after) := by
      rw [String.toList_append, ← whole]
      simp
    refine absurd ?_ (splitOnce_eq_none split _ _ joined)
    rw [String.toList_ofList]
    exact List.prefix_append ..

/-- A value that takes the place of a placeholder is the only one of the URL. -/
theorem urlValues_placeholder {path name text : String} (base : String) (value : Value)
    (found : (Path.placeholders path).lookup name = some text) :
    urlValues (interpolate text value [.text (base ++ path)]) = [value] := by
  obtain ⟨before, after, split⟩ := splitOnce_placeholder base found
  simp only [interpolate, split]
  simp [urlValues]

/-- The object of a group is placed where its target says. -/
theorem groupedRequest_sends {endpoint : Endpoint} {base : String} {target : Target} {group : Value}
    {request : Noted Request}
    (built : groupedRequest endpoint (base ++ endpoint.path) (Path.placeholders endpoint.path) target group =
      .ok request) :
    ∃ location : Location, target.location = some location.label ∧
      if location = .path ∧ (Path.placeholders endpoint.path).lookup target.name = none then
        request.value.values = [] ∧ request.notices = [.missingPlaceholder target.name endpoint.path]
      else request.value.SendsOnly location target.name group := by
  unfold groupedRequest at built
  cases found : target.location.bind Location.ofLabel? with
  | none => simp [found] at built
  | some location =>
    obtain ⟨label, here, known⟩ := Option.bind_eq_some_iff.mp found
    refine ⟨location, Location.ofLabel?_eq_some_iff.mp known ▸ here, ?_⟩
    -- The path is the only place where the object may find no room.
    cases location with
    | path =>
      simp only [found, Except.ok.injEq] at built
      subst built
      cases text : (Path.placeholders endpoint.path).lookup target.name with
      | none => simp [placeInPath, text, Slots.request, Request.values, urlValues, formOf]
      | some text' =>
        have alone := urlValues_placeholder base group text
        simp only [placeInPath, text, reduceCtorEq, and_false, if_false]
        exact ⟨alone, rfl, rfl, rfl, rfl, rfl⟩
    | query | header | body | form =>
      simp only [found, Except.ok.injEq] at built
      subst built
      rw [if_neg (by simp)]
      exact ⟨rfl, rfl, rfl, rfl, rfl, rfl⟩

/-- Outside of a form, arguments that are placed one by one are sent one by one. -/
theorem single_slotsOf (placeholders : List (String × String)) (url verb : String)
    (arguments : List Argument) :
    ∀ value ∈ urlValues ((slotsOf placeholders url arguments).request verb).url ++
        ((slotsOf placeholders url arguments).request verb).query.map Prod.snd ++
        ((slotsOf placeholders url arguments).request verb).headers.map Prod.snd ++
        ((slotsOf placeholders url arguments).request verb).json.toList,
      ∃ argument ∈ arguments, value = .argument argument.name := by
  -- Query and headers differ only in the location of their arguments.
  have entries : ∀ location, ∀ value ∈ (((arguments.filter (·.isAt location)).map Argument.entry).map Prod.snd),
      ∃ argument ∈ arguments, value = .argument argument.name := by
    intro location value member
    obtain ⟨entry, among, rfl⟩ := List.mem_map.mp member
    obtain ⟨argument, here, rfl⟩ := List.mem_map.mp among
    exact ⟨argument, List.mem_of_mem_filter here, rfl⟩
  intro value member
  simp only [Slots.request, slotsOf, List.mem_append] at member
  rcases member with ((inUrl | inQuery) | inHeaders) | inBody
  -- A URL that was one literal has values of its bindings only.
  · have bound := (urlValues_bindAll_text _ url).subset inUrl
    obtain ⟨binding, among, rfl⟩ := List.mem_map.mp bound
    obtain ⟨argument, here, found⟩ := List.mem_filterMap.mp among
    obtain ⟨text, -, rfl⟩ := Option.map_eq_some_iff.mp found
    exact ⟨argument, List.mem_of_mem_filter here, rfl⟩
  · exact entries .query value inQuery
  · exact entries .header value inHeaders
  · obtain ⟨argument, found, rfl⟩ := Option.map_eq_some_iff.mp (Option.mem_toList.mp inBody)
    exact ⟨argument, List.mem_of_find?_eq_some found, rfl⟩

theorem buildRequest_grouped {endpoint : Endpoint} {url : String} {list : ArgumentList} {target : Target}
    (grouped : list.grouped = true) (something : list.arguments ≠ [])
    (targets : ∀ argument ∈ list.arguments, argument.target = target) :
    buildRequest endpoint url list =
      groupedRequest endpoint url list.placeholders target (groupValue list.arguments) := by
  obtain ⟨first, rest, arguments⟩ := List.exists_cons_of_ne_nil something
  have same : first.target = target := targets first (by simp [arguments])
  unfold buildRequest
  simp only [grouped, arguments, same]
  rfl

theorem lookup_placeholders_eq_none_iff {path name : String} :
    (Path.placeholders path).lookup name = none ↔
      ¬ (Path.scan path.toList).any (Path.Placeholder.isNamed name) = true := by
  rw [← Option.not_isSome_iff_eq_none, Path.lookup_isSome_iff, List.any_eq_true]
  simp only [Path.Placeholder.isNamed, decide_eq_true_eq]

/-- Only a documented location leads to the path without a placeholder. -/
theorem unplaced_iff {path : String} {parameter : Parameter} {location : Location}
    (decided : decidedPlace path parameter = some location.label) :
    location = .path ∧ (Path.placeholders path).lookup parameter.name = none ↔
      parameter.place = some Location.path.label ∧
        ¬ (Path.scan path.toList).any (Path.Placeholder.isNamed parameter.name) = true := by
  rw [lookup_placeholders_eq_none_iff]
  -- Without a placeholder of its name, a parameter goes to its documented location.
  refine and_congr_left fun absent => ?_
  rw [decidedPlace, if_neg absent] at decided
  rw [decided, Option.some.injEq, ← Location.ofLabel?_eq_some_iff,
    Location.ofLabel?_eq_some_iff.mpr rfl, Option.some.injEq]

/-! ### Operations -/

section Operation

variable (path : String) {operation : Operation} {definitions : Definitions}

/-- The arguments of an object are its properties, all with the target of the parameter. -/
theorem separated_arguments {parameter : Parameter} {properties : List (String × Node)}
    (object : SoleObject definitions operation parameter properties) :
    (buildArguments path operation definitions).value.grouped = true ∧
      (buildArguments path operation definitions).value.arguments.map (·.documented) =
        properties.map Prod.fst ∧
      ∀ argument ∈ (buildArguments path operation definitions).value.arguments,
        argument.required = true ∧ argument.target = ⟨parameter.name, decidedPlace path parameter⟩ := by
  -- The target of the parameter is its name at the decided place.
  have target : targetOf (Path.placeholders path) parameter = ⟨parameter.name, decidedPlace path parameter⟩ := by
    rw [← targetOf_location]
    rfl
  rw [buildArguments_value, separated?_eq_some_iff.mpr object]
  simp only [propertyArguments_value, target]
  refine ⟨trivial, map_zipWith_item Prod.fst (fun _ _ => rfl) (by simp [propertyNames]), fun argument member => ?_⟩
  obtain ⟨i, bound, rfl⟩ := List.mem_iff_getElem.mp member
  rw [List.getElem_zipWith]
  exact ⟨rfl, rfl⟩

theorem ungrouped_of_no_object
    (apart : ∀ parameter properties, ¬ SoleObject definitions operation parameter properties) :
    (buildArguments path operation definitions).value.grouped = false := by
  rw [buildArguments_value]
  cases separated : separated? definitions operation.parameters with
  | none => rfl
  | some found => exact absurd (separated?_eq_some_iff.mp separated) (apart found.1 found.2)

end Operation

/-- Grouping is exact: an operation whose sole parameter is an object takes its properties one by one and
sends them as one object where the parameter belongs. No other operation sends an object outside of a
form. -/
theorem compileOperation_grouping {name verb base path : String} {operation : Operation}
    {definitions : Definitions} {method : Noted Method}
    (compiled : compileOperation name verb base path operation definitions = .ok method) :
    (∀ parameter properties, SoleObject definitions operation parameter properties →
      (properties.map Prod.fst).Nodup → SendsTogether path parameter properties method) ∧
    ((∀ parameter properties, ¬ SoleObject definitions operation parameter properties) →
      ∀ value ∈ urlValues method.value.request.url ++ method.value.request.query.map Prod.snd ++
          method.value.request.headers.map Prod.snd ++ method.value.request.json.toList,
        ∃ argument ∈ method.value.arguments, value = .argument argument.name) := by
  obtain ⟨request, built, -, sent, arguments, notices⟩ := compileOperation_eq_ok compiled
  constructor
  · intro parameter properties object distinct
    obtain ⟨grouped, documented, made⟩ := separated_arguments path object
    have something : (buildArguments path operation definitions).value.arguments ≠ [] := by
      intro nothing
      rw [nothing] at documented
      exact object.something (List.map_eq_nil_iff.mp documented.symm)
    rw [buildRequest_grouped grouped something fun argument member => (made argument member).2,
      buildArguments_placeholders] at built
    obtain ⟨location, decided, placed⟩ := groupedRequest_sends built
    simp only [unplaced_iff decided] at placed
    rw [← arguments] at documented made placed
    refine ⟨documented, fun argument member => (made argument member).1,
      fun argument member => (made argument member).2, location,
      method.value.arguments.map fun argument => (argument.documented, argument.name), decided, ?_, ?_, ?_, ?_⟩
    · rw [List.map_map, ← documented]
      rfl
    · rw [List.map_map]
      rfl
    · rw [List.map_map]
      exact documented ▸ distinct
    · rw [sent]
      split at placed
      next nowhere =>
        rw [if_pos nowhere, notices, placed.2]
        exact ⟨placed.1, by simp⟩
      next somewhere =>
        rw [if_neg somewhere]
        exact placed
  · intro apart
    have ungrouped := ungrouped_of_no_object path apart
    rw [buildRequest_ungrouped _ _ _ ungrouped] at built
    cases fault : firstFault? [] (buildArguments path operation definitions).value.arguments with
    | some fault' => simp [fault] at built
    | none =>
      simp only [fault, Except.ok.injEq] at built
      rw [sent, ← built, arguments]
      exact single_slotsOf _ _ _ _

/-- A referenced object whose properties ask for one name is sent as one object in the path, although it is
documented in the query. -/
theorem referenced_object_grouped :
    let definitions : Definitions :=
      [("Range", .inline (some "object") none [("first-id", .inline (some "integer") none [] none none),
        ("firstId", .inline (some "integer") none [] none none)] none none)]
    let parameter : Parameter :=
      { name := "range", place := some "query", schema := some (.reference "#/definitions/Range") }
    ∃ method, compileOperation "Items" "get" "https://host" "/items/\x7brange\x7d"
        { parameters := [parameter] } definitions = .ok method ∧
      SendsTogether "/items/\x7brange\x7d" parameter
        [("first-id", .inline (some "integer") none [] none none),
          ("firstId", .inline (some "integer") none [] none none)] method := by
  intro definitions parameter
  have succeeds : (compileOperation "Items" "get" "https://host" "/items/\x7brange\x7d"
      { parameters := [parameter] } definitions).toOption.map (fun method => method.value.request.verb) =
        some "get" := by decide +kernel
  have object : SoleObject definitions { parameters := [parameter] } parameter
      [("first-id", .inline (some "integer") none [] none none),
        ("firstId", .inline (some "integer") none [] none none)] :=
    ⟨rfl, ⟨_, _, rfl, .byName (by decide : Schema.definitionName? "#/definitions/Range" = some "Range") rfl rfl, rfl, rfl⟩, List.cons_ne_nil _ _⟩
  cases compiled : compileOperation "Items" "get" "https://host" "/items/\x7brange\x7d"
      { parameters := [parameter] } definitions with
  | error failure =>
    rw [compiled] at succeeds
    cases succeeds
  | ok method => exact ⟨method, rfl, (compileOperation_grouping compiled).1 parameter _ object (by simp)⟩

end Bindery
