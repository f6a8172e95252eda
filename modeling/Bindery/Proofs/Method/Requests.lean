import Bindery.Proofs.Method.Compatibility

/-!
# Requests and the parameters they serve

Without grouping, a request is known exactly from the parameters of the operation, required ones
first, each with its own argument. Whether there is a request depends on their locations alone.
-/
namespace Bindery

open Bindery.Schema (Definitions Operation Parameter)

/-- Where a parameter is sent: to the placeholder of its name, if the path has one, and else to its
documented location. -/
def decidedPlace (path : String) (parameter : Parameter) : Option String :=
  if (Path.scan path.toList).any (Path.Placeholder.isNamed parameter.name) then
    some Location.path.label
  else parameter.place

/-- Parameters in the order in which they are sent, each with its argument. -/
def served (ordered : List Parameter) (list : ArgumentList) : List (Parameter × Argument) :=
  ordered.zip list.arguments

/-- What goes to one location: the names that parameters are sent under, and those of their
arguments. -/
def sentTo (path : String) (location : Location) (pairs : List (Parameter × Argument)) :
    List (String × String) :=
  (pairs.filter fun pair => decidedPlace path pair.1 = some location.label).map fun pair =>
    (pair.1.name, pair.2.name)

def isFile (definitions : Definitions) (pair : Parameter × Argument) : Bool :=
  (parameterType definitions pair.1).value = some "file"

/-- Is this sent for some fields? Nothing is sent just if there are none, and otherwise one object of all of them. -/
structure SendsFields (sent : Option Value) (fields : List (String × String)) : Prop where
  nothing : sent = none ↔ fields = []
  object : ∀ value, sent = some value → value = .group fields

/-- A request that sends what some parameters ask for, outside of its URL. -/
structure Serves (path : String) (definitions : Definitions) (verb : String)
    (pairs : List (Parameter × Argument)) (request : Request) : Prop where
  verb : request.verb = Text.lower verb
  query : request.query = (sentTo path .query pairs).map fun sent => (sent.1, .argument sent.2)
  headers : request.headers = (sentTo path .header pairs).map fun sent => (sent.1, .argument sent.2)
  json : request.json.toList = (sentTo path .body pairs).map fun sent => .argument sent.2
  form : SendsFields request.form (sentTo path .form (pairs.filter fun pair => !isFile definitions pair))
  files : SendsFields request.files (sentTo path .form (pairs.filter (isFile definitions)))

/-- What a parameter at fault is reported as. -/
def faultKind (place : Option String) : FailureKind :=
  if (place.bind Location.ofLabel?).isSome then .endpoint else .unsupported

/-- The fault of the first parameter that offends beside those before it. -/
def IsFirstFault (endpoint : Endpoint) (parameters : List Parameter) (fault : PlacementFault) : Prop :=
  ∃ before parameter after, parameters = before ++ parameter :: after ∧
    Compatible (before.map (decidedPlace endpoint.path)) ∧
    Offends (before.map (decidedPlace endpoint.path)) (decidedPlace endpoint.path parameter)
      parameter.name fault ∧
    (fault.failure endpoint).kind = faultKind (decidedPlace endpoint.path parameter)

/-! ### Parameters and arguments -/

theorem targetOf_location (path : String) (parameter : Parameter) :
    (targetOf (Path.placeholders path) parameter).location = decidedPlace path parameter := by
  -- The source looks for the name among the entries of the table, the specification in the scanned path.
  have same : ((Path.placeholders path).any fun member => decide (member.1 = parameter.name)) =
      (Path.scan path.toList).any (Path.Placeholder.isNamed parameter.name) := by
    rw [Data.any_key_iff, Bool.eq_iff_iff, Path.lookup_isSome_iff, List.any_eq_true]
    simp only [Path.Placeholder.isNamed, decide_eq_true_eq]
  simp only [targetOf, decidedPlace, same]
  rfl

/-- What an argument has from its parameter. -/
structure Argument.IsOf (path : String) (definitions : Definitions) (parameter : Parameter)
    (argument : Argument) : Prop where
  documented : argument.documented = parameter.name
  target : argument.target = targetOf (Path.placeholders path) parameter
  type : argument.type = (parameterType definitions parameter).value

section IsOf

variable {path : String} {definitions : Definitions} {parameter : Parameter} {argument : Argument}

theorem Argument.IsOf.key (isOf : argument.IsOf path definitions parameter) :
    argument.target.name = parameter.name := by
  rw [isOf.target]
  rfl

theorem Argument.IsOf.location (isOf : argument.IsOf path definitions parameter) :
    argument.target.location = decidedPlace path parameter := by
  rw [isOf.target]
  exact targetOf_location path parameter

end IsOf

section Ungrouped

variable {path : String} {operation : Operation} {definitions : Definitions}

theorem ungrouped_arguments
    (ungrouped : (buildArguments path operation definitions).value.grouped = false) :
    (buildArguments path operation definitions).value.arguments =
      List.zipWith (Argument.ofParameter definitions (Path.placeholders path))
        (orderParameters operation.parameters)
        (freshNames [] (parameterNames (orderParameters operation.parameters))) := by
  rw [buildArguments_value] at ungrouped ⊢
  cases separated : separated? definitions operation.parameters with
  | some found => simp [separated] at ungrouped
  | none => exact parameterArguments_value ..

theorem length_ungrouped
    (ungrouped : (buildArguments path operation definitions).value.grouped = false) :
    (buildArguments path operation definitions).value.arguments.length =
      (orderParameters operation.parameters).length := by
  rw [ungrouped_arguments ungrouped, List.length_zipWith, length_freshNames]
  simp [parameterNames]

/-- Each parameter is served by an argument made from it. -/
theorem isOf_of_mem_served
    (ungrouped : (buildArguments path operation definitions).value.grouped = false)
    {pair : Parameter × Argument}
    (member : pair ∈ served (orderParameters operation.parameters) (buildArguments path operation definitions).value) :
    pair.2.IsOf path definitions pair.1 := by
  -- Parameters and arguments are in the same order, so the pairs are those of one position.
  obtain ⟨i, bound, here⟩ := List.mem_iff_getElem.mp member
  simp only [served, ungrouped_arguments ungrouped, List.getElem_zip, List.getElem_zipWith] at here
  subst here
  exact ⟨rfl, rfl, rfl⟩

theorem served_parameters
    (ungrouped : (buildArguments path operation definitions).value.grouped = false) :
    (served (orderParameters operation.parameters) (buildArguments path operation definitions).value).map Prod.fst =
      orderParameters operation.parameters :=
  List.map_fst_zip (Nat.le_of_eq (length_ungrouped ungrouped).symm)

theorem served_arguments
    (ungrouped : (buildArguments path operation definitions).value.grouped = false) :
    (served (orderParameters operation.parameters) (buildArguments path operation definitions).value).map Prod.snd =
      (buildArguments path operation definitions).value.arguments :=
  List.map_snd_zip (Nat.le_of_eq (length_ungrouped ungrouped))

theorem placesOf_ungrouped
    (ungrouped : (buildArguments path operation definitions).value.grouped = false) :
    placesOf (buildArguments path operation definitions).value.arguments =
      (orderParameters operation.parameters).map (decidedPlace path) := by
  rw [← served_parameters ungrouped, ← served_arguments ungrouped, placesOf, List.map_map, List.map_map]
  exact List.map_congr_left fun pair member => (isOf_of_mem_served ungrouped member).location

end Ungrouped

/-! ### Slots and parameters -/

section Slots

variable {path : String} {definitions : Definitions}

private theorem fields_at {pairs : List (Parameter × Argument)}
    (made : ∀ pair ∈ pairs, pair.2.IsOf path definitions pair.1) (location : Location) :
    ((pairs.map Prod.snd).filter (·.isAt location)).map Argument.field = sentTo path location pairs := by
  induction pairs with
  | nil => rfl
  | cons pair rest ih =>
    have first := made pair (List.mem_cons_self ..)
    have others := ih fun pair member => made pair (List.mem_cons_of_mem _ member)
    -- The argument is at the location just if its parameter is decided to be there.
    have place : pair.2.isAt location = decide (decidedPlace path pair.1 = some location.label) := by
      rw [Bool.eq_iff_iff, Argument.isAt_iff, first.location, decide_eq_true_eq]
    unfold sentTo at others ⊢
    rw [List.map_cons, List.filter_cons, List.filter_cons, place]
    split
    next => rw [List.map_cons, List.map_cons, others, Argument.field, first.key]
    next => exact others

private theorem entries_at {pairs : List (Parameter × Argument)}
    (made : ∀ pair ∈ pairs, pair.2.IsOf path definitions pair.1) (location : Location) :
    ((pairs.map Prod.snd).filter (·.isAt location)).map Argument.entry =
      (sentTo path location pairs).map fun sent => (sent.1, .argument sent.2) := by
  rw [← fields_at made location, List.map_map]
  rfl

private theorem arguments_of_type {pairs : List (Parameter × Argument)}
    (made : ∀ pair ∈ pairs, pair.2.IsOf path definitions pair.1) (wanted : Bool → Bool) :
    (pairs.map Prod.snd).filter (fun argument => wanted argument.isFile) =
      (pairs.filter fun pair => wanted (isFile definitions pair)).map Prod.snd := by
  rw [List.filter_map]
  congr 1
  refine List.filter_congr fun pair member => ?_
  simp only [Function.comp, Argument.isFile, isFile, (made pair member).type]

private theorem fields_of_type {pairs : List (Parameter × Argument)}
    (made : ∀ pair ∈ pairs, pair.2.IsOf path definitions pair.1) (wanted : Bool → Bool) :
    ((pairs.map Prod.snd).filter fun argument => argument.isAt .form && wanted argument.isFile).map
      Argument.field = sentTo path .form (pairs.filter fun pair => wanted (isFile definitions pair)) := by
  rw [← List.filter_filter, arguments_of_type made]
  exact fields_at (fun pair member => made pair (List.mem_filter.mp member).1) .form

private theorem toList_head? {α : Type} {items : List α} (short : items.length ≤ 1) :
    items.head?.toList = items := by
  match items, short with
  | [], _ => rfl
  | [item], _ => rfl

theorem sendsFields_formOf (fields : List (String × String)) : SendsFields (formOf fields) fields := by
  cases fields with
  | nil => exact ⟨iff_of_true rfl rfl, fun _ absent => nomatch absent⟩
  | cons field rest =>
    have sent : formOf (field :: rest) = some (.group (field :: rest)) := rfl
    rw [sent]
    exact ⟨by simp, fun _ here => (Option.some.inj here).symm⟩

/-- The filled parts of a request serve the parameters that the placed arguments are made from. -/
theorem serves_slotsOf {pairs : List (Parameter × Argument)}
    (made : ∀ pair ∈ pairs, pair.2.IsOf path definitions pair.1)
    (fits : Compatible (placesOf (pairs.map Prod.snd))) (placeholders : List (String × String))
    (url verb : String) :
    Serves path definitions verb pairs ((slotsOf placeholders url (pairs.map Prod.snd)).request verb) where
  verb := rfl
  query := entries_at made .query
  headers := entries_at made .header
  json := by
    have bodies := fits.oneBody
    -- The model keeps the first body and the specification all of them: there is one at most.
    have alone : ((pairs.map Prod.snd).filter (·.isAt .body)).length ≤ 1 := by
      rw [placesOf, List.count, List.countP_map, List.countP_eq_length_filter] at bodies
      refine Nat.le_trans (Nat.le_of_eq ?_) bodies
      congr 1
      refine List.filter_congr fun argument _ => ?_
      rw [Bool.eq_iff_iff, Argument.isAt_iff]
      simp
    have values : ((pairs.map Prod.snd).filter (·.isAt .body)).map (fun argument => .argument argument.name) =
        (sentTo path .body pairs).map fun sent => Value.argument sent.2 := by
      rw [← fields_at made .body, List.map_map]
      rfl
    simp only [Slots.request, slotsOf]
    rw [← List.head?_filter, ← List.head?_map, toList_head? (by simpa using alone), values]
  form := fields_of_type made not ▸ sendsFields_formOf _
  files := fields_of_type made id ▸ sendsFields_formOf _

end Slots

/-! ### The placement of an operation -/

private theorem Offends.kind {earlier : List (Option String)} {place : Option String} {name : String}
    {fault : PlacementFault} (offends : Offends earlier place name fault) (endpoint : Endpoint) :
    (fault.failure endpoint).kind = faultKind place := by
  unfold faultKind
  -- Only a location that is unknown is unsupported; the others are known to be a body or a form.
  cases offends with
  | unknown nowhere =>
    rw [if_neg]
    · rfl
    · intro known
      obtain ⟨location, found⟩ := Option.isSome_iff_exists.mp known
      obtain ⟨label, here, same⟩ := Option.bind_eq_some_iff.mp found
      exact nowhere location (Location.ofLabel?_eq_some_iff.mp same ▸ here)
  | secondBody body _ =>
    subst body
    rfl
  | formBesideBody form _ =>
    subst form
    rfl

private theorem exists_split_map {α β : Type} (f : α → β) (items : List α) (P : List β → β → Prop) :
    (∃ before b after, items.map f = before ++ b :: after ∧ P before b) ↔
      ∃ before a after, items = before ++ a :: after ∧ P (before.map f) (f a) := by
  constructor
  · rintro ⟨_, _, _, split, holds⟩
    obtain ⟨before, rest, rfl, rfl, tail⟩ := List.map_eq_append_iff.mp split
    obtain ⟨a, after, rfl, rfl, rfl⟩ := List.map_eq_cons_iff.mp tail
    exact ⟨before, a, after, rfl, holds⟩
  · rintro ⟨before, a, after, rfl, holds⟩
    exact ⟨before.map f, f a, after.map f, by simp, holds⟩

/-- The first argument at fault stands for the first parameter at fault. -/
theorem isFirstFault_iff {endpoint : Endpoint} {definitions : Definitions}
    {pairs : List (Parameter × Argument)}
    (made : ∀ pair ∈ pairs, pair.2.IsOf endpoint.path definitions pair.1) (fault : PlacementFault) :
    (∃ before argument after, pairs.map Prod.snd = before ++ argument :: after ∧
      Compatible (placesOf before) ∧
      Offends (placesOf before) argument.target.location argument.documented fault) ↔
      IsFirstFault endpoint (pairs.map Prod.fst) fault := by
  unfold IsFirstFault
  rw [exists_split_map Prod.snd pairs fun before argument => Compatible (placesOf before) ∧
      Offends (placesOf before) argument.target.location argument.documented fault,
    exists_split_map Prod.fst pairs fun before parameter =>
      Compatible (before.map (decidedPlace endpoint.path)) ∧
      Offends (before.map (decidedPlace endpoint.path)) (decidedPlace endpoint.path parameter)
        parameter.name fault ∧
      (fault.failure endpoint).kind = faultKind (decidedPlace endpoint.path parameter)]
  -- Both sides split the same pairs, so they are compared for one and the same split.
  refine exists_congr fun before => exists_congr fun pair => exists_congr fun after =>
    and_congr_right fun split => ?_
  subst split
  have places : placesOf (before.map Prod.snd) =
      (before.map Prod.fst).map (decidedPlace endpoint.path) := by
    rw [placesOf, List.map_map, List.map_map]
    exact List.map_congr_left fun other member => (made other (List.mem_append_left _ member)).location
  have isOf := made pair (by simp)
  rw [places, isOf.location, isOf.documented]
  exact and_congr_right fun _ => (and_iff_left_of_imp fun offends => offends.kind endpoint).symm

/-- Placement is exact: there is a request exactly if the locations fit together, it serves every
parameter with an argument of its own, required ones first, and otherwise the first parameter that offends
in that order is at fault. -/
theorem buildRequest_exact (endpoint : Endpoint) (url : String) (operation : Operation)
    (definitions : Definitions)
    (ungrouped : (buildArguments endpoint.path operation definitions).value.grouped = false) :
    let list := (buildArguments endpoint.path operation definitions).value
    let result := buildRequest endpoint url list
    ∃ ordered, RequiredFirst operation.parameters ordered ∧
      ((served ordered list).map Prod.fst = ordered ∧ (served ordered list).map Prod.snd = list.arguments ∧
        (list.arguments.map (·.name)).Nodup ∧
        ∀ pair ∈ served ordered list, pair.2.documented = pair.1.name) ∧
      ((∃ request, result = .ok request) ↔
        Compatible (operation.parameters.map (decidedPlace endpoint.path))) ∧
      (∀ request, result = .ok request →
        Serves endpoint.path definitions endpoint.verb (served ordered list) request.value) ∧
      (∀ fault, result = .error fault ↔ IsFirstFault endpoint ordered fault) := by
  intro list result
  have sent : firstFault? [] list.arguments = none →
      result = .ok ⟨(slotsOf list.placeholders url list.arguments).request endpoint.verb,
        missingNotices endpoint.path list.placeholders list.arguments⟩ := by
    intro found
    have decided := buildRequest_ungrouped endpoint url list ungrouped
    rwa [found] at decided
  have failed : ∀ fault, firstFault? [] list.arguments = some fault → result = .error fault := by
    intro fault found
    have decided := buildRequest_ungrouped endpoint url list ungrouped
    rwa [found] at decided
  have places : placesOf list.arguments =
      (orderParameters operation.parameters).map (decidedPlace endpoint.path) :=
    placesOf_ungrouped ungrouped
  have fits : firstFault? [] list.arguments = none ↔
      Compatible (operation.parameters.map (decidedPlace endpoint.path)) := by
    rw [firstFault?_eq_none_iff compatible_placesOf_nil, List.nil_append, places]
    exact Compatible.perm ((orderParameters_perm operation.parameters).map _)
  refine ⟨_, orderParameters_requiredFirst operation.parameters,
    ⟨served_parameters ungrouped, served_arguments ungrouped, argumentNames_nodup .., ?_⟩, ?_, ?_, ?_⟩
  · exact fun pair member => (isOf_of_mem_served ungrouped member).documented
  · rw [← fits]
    cases found : firstFault? [] list.arguments with
    | none => exact iff_of_true ⟨_, sent found⟩ rfl
    | some fault => simp [failed fault found]
  · intro request success
    cases found : firstFault? [] list.arguments with
    | some fault => simp [failed fault found] at success
    | none =>
      rw [sent found] at success
      cases success
      have compatible : Compatible (placesOf ((served (orderParameters operation.parameters) list).map Prod.snd)) := by
        rw [served_arguments ungrouped]
        exact (firstFault?_eq_none_iff compatible_placesOf_nil _).mp found
      have serves := serves_slotsOf (fun pair member => isOf_of_mem_served ungrouped member) compatible
        list.placeholders url endpoint.verb
      rwa [served_arguments ungrouped] at serves
  · intro fault
    have first : result = .error fault ↔ firstFault? [] list.arguments = some fault := by
      cases found : firstFault? [] list.arguments with
      | none => simp [sent found]
      | some other => simp [failed other found]
    rw [first, firstFault?_eq_some_iff compatible_placesOf_nil]
    simp only [List.nil_append]
    rw [← served_parameters ungrouped, ← served_arguments ungrouped]
    exact isFirstFault_iff (fun pair member => isOf_of_mem_served ungrouped member) fault

/-- A body beside a query parameter is placed. -/
theorem buildRequest_body_beside_query :
    let operation : Operation := { parameters := [
      { name := "filter", place := some "query" }, { name := "item", place := some "body", required := true }] }
    (buildArguments "/v1/items" operation []).value.grouped = false ∧
      ∃ request, buildRequest ⟨"items", "post", "/v1/items"⟩ "https://host/v1/items"
        (buildArguments "/v1/items" operation []).value = .ok request := by
  intro operation
  have ungrouped : (buildArguments "/v1/items" operation []).value.grouped = false := by
    rw [buildArguments_value]
    rfl
  have scanned : Path.scan "/v1/items".toList = [] := by
    rw [Path.scan_open (by decide)]
  have fits : Compatible (operation.parameters.map (decidedPlace "/v1/items")) := by
    simp only [operation, List.map_cons, List.map_nil, decidedPlace, scanned, List.any_nil]
    refine ⟨?_, by decide, by decide⟩
    intro place member
    rcases List.mem_cons.mp member with rfl | member
    · exact ⟨.query, rfl⟩
    · exact ⟨.body, List.mem_singleton.mp member⟩
  obtain ⟨_, -, -, placed, -⟩ :=
    buildRequest_exact ⟨"items", "post", "/v1/items"⟩ "https://host/v1/items" operation [] ungrouped
  exact ⟨ungrouped, placed.mpr fits⟩

end Bindery
