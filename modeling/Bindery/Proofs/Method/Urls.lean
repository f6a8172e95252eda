import Bindery.Method.Compile
import Bindery.Proofs.Method.Arguments
import Bindery.Proofs.Method.Interpolation
import Mathlib.Data.List.Flatten

/-!
# The URL of a method

A method's URL is the template of its operation with values in the place of placeholders. It spells
the template again if every value is read as the placeholder of its target.
-/
namespace Bindery

open Bindery.Schema (Definitions Node Operation Parameter)

/-- The names of the arguments that a value carries. -/
def Value.names : Value → List String
  | .argument name => [name]
  | .group fields => fields.map Prod.snd

def namedTarget? (arguments : List Argument) (name : String) : Option Target :=
  (arguments.find? fun argument => decide (argument.name = name)).map (·.target)

/-- The target that the arguments of a value have in common. -/
def Value.target? (arguments : List Argument) (value : Value) : Option Target :=
  value.names.head?.bind (namedTarget? arguments)

def placeholderOf? (path : String) (arguments : List Argument) (value : Value) : Option (List Char) :=
  (value.target? arguments).bind fun target =>
    ((Path.placeholders path).lookup target.name).map String.toList

/-- The object that carries all arguments. -/
def groupValue (arguments : List Argument) : Value :=
  .group (arguments.map fun argument => (argument.documented, argument.name))

/-- The arguments that speak for the parameters: all of them, or the first of those that are sent
together. -/
def ArgumentList.senders (list : ArgumentList) : List Argument :=
  if list.grouped then list.arguments.take 1 else list.arguments

def ArgumentList.valueOf (list : ArgumentList) (argument : Argument) : Value :=
  if list.grouped then groupValue list.arguments else .argument argument.name

/-- What the arguments of an operation put into its URL. -/
def ArgumentList.bindings (list : ArgumentList) : List UrlBinding :=
  (list.senders.filter (·.isAt .path)).filterMap fun argument =>
    (list.placeholders.lookup argument.target.name).map fun text => (text, list.valueOf argument)

/-! ### Requests -/

private theorem groupedRequest_path {endpoint : Endpoint} {url : String}
    {placeholders : List (String × String)} {first : Argument} {group : Value} {request : Noted Request}
    (built : groupedRequest endpoint url placeholders first.target group = .ok request) :
    request.value.url = bindAll [.text url] (([first].filter (·.isAt .path)).filterMap fun argument =>
        (placeholders.lookup argument.target.name).map fun text => (text, group)) ∧
      request.notices = missingNotices endpoint.path placeholders [first] := by
  have isAt : first.isAt .path = decide (first.location? = some .path) := rfl
  simp only [missingNotices, List.filter_cons, isAt]
  unfold groupedRequest at built
  rw [show first.target.location.bind Location.ofLabel? = first.location? from rfl] at built
  cases here : first.location? with
  | none => simp [here] at built
  | some location =>
    -- Only the path puts the group into the URL, or a notice among the notices.
    cases location with
    | path =>
      simp only [here, Except.ok.injEq] at built
      subst built
      cases text : placeholders.lookup first.target.name <;>
        simp [placeInPath, text, Slots.request, bindAll, pure]
    | query | header | body | form =>
      simp only [here, Except.ok.injEq] at built
      subst built
      simp [bindAll, Slots.request, pure]

/-- The URL of a request, and the notices about parameters that are not in it. -/
theorem buildRequest_path {endpoint : Endpoint} {url : String} {list : ArgumentList}
    (something : list.grouped = true → list.arguments ≠ []) {request : Noted Request}
    (built : buildRequest endpoint url list = .ok request) :
    request.value.url = bindAll [.text url] list.bindings ∧
      request.notices = missingNotices endpoint.path list.placeholders list.senders := by
  unfold ArgumentList.bindings ArgumentList.senders ArgumentList.valueOf
  cases grouped : list.grouped with
  | false =>
    rw [buildRequest_ungrouped endpoint url list grouped] at built
    cases found : firstFault? [] list.arguments with
    | some fault => simp [found] at built
    | none =>
      simp only [found, Except.ok.injEq] at built
      subst built
      exact ⟨rfl, rfl⟩
  | true =>
    cases arguments : list.arguments with
    | nil => exact absurd arguments (something grouped)
    | cons first rest =>
      simp only [buildRequest, grouped, arguments] at built
      exact groupedRequest_path built

/-! ### Arguments -/

section Arguments

variable {path : String} {operation : Operation} {definitions : Definitions}

/-- Arguments that are sent together are properties of the only parameter, and share its target. -/
theorem grouped_arguments (grouped : (buildArguments path operation definitions).value.grouped = true) :
    ∃ parameter, operation.parameters = [parameter] ∧
      (buildArguments path operation definitions).value.arguments ≠ [] ∧
      ∀ argument ∈ (buildArguments path operation definitions).value.arguments,
        argument.target = targetOf (Path.placeholders path) parameter := by
  rw [buildArguments_value] at grouped ⊢
  cases separated : separated? definitions operation.parameters with
  | none => simp [separated] at grouped
  | some found =>
    obtain ⟨parameter, properties⟩ := found
    obtain ⟨alone, something⟩ := separated?_eq_some separated
    refine ⟨parameter, alone, ?_, ?_⟩
    · simp only [propertyArguments_value]
      -- There are as many arguments as properties.
      intro nothing
      have length := congrArg List.length nothing
      rw [List.length_zipWith, length_freshNames] at length
      exact something (List.length_eq_zero_iff.mp (by simpa [propertyNames] using length))
    · intro argument member
      simp only [propertyArguments_value] at member
      -- The target is that of the parameter for every property.
      obtain ⟨i, bound, here⟩ := List.mem_iff_getElem.mp member
      rw [List.getElem_zipWith] at here
      exact here ▸ rfl

theorem buildArguments_placeholders :
    (buildArguments path operation definitions).value.placeholders = Path.placeholders path := by
  rw [buildArguments_value]
  split <;> rfl

theorem namedTarget?_of_mem {argument : Argument}
    (member : argument ∈ (buildArguments path operation definitions).value.arguments) :
    namedTarget? (buildArguments path operation definitions).value.arguments argument.name =
      some argument.target := by
  rw [namedTarget?, find?_argument member (argumentNames_nodup ..), Option.map_some]

end Arguments

/-- A value bound to the text of its target. -/
structure Binds (path : String) (arguments : List Argument) (target : Target) (binding : UrlBinding) :
    Prop where
  text : (Path.placeholders path).lookup target.name = some binding.1
  something : binding.2.names ≠ []
  owned : ∀ name ∈ binding.2.names, namedTarget? arguments name = some target

theorem Binds.target {path : String} {arguments : List Argument} {target : Target} {binding : UrlBinding}
    (binds : Binds path arguments target binding) : binding.2.target? arguments = some target := by
  obtain ⟨name, rest, names⟩ := List.exists_cons_of_ne_nil binds.something
  have owned := binds.owned name (by simp [names])
  rw [Value.target?, names, List.head?_cons, Option.bind_some, owned]

theorem Binds.spells {path : String} {arguments : List Argument} {target : Target} {binding : UrlBinding}
    (binds : Binds path arguments target binding) :
    placeholderOf? path arguments binding.2 = some binding.1.toList := by
  rw [placeholderOf?, binds.target, Option.bind_some, binds.text, Option.map_some]

theorem groupValue_names (arguments : List Argument) :
    (groupValue arguments).names = arguments.map (·.name) := by
  simp [groupValue, Value.names]

section Operation

variable (path : String) (operation : Operation) (definitions : Definitions)

/-- An argument that speaks for a parameter is sent with a value for all arguments of its target. -/
theorem binds_of_sender {argument : Argument}
    (member : argument ∈ (buildArguments path operation definitions).value.senders) {text : String}
    (found : (Path.placeholders path).lookup argument.target.name = some text) :
    Binds path (buildArguments path operation definitions).value.arguments argument.target
      (text, (buildArguments path operation definitions).value.valueOf argument) := by
  unfold ArgumentList.senders at member
  unfold ArgumentList.valueOf
  -- The value is the argument itself, or the group of all arguments, which share its target.
  cases grouped : (buildArguments path operation definitions).value.grouped with
  | false =>
    simp only [grouped, Bool.false_eq_true, if_false] at member ⊢
    refine ⟨found, by simp [Value.names], fun name among => ?_⟩
    rw [List.mem_singleton.mp among]
    exact namedTarget?_of_mem member
  | true =>
    simp only [grouped, if_true] at member ⊢
    obtain ⟨parameter, -, something, targets⟩ := grouped_arguments grouped
    have among := List.mem_of_mem_take member
    refine ⟨found, by simpa [groupValue_names] using something, fun name carried => ?_⟩
    rw [groupValue_names] at carried
    obtain ⟨other, here, rfl⟩ := List.mem_map.mp carried
    rw [namedTarget?_of_mem here, targets other here, targets argument among]

/-- Every value is bound to the text of the target that its arguments have. -/
theorem exists_binds {binding : UrlBinding}
    (member : binding ∈ (buildArguments path operation definitions).value.bindings) :
    ∃ target, target.location = some Location.path.label ∧
      Binds path (buildArguments path operation definitions).value.arguments target binding := by
  obtain ⟨argument, among, here⟩ := List.mem_filterMap.mp member
  rw [buildArguments_placeholders] at here
  obtain ⟨text, found, rfl⟩ := Option.map_eq_some_iff.mp here
  obtain ⟨sender, inPath⟩ := List.mem_filter.mp among
  exact ⟨argument.target, Argument.isAt_iff.mp inPath, binds_of_sender path operation definitions sender found⟩

private theorem carried_sublist (placeholders : List (String × String)) (valueOf : Argument → Value)
    (senders : List Argument) :
    ((((senders.filter (·.isAt .path)).filterMap fun argument =>
      (placeholders.lookup argument.target.name).map fun text => (text, valueOf argument)).map
        Prod.snd).flatMap Value.names).Sublist (senders.flatMap fun argument => (valueOf argument).names) := by
  induction senders with
  | nil => exact List.Sublist.refl _
  | cons argument rest ih =>
    rw [List.filter_cons, List.flatMap_cons]
    -- Only what is sent in the path and has a placeholder is carried; the rest is left out.
    split
    next =>
      rw [List.filterMap_cons]
      cases placeholders.lookup argument.target.name with
      | none => exact ih.trans (List.sublist_append_right ..)
      | some text =>
        simp only [Option.map_some, List.map_cons, List.flatMap_cons]
        exact ih.append_left _
    next => exact ih.trans (List.sublist_append_right ..)

/-- No argument is carried by two of the values. -/
theorem bindings_nodup :
    (((buildArguments path operation definitions).value.bindings.map Prod.snd).flatMap Value.names).Nodup := by
  refine List.Nodup.sublist ((carried_sublist _ _ _).trans ?_) (argumentNames_nodup path operation definitions)
  -- Every argument speaks for itself, or the first one for all.
  unfold ArgumentList.senders ArgumentList.valueOf
  cases (buildArguments path operation definitions).value.grouped with
  | false => simp [Value.names, ← List.map_eq_flatMap]
  | true =>
    cases (buildArguments path operation definitions).value.arguments with
    | nil => exact List.Sublist.refl _
    | cons first rest => simp [groupValue_names]

end Operation

/-! ### Methods -/

theorem compileOperation_eq_ok {name verb base path : String} {operation : Operation}
    {definitions : Definitions} {method : Noted Method}
    (compiled : compileOperation name verb base path operation definitions = .ok method) :
    ∃ request, buildRequest ⟨name, verb, path⟩ (base ++ path)
        (buildArguments path operation definitions).value = .ok request ∧
      method.value.name = name ∧ method.value.request = request.value ∧
      method.value.arguments = (buildArguments path operation definitions).value.arguments ∧
      method.notices = (buildArguments path operation definitions).notices ++ request.notices := by
  simp only [compileOperation] at compiled
  split at compiled
  · cases compiled
  next request built =>
    cases compiled
    exact ⟨request, built, rfl, rfl, rfl, rfl⟩

/-- The URL of a method, and the notices about parameters that are not in it. -/
theorem compileOperation_path {name verb base path : String} {operation : Operation}
    {definitions : Definitions} {method : Noted Method}
    (compiled : compileOperation name verb base path operation definitions = .ok method) :
    method.value.request.url =
        bindAll [.text (base ++ path)] (buildArguments path operation definitions).value.bindings ∧
      missingNotices path (Path.placeholders path)
        (buildArguments path operation definitions).value.senders ⊆ method.notices := by
  obtain ⟨request, built, -, same, -, notices⟩ := compileOperation_eq_ok compiled
  have something : (buildArguments path operation definitions).value.grouped = true →
      (buildArguments path operation definitions).value.arguments ≠ [] := fun grouped =>
    (grouped_arguments grouped).elim fun _ facts => facts.2.1
  obtain ⟨url, missing⟩ := buildRequest_path something built
  rw [buildArguments_placeholders] at missing
  rw [same, notices, ← missing]
  exact ⟨url, List.subset_append_right ..⟩

/-- Interpolation loses nothing: with each value read as the placeholder of its target, the URL of a
method spells the template of its operation. Literals are apart and not empty, and no argument is
carried twice. -/
theorem compileOperation_url_spelled {name verb base path : String} {operation : Operation}
    {definitions : Definitions} {method : Noted Method}
    (compiled : compileOperation name verb base path operation definitions = .ok method) :
    spelled? (placeholderOf? path method.value.arguments) method.value.request.url =
        some (base ++ path).toList ∧
      (∀ value ∈ urlValues method.value.request.url, value.names ≠ [] ∧ ∀ argument ∈ value.names,
        namedTarget? method.value.arguments argument = value.target? method.value.arguments) ∧
      method.value.request.url.IsChain UrlPart.Apart ∧
      (UrlPart.text "" ∈ method.value.request.url → base ++ path = "") ∧
      ((urlValues method.value.request.url).flatMap Value.names).Nodup := by
  obtain ⟨request, built, -, -, arguments, -⟩ := compileOperation_eq_ok compiled
  obtain ⟨url, -⟩ := compileOperation_path compiled
  rw [arguments, url]
  have spells : SpellsAll
      (placeholderOf? path (buildArguments path operation definitions).value.arguments)
      (buildArguments path operation definitions).value.bindings := fun binding member =>
    (exists_binds path operation definitions member).elim fun _ binds => binds.2.spells
  have values := urlValues_bindAll_text (buildArguments path operation definitions).value.bindings
    (base ++ path)
  refine ⟨?_, ?_, ?_, ?_, ?_⟩
  · rw [spelled?_bindAll spells]
    simp [spelled?]
  · intro value member
    obtain ⟨binding, bound, rfl⟩ := List.mem_map.mp (values.subset member)
    obtain ⟨target, -, binds⟩ := exists_binds path operation definitions bound
    exact ⟨binds.something, fun name carried => (binds.owned name carried).trans binds.target.symm⟩
  · exact apart_bindAll _ (.singleton _)
  · intro member
    -- An empty literal can only be the one that was there from the start.
    by_cases empty : base ++ path = ""
    · exact empty
    · exact absurd member (filled_bindAll _ (by simpa using Ne.symm empty))
  · obtain ⟨others, same, among⟩ := values
    exact (same.flatMap_right Value.names).nodup_iff.mp
      ((bindings_nodup path operation definitions).sublist (among.flatMap Value.names))

/-- The URL of a method with a path parameter spells its template. -/
theorem item_url_spelled :
    ∃ method, compileOperation "GetItem" "get" "https://host" "/items/\x7bid\x7d"
        { parameters := [{ name := "id", place := some "path", required := true }] } [] = .ok method ∧
      spelled? (placeholderOf? "/items/\x7bid\x7d" method.value.arguments) method.value.request.url =
        some "https://host/items/\x7bid\x7d".toList := by
  have succeeds : (compileOperation "GetItem" "get" "https://host" "/items/\x7bid\x7d"
      { parameters := [{ name := "id", place := some "path", required := true }] } []).toOption.map
        (fun method => method.value.request.verb) = some "get" := by decide +kernel
  cases compiled : compileOperation "GetItem" "get" "https://host" "/items/\x7bid\x7d"
      { parameters := [{ name := "id", place := some "path", required := true }] } [] with
  | error failure =>
    rw [compiled] at succeeds
    cases succeeds
  | ok method => exact ⟨method, rfl, (compileOperation_url_spelled compiled).1⟩

end Bindery
