import Bindery.Method.Compile
import Bindery.Proofs.Method.Execution
import Bindery.Proofs.Name.Identifiers
import Bindery.Proofs.Schema.Readings

/-!
# The methods of a document

Every method of a document comes from one of its operations. The names of a method, and of the values
in its request, are apart from one another and from the keywords of the target language.
-/
namespace Bindery

open Bindery.Data (Datum)
open Bindery.Schema (Checked Definitions Metadata Operation ParsedDocument isVerb)
open Bindery.Source (Fault Host Object)

/-! ### Requests -/

/-- Do values take nothing but the names of some arguments? -/
def NamedBy (arguments : List Argument) (values : List Value) : Prop :=
  ∀ value ∈ values, ∀ name ∈ value.names, name ∈ arguments.map (·.name)

theorem NamedBy.append {arguments : List Argument} {first second : List Value}
    (left : NamedBy arguments first) (right : NamedBy arguments second) :
    NamedBy arguments (first ++ second) := by
  intro value member
  rcases List.mem_append.mp member with here | there
  · exact left value here
  · exact right value there

theorem namedBy_argument {arguments : List Argument} {argument : Argument} (member : argument ∈ arguments) :
    NamedBy arguments [.argument argument.name] := by
  intro value among name carried
  rw [List.mem_singleton.mp among, Value.names, List.mem_singleton] at carried
  exact carried ▸ List.mem_map_of_mem member

theorem namedBy_formOf {arguments chosen : List Argument} (within : chosen ⊆ arguments) :
    NamedBy arguments (formOf (chosen.map Argument.field)).toList := by
  unfold formOf
  split
  · simp [NamedBy]
  · intro value member name carried
    obtain rfl : value = .group (chosen.map Argument.field) := by simpa using member
    obtain ⟨field, among, rfl⟩ := List.mem_map.mp carried
    obtain ⟨argument, here, rfl⟩ := List.mem_map.mp among
    exact List.mem_map_of_mem (within here)

theorem namedBy_entries {arguments chosen : List Argument} (within : chosen ⊆ arguments) :
    NamedBy arguments ((chosen.map Argument.entry).map Prod.snd) := by
  intro value member
  obtain ⟨entry, among, rfl⟩ := List.mem_map.mp member
  obtain ⟨argument, here, rfl⟩ := List.mem_map.mp among
  exact namedBy_argument (within here) _ (List.mem_singleton_self _)

/-- A URL has values only for its bindings. -/
theorem namedBy_bindAll {arguments : List Argument} {bindings : List UrlBinding} (url : String)
    (named : NamedBy arguments (bindings.map Prod.snd)) :
    NamedBy arguments (urlValues (bindAll [.text url] bindings)) := by
  intro value member
  exact named value ((urlValues_bindAll_text bindings url).subset member)

theorem namedBy_slotsOf (placeholders : List (String × String)) (url verb : String)
    (arguments : List Argument) :
    NamedBy arguments ((slotsOf placeholders url arguments).request verb).values := by
  have bindings : NamedBy arguments ((urlBindings placeholders arguments).map Prod.snd) := by
    intro value member
    obtain ⟨binding, among, rfl⟩ := List.mem_map.mp member
    obtain ⟨argument, here, bound⟩ := List.mem_filterMap.mp among
    obtain ⟨text, -, rfl⟩ := Option.map_eq_some_iff.mp bound
    exact namedBy_argument (List.mem_of_mem_filter here) _ (List.mem_singleton_self _)
  have body : NamedBy arguments (slotsOf placeholders url arguments).body.toList := by
    intro value member
    obtain ⟨argument, found, rfl⟩ := Option.map_eq_some_iff.mp (Option.mem_toList.mp member)
    exact namedBy_argument (List.mem_of_find?_eq_some found) _ (List.mem_singleton_self _)
  -- All other parts are filters of the arguments.
  have among : ∀ keep : Argument → Bool, arguments.filter keep ⊆ arguments :=
    fun keep _ member => List.mem_of_mem_filter member
  exact (((((namedBy_bindAll url bindings).append (namedBy_entries (among _))).append
    (namedBy_entries (among _))).append body).append (namedBy_formOf (among _))).append
      (namedBy_formOf (among _))

theorem namedBy_groupedRequest {endpoint : Endpoint} {url : String} {placeholders : List (String × String)}
    {target : Target} {arguments : List Argument} {request : Noted Request}
    (built : groupedRequest endpoint url placeholders target (groupValue arguments) = .ok request) :
    NamedBy arguments request.value.values := by
  have group : NamedBy arguments [groupValue arguments] := by
    intro value member
    rw [List.mem_singleton.mp member, groupValue_names]
    exact fun _ carried => carried
  have none : NamedBy arguments [] := fun _ member => (List.not_mem_nil member).elim
  unfold groupedRequest at built
  split at built <;> cases built
  -- In the path the group is there if it finds a placeholder; elsewhere it is the only value.
  · unfold placeInPath
    cases placeholders.lookup target.name with
    | none => exact none
    | some text =>
      have inUrl := @namedBy_bindAll arguments [(text, groupValue arguments)] url group
      simpa [Request.values, Slots.request, formOf, bindAll] using inUrl
  all_goals exact group

theorem namedBy_buildRequest {endpoint : Endpoint} {url : String} {list : ArgumentList}
    {request : Noted Request} (built : buildRequest endpoint url list = .ok request) :
    NamedBy list.arguments request.value.values := by
  unfold buildRequest at built
  split at built
  next first rest _ arguments =>
    rw [arguments]
    exact namedBy_groupedRequest built
  next =>
    -- Placement starts with no argument, which is an empty list of placed ones.
    have placed := placeAll_slotsOf endpoint.path list.placeholders url [] list.arguments
    change placeAll endpoint.path list.placeholders { url := [.text url] } list.arguments = _ at placed
    rw [placed] at built
    cases fault : firstFault? [] list.arguments <;> simp only [fault] at built <;> cases built
    exact namedBy_slotsOf list.placeholders url endpoint.verb list.arguments

/-! ### Names -/

theorem member_not_keyword (name : String) : Name.member name ∉ Name.keywords :=
  avoidKeyword_not_keyword _

theorem methodName_not_keyword (base : String) {verb : String} (known : isVerb verb = true)
    (several : Bool) : methodName base verb several ∉ Name.keywords := by
  have titled : Text.title verb ∉ Name.keywords := verbTitles_not_keyword _ (title_mem known)
  have derived := member_not_keyword ((if several then Text.title verb else "") ++ base)
  simp only [methodName]
  -- Only that both names are no keywords matters from here on, not how they are made.
  generalize Name.member _ = name at derived ⊢
  generalize Text.title verb = title at titled ⊢
  split
  · exact titled
  · exact derived

/-- A name that is left of what is derived for a method is its name. -/
theorem methodName_eq {base verb name : String} {several : Bool}
    (derived : Name.member ((if several then Text.title verb else "") ++ base) = name) (something : name ≠ "") :
    methodName base verb several = name := by
  simp only [methodName]
  rw [derived, if_neg (by simpa using something)]

/-- The name of a method is an identifier. -/
theorem methodName_isPlain (base : String) {verb : String} (known : isVerb verb = true) (several : Bool) :
    IsPlain (methodName base verb several) := by
  have titled := verbTitles_isPlain _ (title_mem known)
  have derived := @member_isPlain ((if several then Text.title verb else "") ++ base)
  simp only [methodName]
  generalize Name.member _ = name at derived ⊢
  generalize Text.title verb = title at titled ⊢
  split
  · exact titled
  next something => exact derived (by simpa using something)

/-- The names of arguments are identifiers. -/
theorem argumentNames_isPlain {path : String} {operation : Operation} {definitions : Definitions}
    {argument : Argument} (member : argument ∈ (buildArguments path operation definitions).value.arguments) :
    IsPlain argument.name := by
  obtain ⟨taken, documented, same⟩ := argumentName_eq member
  exact same ▸ freshName_isPlain taken (argument_isPlain documented)

theorem compileOperation_isScoped {name verb base path : String} {operation : Operation}
    {definitions : Definitions} (free : name ∉ Name.keywords) {method : Noted Method}
    (compiled : compileOperation name verb base path operation definitions = .ok method) :
    method.value.IsScoped := by
  obtain ⟨request, built, named, sent, arguments, -⟩ := compileOperation_eq_ok compiled
  -- Arguments are apart from what a method binds because each is a fresh name.
  have apart : ∀ argument ∈ method.value.argumentNames,
      argument ∉ boundNames ∧ argument ∉ Name.keywords := by
    intro name member
    obtain ⟨argument, among, rfl⟩ := List.mem_map.mp member
    exact argumentNames_apart (arguments ▸ among)
  refine ⟨?_, fun name member => (apart name member).1, ?_, ?_⟩
  · unfold Method.argumentNames
    rw [arguments]
    exact argumentNames_nodup ..
  · intro other member
    rcases List.mem_cons.mp member with rfl | member
    · exact named ▸ free
    · exact (apart other member).2
  · unfold Method.argumentNames
    rw [arguments, sent]
    exact namedBy_buildRequest built

/-! ### Documents -/

def verbsOf (item : List (String × Datum)) : List String := (item.map Prod.fst).filter isVerb

theorem readOperations_keys {item : List (String × Datum)} {operations : List (String × Operation)}
    (read : Schema.readOperations item = .valid operations) : operations.map Prod.fst = verbsOf item := by
  induction item generalizing operations with
  | nil =>
    cases read
    rfl
  | cons member rest ih =>
    obtain ⟨key, value⟩ := member
    unfold Schema.readOperations at read
    -- Only verbs are read, and all other keys of a path item are passed over.
    split at read
    next known =>
      obtain ⟨operation, -, continued⟩ := andThen_eq_valid read
      obtain ⟨others, later, rfl⟩ := map_eq_valid continued
      simp [verbsOf, known, ih later]
    next unknown =>
      rw [ih read]
      simp [verbsOf, unknown]

/-- The paths of a document are read one by one. -/
theorem readPaths_eq_valid {paths : List (String × List (String × Datum))}
    {operations : List (String × List (String × Operation))} (read : Schema.readPaths paths = .valid operations) :
    List.Forall₂ (fun path entry => entry.1 = path.1 ∧ Schema.readOperations path.2 = .valid entry.2)
      paths operations := by
  induction paths generalizing operations with
  | nil =>
    cases read
    exact .nil
  | cons path rest ih =>
    obtain ⟨path, item⟩ := path
    unfold Schema.readPaths at read
    obtain ⟨first, here, continued⟩ := andThen_eq_valid read
    obtain ⟨others, later, rfl⟩ := map_eq_valid continued
    exact .cons ⟨rfl, here⟩ (ih later)

theorem parseDocument_eq_valid {value : Datum} {document : ParsedDocument}
    (parsed : Schema.parseDocument value = .valid document) :
    ∃ raw, Schema.readDocument value = .valid raw ∧ Schema.readPaths raw.paths = .valid document.operations ∧
      raw.definitions = document.definitions := by
  obtain ⟨raw, read, continued⟩ := andThen_eq_valid parsed
  obtain ⟨operations, found, rfl⟩ := map_eq_valid continued
  exact ⟨raw, read, found, rfl⟩

/-- Only verbs are read as operations of a document. -/
theorem parseDocument_verbs {value : Datum} {document : ParsedDocument}
    (parsed : Schema.parseDocument value = .valid document) :
    ∀ path ∈ document.operations, ∀ entry ∈ path.2, isVerb entry.1 = true := by
  obtain ⟨raw, -, found, -⟩ := parseDocument_eq_valid parsed
  intro path member entry among
  obtain ⟨i, bound, rfl⟩ := List.mem_iff_getElem.mp member
  -- The operations of a path are read from its item, whose keys were filtered by the verbs.
  have paths := readPaths_eq_valid found
  have keys := readOperations_keys (paths.get (paths.length_eq ▸ bound) bound).2
  have key := List.mem_map_of_mem (f := Prod.fst) among
  rw [List.get_eq_getElem] at keys
  rw [keys] at key
  exact (List.mem_filter.mp key).2

/-- What a method is compiled from: a verb of a path, under a name. -/
def CompiledFrom (base baseUrl path : String) (definitions : Definitions) (several : Bool)
    (entry : String × Operation) (method : Method) : Prop :=
  ∃ compiled, compileOperation (methodName base entry.1 several) entry.1 baseUrl path entry.2 definitions =
    .ok compiled ∧ compiled.value = method

/-- The verbs of a path become its methods one by one. -/
theorem compileVerbs_eq_ok {base baseUrl path : String} {definitions : Definitions} {several : Bool}
    {operations : List (String × Operation)} {methods : Noted (List Method)}
    (compiled : compileVerbs base baseUrl path definitions several operations = .ok methods) :
    List.Forall₂ (CompiledFrom base baseUrl path definitions several) operations methods.value := by
  induction operations generalizing methods with
  | nil =>
    cases compiled
    exact .nil
  | cons entry rest ih =>
    obtain ⟨verb, operation⟩ := entry
    unfold compileVerbs at compiled
    split at compiled
    · cases compiled
    next first here =>
      split at compiled
      · cases compiled
      next others later =>
        cases compiled
        exact .cons ⟨first, here, rfl⟩ (ih later)

def PathCompiledTo (metadata : Metadata) (definitions : Definitions)
    (entry : String × List (String × Operation)) (methods : List Method) : Prop :=
  List.Forall₂ (CompiledFrom (Name.method metadata.identifier entry.1) metadata.url entry.1 definitions
    (1 < entry.2.length)) entry.2 methods

/-- The paths of a document give its methods one after another. -/
theorem compilePaths_endpoints {metadata : Metadata} {definitions : Definitions}
    {operations : List (String × List (String × Operation))} {methods : Noted (List Method)}
    (compiled : compilePaths metadata definitions operations = .ok methods) :
    ∃ groups : List (Noted (List Method)), methods.value = (groups.map (·.value)).flatten ∧
      List.Forall₂ (fun entry group =>
        compileEndpoint metadata.identifier metadata.url entry.1 entry.2 definitions = .ok group)
        operations groups := by
  induction operations generalizing methods with
  | nil =>
    cases compiled
    exact ⟨[], rfl, .nil⟩
  | cons entry rest ih =>
    obtain ⟨path, operations⟩ := entry
    unfold compilePaths at compiled
    split at compiled
    · cases compiled
    next first here =>
      split at compiled
      · cases compiled
      next others later =>
        cases compiled
        -- Each path adds its methods as a group in front of those of the rest.
        obtain ⟨groups, same, made⟩ := ih later
        refine ⟨first :: groups, ?_, .cons here made⟩
        rw [same, List.map_cons, List.flatten_cons]

theorem compilePaths_eq_ok {metadata : Metadata} {definitions : Definitions}
    {operations : List (String × List (String × Operation))} {methods : Noted (List Method)}
    (compiled : compilePaths metadata definitions operations = .ok methods) :
    ∃ groups, methods.value = groups.flatten ∧
      List.Forall₂ (PathCompiledTo metadata definitions) operations groups := by
  obtain ⟨groups, same, made⟩ := compilePaths_endpoints compiled
  refine ⟨groups.map (·.value), same, List.forall₂_map_right_iff.mpr ?_⟩
  exact made.imp fun entry group compiled => compileVerbs_eq_ok compiled

/-- Every method of a document is compiled from an operation of one of its paths. -/
theorem compileDocument_mem {metadata : Metadata} {document : ParsedDocument}
    {methods : Noted (List Method)} (compiled : compileDocument metadata document = .ok methods)
    {method : Method} (member : method ∈ methods.value) :
    ∃ entry ∈ document.operations, ∃ operation ∈ entry.2,
      CompiledFrom (Name.method metadata.identifier entry.1) metadata.url entry.1 document.definitions
        (1 < entry.2.length) operation method := by
  obtain ⟨groups, same, made⟩ := compilePaths_eq_ok compiled
  obtain ⟨group, among, inside⟩ := List.mem_flatten.mp (same ▸ member)
  -- A method stands at some position of some group, and so does its operation.
  obtain ⟨i, bound, rfl⟩ := List.mem_iff_getElem.mp among
  obtain ⟨j, here, rfl⟩ := List.mem_iff_getElem.mp inside
  have path := made.get (made.length_eq ▸ bound) bound
  have operation := path.get (path.length_eq ▸ here) here
  exact ⟨_, List.getElem_mem _, _, List.getElem_mem _, operation⟩

theorem compileDocument_isScoped {value : Datum} {document : ParsedDocument}
    (parsed : Schema.parseDocument value = .valid document) {metadata : Metadata}
    {methods : Noted (List Method)} (compiled : compileDocument metadata document = .ok methods)
    {method : Method} (member : method ∈ methods.value) : method.IsScoped := by
  obtain ⟨entry, among, operation, inside, noted, made, rfl⟩ := compileDocument_mem compiled member
  have known := parseDocument_verbs parsed entry among operation inside
  exact compileOperation_isScoped (methodName_not_keyword _ known _) made

/-- All names of a method are identifiers. -/
theorem compileDocument_isPlain {value : Datum} {document : ParsedDocument}
    (parsed : Schema.parseDocument value = .valid document) {metadata : Metadata}
    {methods : Noted (List Method)} (compiled : compileDocument metadata document = .ok methods)
    {method : Method} (member : method ∈ methods.value) :
    ∀ name ∈ method.name :: method.argumentNames, IsPlain name := by
  obtain ⟨entry, among, operation, inside, noted, made, rfl⟩ := compileDocument_mem compiled member
  obtain ⟨request, -, named, -, arguments, -⟩ := compileOperation_eq_ok made
  rw [List.forall_mem_cons, named]
  refine ⟨methodName_isPlain _ (parseDocument_verbs parsed entry among operation inside) _, fun name here => ?_⟩
  obtain ⟨argument, own, rfl⟩ := List.mem_map.mp here
  exact argumentNames_isPlain (arguments ▸ own)

theorem ok_of_isSome {ε α : Type} {result : Except ε α} (some : result.toOption.isSome = true) :
    ∃ value, result = .ok value := by
  cases result with
  | error fault => cases some
  | ok value => exact ⟨value, rfl⟩

theorem ok_of_toOption {ε α : Type} {result : Except ε α} {value : α} (known : result.toOption = some value) :
    result = .ok value := by
  cases result with
  | error fault => cases known
  | ok found => exact congrArg Except.ok (Option.some.inj known)

/-- A result whose image is known is there. -/
theorem ok_of_map_eq_some {ε α β : Type} {result : Except ε α} {f : α → β} {image : β}
    (known : result.toOption.map f = some image) : ∃ value, result = .ok value ∧ f value = image := by
  cases result with
  | error fault => cases known
  | ok value => exact ⟨value, rfl, Option.some.inj known⟩

/-- A path with one operation gives one method. -/
theorem compilePaths_cons_single {metadata : Metadata} {path verb : String} {operation : Operation}
    {definitions : Definitions} {operations : List (String × List (String × Operation))}
    {method : Noted Method} {methods : Noted (List Method)}
    (compiled : compileOperation (methodName (Name.method metadata.identifier path) verb false) verb
      metadata.url path operation definitions = .ok method)
    (others : compilePaths metadata definitions operations = .ok methods) :
    compilePaths metadata definitions ((path, [(verb, operation)]) :: operations) =
      .ok ⟨method.value :: methods.value, method.notices ++ methods.notices⟩ := by
  simp only [compilePaths, compileEndpoint, compileVerbs, List.length_singleton, lt_irrefl, decide_false,
    compiled, others]
  simp [pure]

theorem compileDocument_single {metadata : Metadata} {path verb : String} {operation : Operation}
    {definitions : Definitions} {method : Noted Method}
    (compiled : compileOperation (methodName (Name.method metadata.identifier path) verb false) verb
      metadata.url path operation definitions = .ok method) :
    compileDocument metadata ⟨[(path, [(verb, operation)])], definitions⟩ =
      .ok ⟨[method.value], method.notices⟩ := by
  have empty : compilePaths metadata definitions [] = .ok ⟨[], []⟩ := rfl
  simpa [compileDocument] using compilePaths_cons_single compiled empty

/-- A document with one operation has one method, which is what the operation compiles to. -/
theorem compileDocument_facts {metadata : Metadata} {path verb word : String} {operation : Operation}
    {definitions : Definitions} {arguments : List Argument} {request : Request}
    (named : methodName (Name.method metadata.identifier path) verb false = word)
    (facts : (compileOperation word verb metadata.url path operation definitions).toOption.map
      (fun method => (method.value.name, method.value.arguments, method.value.request)) =
        some (word, arguments, request)) :
    ∃ method notices, compileDocument metadata ⟨[(path, [(verb, operation)])], definitions⟩ =
        .ok ⟨[method], notices⟩ ∧
      method.name = word ∧ method.arguments = arguments ∧ method.request = request := by
  obtain ⟨method, compiled, same⟩ := ok_of_map_eq_some facts
  simp only [Prod.mk.injEq] at same
  rw [← named] at compiled
  exact ⟨method.value, method.notices, compileDocument_single compiled, same⟩

/-- A method of a document that is called with values for some of its arguments does as described:
it reports the first required argument that is missing, or sends its request with the values in it.
It does not if the method or an argument has the name of a constant that is no keyword: then it cannot
be defined. -/
theorem compileDocument_run_iff {V E : Type} {value : Datum} {document : ParsedDocument}
    (parsed : Schema.parseDocument value = .valid document) {metadata : Metadata}
    {methods : Noted (List Method)} (compiled : compileDocument metadata document = .ok methods)
    {method : Method} (member : method ∈ methods.value) (host : Host V E)
    {given : List (String × Object V)} (accepts : method.Accepts given) :
    (method.run host given = method.outcome host given ↔
        "__debug__" ∉ method.name :: method.argumentNames) ∧
      ("__debug__" ∈ method.name :: method.argumentNames → method.run host given = (.error .refused, [])) := by
  have run := (compileDocument_isScoped parsed compiled member).run_eq host accepts
  refine ⟨⟨fun same reserved => ?_, fun free => ?_⟩, fun reserved => ?_⟩
  · rw [run, if_pos reserved] at same
    exact method.outcome_ne_refused host given (congrArg Prod.fst same).symm
  · rw [run, if_neg free]
  · rw [run, if_pos reserved]

/-- A document with one operation, which takes one argument in its path. -/
def itemDocument (parameter : String) : Datum :=
  .object [("paths", .object [("/items/\x7b" ++ parameter ++ "\x7d", .object [("get", .object
    [("parameters", .list [.object [("name", .text parameter), ("in", .text "path"),
      ("required", .bool true)]])])])])]

def itemMetadata : Metadata := { identifier := "Shop", url := "https://host" }

/-- The operation of such a document as it is read. -/
def itemOperation (parameter : String) : Operation :=
  { parameters := [{ name := parameter, place := some "path", required := true }] }

/-- A client that answers nothing, where values are numbers. -/
def itemHost : Host Empty Empty where
  format
    | .number n => toString n
    | _ => ""
  answer _ := .ok .none

theorem item_parsed : Schema.parseDocument (itemDocument "id") =
    .valid ⟨[("/items/\x7bid\x7d", [("get", itemOperation "id")])], []⟩ := by rfl

theorem item_named : methodName (Name.method "Shop" "/items/\x7bid\x7d") "get" false = "Items" :=
  methodName_eq (by decide +kernel) (by decide)

/-- The document has one method, which takes its argument in the path. -/
theorem item_compiled : ∃ method notices,
    compileDocument itemMetadata ⟨[("/items/\x7bid\x7d", [("get", itemOperation "id")])], []⟩ =
        .ok ⟨[method], notices⟩ ∧
      method.name = "Items" ∧
      method.arguments =
        [{ name := "id", documented := "id", type := none, target := ⟨"id", some "path"⟩, required := true }] ∧
      method.request = { verb := "get", url := [.text "https://host/items/", .value (.argument "id")] } :=
  @compileDocument_facts itemMetadata _ _ _ _ _ _ _ item_named (by decide +kernel)

/-- A method that is given its argument sends one request with it. -/
theorem item_run :
    ∃ document methods method, Schema.parseDocument (itemDocument "id") = .valid document ∧
      compileDocument itemMetadata document = .ok methods ∧ method ∈ methods.value ∧
      method.run itemHost [("id", .number 7)] =
        (.ok .none, [⟨[.text "get", .text "https://host/items/7"], []⟩]) := by
  obtain ⟨method, notices, compiled, named, arguments, request⟩ := item_compiled
  have accepts : method.Accepts [("id", (.number 7 : Object Empty))] :=
    ⟨by simp, by simp [Method.argumentNames, arguments], by simp⟩
  have run := (compileDocument_run_iff item_parsed compiled (List.mem_singleton_self _) itemHost accepts).1.mpr
    (by simp [named, Method.argumentNames, arguments])
  refine ⟨_, _, method, item_parsed, compiled, List.mem_singleton_self _, run.trans ?_⟩
  rw [Method.outcome, Method.missing?, arguments, request]
  rfl

/-- A parameter may have the name of a constant that is no keyword. Its method cannot be defined. -/
theorem debug_item_refused :
    ∃ document methods method, Schema.parseDocument (itemDocument "__debug__") = .valid document ∧
      compileDocument itemMetadata document = .ok methods ∧ method ∈ methods.value ∧
      method.Accepts [("__debug__", (.number 7 : Object Empty))] ∧
      method.run itemHost [("__debug__", .number 7)] ≠ method.outcome itemHost [("__debug__", .number 7)] := by
  have parsed : Schema.parseDocument (itemDocument "__debug__") =
      .valid ⟨[("/items/\x7b__debug__\x7d", [("get", itemOperation "__debug__")])], []⟩ := by rfl
  have named : methodName (Name.method "Shop" "/items/\x7b__debug__\x7d") "get" false = "Items" :=
    methodName_eq (by decide +kernel) (by decide)
  have facts : (compileOperation "Items" "get" "https://host" "/items/\x7b__debug__\x7d"
      (itemOperation "__debug__") []).toOption.map (·.value.argumentNames) = some ["__debug__"] := by decide +kernel
  obtain ⟨method, compiled, names⟩ := ok_of_map_eq_some facts
  rw [← named] at compiled
  refine ⟨_, _, method.value, parsed, @compileDocument_single itemMetadata _ _ _ _ _ compiled,
    List.mem_singleton_self _, ⟨by simp, by simp [names], by simp⟩, fun same => ?_⟩
  have reserved : "__debug__" ∈ method.value.name :: method.value.argumentNames := by simp [names]
  have run : method.value.run itemHost [("__debug__", .number 7)] = (.error .refused, []) := by
    simp only [Method.run, Method.render]
    rw [Method.define_refused itemHost reserved]
    rfl
  rw [run] at same
  exact method.value.outcome_ne_refused itemHost _ (congrArg Prod.fst same).symm

end Bindery
