import Bindery.Proofs.Package.Reachability
import Mathlib.Algebra.GroupWithZero.Nat

/-!
# Methods and documented verbs

The methods of a document stand for its verbs, path by path and in the order of the document; nothing else that a path
item holds becomes a method. Where a path has several verbs, the name of each method begins with its verb, and so the
names differ although what follows the verb is the same for all of them.
-/
namespace Bindery

open Bindery.Data (Datum)
open Bindery.Schema (Definitions Metadata Operation ParsedDocument isVerb)

/-- Methods that stand for the verbs of a path. -/
structure HasMethodPerVerb (verbs : List String) (methods : List Method) : Prop where
  sent : methods.map (·.request.verb) = verbs.map Text.lower
  usable : ∀ method ∈ methods, IsPlain method.name ∧ method.name ∉ Name.keywords
  titled : 1 < verbs.length →
    List.Forall₂ (fun verb method => (Text.title verb).toList <+: method.name.toList) verbs methods
  distinct : (verbs.map Text.lower).Nodup → (methods.map Method.name).Nodup

/-- What a path item of a document becomes. -/
structure ItemCompiled (metadata : Metadata) (definitions : Definitions)
    (entry : String × List (String × Datum)) (methods : List Method) : Prop where
  compiled : ∃ operations notices, Schema.readOperations entry.2 = .valid operations ∧
    operations.map Prod.fst = verbsOf entry.2 ∧
    compileEndpoint metadata.identifier metadata.url entry.1 operations definitions = .ok ⟨methods, notices⟩
  stands : HasMethodPerVerb (verbsOf entry.2) methods

theorem verbsOf_isVerb (item : List (String × Datum)) : ∀ verb ∈ verbsOf item, isVerb verb = true := by
  intro verb member
  exact (List.mem_filter.mp member).2

/-! ### Requests -/

theorem groupedRequest_verb {endpoint : Endpoint} {url : String} {placeholders : List (String × String)}
    {target : Target} {group : Value} {request : Noted Request}
    (built : groupedRequest endpoint url placeholders target group = .ok request) :
    request.value.verb = Text.lower endpoint.verb := by
  unfold groupedRequest at built
  split at built <;> cases built <;> rfl

theorem buildRequest_verb {endpoint : Endpoint} {url : String} {list : ArgumentList} {request : Noted Request}
    (built : buildRequest endpoint url list = .ok request) : request.value.verb = Text.lower endpoint.verb := by
  unfold buildRequest at built
  split at built
  · exact groupedRequest_verb built
  · split at built
    · cases built
    · cases built
      rfl

/-! ### Paths -/

theorem CompiledFrom.name_verb {base baseUrl path : String} {definitions : Definitions} {several : Bool}
    {entry : String × Operation} {method : Method}
    (compiled : CompiledFrom base baseUrl path definitions several entry method) :
    method.name = methodName base entry.1 several ∧ method.request.verb = Text.lower entry.1 := by
  obtain ⟨noted, made, rfl⟩ := compiled
  obtain ⟨request, built, named, sent, -, -⟩ := compileOperation_eq_ok made
  have lowered := buildRequest_verb built
  rw [← sent] at lowered
  exact ⟨named, lowered⟩

/-- A name that follows its verb begins with it. -/
theorem title_prefix_methodName {verb : String} (known : isVerb verb = true) (base : String) :
    (Text.title verb).toList <+: (methodName base verb true).toList := by
  rw [methodName_several known, String.toList_append]
  exact List.prefix_append ..

theorem PathCompiledTo.hasMethodPerVerb {metadata : Metadata} {definitions : Definitions}
    {entry : String × List (String × Operation)} {methods : List Method}
    (compiled : PathCompiledTo metadata definitions entry methods)
    (known : ∀ operation ∈ entry.2, isVerb operation.1 = true) :
    HasMethodPerVerb (entry.2.map Prod.fst) methods := by
  have names := pathCompiledTo_names compiled
  obtain ⟨lengths, each⟩ := List.forall₂_iff_zip.mp compiled
  constructor
  · rw [List.map_map, ← List.forall₂_eq_eq_eq, List.forall₂_map_left_iff, List.forall₂_map_right_iff]
    exact (List.Forall₂.imp (fun _ _ made => (made.name_verb).2) compiled).flip
  · intro method member
    -- The names are known from the path and its verbs, so what holds of these holds of the methods.
    have among : method.name ∈ pathMethodNames metadata.identifier entry := names ▸ List.mem_map_of_mem member
    obtain ⟨operation, inside, same⟩ := List.mem_map.mp among
    rw [← same]
    exact ⟨methodName_isPlain _ (known operation inside) _, methodName_not_keyword _ (known operation inside) _⟩
  · -- With several verbs, each name is made of the title of its verb and what is left of the path.
    intro several
    rw [List.length_map] at several
    refine List.forall₂_map_left_iff.mpr (List.forall₂_iff_zip.mpr ⟨lengths, fun {operation method} member => ?_⟩)
    rw [(each member).name_verb.1, decide_eq_true several]
    exact title_prefix_methodName (known operation (List.of_mem_zip member).1) _
  · intro apart
    rw [names]
    apply pathMethodNames_nodup _ known
    rwa [List.map_map] at apart

/-! ### Documents -/

/-- The methods of a path come from what its path item is read as. -/
theorem itemCompiled_of_endpoint {metadata : Metadata} {definitions : Definitions} {path : String}
    {item : List (String × Datum)} {operations : List (String × Operation)} {group : Noted (List Method)}
    (read : Schema.readOperations item = .valid operations)
    (compiled : compileEndpoint metadata.identifier metadata.url path operations definitions = .ok group) :
    ItemCompiled metadata definitions (path, item) group.value := by
  have keys := readOperations_keys read
  have known : ∀ operation ∈ operations, isVerb operation.1 = true := by
    intro operation member
    apply verbsOf_isVerb item
    exact keys ▸ List.mem_map_of_mem member
  have made : PathCompiledTo metadata definitions (path, operations) group.value := compileVerbs_eq_ok compiled
  exact ⟨⟨operations, group.notices, read, keys, compiled⟩, keys ▸ made.hasMethodPerVerb known⟩

theorem itemsCompiled {metadata : Metadata} {definitions : Definitions}
    {paths : List (String × List (String × Datum))} {operations : List (String × List (String × Operation))}
    {groups : List (Noted (List Method))}
    (read : List.Forall₂ (fun path entry => entry.1 = path.1 ∧ Schema.readOperations path.2 = .valid entry.2)
      paths operations)
    (made : List.Forall₂ (fun entry group =>
      compileEndpoint metadata.identifier metadata.url entry.1 entry.2 definitions = .ok group) operations groups) :
    List.Forall₂ (ItemCompiled metadata definitions) paths (groups.map (·.value)) := by
  induction read generalizing groups with
  | nil =>
    cases made
    exact .nil
  | cons first _ ih =>
    obtain ⟨same, found⟩ := first
    cases made with
    | cons compiled others => exact .cons (itemCompiled_of_endpoint found (same ▸ compiled)) (ih others)

/-- A document that compiles has exactly one method for each verb of each of its paths, in the order of the document. -/
theorem compileDocument_methodPerVerb {value : Datum} {document : ParsedDocument}
    (parsed : Schema.parseDocument value = .valid document) {metadata : Metadata}
    {methods : Noted (List Method)} (compiled : compileDocument metadata document = .ok methods) :
    ∃ raw groups, Schema.readDocument value = .valid raw ∧ methods.value = groups.flatten ∧
      List.Forall₂ (ItemCompiled metadata document.definitions) raw.paths groups ∧
      methods.value.length = (raw.paths.map fun entry => (verbsOf entry.2).length).sum := by
  obtain ⟨raw, read, found, -⟩ := parseDocument_eq_valid parsed
  obtain ⟨groups, same, made⟩ := compilePaths_endpoints compiled
  have items := itemsCompiled (readPaths_eq_valid found) made
  refine ⟨raw, groups.map (·.value), read, same, items, ?_⟩
  -- The groups are as long as the lists of verbs, one by one, and so are their sums.
  rw [same, List.length_flatten]
  congr 1
  rw [← List.forall₂_eq_eq_eq, List.forall₂_map_left_iff, List.forall₂_map_right_iff]
  refine List.Forall₂.flip (items.imp fun entry group item => ?_)
  have sent := congrArg List.length item.stands.sent
  rwa [List.length_map, List.length_map] at sent

/-- The paths of a document: one with two verbs and parameters for both, and one that names nothing. -/
def messagePaths : List (String × List (String × Datum)) :=
  [("/v2/message", [("GET", .object []), ("parameters", .list []), ("post", .object [])]),
    ("/v1/\x7bid\x7d", [("delete", .object [])])]

def messageDocument : Datum :=
  .object [("paths", .object (messagePaths.map fun entry => (entry.1, .object entry.2)))]

/-- Two verbs in front of one name, and a verb alone where nothing else is left to name the method after. -/
theorem message_methods :
    ∃ document methods groups, Schema.parseDocument messageDocument = .valid document ∧
      compileDocument itemMetadata document = .ok methods ∧ methods.value = groups.flatten ∧
      List.Forall₂ (ItemCompiled itemMetadata document.definitions) messagePaths groups ∧
      methods.value.length = 3 ∧
      methods.value.map (fun method => (method.name, method.request.verb)) =
        [("GetMessage", "get"), ("PostMessage", "post"), ("Delete", "delete")] := by
  have raw : Schema.readDocument messageDocument = .valid ⟨messagePaths, []⟩ := by rfl
  have parsed : Schema.parseDocument messageDocument =
      .valid ⟨[("/v2/message", [("GET", {}), ("post", {})]), ("/v1/\x7bid\x7d", [("delete", {})])], []⟩ := by
    have nothing : Schema.readOperation (.object []) = .valid {} := by rfl
    have verbs : isVerb "GET" = true ∧ isVerb "post" = true ∧ isVerb "delete" = true := by decide +kernel
    have other : isVerb "parameters" = false := by decide +kernel
    simp [Schema.parseDocument, raw, messagePaths, Schema.readPaths, Schema.readOperations, verbs, other,
      Datum.isVoid, nothing, Schema.Checked.andThen, Schema.Checked.map]
  have facts : (compileDocument itemMetadata
      ⟨[("/v2/message", [("GET", {}), ("post", {})]), ("/v1/\x7bid\x7d", [("delete", {})])], []⟩).toOption.map
        (fun methods => methods.value.map fun method => (method.name, method.request.verb)) =
      some [("GetMessage", "get"), ("PostMessage", "post"), ("Delete", "delete")] := by decide +kernel
  cases compiled : compileDocument itemMetadata
      ⟨[("/v2/message", [("GET", {}), ("post", {})]), ("/v1/\x7bid\x7d", [("delete", {})])], []⟩ with
  | error failure =>
    rw [compiled] at facts
    cases facts
  | ok methods =>
    rw [compiled] at facts
    obtain ⟨read, groups, found, same, items, count⟩ := compileDocument_methodPerVerb parsed compiled
    rw [raw] at found
    cases found
    have verbs : (messagePaths.map fun entry => (verbsOf entry.2).length).sum = 3 := by decide +kernel
    exact ⟨_, methods, groups, parsed, compiled, same, items, count.trans verbs, Option.some.inj facts⟩

end Bindery
