import Bindery.Package.VersionModule
import Bindery.Proofs.Method.Compilation
import Bindery.Proofs.Source.Collected

/-!
# Version modules are closed

What the module of a version loads is an argument, a builtin type or an import, and nothing is imported
that it does not load.
-/
namespace Bindery

open Bindery.Data (Datum)
open Bindery.Schema (ParsedDocument)
open Bindery.Source (Expr Imports Parameter Stmt builtinTypes classesIn headLoads importedIn outerIn)

/-- A function whose names are identifiers, whose arguments that are given by name are apart, and which
loads nothing but its own parameters, builtin types and what version modules import. -/
inductive ClosedFunction : Stmt → Prop
  | intro {async : Bool} {name documentation : String} {positional keywordOnly : List Parameter}
      {returns : Expr} {body : List Stmt}
      (named : ∀ n ∈ name :: (positional ++ keywordOnly).map (·.name), IsPlain n ∧ n ∉ Name.keywords)
      (distinct : (keywordOnly.map (·.name)).Nodup) (noSelf : "self" ∉ keywordOnly.map (·.name))
      (body_loads : ∀ n ∈ outerIn body,
        n ∈ (positional ++ keywordOnly).map (·.name) ∨ n ∈ ["self", "REQUIRED", "required"])
      (head_loads : ∀ n ∈ headLoads (positional ++ keywordOnly) returns,
        n ∈ builtinTypes ∨ n ∈ ["Any", "AuthenticatedClient", "REQUIRED"]) :
      ClosedFunction (.function async name positional keywordOnly returns documentation body)

/-- A module with nothing but closed functions in its classes, which imports each name that it takes from
elsewhere once, and no other. -/
structure ClosedModule (statements : List Stmt) : Prop where
  classes : ∀ entry ∈ classesIn statements,
    (IsPlain entry.1 ∧ entry.1 ∉ Name.keywords) ∧ ∀ member ∈ entry.2, ClosedFunction member
  imports : ∀ name, name ∈ importedIn statements ↔ name ∈ outerIn statements ∧ name ∉ builtinTypes
  once : (importedIn statements).Nodup

/-! ### Values and hints -/

theorem Value.loads_toExpr (value : Value) : value.toExpr.loads = value.names := by
  cases value with
  | argument name => rfl
  | group fields =>
    rw [Value.toExpr, Source.loads_dict, Value.names, List.flatMap_map, List.map_eq_flatMap]
    rfl

theorem pieceLoads_urlParts (parts : List UrlPart) :
    (parts.map UrlPart.piece).flatMap Source.pieceLoads = (urlValues parts).flatMap Value.names := by
  induction parts with
  | nil => rfl
  | cons part rest ih =>
    cases part with
    | text literal => exact ih
    | value value =>
      rw [List.map_cons, List.flatMap_cons, ih, urlValues, List.flatMap_cons, UrlPart.piece,
        Source.pieceLoads, Value.loads_toExpr]

theorem urlValues_of_literalUrl? {parts : List UrlPart} {literal : String}
    (found : literalUrl? parts = some literal) : urlValues parts = [] := by
  induction parts generalizing literal with
  | nil => rfl
  | cons part rest ih =>
    cases part with
    | text first =>
      obtain ⟨others, here, -⟩ := Option.map_eq_some_iff.mp found
      exact ih here
    | value value => cases found

theorem loads_urlExpr (parts : List UrlPart) : (urlExpr parts).loads = (urlValues parts).flatMap Value.names := by
  unfold urlExpr
  split
  next literal found => rw [urlValues_of_literalUrl? found, Source.loads_text, List.flatMap_nil]
  · rw [Source.loads_formatted, pieceLoads_urlParts]

theorem loads_entriesKeyword (keyword : String) (entries : List (String × Value)) :
    ((entriesKeyword keyword entries).flatMap fun entry => entry.2.loads) =
      (entries.map Prod.snd).flatMap Value.names := by
  unfold entriesKeyword
  split
  next empty => rw [List.isEmpty_iff.mp empty, List.flatMap_nil, List.map_nil, List.flatMap_nil]
  · simp only [List.flatMap_cons, List.flatMap_nil, List.append_nil, Source.loads_dict, List.flatMap_map,
      Value.loads_toExpr]

theorem loads_valueKeyword (keyword : String) (value : Option Value) :
    ((valueKeyword keyword value).flatMap fun entry => entry.2.loads) = value.toList.flatMap Value.names := by
  cases value with
  | none => rfl
  | some value => simp [valueKeyword, Value.loads_toExpr]

/-- The call of a request loads the instance and the names of its values. -/
theorem loads_call (request : Request) :
    request.call.loads = "self" :: request.values.flatMap Value.names := by
  simp [Request.call, Request.keywords, Source.selfAttribute, loads_urlExpr, loads_entriesKeyword,
    loads_valueKeyword, Request.values]

/-- A type hint loads builtin types, and the type of anything if it mentions it. -/
theorem TypeHint.loads_toExpr {hint : TypeHint} (known : hint.IsKnown) :
    ∀ name ∈ hint.toExpr.loads, name ∈ builtinTypes ∨ name = "Any" := by
  induction hint with
  | builtin name =>
    intro other member
    rw [List.mem_singleton.mp member]
    exact .inl known
  | any =>
    intro other member
    exact .inr (List.mem_singleton.mp member)
  -- A list loads its own name besides what its elements load.
  | listOf element ih =>
    rw [TypeHint.toExpr, Source.loads_item, Source.loads_name, List.singleton_append]
    refine List.forall_mem_cons.mpr ⟨.inl (by decide), ?_⟩
    simpa using ih known

/-! ### Methods -/

/-- The type hint and the default of an argument load builtin types, the type of anything, and the marker of
required arguments. -/
theorem Argument.loads_parameter (argument : Argument) :
    ∀ name ∈ argument.parameter.loads, name ∈ builtinTypes ∨ name = "Any" ∨
      (name = requiredName ∧ argument.required = true) := by
  intro name member
  -- A parameter loads what its hint loads, and what its default loads.
  rcases List.mem_append.mp member with hinted | defaulted
  · obtain ⟨e, found, loaded⟩ := List.mem_flatMap.mp hinted
    obtain ⟨hint, typed, rfl⟩ := Option.map_eq_some_iff.mp (Option.mem_toList.mp found)
    obtain ⟨label, -, read⟩ := Option.bind_eq_some_iff.mp typed
    have known := TypeHint.loads_toExpr (TypeHint.ofChars?_known _ hint read)
    have inside : name ∈ hint.toExpr.loads := by
      split at loaded
      · exact loaded
      · simpa using loaded
    exact (known name inside).imp_right .inl
  · cases required : argument.required with
    | true =>
      have marker : name = requiredName := by
        simpa [Argument.parameter, required, requiredMarker] using defaulted
      exact .inr (.inr ⟨marker, rfl⟩)
    | false => simp [Argument.parameter, required] at defaulted

@[simp]
theorem outer_guard (argument : Argument) (method : String) :
    (argument.guard method).outer = [argument.name, requiredName, "required"] := rfl

/-- What the body of a method loads: what its guards check, and what its request sends. -/
theorem mem_outerIn_body (method : Method) (name : String) :
    name ∈ outerIn (method.requiredArguments.map (·.guard method.name) ++ [.return method.request.call]) ↔
      (∃ argument ∈ method.requiredArguments, name ∈ [argument.name, requiredName, "required"]) ∨
        name = "self" ∨ name ∈ method.request.values.flatMap Value.names := by
  simp only [Source.outerIn_eq, List.flatMap_append, List.mem_append, List.flatMap_map, List.mem_flatMap,
    outer_guard, List.flatMap_singleton, Stmt.outer, loads_call, List.mem_cons]

theorem bindsIn_body (method : Method) :
    Source.bindsIn (method.requiredArguments.map (·.guard method.name) ++ [.return method.request.call]) =
      [] := by
  induction method.requiredArguments with
  | nil => rfl
  | cons argument rest ih => exact ih

/-- What the head of a method loads. -/
theorem mem_headLoads (method : Method) (name : String) :
    name ∈ headLoads ([{ name := "self" }] ++ method.arguments.map Argument.parameter) (.name "Any") ↔
      (∃ argument ∈ method.arguments, name ∈ argument.parameter.loads) ∨ name = "Any" := by
  simp [headLoads, Parameter.loads, List.mem_flatMap]

section Scoped

variable {method : Method} (sound : method.IsScoped)
include sound

/-- Names that methods bind already are no names of arguments. -/
theorem Method.IsScoped.bound_free {name : String} (bound : name ∈ [requiredName, "required"]) :
    name ∉ "self" :: method.argumentNames := by
  have known : name ∈ boundNames ∧ name ≠ "self" := by
    rcases List.mem_pair.mp bound with rfl | rfl <;> decide
  rw [List.mem_cons, not_or]
  exact ⟨known.2, fun member => sound.apart name member known.1⟩

theorem Method.IsScoped.known_values {name : String}
    (member : name ∈ method.request.values.flatMap Value.names) : name ∈ method.argumentNames := by
  obtain ⟨value, sent, carried⟩ := List.mem_flatMap.mp member
  exact sound.known value sent name carried

/-- What the body of a method loads besides its parameters. -/
theorem Method.IsScoped.mem_free_iff (name : String) :
    (name ∈ outerIn (method.requiredArguments.map (·.guard method.name) ++ [.return method.request.call]) ∧
        name ∉ "self" :: method.argumentNames) ↔
      method.requiredArguments ≠ [] ∧ name ∈ [requiredName, "required"] := by
  rw [mem_outerIn_body]
  constructor
  -- Of what the body loads, only the names that the guards check with are no parameters.
  · rintro ⟨⟨argument, member, loaded⟩ | rfl | sent, free⟩
    · refine ⟨List.ne_nil_of_mem member, ?_⟩
      rcases List.mem_cons.mp loaded with rfl | bound
      · exact absurd (List.mem_cons_of_mem _ (List.mem_map_of_mem (List.mem_of_mem_filter member))) free
      · exact bound
    · exact absurd (List.mem_cons_self ..) free
    · exact absurd (List.mem_cons_of_mem _ (sound.known_values sent)) free
  · rintro ⟨some, bound⟩
    obtain ⟨argument, rest, arguments⟩ := List.exists_cons_of_ne_nil some
    exact ⟨.inl ⟨argument, by simp [arguments], List.mem_cons_of_mem _ bound⟩, sound.bound_free bound⟩

/-- A method takes from around it what it imports, and builtin types. -/
theorem Method.IsScoped.mem_outer_iff (name : String) :
    name ∈ method.function.outer ∧ name ∉ builtinTypes ↔
      name = "Any" ∨ (method.requiredArguments ≠ [] ∧ name ∈ [requiredName, "required"]) := by
  -- The head loads what its hints and defaults say; the body loads what is free in it.
  have body := sound.mem_free_iff name
  rw [Method.function, Stmt.outer, List.mem_append, mem_headLoads, List.mem_filter, bindsIn_body,
    List.append_nil, List.singleton_append, Method.parameterNames_eq, Bool.not_eq_true', ← Bool.not_eq_true,
    List.contains_iff_mem, body]
  constructor
  · rintro ⟨(⟨argument, member, loaded⟩ | rfl) | free, noBuiltin⟩
    · rcases argument.loads_parameter name loaded with builtin | rfl | ⟨rfl, required⟩
      · exact absurd builtin noBuiltin
      · exact .inl rfl
      · exact .inr ⟨List.ne_nil_of_mem (List.mem_filter.mpr ⟨member, required⟩), by simp⟩
    · exact .inl rfl
    · exact .inr free
  · rintro (rfl | free)
    · exact ⟨.inl (.inr rfl), by decide⟩
    · refine ⟨.inr free, ?_⟩
      rcases List.mem_pair.mp free.2 with rfl | rfl <;> decide

theorem Method.IsScoped.closedFunction (plain : ∀ name ∈ method.name :: method.argumentNames, IsPlain name) :
    ClosedFunction method.function := by
  have keywordNames : (method.arguments.map Argument.parameter).map (·.name) = method.argumentNames := by
    simp [Method.argumentNames, Argument.parameter]
  have names := method.parameterNames_eq
  rw [List.forall_mem_cons] at plain
  have noKeyword := List.forall_mem_cons.mp sound.noKeyword
  refine .intro ?_ ?_ ?_ ?_ ?_
  -- The names of the function and of its parameters.
  · rw [List.singleton_append, names]
    refine List.forall_mem_cons.mpr ⟨⟨plain.1, noKeyword.1⟩, List.forall_mem_cons.mpr ⟨by decide, ?_⟩⟩
    exact fun name member => ⟨plain.2 name member, noKeyword.2 name member⟩
  · rw [keywordNames]
    exact sound.distinct
  · rw [keywordNames]
    exact fun member => sound.apart _ member (by decide)
  · intro name loaded
    rw [List.singleton_append, names]
    -- What the body loads is a parameter, or free and thus a name of the guards.
    by_cases own : name ∈ "self" :: method.argumentNames
    · exact .inl own
    · exact .inr (List.mem_cons_of_mem _ ((sound.mem_free_iff name).mp ⟨loaded, own⟩).2)
  · intro name loaded
    -- The head loads types, and the marker if an argument is required.
    rcases (mem_headLoads method name).mp loaded with ⟨argument, member, inside⟩ | rfl
    · rcases argument.loads_parameter name inside with builtin | rfl | ⟨rfl, -⟩
      · exact .inl builtin
      · exact .inr (by decide)
      · exact .inr (by decide)
    · exact .inr (by decide)

end Scoped

/-! ### Imports -/

theorem wants_single {module other name : String} {names : List String} :
    (Imports.single module names).Wants other name ↔ other = module ∧ name ∈ names := by
  rw [Imports.single, Imports.wants_add]
  simp [Imports.Wants]

/-- What the type hint of an argument imports is the type of anything. -/
theorem Argument.wants_imports {argument : Argument} {module name : String}
    (wanted : argument.imports.Wants module name) : module = "typing" ∧ name = "Any" := by
  unfold Argument.imports at wanted
  cases typed : TypeHint.ofLabel? argument.type with
  | none => simp [typed, Imports.Wants] at wanted
  | some hint =>
    rw [typed, Option.map_some, Option.getD_some, TypeHint.imports] at wanted
    split at wanted
    · simpa [wants_single] using wanted
    · simp [Imports.Wants] at wanted

/-- What a method imports. -/
theorem Method.wants_imports_iff (method : Method) (module name : String) :
    method.imports.Wants module name ↔ module = "typing" ∧ name = "Any" ∨
      (method.requiredArguments ≠ [] ∧ module = "rbxapi.runtime" ∧ name ∈ [requiredName, "required"]) := by
  constructor
  · intro wanted
    -- Without the guards, a method imports for its hints alone.
    have hinted : (method.arguments.foldl (fun (found : Imports) argument => found.merge argument.imports)
        (.single "typing" ["Any"])).Wants module name → module = "typing" ∧ name = "Any" := by
      intro hinted
      rcases Imports.wants_foldl_merge.mp hinted with always | ⟨argument, -, here⟩
      · simpa [wants_single] using always
      · exact Argument.wants_imports here
    unfold Method.imports at wanted
    split at wanted
    · exact .inl (hinted wanted)
    next some =>
      rcases Imports.wants_add.mp wanted with guarded | others
      · exact .inr ⟨by simpa using some, guarded⟩
      · exact .inl (hinted others)
  · rintro (⟨rfl, rfl⟩ | ⟨some, rfl, member⟩)
    · exact method.imports_wants_any
    · exact Method.imports_wants_guard some member

theorem wants_renderClass (name documentation : String) (methods : List Method) (module wanted : String) :
    (renderClass name documentation methods).imports.Wants module wanted ↔
      module = "rbxapi.client" ∧ wanted = "AuthenticatedClient" ∨
        ∃ method ∈ methods, method.imports.Wants module wanted := by
  rw [renderClass, Imports.wants_foldl_merge, wants_single, List.mem_singleton]

theorem renderClass_sorted (name documentation : String) (methods : List Method) :
    (renderClass name documentation methods).imports.IsSorted :=
  (Imports.isSorted_single ..).foldl_merge _ _

/-- Each name that a class imports comes from one module. -/
theorem renderClass_home {name documentation : String} {methods : List Method} {wanted first second : String}
    (here : (renderClass name documentation methods).imports.Wants first wanted)
    (there : (renderClass name documentation methods).imports.Wants second wanted) : first = second := by
  -- Three modules are imported from, and the names they are imported for are different.
  have cases : ∀ module, (renderClass name documentation methods).imports.Wants module wanted →
      module = "rbxapi.client" ∧ wanted = "AuthenticatedClient" ∨ module = "typing" ∧ wanted = "Any" ∨
        module = "rbxapi.runtime" ∧ (wanted = requiredName ∨ wanted = "required") := by
    intro module wants
    rcases (wants_renderClass ..).mp wants with client | ⟨method, -, inside⟩
    · exact .inl client
    · rcases (method.wants_imports_iff module wanted).mp inside with any | ⟨-, runtime, bound⟩
      · exact .inr (.inl any)
      · exact .inr (.inr ⟨runtime, List.mem_pair.mp bound⟩)
  rcases cases first here with ⟨rfl, rfl⟩ | ⟨rfl, rfl⟩ | ⟨rfl, rfl | rfl⟩ <;>
    rcases cases second there with ⟨rfl, same⟩ | ⟨rfl, same⟩ | ⟨rfl, same | same⟩ <;>
    first | rfl | exact absurd same (by decide)

/-! ### Modules -/

theorem outer_classConstructor : classConstructor.outer = ["AuthenticatedClient"] := by
  decide

theorem closedFunction_constructor : ClosedFunction classConstructor := by
  refine .intro ?_ ?_ ?_ ?_ ?_
  · decide
  · decide
  · decide
  · decide
  · decide

/-- Import statements load nothing, and define no class. -/
theorem outerIn_statements (imports : Imports) :
    outerIn imports.statements = [] ∧ classesIn imports.statements = [] := by
  rw [Source.outerIn_eq, List.flatMap_eq_nil_iff, classesIn, List.filterMap_eq_nil_iff]
  constructor <;>
  · intro statement member
    obtain ⟨module, level, names, rfl⟩ := Imports.mem_statements member
    rfl

/-- What the module of a version consists of. -/
theorem versionModule_parts (api : ApiNode) (version : String) :
    importedIn (versionModule api version) =
        importedIn (renderClass (Name.versionClass api.metadata.identifier version) api.metadata.title
          (api.methods version)).imports.statements ∧
      classesIn (versionModule api version) = [(Name.versionClass api.metadata.identifier version,
        classConstructor :: (api.methods version).map Method.function)] ∧
      outerIn (versionModule api version) =
        outerIn (classConstructor :: (api.methods version).map Method.function) := by
  -- A module is its imports, what it offers, and one class; of these only the class loads something.
  obtain ⟨noOuter, noClass⟩ := outerIn_statements (renderClass
    (Name.versionClass api.metadata.identifier version) api.metadata.title (api.methods version)).imports
  refine ⟨?_, ?_, ?_⟩
  · rw [versionModule, Source.importedIn_append]
    exact List.append_nil _
  · rw [versionModule, Source.classesIn_append, noClass]
    rfl
  · rw [versionModule, Source.outerIn_eq, List.flatMap_append, ← Source.outerIn_eq, noOuter]
    simp [renderClass, Source.exports, Stmt.outer, Expr.targetLoads]

/-- What a class of scoped methods takes from around it, builtin types left out. -/
theorem mem_outerIn_class {methods : List Method} (sound : ∀ method ∈ methods, method.IsScoped)
    (name : String) :
    name ∈ outerIn (classConstructor :: methods.map Method.function) ∧ name ∉ builtinTypes ↔
      name = "AuthenticatedClient" ∨ ∃ method ∈ methods,
        name = "Any" ∨ (method.requiredArguments ≠ [] ∧ name ∈ [requiredName, "required"]) := by
  rw [Source.outerIn, outer_classConstructor, Source.outerIn_eq, List.flatMap_map, List.mem_append,
    List.mem_singleton, List.mem_flatMap]
  constructor
  · rintro ⟨rfl | ⟨method, member, outer⟩, noBuiltin⟩
    · exact .inl rfl
    · exact .inr ⟨method, member, ((sound method member).mem_outer_iff name).mp ⟨outer, noBuiltin⟩⟩
  · rintro (rfl | ⟨method, member, free⟩)
    · exact ⟨.inl rfl, by decide⟩
    · obtain ⟨outer, noBuiltin⟩ := ((sound method member).mem_outer_iff name).mpr free
      exact ⟨.inr ⟨method, member, outer⟩, noBuiltin⟩

/-- What the module of a version imports. -/
theorem mem_importedIn_versionModule (api : ApiNode) (version name : String) :
    name ∈ importedIn (versionModule api version) ↔
      name = "AuthenticatedClient" ∨ ∃ method ∈ api.methods version,
        name = "Any" ∨ (method.requiredArguments ≠ [] ∧ name ∈ [requiredName, "required"]) := by
  rw [(versionModule_parts api version).1, Imports.mem_importedIn]
  constructor
  · rintro ⟨module, wanted⟩
    -- A class imports for its constructor and for its methods.
    rcases (wants_renderClass ..).mp wanted with ⟨-, client⟩ | ⟨method, member, inside⟩
    · exact .inl client
    · refine .inr ⟨method, member, ?_⟩
      exact ((method.wants_imports_iff module name).mp inside).imp And.right fun free => ⟨free.1, free.2.2⟩
  · rintro (rfl | ⟨method, member, rfl | ⟨some, bound⟩⟩)
    · exact ⟨"rbxapi.client", (wants_renderClass ..).mpr (.inl ⟨rfl, rfl⟩)⟩
    · exact ⟨"typing", (wants_renderClass ..).mpr (.inr ⟨method, member, method.imports_wants_any⟩)⟩
    · exact ⟨"rbxapi.runtime",
        (wants_renderClass ..).mpr (.inr ⟨method, member, Method.imports_wants_guard some bound⟩)⟩

/-- The module of a version is closed: all its names are identifiers, its methods load nothing but their own
arguments and what is imported, and its imports are exact. -/
theorem versionModule_closed {value : Datum} {document : ParsedDocument}
    (parsed : Schema.parseDocument value = .valid document) {api : ApiNode}
    (letters : IsLetters api.metadata.identifier) {methods : Noted (List Method)}
    (compiled : compileDocument api.metadata document = .ok methods) {version : String}
    (listed : api.methods version = methods.value) :
    let module := versionModule api version
    ClosedModule module ∧
      classesIn module = [(Name.versionClass api.metadata.identifier version,
        classConstructor :: methods.value.map Method.function)] ∧
      ("Any" ∈ importedIn module ↔ methods.value ≠ []) ∧
      ∀ name ∈ ["REQUIRED", "required"], name ∈ importedIn module ↔
        ∃ method ∈ methods.value, ∃ argument ∈ method.arguments, argument.required = true := by
  intro module
  have sound : ∀ method ∈ methods.value, method.IsScoped := fun method member =>
    compileDocument_isScoped parsed compiled member
  obtain ⟨imported, classes, outer⟩ := versionModule_parts api version
  have mem_imported := mem_importedIn_versionModule api version
  rw [listed] at imported classes outer mem_imported
  refine ⟨⟨fun entry member => ?_, fun name => ?_, ?_⟩, classes, ?_, fun name bound => ?_⟩
  · obtain rfl := List.mem_singleton.mp (classes ▸ member)
    refine ⟨⟨versionClass_isPlain letters.isPlain version, versionClass_not_keyword _ _⟩, ?_⟩
    refine List.forall_mem_cons.mpr ⟨closedFunction_constructor, fun function among => ?_⟩
    obtain ⟨method, own, rfl⟩ := List.mem_map.mp among
    exact (sound method own).closedFunction (compileDocument_isPlain parsed compiled own)
  · rw [mem_imported, outer, mem_outerIn_class sound]
  · rw [imported]
    exact (renderClass_sorted ..).importedIn_nodup fun _ _ _ => renderClass_home
  · rw [mem_imported]
    constructor
    · rintro (client | ⟨method, member, -⟩)
      · exact absurd client (by decide)
      · exact List.ne_nil_of_mem member
    · intro some
      obtain ⟨method, rest, same⟩ := List.exists_cons_of_ne_nil some
      exact .inr ⟨method, by simp [same], .inl rfl⟩
  · have apart : name ≠ "AuthenticatedClient" ∧ name ≠ "Any" := by
      rcases List.mem_pair.mp bound with rfl | rfl <;> decide
    rw [mem_imported]
    constructor
    · rintro (client | ⟨method, member, any | ⟨some, -⟩⟩)
      · exact absurd client apart.1
      · exact absurd any apart.2
      · obtain ⟨argument, rest, same⟩ := List.exists_cons_of_ne_nil some
        have required : argument ∈ method.requiredArguments := by simp [same]
        exact ⟨method, member, argument, List.mem_of_mem_filter required, (List.mem_filter.mp required).2⟩
    · rintro ⟨method, member, argument, own, required⟩
      exact .inr ⟨method, member, .inr ⟨List.ne_nil_of_mem (List.mem_filter.mpr ⟨own, required⟩), bound⟩⟩

/-- The module of a version with one operation is closed. -/
theorem item_module_closed :
    ∃ document methods, Schema.parseDocument (itemDocument "id") = .valid document ∧
      compileDocument itemMetadata document = .ok methods ∧
      ClosedModule (versionModule ⟨itemMetadata, [("v1", methods.value)]⟩ "v1") := by
  have letters : IsLetters itemMetadata.identifier := ⟨by decide, by simp [itemMetadata]⟩
  obtain ⟨method, notices, compiled, -⟩ := item_compiled
  exact ⟨_, _, item_parsed, compiled, (@versionModule_closed _ _ item_parsed
    ⟨itemMetadata, [("v1", [method])]⟩ letters _ compiled "v1" rfl).1⟩

end Bindery
