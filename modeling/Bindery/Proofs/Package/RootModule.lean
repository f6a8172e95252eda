import Bindery.Proofs.Name.Versions
import Bindery.Proofs.Package.LegalModules
import Bindery.Proofs.Package.VersionModules

/-!
# The root module

What the root module imports, what its client holds for each API, and what it takes from around its functions. No
name in it has two meanings if all APIs have a capital letter first.
-/
namespace Bindery

open Bindery.Source (Expr Imports Stmt bindsIn builtinTypes classesIn importedIn outerIn selfAttribute)

/-! ### What modules say -/

def offeredIn (statements : List Stmt) : List String :=
  statements.flatMap fun
    | .assign (.name "__all__") (.tuple items) => items.filterMap fun
      | .text value => some value
      | _ => none
    | _ => []

/-- The functions among statements, with their bodies. -/
def functionsIn (statements : List Stmt) : List (String × List Stmt) :=
  statements.filterMap fun
    | .function _ name _ _ _ _ body => some (name, body)
    | _ => none

/-- The classes and functions that a module defines. -/
def definedIn (statements : List Stmt) : List String :=
  (classesIn statements).map Prod.fst ++ (functionsIn statements).map Prod.fst

/-- The values that a body gives to attributes of its instance, one after another. -/
def givenAttributes (body : List Stmt) : List (String × Expr) :=
  body.filterMap fun
    | .assign (.attribute (.name "self") member) value => some (member, value)
    | _ => none

/-- The values that the constructor of the client gives to its attributes. -/
def clientGives (index : List Stmt) : List (String × Expr) :=
  match ((classesIn index).lookup "RbxApiClient").bind fun members => (functionsIn members).lookup "__init__" with
  | some body => givenAttributes body
  | none => []

/-- The dictionary that a client has for an API. Of several values of an attribute the last one counts. -/
def clientDict? (index : List Stmt) (api : String) : Option (List (String × Expr)) :=
  match (clientGives index).reverse.lookup api with
  | some (.dict entries) => some entries
  | _ => none

/-- The class whose instance for the session a dictionary has under a key. Of several values of a key the last one
counts. -/
def keyedClass? (entries : List (String × Expr)) (key : String) : Option String :=
  match entries.reverse.lookup key with
  | some (.call (.name id) [.attribute (.name "self") "direct"] []) => some id
  | _ => none

/-- The request for who is signed in. -/
def identityCall : Expr :=
  .await (.call (.attribute (.item (.attribute (.name "client") "Users") [.text "v1"]) "Authenticated") [] [])

/-- Does the factory of a module ask who is signed in? -/
def AsksIdentity (index : List Stmt) : Prop :=
  ∃ body rest handler, (functionsIn index).lookup "create_rbx_client" = some body ∧
    .tryExcept (.assign (.name "user_info") identityCall :: rest) "ApiError" "error" handler ∈ body

section Tree

variable {tree : ApiTree}

/-! ### Imports -/

theorem wants_foldl_classes {start : Imports} {names : List String} {module name : String} :
    (names.foldl (fun found name => found.add (".apis." ++ name) [name]) start).Wants module name ↔
      (name ∈ names ∧ module = ".apis." ++ name) ∨ start.Wants module name := by
  rw [Source.foldl_adds (P := fun imports : Imports => imports.Wants module name)
    (Q := fun added => module = ".apis." ++ added ∧ name ∈ [added]) fun _ _ => Imports.wants_add]
  refine or_congr_left ⟨?_, ?_⟩
  · rintro ⟨added, member, home, own⟩
    obtain rfl := List.mem_singleton.mp own
    exact ⟨member, home⟩
  · rintro ⟨member, home⟩
    exact ⟨name, member, home, List.mem_singleton_self name⟩

/-- What the root module wants, and from where. -/
theorem wants_indexImports {module name : String} : (indexImports tree).Wants module name ↔
    (name ∈ versionClasses tree ∧ module = ".apis." ++ name) ∨
    (module, name) ∈ [("collections.abc", "Callable"), ("rbxapi.client", "create_client")] ∨
    hasIdentityLookup tree = true ∧ (module, name) = ("rbxapi.exceptions", "ApiError") := by
  -- Two names are imported in any case; the error is imported last, if it is handled.
  have fixed : ((Imports.single "collections.abc" ["Callable"]).add "rbxapi.client" ["create_client"]).Wants module name ↔
      (module, name) ∈ [("collections.abc", "Callable"), ("rbxapi.client", "create_client")] := by
    rw [Imports.wants_add, Imports.single, Imports.wants_add]
    simp [Imports.Wants, or_comm]
  unfold indexImports
  cases hasIdentityLookup tree with
  | false => simp [wants_foldl_classes, fixed]
  | true =>
    rw [if_pos rfl, Imports.wants_add, wants_foldl_classes, fixed, List.mem_singleton, Prod.mk.injEq]
    tauto

theorem indexImports_isSorted : (indexImports tree).IsSorted := by
  have fixed := (Imports.isSorted_single "collections.abc" ["Callable"]).add "rbxapi.client" ["create_client"]
  have classes := List.foldlRecOn (motive := Imports.IsSorted) (versionClasses tree)
    (fun found name => found.add (".apis." ++ name) [name]) fixed fun _ sorted name _ => sorted.add (".apis." ++ name) [name]
  unfold indexImports
  cases hasIdentityLookup tree with
  | false => exact classes
  | true => exact classes.add _ _

/-- An entry that wants the class of a module from beside the root module. -/
def IsClassEntry (classes : List String) (entry : String × List String) : Prop :=
  ∃ name ∈ classes, entry = (".apis." ++ name, [name])

/-- Adding a class keeps all entries from beside the root module in shape. -/
theorem isClassEntry_add {classes : List String} {imports : Imports} {added : String} (known : added ∈ classes)
    (shaped : ∀ entry ∈ imports.entries, Source.importGroup entry.1 = .relative → IsClassEntry classes entry) :
    ∀ entry ∈ (imports.add (".apis." ++ added) [added]).entries, Source.importGroup entry.1 = .relative →
      IsClassEntry classes entry := by
  intro entry member relative
  -- An entry with the class was there before only if it was for the same class.
  rcases Imports.mem_entries_add member with old | ⟨found, before, rfl⟩
  · exact shaped entry old relative
  · refine ⟨added, known, ?_⟩
    rcases before with rfl | there
    · rfl
    · obtain ⟨name, -, same⟩ := shaped _ there relative
      obtain ⟨home, rfl⟩ := Prod.mk.inj same
      obtain rfl := (String.append_right_inj _).mp home
      simp [Source.insertName]

theorem isClassEntry_indexImports : ∀ entry ∈ (indexImports tree).entries,
    Source.importGroup entry.1 = .relative → IsClassEntry (versionClasses tree) entry := by
  -- Only the classes are imported from beside the root module, so the other imports have the shape for want of entries.
  have fixed : ∀ entry ∈ ((Imports.single "collections.abc" ["Callable"]).add "rbxapi.client" ["create_client"]).entries,
      Source.importGroup entry.1 = .relative → IsClassEntry (versionClasses tree) entry := by
    have modules : ∀ entry ∈ ((Imports.single "collections.abc" ["Callable"]).add "rbxapi.client"
        ["create_client"]).entries, entry.1.toList.head? ≠ some '.' := by decide
    exact fun entry member relative => absurd (Source.importGroup_eq_relative_iff.mp relative) (modules entry member)
  have classes := List.foldlRecOn (motive := fun imports : Imports => ∀ entry ∈ imports.entries,
      Source.importGroup entry.1 = .relative → IsClassEntry (versionClasses tree) entry) (versionClasses tree)
    (fun found name => found.add (".apis." ++ name) [name]) fixed fun _ shaped _ known => isClassEntry_add known shaped
  unfold indexImports
  cases hasIdentityLookup tree with
  | false => exact classes
  | true =>
    intro entry member relative
    rcases Imports.mem_entries_add member with old | ⟨found, -, rfl⟩
    · exact classes entry old relative
    · exact absurd (Source.importGroup_eq_relative_iff.mp relative)
        (by decide : "rbxapi.exceptions".toList.head? ≠ some '.')

theorem head?_classModule (name : String) : (".apis." ++ name).toList.head? = some '.' := by
  simp [String.toList_append]

/-- The import of a class from beside the root module. -/
theorem statement_class (name : String) :
    Imports.statement (".apis." ++ name, [name]) = .importFrom (some ("apis." ++ name)) 1 [name] := by
  have chars : (".apis." ++ name).toList = '.' :: ("apis." ++ name).toList := by simp [String.toList_append]
  have rest : (".apis." ++ name).toList.dropWhile (· = '.') = ("apis." ++ name).toList := by
    simp [chars, String.toList_append]
  have named : ("apis." ++ name).toList.isEmpty = false := by simp [String.toList_append]
  have level : (".apis." ++ name).toList.length - ("apis." ++ name).toList.length = 1 := by
    rw [chars, List.length_cons, Nat.add_sub_cancel_left]
  rw [Imports.statement]
  dsimp only
  rw [if_pos (head?_classModule name), rest, level, named, String.ofList_toList]
  rfl

/-- The classes that the root module imports from beside it. -/
def importedClasses (tree : ApiTree) : List String := ((indexImports tree).inGroup .relative).flatMap Prod.snd

theorem inGroup_relative_indexImports : (indexImports tree).inGroup .relative =
    (importedClasses tree).map fun name => (".apis." ++ name, [name]) := by
  -- Entries of one name each are given back by their names.
  have shaped : ∀ entries : List (String × List String),
      (∀ entry ∈ entries, IsClassEntry (versionClasses tree) entry) →
        entries = (entries.flatMap Prod.snd).map fun name => (".apis." ++ name, [name]) := by
    intro entries
    induction entries with
    | nil => exact fun _ => rfl
    | cons entry rest ih =>
      intro known
      rw [List.forall_mem_cons] at known
      obtain ⟨name, -, rfl⟩ := known.1
      rw [List.flatMap_cons, List.map_append, ← ih known.2]
      rfl
  refine shaped _ fun entry member => ?_
  obtain ⟨among, relative⟩ := List.mem_filter.mp member
  exact isClassEntry_indexImports entry among (of_decide_eq_true relative)

theorem mem_importedClasses {name : String} : name ∈ importedClasses tree ↔ name ∈ versionClasses tree := by
  constructor
  · intro member
    obtain ⟨entry, inside, own⟩ := List.mem_flatMap.mp member
    obtain ⟨among, relative⟩ := List.mem_filter.mp inside
    obtain ⟨other, known, rfl⟩ := isClassEntry_indexImports entry among (of_decide_eq_true relative)
    exact List.mem_singleton.mp own ▸ known
  · intro known
    obtain ⟨names, among, own⟩ := wants_indexImports.mpr (.inl ⟨known, rfl⟩)
    refine List.mem_flatMap.mpr ⟨_, List.mem_filter.mpr ⟨among, decide_eq_true ?_⟩, own⟩
    exact Source.importGroup_eq_relative_iff.mpr (head?_classModule name)

theorem nodup_importedClasses : (importedClasses tree).Nodup := by
  -- A class is named by its module, and modules are not repeated.
  have modules := (@indexImports_isSorted tree).modules
  have distinct : (((indexImports tree).inGroup .relative).map Prod.fst).Nodup :=
    List.Nodup.sublist (List.filter_sublist.map _) (modules.imp fun before => ne_of_lt before)
  rw [inGroup_relative_indexImports, List.map_map] at distinct
  exact distinct.of_map

/-! ### The parts of the root module -/

theorem indexModule_isRelative : (indexModule tree).filter Stmt.isRelative =
    (importedClasses tree).map fun name => .importFrom (some ("apis." ++ name)) 1 [name] := by
  rw [indexModule, List.filter_append, Source.filter_isRelative_statements, inGroup_relative_indexImports, List.map_map]
  refine (List.append_nil _).trans (List.map_congr_left fun name _ => statement_class name)

theorem bindsIn_eq (statements : List Stmt) : bindsIn statements = statements.flatMap Stmt.binds := by
  induction statements with
  | nil => rfl
  | cons statement rest ih => rw [bindsIn, ih, List.flatMap_cons]

/-- Import statements define no functions, and bind what they import. -/
theorem importStatements_parts (imports : Imports) : functionsIn imports.statements = [] ∧
    bindsIn imports.statements = importedIn imports.statements := by
  rw [functionsIn, List.filterMap_eq_nil_iff, bindsIn_eq, importedIn]
  refine ⟨fun statement member => ?_, List.flatMap_congr fun statement member => ?_⟩ <;>
  · obtain ⟨module, level, names, rfl⟩ := Imports.mem_statements member
    rfl

def factoryBody (tree : ApiTree) : List Stmt :=
  .assign (.name "client") (.call (.name "RbxApiClient") clientArguments []) ::
    (if hasIdentityLookup tree then [identityLookup] else []) ++ [.return (.name "client")]

theorem classesIn_indexModule : classesIn (indexModule tree) =
    [("RbxApiClient", [clientConstructor (clientAttributes ++ tree.map apiEntry)])] := by
  rw [indexModule, Source.classesIn_append, (outerIn_statements _).2, clientClass_eq]
  rfl

theorem functionsIn_indexModule : functionsIn (indexModule tree) = [("create_rbx_client", factoryBody tree)] := by
  rw [indexModule, functionsIn, List.filterMap_append, ← functionsIn, (importStatements_parts _).1]
  rfl

theorem importedIn_indexModule : importedIn (indexModule tree) = importedIn (indexImports tree).statements := by
  rw [indexModule, Source.importedIn_append]
  exact List.append_nil _

theorem outerIn_indexModule : outerIn (indexModule tree) = (clientClass tree).outer ++ (clientFactory tree).outer := by
  rw [indexModule, Source.outerIn_eq, List.flatMap_append, ← Source.outerIn_eq, (outerIn_statements _).1]
  simp [Source.exports, Stmt.outer, Expr.targetLoads]

theorem bindsIn_indexModule : bindsIn (indexModule tree) =
    importedIn (indexImports tree).statements ++ ["__all__", "RbxApiClient", "create_rbx_client"] := by
  rw [indexModule, bindsIn_eq, List.flatMap_append, ← bindsIn_eq, (importStatements_parts _).2]
  rfl

theorem clientGives_indexModule : clientGives (indexModule tree) = givenAttributes clientAttributes ++
    tree.map fun entry => (entry.1, .dict (versionEntries entry.1 entry.2)) := by
  have body : clientGives (indexModule tree) = givenAttributes (clientAttributes ++ tree.map apiEntry) := by
    rw [clientGives, classesIn_indexModule]
    rfl
  have each : givenAttributes (tree.map apiEntry) =
      tree.map fun entry => (entry.1, .dict (versionEntries entry.1 entry.2)) := by
    rw [givenAttributes, List.filterMap_map, ← List.filterMap_eq_map]
    rfl
  rw [body, givenAttributes, List.filterMap_append, ← givenAttributes, ← givenAttributes, each]

/-! ### The client -/

theorem clientDict?_indexModule (distinct : (tree.map Prod.fst).Nodup) {entry : String × ApiNode} (member : entry ∈ tree) :
    clientDict? (indexModule tree) entry.1 = some (versionEntries entry.1 entry.2) := by
  have apart : ((tree.map fun entry => (entry.1, Expr.dict (versionEntries entry.1 entry.2))).reverse.map Prod.fst).Nodup := by
    rw [List.map_reverse, List.nodup_reverse, List.map_map]
    exact distinct
  have last := (Source.lookup_eq_some_iff apart).mpr (List.mem_reverse.mpr (List.mem_map_of_mem member))
  rw [clientDict?, clientGives_indexModule, List.reverse_append, List.lookup_append, last]
  rfl

/-- A dictionary of the client is that of an API, unless it stands for something else of the client. -/
theorem mem_of_clientDict? {name : String} {entries : List (String × Expr)}
    (held : clientDict? (indexModule tree) name = some entries) (other : name ∉ ["direct", "user_id", "user_name"]) :
    ∃ api, (name, api) ∈ tree := by
  unfold clientDict? at held
  split at held
  next found =>
    rw [clientGives_indexModule] at found
    -- An attribute is one of the session, or that of an API.
    rcases List.mem_append.mp (List.mem_reverse.mp (Source.mem_of_lookup found)) with fixed | api
    · exact absurd (List.mem_map_of_mem (f := Prod.fst) fixed) other
    · obtain ⟨entry, member, same⟩ := List.mem_map.mp api
      obtain ⟨rfl, -⟩ := Prod.mk.inj same
      exact ⟨entry.2, member⟩
  · cases held

/-- What the client holds under a key are the classes of the versions with this key, which have one name. -/
theorem keyedClass?_versionEntries {name key class' : String} {api : ApiNode} :
    keyedClass? (versionEntries name api) key = some class' ↔
      ∃ version ∈ api.generatedVersions, Name.versionKey version = key ∧ class' = Name.versionClass name version := by
  constructor
  -- An entry under the key stands for a version with this key.
  · intro found
    unfold keyedClass? at found
    split at found
    next id looked =>
      obtain rfl := Option.some.inj found
      obtain ⟨version, known, same⟩ := List.mem_map.mp (List.mem_reverse.mp (Source.mem_of_lookup looked))
      obtain ⟨keyed, called⟩ := Prod.mk.inj same
      simp only [Expr.call.injEq, Expr.name.injEq] at called
      exact ⟨version, known, keyed, called.1.symm⟩
    · cases found
  · rintro ⟨version, known, rfl, rfl⟩
    -- Of versions with this key the last one counts, and their classes are named alike.
    have looked : (versionEntries name api).reverse.lookup (Name.versionKey version) =
        some (.call (.name (Name.versionClass name version)) [selfAttribute "direct"] []) := by
      refine Source.lookup_of_unique ?_ fun other among => ?_
      · exact List.mem_reverse.mpr (List.mem_map_of_mem (f := fun version =>
          (Name.versionKey version, Expr.call (.name (Name.versionClass name version)) [selfAttribute "direct"] [])) known)
      · obtain ⟨version', -, same⟩ := List.mem_map.mp (List.mem_reverse.mp among)
        obtain ⟨key, rfl⟩ := Prod.mk.inj same
        rw [Name.versionClass, versionSuffix_eq_iff.mpr (isAlike_of_versionKey key), ← Name.versionClass]
    rw [keyedClass?, looked]
    rfl

/-! ### Names -/

theorem mem_importedIn_indexModule {name : String} : name ∈ importedIn (indexModule tree) ↔
    name ∈ versionClasses tree ∨ name ∈ ["Callable", "create_client"] ∨
      hasIdentityLookup tree = true ∧ name = "ApiError" := by
  rw [importedIn_indexModule, Imports.mem_importedIn]
  simp only [wants_indexImports]
  constructor
  · rintro ⟨module, ⟨known, -⟩ | fixed | ⟨asks, same⟩⟩
    · exact .inl known
    · exact .inr (.inl (List.mem_map_of_mem (f := Prod.snd) fixed))
    · exact .inr (.inr ⟨asks, (Prod.mk.inj same).2⟩)
  · rintro (known | fixed | ⟨asks, rfl⟩)
    · exact ⟨_, .inl ⟨known, rfl⟩⟩
    · rcases List.mem_pair.mp fixed with rfl | rfl
      · exact ⟨"collections.abc", .inr (.inl (by simp))⟩
      · exact ⟨"rbxapi.client", .inr (.inl (by simp))⟩
    · exact ⟨"rbxapi.exceptions", .inr (.inr ⟨asks, rfl⟩)⟩

/-- What the entries of the APIs load. -/
theorem mem_outer_apiEntries {name : String} : name ∈ outerIn (tree.map apiEntry) →
    name = "self" ∨ name ∈ versionClasses tree := by
  rw [Source.outerIn_eq, List.flatMap_map, List.mem_flatMap]
  rintro ⟨entry, member, loaded⟩
  rw [apiEntry, Stmt.outer, List.mem_append, Source.loads_dict, List.mem_flatMap] at loaded
  -- The target loads the client, and each value a class and the session.
  rcases loaded with own | ⟨keyed, inside, loaded⟩
  · exact .inl (List.mem_singleton.mp own)
  · obtain ⟨version, known, rfl⟩ := List.mem_map.mp inside
    rcases List.mem_pair.mp (loaded : name ∈ [Name.versionClass entry.1 version, "self"]) with rfl | own
    · exact .inr (List.mem_flatMap.mpr ⟨entry, member, List.mem_map_of_mem known⟩)
    · exact .inl own

theorem versionClasses_subset_outer : ∀ name ∈ versionClasses tree, name ∈ outerIn (tree.map apiEntry) := by
  intro name known
  obtain ⟨entry, member, inside⟩ := List.mem_flatMap.mp known
  obtain ⟨version, generated, rfl⟩ := List.mem_map.mp inside
  rw [Source.outerIn_eq, List.flatMap_map, List.mem_flatMap]
  refine ⟨entry, member, List.mem_append_right _ ?_⟩
  rw [Source.loads_dict, List.mem_flatMap]
  exact ⟨_, List.mem_map_of_mem generated, List.mem_cons_self ..⟩

/-- What the class of the client takes from around it. -/
theorem mem_outer_clientClass {name : String} : name ∈ (clientClass tree).outer ↔
    name ∈ ["str", "Callable", "create_client"] ∨
      name ∈ versionClasses tree ∧ name ∉ ["self", "token", "on_token_expired"] := by
  -- The body of the constructor binds nothing, so that only its parameters are no outer names.
  have binds : bindsIn (clientAttributes ++ tree.map apiEntry) = [] := by
    rw [bindsIn_eq, List.flatMap_append, List.flatMap_map]
    exact List.append_eq_nil_iff.mpr ⟨rfl, List.flatMap_eq_nil_iff.mpr fun _ _ => rfl⟩
  have body : outerIn (clientAttributes ++ tree.map apiEntry) =
      ["self", "create_client", "token", "on_token_expired", "self", "self"] ++ outerIn (tree.map apiEntry) := by
    rw [Source.outerIn_eq, List.flatMap_append, ← Source.outerIn_eq, ← Source.outerIn_eq]
    rfl
  have outer : (clientClass tree).outer = ["str", "Callable"] ++
      (outerIn (clientAttributes ++ tree.map apiEntry)).filter fun name =>
        !(["self", "token", "on_token_expired"] ++ bindsIn (clientAttributes ++ tree.map apiEntry)).contains name := by
    rw [clientClass_eq, Stmt.outer, outerIn, outerIn, List.append_nil]
    rfl
  have free_iff : (!(["self", "token", "on_token_expired"].contains name)) = true ↔
      name ∉ ["self", "token", "on_token_expired"] := by simp
  rw [outer, binds, body, List.append_nil, List.mem_append, List.mem_filter, List.mem_append, free_iff]
  -- Of what the entries of the APIs load, "self" is a parameter, and the rest are classes.
  constructor
  · rintro (head | ⟨fixed | entries, free⟩)
    · exact .inl (List.mem_append_left ["create_client"] head)
    · exact .inl (by grind)
    · rcases mem_outer_apiEntries entries with rfl | known
      · exact absurd (List.mem_cons_self ..) free
      · exact .inr ⟨known, free⟩
  · rintro (fixed | ⟨known, free⟩)
    · rcases (@List.mem_append _ name ["str", "Callable"] ["create_client"]).mp fixed with head | session
      · exact .inl head
      · obtain rfl := List.mem_singleton.mp session
        exact .inr ⟨.inl (by decide), by decide⟩
    · exact .inr ⟨.inr (versionClasses_subset_outer name known), free⟩

theorem mem_outer_clientFactory {name : String} : name ∈ (clientFactory tree).outer ↔
    name ∈ ["str", "Callable", "RbxApiClient"] ∨ hasIdentityLookup tree = true ∧ name = "ApiError" := by
  have outer (asks : Bool) (found : hasIdentityLookup tree = asks) : (clientFactory tree).outer =
      ["str", "Callable", "RbxApiClient", "RbxApiClient"] ++ if asks then ["ApiError"] else [] := by
    rw [clientFactory, found]
    cases asks <;> decide
  rw [outer _ rfl]
  cases hasIdentityLookup tree <;> simp [or_assoc]

/-! ### Meanings of names -/

theorem asksIdentity_iff : AsksIdentity (indexModule tree) ↔ hasIdentityLookup tree = true := by
  have body : (functionsIn (indexModule tree)).lookup "create_rbx_client" = some (factoryBody tree) := by
    rw [functionsIn_indexModule]
    rfl
  constructor
  · rintro ⟨body', rest, handler, found, member⟩
    obtain rfl := Option.some.inj (body.symm.trans found)
    -- Without an identity API the factory has no statement that handles an error.
    by_contra never
    simp [factoryBody, never] at member
  · intro asks
    have there : identityLookup ∈ factoryBody tree := by
      rw [factoryBody, if_pos asks]
      exact List.mem_cons_of_mem _ (List.mem_cons_self ..)
    exact ⟨_, _, _, body, there⟩

theorem underscore_of_mem {name : String} (known : name ∈ versionClasses tree) : '_' ∈ name.toList := by
  obtain ⟨entry, -, inside⟩ := List.mem_flatMap.mp known
  obtain ⟨version, -, rfl⟩ := List.mem_map.mp inside
  simp [Name.versionClass, String.toList_append]

theorem fault_iff : "ApiError" ∈ importedIn (indexModule tree) ↔ AsksIdentity (indexModule tree) := by
  rw [mem_importedIn_indexModule, asksIdentity_iff]
  constructor
  · rintro (known | fixed | ⟨asks, -⟩)
    · exact absurd (underscore_of_mem known) (by decide)
    · exact absurd fixed (by decide)
    · exact asks
  · exact fun asks => .inr (.inr ⟨asks, rfl⟩)

/-- What the client takes from around its functions. -/
theorem indexModule_closed : ∀ name ∈ outerIn (indexModule tree),
    name ∈ importedIn (indexModule tree) ∨ name ∈ definedIn (indexModule tree) ∨ name ∈ builtinTypes := by
  intro name loaded
  rw [definedIn, classesIn_indexModule, functionsIn_indexModule, mem_importedIn_indexModule]
  rw [outerIn_indexModule, List.mem_append, mem_outer_clientClass, mem_outer_clientFactory] at loaded
  -- What the class loads, then what the factory loads: fixed names, classes of versions, and the error.
  rcases loaded with (fixed | ⟨known, -⟩) | (fixed | asks)
  · simp only [List.mem_cons, List.not_mem_nil, or_false] at fixed
    rcases fixed with rfl | rfl | rfl
    · exact .inr (.inr (by decide))
    · exact .inl (.inr (.inl (by decide)))
    · exact .inl (.inr (.inl (by decide)))
  · exact .inl (.inl known)
  · simp only [List.mem_cons, List.not_mem_nil, or_false] at fixed
    rcases fixed with rfl | rfl | rfl
    · exact .inr (.inr (by decide))
    · exact .inl (.inr (.inl (by decide)))
    · exact .inr (.inl (List.mem_cons_self ..))
  · exact .inl (.inr (.inr asks))

section Capital

variable (capital : ∀ entry ∈ tree, ∃ c ∈ entry.1.toList.head?, c.isUpper = true)
include capital

theorem capital_of_mem {name : String} (known : name ∈ versionClasses tree) : ∃ c ∈ name.toList.head?, c.isUpper = true := by
  obtain ⟨entry, member, inside⟩ := List.mem_flatMap.mp known
  obtain ⟨version, -, rfl⟩ := List.mem_map.mp inside
  obtain ⟨c, first, upper⟩ := capital entry member
  refine ⟨c, ?_, upper⟩
  rw [Name.versionClass, String.toList_append, String.toList_append, List.append_assoc, List.head?_append,
    Option.mem_def.mp first]
  rfl

/-- A class is named like nothing else in the root module. -/
theorem otherNames_not_class : ∀ name ∈ ["Callable", "create_client", "ApiError", "__all__", "RbxApiClient",
    "create_rbx_client", "self", "token", "on_token_expired"], name ∉ versionClasses tree := by
  -- A class has a capital letter first and an underscore somewhere; each of the names misses one of these.
  have other : ∀ name ∈ ["Callable", "create_client", "ApiError", "__all__", "RbxApiClient", "create_rbx_client", "self",
      "token", "on_token_expired"], '_' ∉ name.toList ∨ ∀ c ∈ name.toList.head?, c.isUpper = false := by simp
  intro name member known
  rcases other name member with plain | small
  · exact plain (underscore_of_mem known)
  · obtain ⟨c, first, upper⟩ := capital_of_mem capital known
    exact Bool.false_ne_true ((small c first).symm.trans upper)

/-- Each name is wanted from one module. -/
theorem indexImports_home {name first second : String} (here : (indexImports tree).Wants first name)
    (there : (indexImports tree).Wants second name) : first = second := by
  have noClass : ∀ name ∈ ["Callable", "create_client", "ApiError"], name ∉ versionClasses tree :=
    fun name member => otherNames_not_class capital name (by simp at member ⊢; tauto)
  -- A class comes from its own module. The fixed names have a module each, and are no classes.
  have cases (module : String) (wants : (indexImports tree).Wants module name) :
      (name ∈ versionClasses tree ∧ module = ".apis." ++ name) ∨
        (module, name) ∈ [("collections.abc", "Callable"), ("rbxapi.client", "create_client"),
          ("rbxapi.exceptions", "ApiError")] := by
    rcases wants_indexImports.mp wants with known | fixed | ⟨-, fault⟩
    · exact .inl known
    · exact .inr (List.mem_append_left [_] fixed)
    · rw [fault]
      exact .inr (by decide)
  rcases cases first here with ⟨known, rfl⟩ | fixed <;> rcases cases second there with ⟨known', rfl⟩ | fixed'
  · rfl
  · exact absurd known (noClass name (List.mem_map_of_mem (f := Prod.snd) fixed'))
  · exact absurd known' (noClass name (List.mem_map_of_mem (f := Prod.snd) fixed))
  · simp only [List.mem_cons, Prod.mk.injEq, List.not_mem_nil, or_false] at fixed fixed'
    rcases fixed with ⟨rfl, rfl⟩ | ⟨rfl, rfl⟩ | ⟨rfl, rfl⟩ <;>
      exact (by simpa using fixed' : second = _).symm

/-- If no API can be taken for another name of the root module, no name has two meanings, and all imports are used. -/
theorem indexModule_apart :
    (bindsIn (indexModule tree)).Nodup ∧ ∀ name ∈ importedIn (indexModule tree), name ∈ outerIn (indexModule tree) := by
  refine ⟨?_, fun name member => ?_⟩
  · rw [bindsIn_indexModule, List.nodup_append]
    -- What is imported is apart in itself, and from the three names that the module defines.
    refine ⟨indexImports_isSorted.importedIn_nodup fun _ _ _ => indexImports_home capital, by decide, ?_⟩
    rintro name imported _ own rfl
    rw [← importedIn_indexModule, mem_importedIn_indexModule] at imported
    rcases imported with known | fixed | ⟨-, rfl⟩
    · exact otherNames_not_class capital name (by simp at own ⊢; tauto) known
    · rcases List.mem_pair.mp fixed with rfl | rfl <;> exact absurd own (by decide)
    · exact absurd own (by decide)
  · rw [outerIn_indexModule, List.mem_append, mem_outer_clientClass, mem_outer_clientFactory]
    -- Classes are used by the client, unless a parameter takes their name; the error is used by the factory.
    rcases mem_importedIn_indexModule.mp member with known | fixed | asks
    · refine .inl (.inr ⟨known, fun argument => ?_⟩)
      exact otherNames_not_class capital name (by simp at argument ⊢; tauto) known
    · exact .inl (.inl (List.mem_cons_of_mem "str" fixed))
    · exact .inr (.inr asks)

end Capital

/-- The functions of the class of a version are its constructor and its methods. -/
theorem functionsIn_class (methods : List Method) :
    (functionsIn (classConstructor :: methods.map Method.function)).map Prod.fst = "__init__" :: methods.map Method.name := by
  have functions : functionsIn (methods.map Method.function) = methods.map fun method =>
      (method.name, method.requiredArguments.map (·.guard method.name) ++ [.return method.request.call]) := by
    rw [functionsIn, List.filterMap_map, ← List.filterMap_eq_map]
    rfl
  have all : functionsIn (classConstructor :: methods.map Method.function) =
      ("__init__", [.assign (selfAttribute "client") (.name "client")]) :: functionsIn (methods.map Method.function) := rfl
  rw [all, functions, List.map_cons, List.map_map]
  rfl

/-- Imports offer nothing, so that a version module offers its class. -/
theorem offeredIn_versionModule (api : ApiNode) (version : String) :
    offeredIn (versionModule api version) = [Name.versionClass api.metadata.identifier version] := by
  have imports (imports : Imports) : offeredIn imports.statements = [] := by
    refine List.flatMap_eq_nil_iff.mpr fun statement member => ?_
    obtain ⟨module, level, names, rfl⟩ := Imports.mem_statements member
    rfl
  rw [versionModule, offeredIn, List.flatMap_append, ← offeredIn, imports]
  rfl

end Tree
end Bindery
