import Bindery.Package.IndexModule
import Bindery.Package.VersionModule
import Bindery.Proofs.Name.Versions
import Bindery.Proofs.Package.LegalMethods

/-!
# When modules are legal

A version module is legal if its methods are. The root module is legal if no API is named like a constant.
-/
namespace Bindery

open Bindery.Source (AllNullFree Expr Gives Imports Stmt areLegalAll areShallowAll bracketLimit
  isLegalIn_iff_of_depth isLegalName)

/-! ### Version modules -/

/-- The name of a class starts with a letter, and is no constant. -/
theorem versionClass_isLegalName {api : String} (letters : IsLetters api) (version : String) :
    isLegalName (Name.versionClass api version) = true := by
  refine (Source.isLegalName_iff (versionClass_isPlain letters.isPlain version)).mpr
    ⟨versionClass_not_keyword api version, fun constant => ?_⟩
  -- A class starts with a letter and the constant with an underscore.
  obtain ⟨c, rest, chars, letter⟩ := versionClass_start letters version
  rw [constant] at chars
  obtain rfl : '_' = c := (List.cons.inj chars).1
  cases letter

theorem TypeHint.imports_isLegal (hint : TypeHint) : hint.imports.IsLegal := by
  unfold TypeHint.imports
  split
  · exact Imports.isLegal_single (by decide) (by decide)
  · exact Imports.isLegal_empty

theorem Method.imports_isLegal (method : Method) : method.imports.IsLegal := by
  -- Hints import nothing or one name; the markers come to them if an argument is required.
  have hinted : (method.arguments.foldl (fun (found : Imports) argument => found.merge argument.imports)
      (.single "typing" ["Any"])).IsLegal := by
    refine (Imports.isLegal_single (by decide) (by decide)).foldl_merge fun argument _ => ?_
    unfold Argument.imports
    cases TypeHint.ofLabel? argument.type with
    | none => exact Imports.isLegal_empty
    | some hint => exact hint.imports_isLegal
  unfold Method.imports
  split
  · exact hinted
  · exact hinted.add (by decide) (by decide)

theorem renderClass_imports_isLegal (name documentation : String) (methods : List Method) :
    (renderClass name documentation methods).imports.IsLegal :=
  (Imports.isLegal_single (by decide) (by decide)).foldl_merge fun method _ => method.imports_isLegal

/-- Methods whose names are identifiers and apart. -/
structure Method.IsNamed (method : Method) : Prop where
  sound : method.IsScoped
  plain : ∀ name ∈ method.name :: method.argumentNames, IsPlain name

/-- The module of a version is legal just if nothing is left to ask of its methods. -/
theorem versionModule_isLegal {api : ApiNode} (letters : IsLetters api.metadata.identifier) {version : String}
    (named : ∀ method ∈ api.methods version, method.IsNamed) :
    areLegalAll (versionModule api version) = true ↔ ∀ method ∈ api.methods version, method.IsEmittable := by
  have imports := (renderClass_imports_isLegal (Name.versionClass api.metadata.identifier version)
    api.metadata.title (api.methods version)).statements
  have className := versionClass_isLegalName letters version
  -- Imports, exports, constructor and the name of the class are legal whatever the methods are.
  have offered : (Source.exports [Name.versionClass api.metadata.identifier version]).isLegal = true := by
    have names : (Expr.tuple [.text (Name.versionClass api.metadata.identifier version)]).isLegal = true :=
      (isLegalIn_iff_of_depth (by decide : 2 ≤ bracketLimit)).mpr
        (Expr.isSound_iff.mpr ⟨rfl, List.forall_mem_singleton.mpr rfl⟩)
    have target : (Expr.name "__all__").isLegalTarget = true := by decide
    simp [Source.exports, Stmt.isLegal, names, target]
  have constructor_legal : classConstructor.isLegal = true := by decide
  rw [Source.areLegalAll_iff] at imports ⊢
  rw [versionModule, List.forall_mem_append, and_iff_right imports, List.forall_mem_cons, and_iff_right offered,
    List.forall_mem_singleton]
  simp only [renderClass, Stmt.isLegal, className, Bool.true_and, areLegalAll, constructor_legal]
  rw [Source.areLegalAll_iff, List.forall_mem_map]
  exact forall₂_congr fun method member => (named method member).sound.isLegal_function (named method member).plain

theorem versionModule_isShallow {api : ApiNode} {version : String}
    (named : ∀ method ∈ api.methods version, method.IsNamed)
    (emittable : ∀ method ∈ api.methods version, method.IsEmittable) :
    areShallowAll (versionModule api version) = true := by
  have imports := Source.areShallowAll_statements (renderClass
    (Name.versionClass api.metadata.identifier version) api.metadata.title (api.methods version)).imports
  have members : areShallowAll (classConstructor :: (api.methods version).map Method.function) = true := by
    refine Source.areShallowAll_iff.mpr (List.forall_mem_cons.mpr ⟨by decide, fun statement member => ?_⟩)
    obtain ⟨method, own, rfl⟩ := List.mem_map.mp member
    exact (named method own).sound.isShallow_function (named method own).plain (emittable method own)
  rw [Source.areShallowAll_iff] at imports ⊢
  refine List.forall_mem_append.mpr ⟨imports, List.forall_mem_cons.mpr ⟨rfl, List.forall_mem_singleton.mpr ?_⟩⟩
  exact members

/-! ### The root module -/

/-- A class can be imported from its module beside the root module. -/
theorem isImportable_class {name : String} (plain : IsPlain name) (legal : isLegalName name = true) :
    Source.isImportable (".apis." ++ name) = true := by
  have noDot : ∀ c ∈ name.toList, decide (c = '.') = false := by
    intro c member
    refine decide_eq_false ?_
    rintro rfl
    exact absurd (plain.word _ member) (by decide)
  have chars : (".apis." ++ name).toList = '.' :: ("apis".toList ++ '.' :: name.toList) := by
    simp [String.toList_append]
  have rest : (".apis." ++ name).toList.dropWhile (· = '.') = "apis".toList ++ '.' :: name.toList := by
    rw [chars]
    rfl
  -- The dotted name falls apart into two legal names.
  have pieces : Name.splitOnAny (· = '.') ("apis".toList ++ '.' :: name.toList) = ["apis".toList, name.toList] := by
    rw [splitOnAny_append_cons (by simp) (by decide), splitOnAny_of_none noDot]
  have module_legal : Source.isLegalModule (String.ofList ("apis".toList ++ '.' :: name.toList)) = true := by
    have apis : isLegalName (String.ofList "apis".toList) = true := by decide
    simp only [Source.isLegalModule, String.toList_ofList, pieces, List.all_cons, List.all_nil,
      String.ofList_toList, legal]
    simpa using apis
  have head : (".apis." ++ name).toList.head? = some '.' := by
    rw [chars]
    rfl
  simp only [Source.isImportable, Imports.statement, rest, if_pos head]
  simpa [Stmt.isLegal] using module_legal

section Tree

variable {tree : ApiTree}

theorem indexImports_isLegal (letters : ∀ entry ∈ tree, IsLetters entry.1) : (indexImports tree).IsLegal := by
  have fixed : ((Imports.single "collections.abc" ["Callable"]).add "rbxapi.client" ["create_client"]).IsLegal :=
    (Imports.isLegal_single (by decide) (by decide)).add (by decide) (by decide)
  have classes : ∀ name ∈ versionClasses tree, IsPlain name ∧ isLegalName name = true := by
    intro name member
    obtain ⟨entry, among, inside⟩ := List.mem_flatMap.mp member
    obtain ⟨version, -, rfl⟩ := List.mem_map.mp inside
    exact ⟨versionClass_isPlain (letters entry among).isPlain version,
      versionClass_isLegalName (letters entry among) version⟩
  -- Classes are added one by one.
  have all : ∀ (names : List String) (start : Imports), start.IsLegal →
      (∀ name ∈ names, IsPlain name ∧ isLegalName name = true) →
        (names.foldl (fun (found : Imports) name => found.add (".apis." ++ name) [name]) start).IsLegal := by
    intro names
    induction names with
    | nil => exact fun _ legal _ => legal
    | cons name rest ih =>
      intro start legal each
      rw [List.forall_mem_cons] at each
      exact ih _ (legal.add (isImportable_class each.1.1 each.1.2) (by simpa using each.1.2)) each.2
  simp only [indexImports]
  split
  · exact (all _ _ fixed classes).add (by decide) (by decide)
  · exact all _ _ fixed classes

/-- The versions of an API make sound calls with few levels. -/
theorem versionEntries_sound {name : String} (letters : IsLetters name) (api : ApiNode) :
    (Expr.dict (versionEntries name api)).IsSound ∧ (Expr.dict (versionEntries name api)).depth ≤ 4 := by
  -- Each value is a call of a class with the client.
  have each : ∀ entry ∈ versionEntries name api, entry.2.IsSound ∧ entry.2.depth ≤ 3 := by
    intro entry member
    obtain ⟨version, -, rfl⟩ := List.mem_map.mp member
    have class_sound : (Expr.name (Name.versionClass name version)).IsSound := Expr.isSound_iff.mpr
      ⟨Source.isValueName_of_isPlain (versionClass_isPlain letters.isPlain version)
        (versionClass_not_keyword name version), nofun⟩
    exact ⟨Source.isSound_call.mpr ⟨by simp, class_sound, by decide, by simp⟩, (by decide : 3 ≤ 3)⟩
  refine ⟨Source.isSound_dict.mpr fun entry member => (each entry member).1, ?_⟩
  have few : Source.nestingOfNamed (fun _ => true) (versionEntries name api) ≤ 3 :=
    Source.nestingOfNamed_le_iff.mpr fun entry member => (each entry member).2
  simp only [Expr.depth, Expr.nesting, if_true]
  omega

def apiEntry (entry : String × ApiNode) : Stmt :=
  .assign (Source.selfAttribute entry.1) (.dict (versionEntries entry.1 entry.2))

/-- The entry of an API in the client is legal if its name is no keyword. -/
theorem isLegal_apiEntry {entry : String × ApiNode} (letters : IsLetters entry.1) :
    (apiEntry entry).isLegal = true ↔ entry.1 ∉ Name.keywords := by
  have noConstant : entry.1 ≠ "__debug__" := fun same =>
    absurd (letters.letters '_' (by simp [same])) (by decide)
  -- The attribute has the name of the API, which is the only part that can be illegal.
  have target : (Source.selfAttribute entry.1).isLegalTarget = true ↔ entry.1 ∉ Name.keywords := by
    have legal := Source.isLegalName_iff letters.isPlain
    refine (isLegalIn_iff_of_depth (by decide : 2 ≤ bracketLimit)).trans ?_
    rw [Expr.isSound_iff, Source.selfAttribute, Expr.isLegalPart, legal, and_assoc]
    exact and_iff_left ⟨noConstant, List.forall_mem_singleton.mpr (by decide)⟩
  obtain ⟨sound, few⟩ := versionEntries_sound letters entry.2
  have value : (Expr.dict (versionEntries entry.1 entry.2)).isLegal = true := by
    refine (isLegalIn_iff_of_depth ?_).mpr sound
    exact Nat.le_trans (Nat.add_le_add_left few 0) (by decide)
  rw [apiEntry, Stmt.isLegal, value, Bool.and_true, target]

theorem isShallow_apiEntry {entry : String × ApiNode} (letters : IsLetters entry.1) :
    (apiEntry entry).isShallow = true := by
  have value : (Expr.dict (versionEntries entry.1 entry.2)).isShallow = true :=
    decide_eq_true (Nat.le_trans (versionEntries_sound letters entry.2).2 (by decide))
  have target : (Source.selfAttribute entry.1).isShallow = true := rfl
  rw [apiEntry, Stmt.isShallow, value, target]
  rfl

theorem clientFactory_isLegal (tree : ApiTree) :
    (clientFactory tree).isLegal = true ∧ (clientFactory tree).isShallow = true := by
  unfold clientFactory
  cases hasIdentityLookup tree <;> decide

/-- The start of the constructor of the client. -/
def clientAttributes : List Stmt :=
  [.assign (Source.selfAttribute "direct") (.call (.name "create_client") clientArguments []),
    .assign (Source.selfAttribute "user_id") .none, .assign (Source.selfAttribute "user_name") .none]

/-- The constructor of the client takes what it is created with. -/
def clientConstructor (body : List Stmt) : Stmt :=
  .function false "__init__" ({ name := "self" } :: clientParameters) [] .none
    ("Args:\n    token: Authorization token (.ROBLOSECURITY).\n" ++
      "    on_token_expired: Called when the token turns out to be expired.") body

theorem clientClass_eq (tree : ApiTree) :
    clientClass tree = .classDef "RbxApiClient" "General class for working with the Roblox API."
      [clientConstructor (clientAttributes ++ tree.map apiEntry)] := rfl

theorem clientConstructor_isLegal (body : List Stmt) :
    (clientConstructor body).isLegal = areLegalAll body ∧ (clientConstructor body).isShallow = areShallowAll body := by
  have parameters : Source.areLegalParameters (({ name := "self" } :: clientParameters) ++ []) = true := by decide
  have shallow : (({ name := "self" } :: clientParameters) ++ [] : List Source.Parameter).all
      Source.Parameter.isShallow = true := by decide
  have named : isLegalName "__init__" = true := by decide
  have result : Expr.none.isLegal = true ∧ Expr.none.isShallow = true := by decide
  simp only [clientConstructor, Stmt.isLegal, Stmt.isShallow, parameters, shallow, named, result, Bool.true_and,
    and_self]

theorem clientClass_isLegal :
    (clientClass tree).isLegal = true ↔ ∀ entry ∈ tree, (apiEntry entry).isLegal = true := by
  have fixed : ∀ statement ∈ clientAttributes, statement.isLegal = true := by decide
  have named : isLegalName "RbxApiClient" = true := by decide
  rw [clientClass_eq, Stmt.isLegal, named, Bool.true_and, areLegalAll, areLegalAll, Bool.and_true,
    (clientConstructor_isLegal _).1, Source.areLegalAll_iff, List.forall_mem_append, List.forall_mem_map]
  exact and_iff_right fixed

theorem clientClass_isShallow (letters : ∀ entry ∈ tree, IsLetters entry.1) : (clientClass tree).isShallow = true := by
  have fixed : ∀ statement ∈ clientAttributes, statement.isShallow = true := by decide
  rw [clientClass_eq, Stmt.isShallow, areShallowAll, areShallowAll, Bool.and_true, (clientConstructor_isLegal _).2,
    Source.areShallowAll_iff, List.forall_mem_append, List.forall_mem_map]
  exact ⟨fixed, fun entry member => isShallow_apiEntry (letters entry member)⟩

/-- What the root module offers. -/
theorem rootExports_isLegal : (Source.exports ["RbxApiClient", "create_rbx_client"]).isLegal = true ∧
    (Source.exports ["RbxApiClient", "create_rbx_client"]).isShallow = true := by decide

/-- The root module is legal just if no API has the name of a constant. -/
theorem indexModule_isLegal (letters : ∀ entry ∈ tree, IsLetters entry.1) :
    areLegalAll (indexModule tree) = true ↔ ∀ entry ∈ tree, entry.1 ∉ Name.keywords := by
  have imports := Source.areLegalAll_iff.mp (indexImports_isLegal letters).statements
  rw [indexModule, Source.areLegalAll_iff, List.forall_mem_append, and_iff_right imports, List.forall_mem_cons,
    and_iff_right rootExports_isLegal.1, List.forall_mem_cons, List.forall_mem_singleton,
    and_iff_left (clientFactory_isLegal tree).1, clientClass_isLegal]
  exact forall₂_congr fun entry member => isLegal_apiEntry (letters entry member)

theorem indexModule_isShallow (letters : ∀ entry ∈ tree, IsLetters entry.1) :
    areShallowAll (indexModule tree) = true := by
  have imports := Source.areShallowAll_iff.mp (Source.areShallowAll_statements (indexImports tree))
  rw [indexModule, Source.areShallowAll_iff, List.forall_mem_append, List.forall_mem_cons, List.forall_mem_cons,
    List.forall_mem_singleton]
  exact ⟨imports, rootExports_isLegal.2, clientClass_isShallow letters, (clientFactory_isLegal tree).2⟩

end Tree

end Bindery
