import Bindery.Package.MethodSource
import Bindery.Proofs.Method.Compilation
import Bindery.Proofs.Name.Versions
import Bindery.Proofs.Source.Classes

/-!
# Operations on the class of a version

The methods of a document become the functions of one class. Their names come from the paths, and what
tells paths apart may be lost on the way: versions, placeholders, the name of the API, accents and case.
Verbs tell the operations of one path apart, but nothing tells paths apart whose names are the same.
-/
namespace Bindery

open Bindery.Data (Datum)
open Bindery.Schema (Metadata Operation ParsedDocument)
open Bindery.Source (LosesNothing ReachesAll Stmt definedAt instanceAttributes isPrivate keptFunctions keptName
  keptNames)

/-! ### Names of methods -/

/-- The names that the operations of a path give to their methods. -/
def pathMethodNames (api : String) (entry : String × List (String × Operation)) : List String :=
  entry.2.map fun operation => methodName (Name.method api entry.1) operation.1 (1 < entry.2.length)

/-- The names that the operations of a document give to their methods. -/
def documentMethodNames (api : String) (document : ParsedDocument) : List String :=
  document.operations.flatMap (pathMethodNames api)

theorem pathCompiledTo_names {metadata : Metadata} {definitions : Schema.Definitions}
    {entry : String × List (String × Operation)} {methods : List Method}
    (compiled : PathCompiledTo metadata definitions entry methods) :
    methods.map Method.name = pathMethodNames metadata.identifier entry := by
  unfold PathCompiledTo at compiled
  unfold pathMethodNames
  -- Whether there are several verbs is fixed for the path, while the induction takes verbs off.
  generalize decide (1 < entry.2.length) = several at compiled ⊢
  generalize entry.2 = operations at compiled ⊢
  induction compiled with
  | nil => rfl
  | cons first _ ih =>
    obtain ⟨method, made, rfl⟩ := first
    obtain ⟨request, -, named, -⟩ := compileOperation_eq_ok made
    rw [List.map_cons, List.map_cons, ih, named]

theorem compileDocument_names {metadata : Metadata} {document : ParsedDocument}
    {methods : Noted (List Method)} (compiled : compileDocument metadata document = .ok methods) :
    methods.value.map Method.name = documentMethodNames metadata.identifier document := by
  obtain ⟨groups, same, made⟩ := compilePaths_eq_ok compiled
  rw [same, documentMethodNames]
  clear same
  generalize document.operations = operations at made ⊢
  induction made with
  | nil => rfl
  | cons first _ ih =>
    rw [List.flatten_cons, List.map_append, ih, pathCompiledTo_names first, List.flatMap_cons]

theorem verbTitles_word : ∀ title ∈ verbTitles, ∀ c ∈ title.toList, Text.isWordChar c = true ∧ c.isDigit = false := by
  simp [verbTitles, Text.isWordChar]

/-- No keyword starts like a verb. -/
theorem verbTitles_start : ∀ title ∈ verbTitles, title ≠ "" ∧
    ∀ keyword ∈ Name.keywords, title.toList.isPrefixOf keyword.toList = false := by
  decide

/-- The verb in front of a name stays as it is. -/
theorem methodName_several {verb : String} (known : Schema.isVerb verb = true) (base : String) :
    methodName base verb true =
      Text.title verb ++ String.ofList ((base.toList.flatMap Text.baseChars).filter Text.isWordChar) := by
  have titled := title_mem known
  simp only [methodName, if_true]
  generalize Text.title verb = title at titled ⊢
  obtain ⟨something, apart⟩ := verbTitles_start title titled
  have word := verbTitles_word title titled
  -- The verb has word characters only, and all of them are kept.
  have kept : (title.toList.flatMap Text.baseChars).filter Text.isWordChar = title.toList := by
    have plain : ∀ c ∈ title.toList, Text.baseChars c = [c] := by
      intro c member
      rw [Text.baseChars, if_pos (ascii_of_isWordChar (word c member).1)]
    rw [List.flatMap_congr plain, List.flatMap_singleton']
    exact List.filter_eq_self.mpr fun c member => (word c member).1
  -- It does not start with a digit, so nothing is put in front of the name.
  have chars : Name.identifierChars (title ++ base).toList =
      title.toList ++ (base.toList.flatMap Text.baseChars).filter Text.isWordChar := by
    obtain ⟨c, rest, letters⟩ := List.exists_cons_of_ne_nil fun nothing =>
      something (String.toList_eq_nil_iff.mp nothing)
    rw [Name.identifierChars, String.toList_append, List.flatMap_append, List.filter_append, kept, letters,
      List.cons_append]
    have noDigit := (word c (by simp [letters])).2
    simp [noDigit]
  -- No keyword starts like a verb, so nothing is put behind the name either.
  have free : Name.isKeyword (String.ofList (Name.identifierChars (title ++ base).toList)) = false := by
    rw [chars, Name.isKeyword, ← Bool.not_eq_true, List.contains_iff_mem]
    intro member
    have none := apart _ member
    rw [String.toList_ofList, ← Bool.not_eq_true, List.isPrefixOf_iff_prefix] at none
    exact none (List.prefix_append ..)
  have name : Name.member (title ++ base) =
      title ++ String.ofList ((base.toList.flatMap Text.baseChars).filter Text.isWordChar) := by
    rw [Name.member, Name.avoidKeyword, free, if_neg Bool.false_ne_true, chars, String.ofList_append,
      String.ofList_toList]
  rw [name, if_neg]
  simp [something]

/-- The verbs of a path tell its methods apart. -/
theorem pathMethodNames_nodup (api : String) {entry : String × List (String × Operation)}
    (known : ∀ operation ∈ entry.2, Schema.isVerb operation.1 = true)
    (verbs : (entry.2.map fun operation => Text.lower operation.1).Nodup) :
    (pathMethodNames api entry).Nodup := by
  unfold pathMethodNames
  by_cases several : 1 < entry.2.length
  · rw [List.Nodup, List.pairwise_map] at verbs ⊢
    -- What follows the verb is the same, so equal names have equal verbs.
    refine verbs.imp_of_mem fun {first second} here there apart same => apart ?_
    rw [decide_eq_true several, methodName_several (known first here), methodName_several (known second there),
      ← String.toList_inj, String.toList_append, String.toList_append, List.append_cancel_right_eq,
      String.toList_inj] at same
    exact lower_eq_of_title_eq (known first here) (known second there) same
  -- A path with one verb at most has one name at most.
  · match entry.2, several with
    | [], _ => exact List.nodup_nil
    | [_], _ => exact List.nodup_singleton _
    | _ :: _ :: _, several => simp at several

/-! ### The class of a version -/

/-- The body of the class that holds methods. -/
def classMembers (methods : List Method) : List Stmt := classConstructor :: methods.map Method.function

theorem defined_classMembers (methods : List Method) :
    (classMembers methods).filterMap Stmt.defines? = "__init__" :: methods.map Method.name := by
  have own : methods.filterMap (Stmt.defines? ∘ Method.function) = methods.map Method.name := by
    rw [← List.filterMap_eq_map]
    rfl
  rw [← own, ← List.filterMap_map]
  rfl

theorem keptName_constructor (className name : String) :
    keptName className name = "__init__" ↔ name = "__init__" := by
  refine Source.keptName_eq_iff (by decide) fun c rest chars => ?_
  simp at chars
  exact chars.1.symm

theorem keptName_client (className name : String) : keptName className name = "client" ↔ name = "client" := by
  refine Source.keptName_eq_iff (by decide) fun c rest chars => ?_
  simp at chars

theorem keptNames_classMembers (className : String) (methods : List Method) :
    keptNames className (classMembers methods) =
      "__init__" :: (methods.map Method.name).map (keptName className) := by
  rw [keptNames, defined_classMembers, List.map_cons, (keptName_constructor className "__init__").mpr rfl]

/-- The constructor gives an instance its client, if it is left. -/
theorem instanceAttributes_classMembers {className : String} {methods : List Method}
    (apart : (keptNames className (classMembers methods)).Nodup) :
    instanceAttributes className (classMembers methods) = ["client"] := by
  -- If kept names differ, the constructor is still the one that the class starts with.
  have left := Source.lookup_all_iff.mpr apart 0 "__init__" rfl
  rw [(keptName_constructor className "__init__").mpr rfl] at left
  rw [instanceAttributes, left]
  simp [classMembers, classConstructor, Source.selfAttribute, (keptName_client className "client").mpr rfl]

theorem losesNothing_classMembers_iff (className : String) (methods : List Method) :
    LosesNothing className (classMembers methods) ↔
      ((methods.map Method.name).map (keptName className)).Nodup ∧
        "__init__" ∉ methods.map Method.name ∧ "client" ∉ methods.map Method.name := by
  -- The two special names are kept for themselves only.
  have mem_kept : ∀ special, (∀ name, keptName className name = special ↔ name = special) →
      (special ∈ (methods.map Method.name).map (keptName className) ↔ special ∈ methods.map Method.name) := by
    intro special only
    simp only [List.mem_map (f := keptName className), only, exists_eq_right]
  have kept := keptNames_classMembers className methods
  have constructor_iff := mem_kept _ (keptName_constructor className)
  have client_iff := mem_kept _ (keptName_client className)
  rw [Source.losesNothing_iff]
  constructor
  · rintro ⟨apart, shown⟩
    rw [instanceAttributes_classMembers apart, kept, List.forall_mem_cons] at shown
    rw [kept, List.nodup_cons, constructor_iff] at apart
    refine ⟨apart.2, apart.1, fun member => ?_⟩
    exact shown.2 "client" (client_iff.mpr member) (List.mem_singleton_self _)
  · rintro ⟨distinct, noConstructor, noClient⟩
    -- The constructor comes first in the class, so its name must not come again.
    have apart : (keptNames className (classMembers methods)).Nodup := by
      rw [kept, List.nodup_cons, constructor_iff]
      exact ⟨noConstructor, distinct⟩
    rw [instanceAttributes_classMembers apart, kept, List.forall_mem_cons]
    refine ⟨kept ▸ apart, by decide, fun name member hidden => ?_⟩
    obtain rfl := List.mem_singleton.mp hidden
    exact noClient (client_iff.mp member)

/-- The name of the class of a version is more than underscores. -/
theorem versionClass_owner {api : String} (letters : IsLetters api) (version : String) :
    (Name.versionClass api version).toList.dropWhile (· = '_') ≠ [] := by
  obtain ⟨c, rest, chars, letter⟩ := versionClass_start letters version
  have apart : c ≠ '_' := by
    rintro rfl
    cases letter
  simp [chars, apart]

/-- The methods of a document have the names of its operations, which differ within a path that has each
verb once. On the class of a version no operation is lost if and only if all names differ, as the class
keeps them, and none is that of the constructor or of the client. Each operation answers to its own name
if and only if moreover no name is private to the class. -/
theorem compileDocument_reachable_iff {value : Datum} {document : ParsedDocument}
    (parsed : Schema.parseDocument value = .valid document) {metadata : Metadata}
    (letters : IsLetters metadata.identifier) {methods : Noted (List Method)}
    (compiled : compileDocument metadata document = .ok methods) (version documentation : String) :
    let className := Name.versionClass metadata.identifier version
    let names := documentMethodNames metadata.identifier document
    ∃ members, (renderClass className documentation methods.value).source =
        .classDef className documentation members ∧
      members.filterMap Stmt.defines? = "__init__" :: names ∧
      (∀ entry ∈ document.operations, (entry.2.map fun operation => Text.lower operation.1).Nodup →
        (pathMethodNames metadata.identifier entry).Nodup) ∧
      (LosesNothing className members ↔
        (names.map (keptName className)).Nodup ∧ "__init__" ∉ names ∧ "client" ∉ names) ∧
      (ReachesAll className members ↔
        names.Nodup ∧ "__init__" ∉ names ∧ "client" ∉ names ∧ ∀ name ∈ names, isPrivate name = false) := by
  intro className names
  have named : methods.value.map Method.name = names := compileDocument_names compiled
  have owned : className.toList.dropWhile (· = '_') ≠ [] := versionClass_owner letters version
  have loses := losesNothing_classMembers_iff className methods.value
  have defined := defined_classMembers methods.value
  rw [named] at loses defined
  refine ⟨classMembers methods.value, rfl, defined, fun entry member verbs => ?_, loses, ?_⟩
  · exact pathMethodNames_nodup _ (parseDocument_verbs parsed entry member) verbs
  · have own_iff : ∀ name, keptName className name = name ↔ isPrivate name = false := fun name =>
      Source.keptName_eq_self_iff owned
    rw [Source.reachesAll_iff, loses, defined, List.forall_mem_cons]
    simp only [own_iff]
    constructor
    · rintro ⟨⟨distinct, noConstructor, noClient⟩, -, shown⟩
      exact ⟨distinct.of_map _, noConstructor, noClient, shown⟩
    · rintro ⟨distinct, noConstructor, noClient, shown⟩
      have kept : names.map (keptName className) = names :=
        List.map_congr_left (g := id) (fun name member => (own_iff name).mpr (shown name member)) |>.trans
          (List.map_id names)
      exact ⟨⟨kept.symm ▸ distinct, noConstructor, noClient⟩, by decide, shown⟩

/-- A single operation is reached. -/
theorem item_reached :
    ∃ document methods members, Schema.parseDocument (itemDocument "id") = .valid document ∧
      compileDocument itemMetadata document = .ok methods ∧
      (renderClass "Shop_v1" "" methods.value).source = .classDef "Shop_v1" "" members ∧
      members.filterMap Stmt.defines? = ["__init__", "Items"] ∧ ReachesAll "Shop_v1" members := by
  obtain ⟨method, notices, compiled, -⟩ := item_compiled
  have names : documentMethodNames "Shop" ⟨[("/items/\x7bid\x7d", [("get", itemOperation "id")])], []⟩ =
      ["Items"] := by
    simp [documentMethodNames, pathMethodNames, item_named]
  have className : Name.versionClass "Shop" "v1" = "Shop_v1" := by decide
  have reached := compileDocument_reachable_iff item_parsed ⟨by decide, by simp [itemMetadata]⟩ compiled "v1" ""
  simp only [show itemMetadata.identifier = "Shop" from rfl, className, names] at reached
  obtain ⟨members, source, defined, -, -, reaches⟩ := reached
  exact ⟨_, _, members, item_parsed, compiled, source, defined, reaches.mpr (by decide)⟩

/-- A document that makes users, and tells of one. -/
def usersDocument : Datum :=
  .object [("paths", .object [
    ("/v1/users", .object [("post", .object [])]),
    ("/v1/users/\x7buserId\x7d", .object [("get", .object [("parameters", .list [.object
      [("name", .text "userId"), ("in", .text "path"), ("required", .bool true)]])])])])]

/-- Two paths that differ in a placeholder only give their methods one name, and one of them is lost. -/
theorem users_lost :
    ∃ document methods, Schema.parseDocument usersDocument = .valid document ∧
      compileDocument itemMetadata document = .ok methods ∧
      methods.value.map Method.name = ["Users", "Users"] ∧
      ¬ LosesNothing "Shop_v1" (classMembers methods.value) := by
  have parsed : Schema.parseDocument usersDocument = .valid ⟨[("/v1/users", [("post", {})]),
      ("/v1/users/\x7buserId\x7d", [("get", itemOperation "userId")])], []⟩ := by rfl
  have first : methodName (Name.method "Shop" "/v1/users") "post" false = "Users" :=
    methodName_eq (by decide +kernel) (by decide)
  have second : methodName (Name.method "Shop" "/v1/users/\x7buserId\x7d") "get" false = "Users" :=
    methodName_eq (by decide +kernel) (by decide)
  have creation : (compileOperation "Users" "post" "https://host" "/v1/users" {} []).toOption.isSome = true := by
    decide +kernel
  have retrieval : (compileOperation "Users" "get" "https://host" "/v1/users/\x7buserId\x7d"
      (itemOperation "userId") []).toOption.isSome = true := by decide +kernel
  obtain ⟨create, created⟩ := ok_of_isSome (first ▸ creation)
  obtain ⟨retrieve, retrieved⟩ := ok_of_isSome (second ▸ retrieval)
  have document := @compilePaths_cons_single itemMetadata _ _ _ _ _ _ _ created
    (@compileDocument_single itemMetadata _ _ _ _ _ retrieved)
  have names : [create.value, retrieve.value].map Method.name = ["Users", "Users"] := by
    refine (@compileDocument_names itemMetadata ⟨_, []⟩ _ document).trans ?_
    simp [documentMethodNames, pathMethodNames, itemMetadata, first, second]
  refine ⟨_, _, parsed, document, names, ?_⟩
  rw [losesNothing_classMembers_iff, names]
  simp

end Bindery
