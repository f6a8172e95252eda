import Bindery.Proofs.Discovery.BuiltTrees
import Bindery.Proofs.Package.Replacement

/-!
# Packages of built trees

The package of a tree that came out of a run is written unless an API is named like a keyword, or one of its
methods cannot be written.
-/
namespace Bindery

open Bindery.Files (FilePath FileTree IsEmptyDirectory)
open Bindery.Data (Datum)
open Bindery.Network (Web)
open Bindery.Schema (Metadata)
open Bindery.Source (areLegalAll printModule)

/-- What is left to ask of a tree whose methods were compiled from documents. -/
structure IsEmittable (tree : ApiTree) : Prop where
  apis : ∀ entry ∈ tree, entry.1 ∉ Name.keywords
  methods : ∀ entry ∈ tree, ∀ version ∈ entry.2.generatedVersions, ∀ method ∈ entry.2.methods version,
    method.IsEmittable

section Built

variable {tree : ApiTree} (built : IsBuilt tree)
include built

theorem IsBuilt.identifier {entry : String × ApiNode} (member : entry ∈ tree) :
    entry.2.metadata.identifier = entry.1 :=
  (built.catalogue.named _ (List.mem_map_of_mem member)).1

theorem IsBuilt.letters {entry : String × ApiNode} (member : entry ∈ tree) : IsLetters entry.1 :=
  (api?_isLetters (built.catalogue.named _ (List.mem_map_of_mem member)).2).1

theorem IsBuilt.isNamed {entry : String × ApiNode} (member : entry ∈ tree) (version : String) :
    ∀ method ∈ entry.2.methods version, method.IsNamed := by
  intro method own
  unfold ApiNode.methods at own
  cases found : entry.2.versions.lookup version with
  | none =>
    rw [found] at own
    cases own
  | some methods =>
    rw [found, Option.getD_some] at own
    obtain ⟨value, document, compiled, parsed, made, rfl⟩ :=
      built.compiled entry member _ (Source.mem_of_lookup found)
    exact ⟨compileDocument_isScoped parsed made own, compileDocument_isPlain parsed made own⟩

theorem IsBuilt.lettered : ∀ entry ∈ tree, ∀ c ∈ entry.2.metadata.identifier.toList, c.isAlpha = true := by
  intro entry member
  rw [built.identifier member]
  exact (built.letters member).letters

theorem IsBuilt.isProgram_version {entry : String × ApiNode} (member : entry ∈ tree) (version : String) :
    IsProgram (versionModule entry.2 version) ↔ ∀ method ∈ entry.2.methods version, method.IsEmittable := by
  have named := built.isNamed member version
  have legal := versionModule_isLegal (built.identifier member ▸ built.letters member) named
  exact (isProgram_iff fun holds => versionModule_isShallow named (legal.mp holds)).trans legal

theorem IsBuilt.isProgram_index : IsProgram (indexModule tree) ↔ ∀ entry ∈ tree, entry.1 ∉ Name.keywords := by
  have letters : ∀ entry ∈ tree, IsLetters entry.1 := fun entry member => built.letters member
  exact (isProgram_iff fun _ => indexModule_isShallow letters).trans (indexModule_isLegal letters)

/-- All modules of a package are programs just if nothing is left to ask of its tree. -/
theorem IsBuilt.isProgram_iff :
    (∀ module ∈ packageModules tree, IsProgram module.2) ↔ IsEmittable tree := by
  rw [packageModules, List.forall_mem_append, List.forall_mem_singleton, built.isProgram_index]
  constructor
  · rintro ⟨versions, apis⟩
    refine ⟨apis, fun entry member version generated => ?_⟩
    have among : ("apis/" ++ Name.versionClass entry.2.metadata.identifier version, versionModule entry.2 version) ∈
        Emission.versionModules tree :=
      List.mem_flatMap.mpr ⟨entry, member, List.mem_map.mpr ⟨version, generated, rfl⟩⟩
    exact (built.isProgram_version member version).mp (versions _ among)
  · rintro ⟨apis, methods⟩
    refine ⟨fun module member => ?_, apis⟩
    obtain ⟨entry, among, inside⟩ := List.mem_flatMap.mp member
    obtain ⟨version, generated, rfl⟩ := List.mem_map.mp inside
    exact (built.isProgram_version among version).mpr (methods entry among version generated)

end Built

def shopMetadata : Metadata := { identifier := "Shop", url := "https://shop.net", versions := ["v1"] }

def shopVersions : Datum := .object [("versions", .list [.text "v1"])]

def shopDocument : Datum := .object [("paths", .object [("/items", .object [("get", .object [])])])]

/-- A web with one API, which has one version with one operation. -/
def shopWeb : Web := textWeb [("https://list", "https://shop.net"),
  ("https://shop.net/docs/metadata", documentText shopVersions),
  ("https://shop.net/docs/json/v1", documentText shopDocument)]

/-- Nothing is left to ask of a method without arguments whose URL is a literal. -/
theorem Method.isEmittable_plain {method : Method} {literal : String} (named : method.name ≠ "__debug__")
    (arguments : method.arguments = []) (request : method.request = { verb := "get", url := [.text literal] }) :
    method.IsEmittable where
  names := by simpa [Method.argumentNames, arguments] using named.symm
  types := by simp [arguments]
  url := by
    rw [request]
    rfl

theorem shop_listed (rest : List (String × String)) :
    (Discovery.discover (textWeb (("https://list", "https://shop.net") :: rest)) addressSettings.listings
      addressSettings.excludes).result = .ok [some "https://shop.net"] :=
  discover_single rfl (by decide +kernel) (by decide +kernel)

theorem shopDocument_isPage : IsPage shopDocument :=
  ⟨by decide +kernel, by decide +kernel, Data.Json.read_write (by simp [shopDocument, Data.Json.depthLimit])⟩

theorem shopVersions_isPage : IsPage shopVersions :=
  ⟨by decide +kernel, by decide +kernel, Data.Json.read_write (by simp [shopVersions, Data.Json.depthLimit])⟩

/-- The operation of the shop becomes a method without arguments, whatever its version. -/
theorem shop_compiled (versions : List String) :
    ∃ method notices, compileDocument { shopMetadata with versions } ⟨[("/items", [("get", {})])], []⟩ =
        .ok ⟨[method], notices⟩ ∧
      method.name = "Items" ∧ method.arguments = [] ∧
      method.request = { verb := "get", url := [.text "https://shop.net/items"] } := by
  have named : methodName (Name.method "Shop" "/items") "get" false = "Items" :=
    methodName_eq (by decide +kernel) (by decide)
  have facts : (compileOperation "Items" "get" "https://shop.net" "/items" {} []).toOption.map
    (fun method => (method.value.name, method.value.arguments, method.value.request)) =
      some ("Items", [], { verb := "get", url := [.text "https://shop.net/items"] }) := by decide +kernel
  exact @compileDocument_facts { shopMetadata with versions } _ _ _ _ _ _ _ named facts

theorem shop_built : ∃ built method, outcome (Tracked.build shopWeb addressSettings) {} =
      (.ok [("Shop", { metadata := shopMetadata, versions := [("v1", [method])] })], built) ∧
    method.name = "Items" ∧ method.arguments = [] ∧
    method.request = { verb := "get", url := [.text "https://shop.net/items"] } := by
  have known := fetchMetadata_ok
    (shopVersions_isPage.fetched (by simp [List.lookup_cons]) : Network.fetchJson shopWeb _ = _)
    (by rfl : Discovery.identify? "https://shop.net" shopVersions = some shopMetadata)
  have address : Discovery.Edition.address ⟨shopMetadata, "v1"⟩ = "https://shop.net/docs/json/v1" := by decide +kernel
  have document : Network.fetchJson shopWeb (Discovery.Edition.address ⟨shopMetadata, "v1"⟩) = .ok shopDocument := by
    rw [address]
    exact shopDocument_isPage.fetched (by simp [List.lookup_cons])
  have parsed : Schema.parseDocument shopDocument = .valid ⟨[("/items", [("get", {})])], []⟩ := by rfl
  obtain ⟨method, notices, made, facts⟩ := shop_compiled ["v1"]
  obtain ⟨built, done⟩ := @build_versions _ _ _ _ (shop_listed _) known [("v1", [method])] rfl (by decide)
    (List.forall_mem_singleton.mpr (fetchMethods_ok document parsed made)) {}
  exact ⟨built, method, done, facts⟩

/-- Packages are written into the working directory. -/
def hereSettings : EmissionSettings := { output := .ofText "." }

/-- The working directory of a workspace without files is empty. -/
theorem here_isEmptyDirectory : IsEmptyDirectory ({} : Workspace).files hereSettings.output [] :=
  ⟨by decide, by decide, fun name rest root above => by
    simpa [FileTree.entryAt?] using @Files.isGiven_append [] name root above rest⟩

end Bindery
