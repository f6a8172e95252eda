import Bindery.Proofs.Discovery.FailedFetches

/-!
# Runs that fail

Pages, metadata and documents arrive in any order, and what is made of them may fail anywhere. No file is touched
before all of it has come to a tree, so a run that fails before it writes leaves all files as they were.
-/
namespace Bindery

open Bindery.Data (Datum)
open Bindery.Discovery (Edition Link Listing editions metadataAddress)
open Bindery.Files (FileTree)
open Bindery.Network (Web)

/-! ### Runs in any order -/

/-- An order of arrival for each number of documents. -/
structure Schedule where
  order : Nat → List Nat
  all : ∀ count, (order count).Perm (List.range count)

def Schedule.inOrder : Schedule := ⟨List.range, fun _ => .refl _⟩

/-- The orders in which everything arrives that a run asks for. -/
structure Arrivals where
  pages : Schedule
  metadata : Schedule
  documents : Schedule

def Arrivals.inOrder : Arrivals := ⟨.inOrder, .inOrder, .inOrder⟩

namespace Tracked

/-- Find the APIs and compile their documentation, whatever the order of arrival. -/
def buildIn (arrivals : Arrivals) (web : Web) (settings : Settings) : Tracked ApiTree := do
  report .discovery
  let links ← stage (settings.listings.map fun listing => listing.url)
    (Discovery.discoverIn (arrivals.pages.order settings.listings.length) web settings.listings settings.excludes)
  let found ← stage (links.map metadataAddress)
    (Discovery.catalogueIn (arrivals.metadata.order links.length) web links)
  modify fun track => { track with total := links.length, available := found.available }
  report (.availability found.available links.length)
  report .compilation
  stage ((editions found.apis).map fun edition => edition.address)
    (Discovery.buildTreeIn (arrivals.documents.order (editions found.apis).length) web found.apis)

/-- A whole run, whatever the order of arrival. -/
def generateIn (arrivals : Arrivals) (web : Web) (settings : Settings) : Tracked (List String) := do
  write settings (← buildIn arrivals web settings)

end Tracked

def Track.ofFiles (files : FileTree) : Track := { workspace := { files } }

/-- A run is one of those in any order. -/
theorem generate_inOrder (web : Web) (settings : Settings) (files : FileTree) :
    generate web settings files = outcome (Tracked.generateIn .inOrder web settings) (.ofFiles files) := rfl

/-! ### Steps that touch no file -/

/-- Does a step leave all files as they were, whether it fails or not? -/
def KeepsFiles {α : Type} (step : Tracked α) : Prop := ∀ track, (outcome step track).2.workspace = track.workspace

theorem KeepsFiles.bind {α β : Type} {first : Tracked α} {next : α → Tracked β} (here : KeepsFiles first)
    (there : ∀ a, KeepsFiles (next a)) : KeepsFiles (first >>= next) := by
  intro track
  have kept := here track
  -- If the first step fails, the second one is not taken.
  cases ended : outcome first track with
  | mk result between =>
    rw [ended] at kept
    cases result with
    | error cause =>
      rw [outcome_bind_error ended]
      exact kept
    | ok a =>
      rw [outcome_bind_ok ended]
      exact (there a between).trans kept

theorem keepsFiles_report (step : Progress) : KeepsFiles (Tracked.report step) := fun _ => rfl

theorem keepsFiles_stage {α : Type} (addresses : List String) (run : Run α) :
    KeepsFiles (Tracked.stage addresses run) := by
  intro track
  rw [Tracked.stage, outcome_bind_ok (outcome_modify _)]
  cases run.result <;> rfl

/-- Nothing is written while a tree is built. -/
theorem keepsFiles_buildIn (arrivals : Arrivals) (web : Web) (settings : Settings) :
    KeepsFiles (Tracked.buildIn arrivals web settings) := by
  -- The steps of a run, one after the other: reports, stages, and a note of the counts.
  apply (keepsFiles_report _).bind
  intro _
  apply (keepsFiles_stage _ _).bind
  intro links
  apply (keepsFiles_stage _ _).bind
  intro found
  apply KeepsFiles.bind (fun _ => rfl)
  intro _
  apply (keepsFiles_report _).bind
  intro _
  apply (keepsFiles_report _).bind
  intro _
  exact keepsFiles_stage _ _

/-! ### Where a run fails -/

/-- A stage that fails has asked for its addresses all the same. -/
theorem Tracked.stage_error {α : Type} {addresses : List String} {run : Run α} {cause : Interruption}
    (failed : run.result = .error cause) (track : Track) :
    ∃ after, outcome (Tracked.stage addresses run) track = (.error cause, after) ∧
      after.requested = track.requested ++ addresses := by
  rw [Tracked.stage, outcome_bind_ok (outcome_modify _), failed]
  exact ⟨_, rfl, rfl⟩

/-- Writing fails in its own ways only. -/
theorem Tracked.write_eq_error {settings : Settings} {tree : ApiTree} {track after : Track} {cause : Interruption}
    (failed : outcome (Tracked.write settings tree) track = (.error cause, after)) :
    ∃ fault, cause = .emission fault := by
  obtain ⟨track, reported⟩ : ∃ between, outcome (Tracked.report .emission) track = (.ok (), between) := ⟨_, rfl⟩
  rw [Tracked.write, outcome_bind_ok reported, outcome_bind_ok outcome_get, outcome_bind_ok (outcome_modify _)] at failed
  -- All that is done around the emission comes through.
  generalize ((Emission.emit settings.emission tree).perform track.workspace).1 = result at failed
  cases result with
  | ok paths => cases failed
  | error fault =>
    cases failed
    exact ⟨fault, rfl⟩

/-- A run whose pages cannot be used asks for nothing else. -/
theorem buildIn_pages_error {arrivals : Arrivals} {web : Web} {settings : Settings} {cause : Interruption}
    (failed : (Discovery.discoverIn (arrivals.pages.order settings.listings.length) web settings.listings
      settings.excludes).result = .error cause) (track : Track) :
    ∃ after, outcome (Tracked.buildIn arrivals web settings) track = (.error cause, after) ∧
      after.requested = track.requested ++ settings.listings.map Listing.url := by
  obtain ⟨between, begun, same⟩ : ∃ between, outcome (Tracked.report .discovery) track = (.ok (), between) ∧
      between.requested = track.requested := ⟨_, rfl, rfl⟩
  obtain ⟨after, stopped, requested⟩ := Tracked.stage_error failed between
  rw [Tracked.buildIn, outcome_bind_ok begun, outcome_bind_error stopped]
  exact ⟨after, rfl, same ▸ requested⟩

/-- Where only excluded links are found, nothing is discovered. -/
theorem discoverIn_excluded {web : Web} {listings : List Listing} {excludes : List String}
    (excluded : ∀ listing ∈ listings, ∃ links, (listing.fetchLinks web).result = .ok links ∧
      ∀ link ∈ links, link ∈ excludes.map some) (order : List Nat) :
    (Discovery.discoverIn order web listings excludes).result =
      .error (.failure (.discovery (listings.map Listing.url))) := by
  -- No page stops the others, as each has its links.
  have through : interruption? (order.filterMap fun position =>
      (listings.map fun listing => listing.fetchLinks web)[position]?) = none := by
    rw [interruption?_eq_none_iff]
    intro task arrived
    obtain ⟨position, -, here⟩ := List.mem_filterMap.mp arrived
    obtain ⟨listing, member, rfl⟩ := List.mem_map.mp (List.mem_of_getElem? here)
    obtain ⟨links, done, -⟩ := excluded listing member
    exact ⟨links, done⟩
  -- Every link comes from one of the pages, and the pages have excluded ones only.
  have nothing : Discovery.merge ((listings.map fun listing => listing.fetchLinks web).filterMap fun task =>
      task.result.toOption) excludes = [] := by
    rw [Discovery.merge, List.filter_eq_nil_iff]
    intro link among
    rw [List.mem_eraseDups, List.mem_flatten] at among
    obtain ⟨links, found, member⟩ := among
    obtain ⟨task, inside, result⟩ := List.mem_filterMap.mp found
    obtain ⟨listing, listed, rfl⟩ := List.mem_map.mp inside
    obtain ⟨_, done, all⟩ := excluded listing listed
    obtain rfl : _ = links := by simpa [done, Except.toOption] using result
    simpa using all link member
  rw [discoverIn_result, Run.result_gatherIn, through]
  simp only [bind, Except.bind, nothing, List.isEmpty_nil, if_true]

/-- For all settings, webs, files and orders of arrival: a package is only written from a tree, out of the files that
were there at first. A run that fails before that, wherever it does, leaves them as they were. Where no candidate is
left it fails, and has asked for the pages only. -/
theorem failed_run_keeps_files (arrivals : Arrivals) (web : Web) (settings : Settings) (files : FileTree) :
    (∀ tree built, outcome (Tracked.buildIn arrivals web settings) (.ofFiles files) = (.ok tree, built) →
        built.workspace = { files } ∧ outcome (Tracked.generateIn arrivals web settings) (.ofFiles files) =
          outcome (Tracked.write settings tree) built) ∧
      (∀ cause built, outcome (Tracked.buildIn arrivals web settings) (.ofFiles files) = (.error cause, built) →
        built.workspace = { files } ∧
          outcome (Tracked.generateIn arrivals web settings) (.ofFiles files) = (.error cause, built)) ∧
      (∀ cause after, outcome (Tracked.generateIn arrivals web settings) (.ofFiles files) = (.error cause, after) →
        (∀ fault, cause ≠ .emission fault) → after.workspace = { files }) ∧
      ((∀ listing ∈ settings.listings, ∃ links, (listing.fetchLinks web).result = .ok links ∧
          ∀ link ∈ links, link ∈ settings.excludes.map some) →
        ∃ after, outcome (Tracked.generateIn arrivals web settings) (.ofFiles files) =
            (.error (.failure (.discovery (settings.listings.map Listing.url))), after) ∧
          after.requested = settings.listings.map Listing.url ∧ after.workspace = { files }) := by
  have kept {result : Except Interruption ApiTree} {built : Track}
      (ended : outcome (Tracked.buildIn arrivals web settings) (.ofFiles files) = (result, built)) :
      built.workspace = { files } := by
    have same := keepsFiles_buildIn arrivals web settings (.ofFiles files)
    rwa [ended] at same
  have stops {cause : Interruption} {built : Track}
      (ended : outcome (Tracked.buildIn arrivals web settings) (.ofFiles files) = (.error cause, built)) :
      outcome (Tracked.generateIn arrivals web settings) (.ofFiles files) = (.error cause, built) :=
    outcome_bind_error ended
  refine ⟨fun tree built ended => ⟨kept ended, outcome_bind_ok ended⟩, fun cause built ended => ⟨kept ended, stops ended⟩,
    fun cause after failed other => ?_, fun excluded => ?_⟩
  · -- The run failed before there was a tree, or else while it was written, which the cause would tell.
    cases ended : outcome (Tracked.buildIn arrivals web settings) (.ofFiles files) with
    | mk result built =>
      cases result with
      | error cause =>
        obtain rfl := (Prod.mk.inj ((stops ended).symm.trans failed)).2
        exact kept ended
      | ok tree =>
        rw [Tracked.generateIn, outcome_bind_ok ended] at failed
        obtain ⟨fault, same⟩ := Tracked.write_eq_error failed
        exact absurd same (other fault)
  · obtain ⟨built, ended, requested⟩ := @buildIn_pages_error arrivals web settings _ (discoverIn_excluded excluded _)
      (.ofFiles files)
    exact ⟨built, stops ended, requested, kept ended⟩

/-! ### A package that stays -/

def cookieDocument : Datum := .object [("paths", .object [("/items", .object [("get", .object [("parameters",
  .list [.object [("name", .text "id"), ("in", .text "cookie")]])])])])]

theorem cookieDocument_isPage : IsPage cookieDocument :=
  ⟨by decide +kernel, by decide +kernel, Data.Json.read_write (by simp [cookieDocument, Data.Json.depthLimit])⟩

def cookieOperation : Schema.Operation := { parameters := [{ name := "id", place := some "cookie" }] }

/-- A web with one API, whose only operation cannot be compiled. -/
def cookieWeb : Web := textWeb [("https://list", "https://shop.net"),
  ("https://shop.net/docs/metadata", documentText shopVersions),
  ("https://shop.net/docs/json/v1", documentText cookieDocument)]

def cookieFailure : Failure :=
  .unsupported "parameter location 'cookie' of 'id' in GET /items"
    (some "Supported locations: path, query, header, body, formData")

theorem cookie_not_compiled :
    compileDocument shopMetadata ⟨[("/items", [("get", cookieOperation)])], []⟩ = .error cookieFailure := by
  have named : methodName (Name.method "Shop" "/items") "get" false = "Items" :=
    methodName_eq (by decide +kernel) (by decide)
  -- The one parameter is sent to a place that requests do not have.
  have ungrouped : (buildArguments "/items" cookieOperation []).value.grouped = false := by decide +kernel
  have fault : firstFault? [] (buildArguments "/items" cookieOperation []).value.arguments =
      some (.unknownLocation (some "cookie") "id") := by decide +kernel
  have stopped : compileOperation "Items" "get" "https://shop.net" "/items" cookieOperation [] = .error cookieFailure := by
    simp only [compileOperation, buildRequest_ungrouped _ _ _ ungrouped, fault]
    rfl
  have several : decide (1 < [("get", cookieOperation)].length) = false := rfl
  have endpoint : compileEndpoint shopMetadata.identifier shopMetadata.url "/items" [("get", cookieOperation)] [] =
      .error cookieFailure := by
    change compileEndpoint "Shop" "https://shop.net" "/items" [("get", cookieOperation)] [] = _
    rw [compileEndpoint, several, compileVerbs, named, stopped]
  rw [compileDocument, compilePaths, endpoint]

theorem cookie_fails : ∃ built, outcome (Tracked.buildIn .inOrder cookieWeb addressSettings) (.ofFiles earlierFiles) =
    (.error (.failure cookieFailure), built) := by
  have known := fetchMetadata_ok
    (shopVersions_isPage.fetched (by simp [List.lookup_cons]) : Network.fetchJson cookieWeb _ = _)
    (by rfl : Discovery.identify? "https://shop.net" shopVersions = some shopMetadata)
  have address : Edition.address ⟨shopMetadata, "v1"⟩ = "https://shop.net/docs/json/v1" := by decide +kernel
  have document : Network.fetchJson cookieWeb (Edition.address ⟨shopMetadata, "v1"⟩) = .ok cookieDocument := by
    rw [address]
    exact cookieDocument_isPage.fetched (by simp [List.lookup_cons])
  have parsed : Schema.parseDocument cookieDocument = .valid ⟨[("/items", [("get", cookieOperation)])], []⟩ := by rfl
  have stopped := fetchMethods_failure document parsed cookie_not_compiled
  have failed : (Discovery.buildTree cookieWeb [("Shop", shopMetadata)]).result = .error (.failure cookieFailure) := by
    have arrived : (List.range 1).filterMap (fun position => (editions [("Shop", shopMetadata)])[position]?) =
        [⟨shopMetadata, "v1"⟩] := rfl
    have ends := buildTreeIn_result (List.range 1) cookieWeb [("Shop", shopMetadata)]
    rw [arrived, planted] at ends
    simp only [interruption?, List.map_cons, List.map_nil, List.findSome?_cons, stopped] at ends
    exact ends
  obtain ⟨between, same⟩ := build_last (shop_listed _) (catalogue_single known) (.ofFiles earlierFiles)
  obtain ⟨built, ended, -⟩ := Tracked.stage_error failed between
  exact ⟨built, same.trans ended⟩

/-- An earlier package stays where the last operation cannot be compiled, and where no page is there. -/
theorem earlier_package_stays :
    (∃ after, generate cookieWeb addressSettings earlierFiles = (.error (.failure cookieFailure), after) ∧
        after.workspace = { files := earlierFiles }) ∧
      (∃ after, generate (textWeb []) addressSettings earlierFiles =
          (.error (.failure (.discovery ["https://list"])), after) ∧
        after.requested = ["https://list"] ∧ after.workspace = { files := earlierFiles }) ∧
      ∃ tree built, outcome (Tracked.buildIn .inOrder shopWeb addressSettings) (.ofFiles {}) = (.ok tree, built) ∧
        built.workspace = {} := by
  obtain ⟨stopped, failing⟩ := cookie_fails
  obtain ⟨tree, method, done, -⟩ := shop_built
  have empty : ∀ listing ∈ addressSettings.listings, ∃ links, (listing.fetchLinks (textWeb [])).result = .ok links ∧
      ∀ link ∈ links, link ∈ addressSettings.excludes.map some := List.forall_mem_singleton.mpr ⟨[], rfl, List.forall_mem_nil _⟩
  rw [generate_inOrder, generate_inOrder]
  refine ⟨⟨stopped, ?_⟩, ?_, _, tree, done, ?_⟩
  -- The failure of the operation is told from a failure to write.
  · obtain ⟨-, failed, last, -⟩ := failed_run_keeps_files .inOrder cookieWeb addressSettings earlierFiles
    exact ⟨(failed _ _ failing).2, last _ _ (failed _ _ failing).2 nofun⟩
  · exact (failed_run_keeps_files .inOrder (textWeb []) addressSettings earlierFiles).2.2.2 empty
  · exact ((failed_run_keeps_files .inOrder shopWeb addressSettings {}).1 _ _ done).1

end Bindery
