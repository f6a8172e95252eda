import Bindery.Data.JsonText
import Bindery.Generation
import Bindery.Proofs.Data.ReadBack
import Bindery.Proofs.Discovery.Editions
import Bindery.Proofs.Discovery.Records
import Bindery.Proofs.Method.Compilation

/-!
# Trees that are built

Whatever the web answers, a tree that is built lists each API once, under the name that its address gives
it, and all its methods are compiled from documents.
-/
namespace Bindery

open Bindery.Data (Datum)
open Bindery.Discovery (Catalogue Edition Link editions)
open Bindery.Network (Web)
open Bindery.Schema (Metadata)

/-! ### Stages -/

theorem Tracked.stage_ok {α : Type} {addresses : List String} {run : Run α} {a : α} (done : run.result = .ok a)
    (track : Track) : ∃ after, outcome (Tracked.stage addresses run) track = (.ok a, after) := by
  rw [Tracked.stage, outcome_bind_ok (outcome_modify _), done]
  exact ⟨_, rfl⟩

/-- A stage that is left with a value has come through. -/
theorem Tracked.stage_eq_ok {α : Type} {addresses : List String} {run : Run α} {track after : Track} {a : α}
    (done : outcome (Tracked.stage addresses run) track = (.ok a, after)) :
    run.result = .ok a := by
  obtain ⟨-, between, -, lifted⟩ := outcome_bind_eq_ok done
  -- What is requested is noted in any case; only then the run has its say.
  cases result : run.result with
  | error cause =>
    rw [result] at lifted
    cases lifted
  | ok value =>
    rw [result] at lifted
    cases lifted
    rfl

/-! ### The catalogue -/

/-- A catalogue lists APIs under their names, which their addresses give them, and each once. -/
structure IsCatalogue (apis : List (String × Metadata)) : Prop where
  distinct : (apis.map Prod.fst).Nodup
  named : ∀ entry ∈ apis, entry.2.identifier = entry.1 ∧ Name.api? entry.2.url = some entry.1

theorem fetchMetadata_eq_ok {web : Web} {link : Link} {metadata : Metadata}
    (done : (Discovery.fetchMetadata web link).result = .ok (some metadata)) :
    Name.api? metadata.url = some metadata.identifier := by
  unfold Discovery.fetchMetadata at done
  split at done
  · cases done
  · cases done
  next document url _ =>
    obtain ⟨-, -, derived, rfl, -⟩ := identify?_eq_some_iff.mp (Except.ok.inj done)
    exact derived
  · cases done

theorem ofAnswers_isCatalogue {answers : List (Option Metadata)}
    (named : ∀ metadata, some metadata ∈ answers → Name.api? metadata.url = some metadata.identifier) :
    IsCatalogue (Catalogue.ofAnswers answers).apis := by
  have holds := ofAnswers_holdsFirst answers
  refine ⟨holds.names ▸ nodup_eraseDups _, fun entry member => ?_⟩
  obtain ⟨before, after, split, own, -⟩ := holds.first entry member
  have among : entry.2 ∈ answers.filterMap id := split ▸ List.mem_append_right _ (List.mem_cons_self ..)
  exact ⟨own, own ▸ named entry.2 (by simpa using among)⟩

theorem catalogue_eq (web : Web) (links : List Link) :
    Discovery.catalogue web links =
      Run.gather (links.map (Discovery.fetchMetadata web)) >>= fun answers => pure (.ofAnswers answers) := by
  simp [Discovery.catalogue, Discovery.catalogueIn, Run.gather]

theorem catalogue_isCatalogue {web : Web} {links : List Link} {found : Catalogue}
    (done : (Discovery.catalogue web links).result = .ok found) : IsCatalogue found.apis := by
  rw [catalogue_eq] at done
  obtain ⟨answers, each, listed⟩ := Run.bind_eq_ok done
  obtain rfl : Catalogue.ofAnswers answers = found := Except.ok.inj listed
  refine ofAnswers_isCatalogue fun metadata member => ?_
  have tasks := List.forall₂_map_left_iff.mp (Run.gather_eq_ok each)
  obtain ⟨i, bound, same⟩ := List.mem_iff_getElem.mp member
  have answered := tasks.get (tasks.length_eq ▸ bound) bound
  rw [List.get_eq_getElem, List.get_eq_getElem, same] at answered
  exact fetchMetadata_eq_ok answered

/-! ### The tree -/

/-- Are methods all that was compiled from some document? -/
def CompiledMethods (metadata : Metadata) (methods : List Method) : Prop :=
  ∃ value document compiled, Schema.parseDocument value = .valid document ∧
    compileDocument metadata document = .ok compiled ∧ compiled.value = methods

/-- What a tree that was built holds. -/
structure IsBuilt (tree : ApiTree) : Prop where
  /-- Each API is listed once, under the name that its address gives it. -/
  catalogue : IsCatalogue (tree.map fun entry => (entry.1, entry.2.metadata))
  /-- The methods of each version are compiled from a document. -/
  compiled : ∀ entry ∈ tree, ∀ version ∈ entry.2.versions, CompiledMethods entry.2.metadata version.2
  /-- Each version of an API is listed once. -/
  versioned : ∀ entry ∈ tree, (entry.2.versions.map Prod.fst).Nodup

theorem IsCatalogue.unique {apis : List (String × Metadata)} (known : IsCatalogue apis)
    {first second : String × Metadata} (here : first ∈ apis) (there : second ∈ apis)
    (same : first.1 = second.1) : first = second :=
  List.inj_on_of_nodup_map known.distinct here there same

theorem fetchMethods_eq_ok {edition : Edition} {web : Web} {methods : List Method}
    (done : (edition.fetchMethods web).result = .ok (some methods)) :
    CompiledMethods edition.metadata methods := by
  obtain ⟨value, document, compiled, -, parsed, made, same⟩ := fetchMethods_eq_some_iff.mp done
  exact ⟨value, document, compiled, parsed, made, same⟩

/-- One arrival keeps the APIs and adds what was compiled. -/
theorem setVersion_isBuilt {tree : ApiTree} (built : IsBuilt tree) {edition : Edition}
    (own : (edition.metadata.identifier, edition.metadata) ∈ tree.map fun entry => (entry.1, entry.2.metadata))
    {methods : List Method} (made : CompiledMethods edition.metadata methods) :
    IsBuilt (Discovery.setVersion tree edition methods) ∧
      (Discovery.setVersion tree edition methods).map (fun entry => (entry.1, entry.2.metadata)) =
        tree.map fun entry => (entry.1, entry.2.metadata) := by
  have same : (Discovery.setVersion tree edition methods).map (fun entry => (entry.1, entry.2.metadata)) =
      tree.map fun entry => (entry.1, entry.2.metadata) := by
    rw [Discovery.setVersion, List.map_map]
    refine List.map_congr_left fun entry _ => ?_
    simp only [Function.comp]
    split <;> rfl
  refine ⟨⟨same ▸ built.catalogue, fun entry member version inside => ?_, fun entry member => ?_⟩, same⟩
  · obtain ⟨before, among, rfl⟩ := List.mem_map.mp member
    -- The API that the arrival is for gets its methods; it is the only one of its name.
    by_cases here : before.1 = edition.metadata.identifier
    · simp only [if_pos here] at inside ⊢
      have known := built.catalogue.unique (List.mem_map_of_mem among) own here
      rcases Data.mem_insertMember inside with rfl | old
      · obtain ⟨-, metadata⟩ := Prod.mk.inj known
        exact metadata.symm ▸ made
      · exact built.compiled before among version old
    · simp only [if_neg here] at inside ⊢
      exact built.compiled before among version inside
  · obtain ⟨before, among, rfl⟩ := List.mem_map.mp member
    have apart := built.versioned before among
    -- Setting a version that is there replaces it.
    by_cases here : before.1 = edition.metadata.identifier
    · simp only [if_pos here]
      exact Data.nodup_insertMember apart _ _
    · simp only [if_neg here]
      exact apart

theorem plant_isBuilt {tree : ApiTree} (built : IsBuilt tree)
    {arrivals : List (Edition × Option (List Method))}
    (made : ∀ arrival ∈ arrivals,
      (arrival.1.metadata.identifier, arrival.1.metadata) ∈ tree.map (fun entry => (entry.1, entry.2.metadata)) ∧
        ∀ methods, arrival.2 = some methods → CompiledMethods arrival.1.metadata methods) :
    IsBuilt (Discovery.plant tree arrivals) := by
  induction arrivals generalizing tree with
  | nil => exact built
  | cons arrival rest ih =>
    obtain ⟨edition, arrived⟩ := arrival
    rw [List.forall_mem_cons] at made
    rw [Discovery.plant, List.foldl_cons]
    -- What has no methods leaves no trace in the tree.
    cases arrived with
    | none => exact ih built made.2
    | some methods =>
      obtain ⟨next, same⟩ := setVersion_isBuilt built made.1.1 (made.1.2 methods rfl)
      exact ih next (same.symm ▸ made.2)

theorem bareTree_isBuilt {apis : List (String × Metadata)} (known : IsCatalogue apis) :
    IsBuilt (Discovery.bareTree apis) ∧
      (Discovery.bareTree apis).map (fun entry => (entry.1, entry.2.metadata)) = apis := by
  have same : (Discovery.bareTree apis).map (fun entry => (entry.1, entry.2.metadata)) = apis := by
    rw [Discovery.bareTree, List.map_map]
    exact List.map_id apis
  refine ⟨⟨same.symm ▸ known, fun entry member version inside => ?_, fun entry member => ?_⟩, same⟩
  · obtain ⟨api, -, rfl⟩ := List.mem_map.mp member
    cases inside
  · obtain ⟨api, -, rfl⟩ := List.mem_map.mp member
    exact List.nodup_nil

theorem buildTree_eq (web : Web) (apis : List (String × Metadata)) :
    Discovery.buildTree web apis =
      Run.gather ((editions apis).map fun edition => edition.fetchMethods web) >>= fun arrived =>
        pure (Discovery.plant (Discovery.bareTree apis) ((editions apis).zip arrived)) := by
  simp only [Discovery.buildTree, Discovery.buildTreeIn, filterMap_range_getElem?]

theorem buildTree_isBuilt {web : Web} {apis : List (String × Metadata)} (known : IsCatalogue apis)
    {tree : ApiTree} (done : (Discovery.buildTree web apis).result = .ok tree) : IsBuilt tree := by
  rw [buildTree_eq] at done
  obtain ⟨arrived, each, planted⟩ := Run.bind_eq_ok done
  obtain rfl := Except.ok.inj planted
  obtain ⟨bare, same⟩ := bareTree_isBuilt known
  -- Each arrival is that of an edition, which belongs to a listed API and has what its task gave.
  refine plant_isBuilt bare fun arrival member => ?_
  have tasks := List.forall₂_map_left_iff.mp (Run.gather_eq_ok each)
  rw [same]
  refine ⟨?_, fun methods here => ?_⟩
  · obtain ⟨entry, among, version⟩ := List.mem_flatMap.mp (List.of_mem_zip member).1
    obtain ⟨_, -, edition⟩ := List.mem_map.mp version
    rw [← edition]
    exact (known.named entry among).1.symm ▸ among
  · have arrives := List.forall₂_zip tasks member
    exact fetchMethods_eq_ok (here ▸ arrives)

/-- Whatever the web answers, a tree that comes out of a run is built. -/
theorem build_isBuilt {web : Web} {settings : Settings} {track after : Track} {tree : ApiTree}
    (done : outcome (Tracked.build web settings) track = (.ok tree, after)) : IsBuilt tree := by
  unfold Tracked.build at done
  -- The stages are taken apart one by one. Only those of the catalogue and the documents say something about the
  -- tree.
  obtain ⟨-, track₁, -, done⟩ := outcome_bind_eq_ok done
  obtain ⟨links, track₂, -, done⟩ := outcome_bind_eq_ok done
  obtain ⟨found, track₃, listed, done⟩ := outcome_bind_eq_ok done
  obtain ⟨-, track₄, -, done⟩ := outcome_bind_eq_ok done
  obtain ⟨-, track₅, -, done⟩ := outcome_bind_eq_ok done
  obtain ⟨-, track₆, -, done⟩ := outcome_bind_eq_ok done
  exact buildTree_isBuilt (catalogue_isCatalogue (Tracked.stage_eq_ok listed)) (Tracked.stage_eq_ok done)

/-- A run whose first stages come through ends as the last one does. -/
theorem build_last {web : Web} {settings : Settings} {links : List Link} {found : Catalogue}
    (linked : (Discovery.discover web settings.listings settings.excludes).result = .ok links)
    (listed : (Discovery.catalogue web links).result = .ok found) (track : Track) :
    ∃ between, outcome (Tracked.build web settings) track =
      outcome (Tracked.stage ((editions found.apis).map fun edition => edition.address)
        (Discovery.buildTree web found.apis)) between := by
  -- A report changes nothing but the track, and cannot fail.
  have reported : ∀ step track, ∃ after, outcome (Tracked.report step) track = (.ok (), after) :=
    fun _ _ => ⟨_, rfl⟩
  obtain ⟨_, begun⟩ := reported .discovery track
  obtain ⟨_, discovered⟩ := Tracked.stage_ok linked _
  obtain ⟨_, catalogued⟩ := Tracked.stage_ok listed _
  obtain ⟨_, counted⟩ := reported (.availability found.available links.length) _
  obtain ⟨_, announced⟩ := reported .compilation _
  rw [Tracked.build, outcome_bind_ok begun, outcome_bind_ok discovered, outcome_bind_ok catalogued,
    outcome_bind_ok (outcome_modify _), outcome_bind_ok counted, outcome_bind_ok announced]
  exact ⟨_, rfl⟩

/-- A run whose stages all come through gives the tree of the last one. -/
theorem build_ok {web : Web} {settings : Settings} {links : List Link} {found : Catalogue} {tree : ApiTree}
    (linked : (Discovery.discover web settings.listings settings.excludes).result = .ok links)
    (listed : (Discovery.catalogue web links).result = .ok found)
    (built : (Discovery.buildTree web found.apis).result = .ok tree) (track : Track) :
    ∃ after, outcome (Tracked.build web settings) track = (.ok tree, after) := by
  obtain ⟨between, same⟩ := build_last linked listed track
  rw [same]
  exact Tracked.stage_ok built between

/-! ### Runs with one API -/

/-- What arrives for an API is put after what arrived before. -/
theorem plant_single (metadata : Metadata) {earlier arrivals : List (String × List Method)}
    (apart : ((earlier ++ arrivals).map Prod.fst).Nodup) :
    Discovery.plant [(metadata.identifier, { metadata, versions := earlier })]
        (arrivals.map fun arrival => (⟨metadata, arrival.1⟩, some arrival.2)) =
      [(metadata.identifier, { metadata, versions := earlier ++ arrivals })] := by
  induction arrivals generalizing earlier with
  | nil => rw [List.append_nil]; rfl
  | cons arrival rest ih =>
    have later : earlier ++ arrival :: rest = earlier ++ [arrival] ++ rest := by simp
    -- The version that arrives next is not there yet, so that it is put at the end.
    have absent : arrival.1 ∉ earlier.map Prod.fst := by
      rw [List.map_append, List.map_cons] at apart
      exact fun inside => (List.nodup_append.mp apart).2.2 _ inside _ (List.mem_cons_self ..) rfl
    rw [later] at apart ⊢
    rw [← ih apart, List.map_cons, Discovery.plant, List.foldl_cons, ← Data.insertMember_of_absent absent arrival.2]
    simp only [Discovery.setVersion, List.map_cons, List.map_nil, if_pos]
    rfl

theorem catalogue_single {web : Web} {link : Link} {metadata : Metadata}
    (known : (Discovery.fetchMetadata web link).result = .ok (some metadata)) :
    (Discovery.catalogue web [link]).result = .ok (Catalogue.ofAnswers [some metadata]) := by
  have answered : ∀ link' ∈ [link], (Discovery.fetchMetadata web link').result = .ok (some metadata) :=
    List.forall_mem_singleton.mpr known
  rw [catalogue_eq, Run.result_bind_ok (Run.gather_ok answered)]
  rfl

section Single

variable {web : Web} {settings : Settings} {link : Link} {metadata : Metadata}
  (linked : (Discovery.discover web settings.listings settings.excludes).result = .ok [link])
  (known : (Discovery.fetchMetadata web link).result = .ok (some metadata))
include linked known

theorem build_single {tree : ApiTree}
    (built : (Discovery.buildTree web [(metadata.identifier, metadata)]).result = .ok tree) (track : Track) :
    ∃ after, outcome (Tracked.build web settings) track = (.ok tree, after) :=
  build_ok linked (catalogue_single known) built track

/-- An API is listed with what was compiled for its versions. -/
theorem build_versions {arrivals : List (String × List Method)} (versions : metadata.versions = arrivals.map Prod.fst)
    (apart : metadata.versions.Nodup)
    (fetched : ∀ arrival ∈ arrivals, (Edition.fetchMethods ⟨metadata, arrival.1⟩ web).result = .ok (some arrival.2))
    (track : Track) :
    ∃ after, outcome (Tracked.build web settings) track =
      (.ok [(metadata.identifier, { metadata, versions := arrivals })], after) := by
  refine build_single linked known ?_ track
  have wanted : editions [(metadata.identifier, metadata)] = arrivals.map fun arrival => ⟨metadata, arrival.1⟩ := by
    simp [editions, versions]
  have planted := @plant_single metadata [] arrivals (versions ▸ apart)
  have together : (Run.gather ((arrivals.map fun arrival => (⟨metadata, arrival.1⟩ : Edition)).map
      fun edition => edition.fetchMethods web)).result = .ok (arrivals.map fun arrival => some arrival.2) := by
    rw [List.map_map]
    exact Run.gather_ok fetched
  rw [buildTree_eq, wanted, Run.result_bind_ok together, List.zip_map']
  exact congrArg Except.ok planted

end Single

/-! ### A web of texts -/

/-- A web where addresses answer texts. -/
def textWeb (pages : List (String × String)) : Web := fun url =>
  match pages.lookup url with
  | some text => .response { body := Text.encodeUtf8 text }
  | none => .response { status := 404 }

def documentText (value : Datum) : String := String.ofList (Data.Json.write value)

/-- Settings with one listing page, which holds a single address. -/
def addressSettings : Settings :=
  { listings := [{ url := "https://list", pattern := "(.+)" }], excludes := [] }

theorem fetch_textWeb {pages : List (String × String)} {url text : String} (listed : pages.lookup url = some text) :
    Network.fetch (textWeb pages) url = .ok { body := Text.encodeUtf8 text } := by
  rw [Network.fetch, textWeb, listed]
  rfl

theorem fetchText_textWeb {pages : List (String × String)} {url text : String} (listed : pages.lookup url = some text)
    (decoded : Network.Response.text { body := Text.encodeUtf8 text } = .ok text) :
    Network.fetchText (textWeb pages) url = .ok text := by
  rw [Network.fetchText, fetch_textWeb listed]
  simp only [decoded]

/-- A page with one link gives one candidate. -/
theorem discover_single {pages : List (String × String)} {listing : Discovery.Listing} {page : String}
    {link : Discovery.Link} (listed : pages.lookup listing.url = some page)
    (decoded : Network.Response.text { body := Text.encodeUtf8 page } = .ok page)
    (linked : (listing.links page).toOption = some [link]) :
    (Discovery.discover (textWeb pages) [listing] []).result = .ok [link] := by
  have fetched : (listing.fetchLinks (textWeb pages)).result = .ok [link] := by
    rw [Discovery.Listing.fetchLinks, fetchText_textWeb listed decoded]
    simp only [ok_of_toOption linked]
    rfl
  have gathered : (Run.gatherIn (List.range 1) ([listing].map fun listing => listing.fetchLinks (textWeb pages))).result =
      .ok ([listing].map fun _ => [link]) := Run.gatherIn_ok (.refl _) (List.forall_mem_singleton.mpr fetched)
  rw [Discovery.discover, Discovery.discoverIn]
  -- A link that is shown once is kept, as nothing is excluded.
  exact (Run.result_bind_ok gathered).trans rfl

/-- A text that starts with a member of an object is taken for UTF-8. -/
theorem encodingOf_object {bytes : List UInt8} (start : bytes.take 2 = [123, 34]) :
    Data.Json.encodingOf bytes = .utf8 := by
  -- No byte order mark starts like this, and neither of the two bytes is zero.
  match bytes, start with
  | [_, _], rfl => rfl
  | [_, _, _], rfl => rfl
  | _ :: _ :: _ :: _ :: _, rfl => rfl

/-- Is a document read back from its text? -/
structure IsPage (value : Datum) : Prop where
  start : (Text.encodeUtf8 (documentText value)).take 2 = [123, 34]
  decoded : List.mapM id (Text.UnicodeForm.utf8.decode true (Text.encodeUtf8 (documentText value))) =
    some (Text.pointsOf (documentText value))
  read : Data.Json.read (documentText value) = .ok value

/-- A document is fetched from the address that answers its text. -/
theorem IsPage.fetched {value : Datum} (page : IsPage value) {pages : List (String × String)} {url : String}
    (listed : pages.lookup url = some (documentText value)) : Network.fetchJson (textWeb pages) url = .ok value := by
  have bytes : Data.Json.readBytes (Text.encodeUtf8 (documentText value)) = .ok value := by
    rw [Data.Json.readBytes, encodingOf_object page.start]
    have read : Data.Json.readPoints Data.Json.depthLimit (Text.pointsOf (documentText value)) = .ok value := page.read
    simp only [page.decoded, read]
    rfl
  rw [Network.fetchJson, fetch_textWeb listed]
  simp only [Network.Response.json, bytes]
  rfl

/-- A document as the metadata of an API. -/
theorem fetchMetadata_ok {web : Web} {url : String} {document : Datum} {metadata : Metadata}
    (fetched : Network.fetchJson web (url ++ "/docs/metadata") = .ok document)
    (identified : Discovery.identify? url document = some metadata) :
    (Discovery.fetchMetadata web (some url)).result = .ok (some metadata) := by
  have address : Discovery.metadataAddress (some url) = url ++ "/docs/metadata" := rfl
  unfold Discovery.fetchMetadata
  rw [address, fetched]
  simp only [Network.available?, identified]
  rfl

end Bindery
