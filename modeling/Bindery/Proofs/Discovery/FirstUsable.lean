import Bindery.Proofs.Discovery.FailedFetches

/-!
# Records of candidates

A catalogue lists each name once, with the record of the first candidate that has this name and usable metadata. What
a candidate serves has no say in its name and its address.
-/
namespace Bindery

open Bindery.Data (Datum)
open Bindery.Discovery (Catalogue)
open Bindery.Network (FetchFault Response Web)
open Bindery.Schema (Metadata)

/-! ### Served documents -/

/-- Does a candidate answer with an object that has these members? -/
def ServesMembers (web : Web) (url : String) (members : List (String × Datum)) : Prop :=
  ∃ answer : Response, web (url ++ "/docs/metadata") = .response answer ∧ answer.isSuccess = true ∧
    answer.json = .ok (.object members)

/-- Is this the record of a candidate? -/
structure IsRecordOf (web : Web) (url : String) (metadata : Metadata) : Prop where
  identifier : Name.api? url = some metadata.identifier
  address : metadata.url = url
  served : ∃ members, ServesMembers web url members ∧ IsRead members metadata

/-- Has a candidate a name, and metadata that can be read? -/
def IsUsable (web : Web) (url : String) : Prop :=
  (∃ members metadata, ServesMembers web url members ∧ IsRead members metadata) ∧ (Name.api? url).isSome = true

theorem isUsable_iff {web : Web} {url : String} : IsUsable web url ↔ ∃ metadata, IsRecordOf web url metadata := by
  constructor
  · rintro ⟨⟨members, metadata, served, read⟩, named⟩
    -- The record has the name and the address of the candidate, and the rest from what was served.
    obtain ⟨identifier, derived⟩ := Option.isSome_iff_exists.mp named
    exact ⟨{ metadata with identifier, url }, derived, rfl, members, served, read.1, read.2, read.3, read.4⟩
  · rintro ⟨metadata, derived, -, members, read⟩
    exact ⟨⟨members, metadata, read⟩, Option.isSome_iff_exists.mpr ⟨_, derived⟩⟩

/-! ### What a candidate answers -/

theorem fetchJson_eq_ok_iff {web : Web} {url : String} {document : Datum} :
    Network.fetchJson web url = .ok document ↔
      ∃ answer : Response, web url = .response answer ∧ answer.isSuccess = true ∧ answer.json = .ok document := by
  constructor
  · intro fetched
    unfold Network.fetchJson Network.fetch at fetched
    -- Of all replies only a successful response is read.
    cases reply : web url with
    | invalidAddress message => simp [reply] at fetched
    | malformed fault => simp [reply] at fetched
    | broken kind message => simp [reply] at fetched
    | response answer =>
      by_cases success : answer.isSuccess = true
      · cases read : answer.json with
        | error fault => simp [reply, success, read, Except.mapError] at fetched
        | ok value =>
          simp only [reply, success, if_true, read, Except.mapError, Except.ok.injEq] at fetched
          exact ⟨answer, rfl, success, fetched ▸ read⟩
      · simp [reply, success] at fetched
  · rintro ⟨answer, reply, success, read⟩
    simp [Network.fetchJson, Network.fetch, reply, success, read, Except.mapError]

/-- The record that a candidate comes to, if any. -/
def recordOf? (web : Web) (url : String) : Option Metadata := (Discovery.fetchMetadata web (some url)).result.toOption.join

theorem recordOf?_of_fetched {web : Web} {url : String} {document : Datum}
    (fetched : Network.fetchJson web (url ++ "/docs/metadata") = .ok document) :
    recordOf? web url = Discovery.identify? url document := by
  have address : Discovery.metadataAddress (some url) = url ++ "/docs/metadata" := rfl
  unfold recordOf? Discovery.fetchMetadata
  rw [address, fetched]
  rfl

theorem recordOf?_of_stopped {web : Web} {url : String} {fault : FetchFault}
    (stopped : Network.fetchJson web (url ++ "/docs/metadata") = .error fault) : recordOf? web url = none := by
  have address : Discovery.metadataAddress (some url) = url ++ "/docs/metadata" := rfl
  unfold recordOf? Discovery.fetchMetadata
  rw [address, stopped]
  cases fault <;> rfl

theorem recordOf?_eq_some_iff {web : Web} {url : String} {metadata : Metadata} :
    recordOf? web url = some metadata ↔ IsRecordOf web url metadata := by
  -- The record is what is read of the document that is fetched.
  have served : IsRecordOf web url metadata ↔
      ∃ document, Network.fetchJson web (Discovery.metadataAddress (some url)) = .ok document ∧
        Discovery.identify? url document = some metadata := by
    constructor
    · rintro ⟨derived, address, members, answered, read⟩
      exact ⟨_, fetchJson_eq_ok_iff.mpr answered, identify?_eq_some_iff.mpr ⟨members, rfl, derived, address, read⟩⟩
    · rintro ⟨document, fetched, identified⟩
      obtain ⟨members, rfl, derived, address, read⟩ := identify?_eq_some_iff.mp identified
      exact ⟨derived, address, members, fetchJson_eq_ok_iff.mp fetched, read⟩
  have address : Discovery.metadataAddress (some url) = url ++ "/docs/metadata" := rfl
  rw [served, address]
  obtain ⟨cause, stopped, -⟩ | ⟨-, ⟨fault, failed⟩ | ⟨document, fetched⟩⟩ :=
    fetchJson_cases web (url ++ "/docs/metadata")
  · rw [recordOf?_of_stopped stopped, stopped]
    exact iff_of_false (by simp) (by simp)
  · rw [recordOf?_of_stopped failed, failed]
    exact iff_of_false (by simp) (by simp)
  · rw [recordOf?_of_fetched fetched, fetched]
    simp

theorem isUsable_iff_isSome {web : Web} {url : String} : (recordOf? web url).isSome = true ↔ IsUsable web url := by
  rw [isUsable_iff, Option.isSome_iff_exists]
  simp only [recordOf?_eq_some_iff]

instance (web : Web) (url : String) : Decidable (IsUsable web url) := decidable_of_iff _ isUsable_iff_isSome

/-! ### The catalogue of all candidates -/

/-- Does a catalogue list the usable candidates of a list, where the first one of each name counts? -/
structure ListsUsable (web : Web) (urls : List String) (found : Catalogue) : Prop where
  available : found.available = urls.countP fun url => IsUsable web url
  names : found.apis.map Prod.fst = ((urls.filter fun url => IsUsable web url).filterMap Name.api?).eraseDups
  records : ∀ entry ∈ found.apis, ∃ before url after, urls = before ++ url :: after ∧ IsRecordOf web url entry.2 ∧
    entry.2.identifier = entry.1 ∧ ∀ earlier ∈ before, IsUsable web earlier → Name.api? earlier ≠ some entry.1
  letters : ∀ entry ∈ found.apis, ∃ first rest, entry.1.toList = first :: rest ∧ first.isUpper = true ∧
    ∀ c ∈ first :: rest, c.isAlpha = true

theorem ofAnswers_listsUsable (web : Web) (urls : List String) :
    ListsUsable web urls (Catalogue.ofAnswers (urls.map (recordOf? web))) := by
  have usable : (urls.map (recordOf? web)).filterMap id = urls.filterMap (recordOf? web) := by
    rw [List.filterMap_map]
    rfl
  have holds := ofAnswers_holdsFirst (urls.map (recordOf? web))
  rw [usable] at holds
  -- Each listed record stands where its candidate stands, and what is before it comes from the candidates before.
  have records : ∀ entry ∈ (Catalogue.ofAnswers (urls.map (recordOf? web))).apis, ∃ before url after,
      urls = before ++ url :: after ∧ IsRecordOf web url entry.2 ∧ entry.2.identifier = entry.1 ∧
        ∀ earlier ∈ before, IsUsable web earlier → Name.api? earlier ≠ some entry.1 := by
    intro entry member
    obtain ⟨before, after, split, own, first⟩ := holds.first entry member
    obtain ⟨ahead, behind, rfl, answered, later⟩ := List.filterMap_eq_append_iff.mp split
    obtain ⟨between, url, after', rfl, silent, record, -⟩ := List.filterMap_eq_cons_iff.mp later
    refine ⟨ahead ++ between, url, after', (List.append_assoc ..).symm, recordOf?_eq_some_iff.mp record, own, ?_⟩
    intro earlier among served same
    obtain ⟨metadata, found⟩ := Option.isSome_iff_exists.mp (isUsable_iff_isSome.mpr served)
    -- An earlier candidate has a record in front of this one, or none at all.
    rcases List.mem_append.mp among with ahead' | between'
    · have inside : metadata ∈ before := answered ▸ List.mem_filterMap.mpr ⟨earlier, ahead', found⟩
      have named := (recordOf?_eq_some_iff.mp found).identifier
      exact first metadata inside (Option.some.inj (named.symm.trans same))
    · cases found.symm.trans (silent earlier between')
  refine ⟨?_, ?_, records, ?_⟩
  · change ((urls.map (recordOf? web)).filterMap id).length = _
    rw [usable, List.length_filterMap_eq_countP]
    exact List.countP_congr fun url _ => by rw [isUsable_iff_isSome, decide_eq_true_iff]
  · rw [holds.names, List.map_filterMap, List.filterMap_filter]
    refine congrArg List.eraseDups (List.filterMap_congr fun url _ => ?_)
    cases found : recordOf? web url with
    | none =>
      have useless : ¬ IsUsable web url := by simp [← isUsable_iff_isSome, found]
      simp [useless]
    | some metadata =>
      have served : IsUsable web url := by simp [← isUsable_iff_isSome, found]
      simp [served, (recordOf?_eq_some_iff.mp found).identifier]
  · intro entry member
    obtain ⟨_, url, _, _, record, own, _⟩ := records entry member
    obtain ⟨letters, capital⟩ := api?_isLetters (own ▸ record.identifier)
    cases chars : entry.1.toList with
    | nil => exact absurd (String.toList_eq_nil_iff.mp chars) letters.something
    | cons first rest =>
      rw [chars] at capital
      exact ⟨first, rest, rfl, capital first rfl, chars ▸ letters.letters⟩

theorem fetchMetadata_ends (web : Web) (url : String) :
    ((∃ cause, (Discovery.fetchMetadata web (some url)).result = .error cause) ∧ RaisesJson web (url ++ "/docs/metadata")) ∨
      ¬ RaisesJson web (url ++ "/docs/metadata") ∧
        (Discovery.fetchMetadata web (some url)).result = .ok (recordOf? web url) := by
  have address : Discovery.metadataAddress (some url) = url ++ "/docs/metadata" := rfl
  unfold recordOf? Discovery.fetchMetadata
  rw [address]
  -- Only what a fetch raises stops a candidate; it is left out if the fetch fails.
  obtain ⟨cause, stopped, -, raises⟩ | ⟨calm, ⟨fault, failed⟩ | ⟨document, fetched⟩⟩ :=
    fetchJson_cases web (url ++ "/docs/metadata")
  · rw [stopped]
    exact .inl ⟨⟨cause, rfl⟩, raises⟩
  · rw [failed]
    exact .inr ⟨calm, rfl⟩
  · rw [fetched]
    exact .inr ⟨calm, rfl⟩

/-- Where nothing raises, every order leads to the same catalogue. -/
theorem catalogueIn_calm {web : Web} {urls : List String} {order : List Nat} (all : order.Perm (List.range urls.length))
    (calm : ∀ url ∈ urls, ¬ RaisesJson web (url ++ "/docs/metadata")) :
    (Discovery.catalogueIn order web (urls.map some)).result = .ok (.ofAnswers (urls.map (recordOf? web))) := by
  have answered : ∀ url ∈ urls, (Discovery.fetchMetadata web (some url)).result = .ok (recordOf? web url) := by
    intro url member
    obtain ⟨-, raises⟩ | ⟨-, answered⟩ := fetchMetadata_ends web url
    · exact absurd raises (calm url member)
    · exact answered
  have together := Run.gatherIn_ok all answered
  rw [catalogueIn_result, List.map_map, Function.comp_def, together]
  rfl

/-- For every list of candidates, every web and every order of arrival: a catalogue is made just if no candidate is
answered with something that raises, and it lists the usable candidates then. -/
theorem catalogueIn_listsUsable (web : Web) (urls : List String) (order : List Nat)
    (all : order.Perm (List.range urls.length)) :
    ((∃ found, (Discovery.catalogueIn order web (urls.map some)).result = .ok found) ↔
        ∀ url ∈ urls, ¬ RaisesJson web (url ++ "/docs/metadata")) ∧
      ∀ found, (Discovery.catalogueIn order web (urls.map some)).result = .ok found → ListsUsable web urls found := by
  by_cases calm : ∀ url ∈ urls, ¬ RaisesJson web (url ++ "/docs/metadata")
  · have ends := catalogueIn_calm all calm
    refine ⟨iff_of_true ⟨_, ends⟩ calm, fun found here => ?_⟩
    obtain rfl := Except.ok.inj (ends.symm.trans here)
    exact ofAnswers_listsUsable web urls
  · -- What raises stops the catalogue in every order.
    have stopped : ∀ found, (Discovery.catalogueIn order web (urls.map some)).result ≠ .ok found := by
      intro found here
      push Not at calm
      obtain ⟨url, member, raises⟩ := calm
      exact (catalogueIn_raises web (urls.map some)).always ⟨some url, List.mem_map_of_mem member, raises⟩ found
        ⟨order, by simpa using all, here⟩
    exact ⟨iff_of_false (fun ⟨found, here⟩ => stopped found here) calm, fun found here => absurd here (stopped found)⟩

/-! ### Candidates of one name -/

/-- Metadata that claims to be of another API. -/
def spoofedMetadata : Datum :=
  .object [("identifier", .text "Evil"), ("url", .text "https://evil")]

/-- Metadata whose versions are no list. -/
def brokenDocument : Datum := .object [("versions", .text "")]

def otherDocument : Datum := .object [("name", .text "B")]

/-- A web where the first shop has no list of versions, and where one candidate has no name. -/
def rivalWeb : Web := textWeb [("https://shop.one/docs/metadata", documentText brokenDocument),
  ("https://10.net/docs/metadata", documentText spoofedMetadata),
  ("https://shop.two/docs/metadata", documentText spoofedMetadata),
  ("https://shop.three/docs/metadata", documentText otherDocument)]

def rivalUrls : List String :=
  ["https://gone.net", "https://shop.one", "https://10.net", "https://shop.two", "https://shop.three", "https://shop.two"]

def rivalRecord : Metadata := { identifier := "Shop", url := "https://shop.two" }

theorem not_raisesJson_of_fetched {web : Web} {url : String} {document : Datum}
    (fetched : Network.fetchJson web url = .ok document) : ¬ RaisesJson web url := by
  obtain ⟨cause, stopped, -⟩ | ⟨calm, -⟩ := fetchJson_cases web url
  · cases stopped.symm.trans fetched
  · exact calm

/-- The second shop is the first usable one. It is listed under the name and the address that it was asked at. -/
theorem rival_catalogue : ∃ found, (Discovery.catalogueIn [5, 4, 3, 2, 1, 0] rivalWeb (rivalUrls.map some)).result = .ok found ∧
    ListsUsable rivalWeb rivalUrls found ∧ found.available = 3 ∧ found.apis = [("Shop", rivalRecord)] := by
  have broken : Network.fetchJson rivalWeb ("https://shop.one" ++ "/docs/metadata") = .ok brokenDocument :=
    IsPage.fetched ⟨by decide +kernel, by decide +kernel, Data.Json.read_write (by simp [brokenDocument, Data.Json.depthLimit])⟩ rfl
  have spoofed : IsPage spoofedMetadata :=
    ⟨by decide +kernel, by decide +kernel, Data.Json.read_write (by simp [spoofedMetadata, Data.Json.depthLimit])⟩
  have nameless : Network.fetchJson rivalWeb ("https://10.net" ++ "/docs/metadata") = .ok spoofedMetadata :=
    spoofed.fetched rfl
  have second : Network.fetchJson rivalWeb ("https://shop.two" ++ "/docs/metadata") = .ok spoofedMetadata :=
    spoofed.fetched rfl
  have third : Network.fetchJson rivalWeb ("https://shop.three" ++ "/docs/metadata") = .ok otherDocument :=
    IsPage.fetched ⟨by decide +kernel, by decide +kernel, Data.Json.read_write (by simp [otherDocument, Data.Json.depthLimit])⟩ rfl
  have gone : Network.fetchJson rivalWeb ("https://gone.net" ++ "/docs/metadata") =
      .error (.unavailable (.status (Network.Response.statusMessage { status := 404 } "https://gone.net/docs/metadata"))) := rfl
  -- Five of the six addresses answer with a document, and the other one is not there.
  have calm : ∀ url ∈ rivalUrls, ¬ RaisesJson rivalWeb (url ++ "/docs/metadata") := by
    simp only [rivalUrls, List.forall_mem_cons]
    exact ⟨fun raises => Bool.false_ne_true raises.1, not_raisesJson_of_fetched broken, not_raisesJson_of_fetched nameless,
      not_raisesJson_of_fetched second, not_raisesJson_of_fetched third, not_raisesJson_of_fetched second,
      List.forall_mem_nil _⟩
  -- Three candidates come to nothing, and the last one repeats the fourth.
  have records : rivalUrls.map (recordOf? rivalWeb) = [none, none, none, some rivalRecord,
      Discovery.identify? "https://shop.three" otherDocument, some rivalRecord] := by
    have spoof : Discovery.identify? "https://shop.two" spoofedMetadata = some rivalRecord := by rfl
    simp only [rivalUrls, List.map_cons, List.map_nil, recordOf?_of_stopped gone, recordOf?_of_fetched broken,
      recordOf?_of_fetched nameless, recordOf?_of_fetched second, recordOf?_of_fetched third, spoof]
    rfl
  have perm : [5, 4, 3, 2, 1, 0].Perm (List.range rivalUrls.length) := by decide
  obtain ⟨made, lists⟩ := catalogueIn_listsUsable rivalWeb rivalUrls [5, 4, 3, 2, 1, 0] perm
  obtain ⟨found, done⟩ := made.mpr calm
  have same := Except.ok.inj (done.symm.trans (catalogueIn_calm perm calm))
  refine ⟨found, done, lists found done, ?_, ?_⟩
  · rw [same, records]
    rfl
  · rw [same, records]
    rfl

end Bindery
