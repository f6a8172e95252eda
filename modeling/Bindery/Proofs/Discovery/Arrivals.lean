import Bindery.Proofs.Package.RootAgreement

/-!
# Orders of arrival

Documents are fetched at the same time and arrive in any order. Whether a run goes on does not depend on the order,
and neither does what a tree holds: each version of an API has the methods of its document if that is available
and without faults, and is left out otherwise. Only the place of a version in a tree tells when it arrived, and
no module of a package shows that.
-/
namespace Bindery

open Bindery.Data (Datum insertMember)
open Bindery.Discovery (Edition editions)
open Bindery.Network (Web)
open Bindery.Schema (Metadata)

/-! ### Planting -/

namespace Data

variable {α : Type}

/-- Set the values of several keys, one after the other. -/
def insertMembers (members added : List (String × α)) : List (String × α) :=
  added.foldl (fun members member => insertMember members member.1 member.2) members

/-- The last value that is set under a key is found, or else that which was there before. -/
theorem lookup_insertMembers (members added : List (String × α)) (key : String) :
    (insertMembers members added).lookup key = (added.reverse.lookup key).or (members.lookup key) := by
  induction added generalizing members with
  | nil => rfl
  | cons first rest ih =>
    obtain ⟨name, value⟩ := first
    rw [List.reverse_cons, List.lookup_append, Option.or_assoc]
    refine (ih _).trans (congrArg (Option.or _) ?_)
    -- The first key is set before the others, so that the later ones are asked first.
    rw [lookup_insertMember]
    by_cases here : key = name
    · subst here
      simp
    · have apart : (key == name) = false := by simpa using here
      simp [List.lookup_cons, apart, here]

theorem nodup_insertMembers {members : List (String × α)} (distinct : (members.map Prod.fst).Nodup)
    (added : List (String × α)) : ((insertMembers members added).map Prod.fst).Nodup :=
  List.foldlRecOn (motive := fun found : List (String × α) => (found.map Prod.fst).Nodup) _ _ distinct
    fun _ apart _ _ => nodup_insertMember apart _ _

end Data

/-- What arrived for an API, by version. -/
def ownArrivals (name : String) (arrivals : List (Edition × Option (List Method))) : List (String × List Method) :=
  arrivals.filterMap fun arrival =>
    if name = arrival.1.metadata.identifier then arrival.2.map fun methods => (arrival.1.version, methods) else none

def ApiNode.receive (api : ApiNode) (own : List (String × List Method)) : ApiNode :=
  { api with versions := Data.insertMembers api.versions own }

/-- Each API gets its own arrivals. -/
theorem plant_eq (tree : ApiTree) (arrivals : List (Edition × Option (List Method))) :
    Discovery.plant tree arrivals =
      tree.map fun entry => (entry.1, entry.2.receive (ownArrivals entry.1 arrivals)) := by
  -- Each arrival changes the entry of its own API and leaves all others, whatever the tree before it.
  induction arrivals generalizing tree with
  | nil => exact (List.map_id tree).symm
  | cons arrival rest ih =>
    obtain ⟨edition, arrived⟩ := arrival
    rw [Discovery.plant, List.foldl_cons]
    cases arrived with
    | none =>
      refine (ih tree).trans (List.map_congr_left fun entry _ => ?_)
      simp [ownArrivals]
    | some methods =>
      refine (ih _).trans ?_
      simp only [Discovery.setVersion, List.map_map]
      refine List.map_congr_left fun entry _ => ?_
      by_cases own : entry.1 = edition.metadata.identifier
      · simp [ownArrivals, own, ApiNode.receive, Data.insertMembers]
      · simp [ownArrivals, own]

/-! ### What a tree holds -/

/-- Are APIs listed once each, by the names that they have? -/
structure IsKeyed (apis : List (String × Metadata)) : Prop where
  distinct : (apis.map Prod.fst).Nodup
  own : ∀ entry ∈ apis, entry.2.identifier = entry.1

/-- What a catalogue lists is of this kind. -/
theorem catalogue_isKeyed {web : Web} {links : List Discovery.Link} {found : Discovery.Catalogue}
    (done : (Discovery.catalogue web links).result = .ok found) : IsKeyed found.apis :=
  have known := catalogue_isCatalogue done
  ⟨known.distinct, fun entry member => (known.named entry member).1⟩

/-- Does a tree hold what the web offers for some APIs, and nothing else? -/
structure HoldsOffers (web : Web) (apis : List (String × Metadata)) (tree : ApiTree) : Prop where
  apis : tree.map (fun entry => (entry.1, entry.2.metadata)) = apis
  versioned : ∀ entry ∈ tree, (entry.2.versions.map Prod.fst).Nodup
  offers : ∀ entry ∈ tree, ∀ version methods, (version, methods) ∈ entry.2.versions ↔
    version ∈ entry.2.metadata.versions ∧ Offers web ⟨entry.2.metadata, version⟩ methods

section Holding

variable {web : Web} {apis : List (String × Metadata)}

theorem mem_editions_iff {edition : Edition} :
    edition ∈ editions apis ↔ ∃ entry ∈ apis, edition.metadata = entry.2 ∧ edition.version ∈ entry.2.versions := by
  simp only [editions, List.mem_flatMap, List.mem_map]
  constructor
  · rintro ⟨entry, member, version, known, rfl⟩
    exact ⟨entry, member, rfl, known⟩
  · rintro ⟨entry, member, same, known⟩
    exact ⟨entry, member, edition.version, known, by rw [← same]⟩

/-- An API has the editions of its own versions. -/
theorem IsKeyed.edition_iff (keyed : IsKeyed apis) {entry : String × Metadata} (member : entry ∈ apis) {edition : Edition} :
    (edition ∈ editions apis ∧ entry.1 = edition.metadata.identifier) ↔
      edition.metadata = entry.2 ∧ edition.version ∈ entry.2.versions := by
  rw [mem_editions_iff]
  constructor
  · rintro ⟨⟨other, there, same, known⟩, named⟩
    rw [same, keyed.own other there] at named
    obtain rfl := List.inj_on_of_nodup_map keyed.distinct member there named
    exact ⟨same, known⟩
  · rintro ⟨same, known⟩
    exact ⟨⟨entry, member, same, known⟩, by rw [same, keyed.own entry member]⟩

/-- Whatever the order of arrival, if nothing stops the run then the tree holds what is offered. -/
theorem plant_holdsOffers (keyed : IsKeyed apis) {wanted : List Edition} (all : wanted.Perm (editions apis))
    {found : Edition → Option (List Method)} (offered : ∀ edition ∈ editions apis, ∀ methods,
      found edition = some methods ↔ Offers web edition methods) :
    HoldsOffers web apis (Discovery.plant (Discovery.bareTree apis) (wanted.map fun edition => (edition, found edition))) := by
  rw [plant_eq, Discovery.bareTree, List.map_map]
  refine ⟨?_, List.forall_mem_map.mpr fun entry member => ?_, List.forall_mem_map.mpr fun entry member version methods => ?_⟩
  · rw [List.map_map]
    exact List.map_id apis
  · exact @Data.nodup_insertMembers _ [] List.nodup_nil _
  · -- The arrivals of an API are its own versions, with what is offered for each.
    have own (methods : List Method) :
        (version, methods) ∈ ownArrivals entry.1 (wanted.map fun edition => (edition, found edition)) ↔
          version ∈ entry.2.versions ∧ Offers web ⟨entry.2, version⟩ methods := by
      simp only [ownArrivals, List.filterMap_map, List.mem_filterMap, Function.comp, Option.ite_none_right_eq_some,
        Option.map_eq_some_iff, Prod.mk.injEq]
      constructor
      · rintro ⟨edition, member', named, methods', arrived, rfl, rfl⟩
        obtain ⟨same, known⟩ := (keyed.edition_iff member).mp ⟨all.mem_iff.mp member', named⟩
        exact ⟨known, same ▸ (offered edition (all.mem_iff.mp member') methods').mp arrived⟩
      · rintro ⟨known, offers⟩
        obtain ⟨listed, named⟩ := (@IsKeyed.edition_iff _ keyed _ member ⟨entry.2, version⟩).mpr ⟨rfl, known⟩
        exact ⟨⟨entry.2, version⟩, all.mem_iff.mpr listed, named, methods, (offered _ listed methods).mpr offers, rfl, rfl⟩
    change (version, methods) ∈ Data.insertMembers [] _ ↔ _
    rw [← Source.lookup_eq_some_iff (@Data.nodup_insertMembers _ [] List.nodup_nil _), Data.lookup_insertMembers,
      List.lookup_nil, Option.or_none]
    constructor
    · exact fun held => (own methods).mp (List.mem_reverse.mp (Source.mem_of_lookup held))
    · intro held
      refine Source.lookup_of_unique (List.mem_reverse.mpr ((own methods).mpr held)) fun other there => ?_
      -- A version that is listed twice arrives twice, with the same methods.
      exact ((own other).mp (List.mem_reverse.mp there)).2.unique held.2

end Holding

/-! ### Packages -/

/-- Is an API the same up to the order of its versions? -/
structure IsRearranged (first second : String × ApiNode) : Prop where
  name : first.1 = second.1
  metadata : first.2.metadata = second.2.metadata
  versioned : (first.2.versions.map Prod.fst).Nodup
  versions : first.2.versions.Perm second.2.versions

/-- Do trees give the same versions, the same modules and so the same files? -/
structure GivesSamePackage (first second : ApiTree) : Prop where
  versions : first.map (fun entry => (entry.1, entry.2.generatedVersions)) =
    second.map fun entry => (entry.1, entry.2.generatedVersions)
  modules : Emission.versionModules first = Emission.versionModules second
  index : indexModule first = indexModule second
  files : ∀ settings, Emission.emit settings first = Emission.emit settings second

/-- What the web offers fixes a tree up to the order of the versions. -/
theorem HoldsOffers.rearranged {web : Web} {apis : List (String × Metadata)} {first second : ApiTree}
    (here : HoldsOffers web apis first) (there : HoldsOffers web apis second) :
    List.Forall₂ IsRearranged first second := by
  -- Both trees list the same APIs in the same order, so that their entries go with one another.
  have same := here.apis.trans there.apis.symm
  rw [← List.forall₂_eq_eq_eq, List.forall₂_map_left_iff, List.forall₂_map_right_iff, List.forall₂_iff_zip] at same
  rw [List.forall₂_iff_zip]
  refine ⟨same.1, fun {a b} pair => ?_⟩
  obtain ⟨name, metadata⟩ := Prod.mk.inj (same.2 pair)
  obtain ⟨left, right⟩ := List.of_mem_zip pair
  refine ⟨name, metadata, here.versioned a left, ?_⟩
  rw [List.perm_ext_iff_of_nodup (here.versioned a left).of_map (there.versioned b right).of_map]
  intro version
  rw [here.offers a left, there.offers b right, metadata]

section Rearranged

variable {first second : String × ApiNode} (same : IsRearranged first second)
include same

theorem IsRearranged.versioned_right : (second.2.versions.map Prod.fst).Nodup :=
  (same.versions.map Prod.fst).nodup_iff.mp same.versioned

theorem IsRearranged.methods (version : String) : first.2.methods version = second.2.methods version := by
  have found : first.2.versions.lookup version = second.2.versions.lookup version := by
    refine Option.ext fun methods => ?_
    rw [Source.lookup_eq_some_iff same.versioned, Source.lookup_eq_some_iff same.versioned_right,
      same.versions.mem_iff]
  rw [ApiNode.methods, ApiNode.methods, found]

/-- The versions are sorted, so their order of arrival is lost. -/
theorem IsRearranged.generatedVersions : first.2.generatedVersions = second.2.generatedVersions := by
  have perm : first.2.generatedVersions.Perm second.2.generatedVersions :=
    (List.mergeSort_perm ..).trans (((same.versions.filter _).map _).trans (List.mergeSort_perm ..).symm)
  exact perm.eq_of_pairwise (fun a b _ _ before after => absurd after (lt_asymm before))
    (generatedVersions_ascend same.versioned) (generatedVersions_ascend same.versioned_right)

theorem IsRearranged.versionModule (version : String) :
    versionModule first.2 version = versionModule second.2 version := by
  simp only [Bindery.versionModule, same.metadata, same.methods version]

end Rearranged

theorem hasIdentityLookup_congr {first second : ApiTree} (same : List.Forall₂ IsRearranged first second) :
    hasIdentityLookup first = hasIdentityLookup second := by
  have found : (first.lookup identityApi = none ∧ second.lookup identityApi = none) ∨
      ∃ a b, first.lookup identityApi = some a ∧ second.lookup identityApi = some b ∧
        a.generatedVersions = b.generatedVersions ∧ ∀ version, a.methods version = b.methods version := by
    -- Both trees have the names in the same order, so the lookups stop at the same place.
    induction same with
    | nil => exact .inl ⟨rfl, rfl⟩
    | @cons a b rest others here _ ih =>
      obtain ⟨name, api⟩ := a
      obtain ⟨name', api'⟩ := b
      obtain rfl : name = name' := here.name
      rw [List.lookup_cons, List.lookup_cons]
      cases identityApi == name with
      | true => exact .inr ⟨api, api', rfl, rfl, here.generatedVersions, here.methods⟩
      | false => exact ih
  unfold hasIdentityLookup
  obtain ⟨left, right⟩ | ⟨a, b, left, right, versions, methods⟩ := found
  · rw [left, right]
  · rw [left, right]
    simp only [versions, methods]

/-- Trees that are the same up to the order of versions give the same package. -/
theorem givesSamePackage_of_rearranged {first second : ApiTree} (same : List.Forall₂ IsRearranged first second) :
    GivesSamePackage first second := by
  -- Whatever is made of the entries one by one is the same for both trees, if it is the same for each.
  have mapped {α : Type} {f : String × ApiNode → α} (each : ∀ a b, IsRearranged a b → f a = f b) :
      first.map f = second.map f := by
    rw [← List.forall₂_eq_eq_eq, List.forall₂_map_left_iff, List.forall₂_map_right_iff]
    exact same.imp each
  have versions := @mapped _ (fun entry => (entry.1, entry.2.generatedVersions))
    fun a b rearranged => by rw [rearranged.name, rearranged.generatedVersions]
  have modules : Emission.versionModules first = Emission.versionModules second := by
    rw [Emission.versionModules, Emission.versionModules, List.flatMap_def, List.flatMap_def]
    refine congrArg List.flatten (mapped fun a b rearranged => ?_)
    simp only [rearranged.generatedVersions, rearranged.metadata, rearranged.versionModule]
  have classes : versionClasses first = versionClasses second := by
    rw [versionClasses, versionClasses, List.flatMap_def, List.flatMap_def]
    exact congrArg List.flatten (mapped fun a b rearranged => by rw [rearranged.name, rearranged.generatedVersions])
  have client : clientClass first = clientClass second := by
    rw [clientClass, clientClass]
    have dicts := @mapped _ (fun entry => Source.Stmt.assign (Source.selfAttribute entry.1) (.dict (versionEntries entry.1 entry.2)))
      fun a b rearranged => by rw [versionEntries, versionEntries, rearranged.name, rearranged.generatedVersions]
    rw [dicts]
  have index : indexModule first = indexModule second := by
    rw [indexModule, indexModule, indexImports, indexImports, clientFactory, clientFactory, classes, client,
      hasIdentityLookup_congr same]
  exact ⟨versions, modules, index, fun settings => by rw [Emission.emit, Emission.emit, modules, index]⟩

/-! ### Every order of arrival -/

section Orders

variable {web : Web} {apis : List (String × Metadata)}

/-- What editions that arrive in this order come to. -/
def planted (web : Web) (apis : List (String × Metadata)) (arrived : List Edition) : Except Interruption ApiTree :=
  match interruption? (arrived.map fun edition => edition.fetchMethods web) with
  | some cause => .error cause
  | none => .ok (Discovery.plant (Discovery.bareTree apis)
      (arrived.map fun edition => (edition, (edition.fetchMethods web).result.toOption.join)))

theorem buildTreeIn_result (order : List Nat) (web : Web) (apis : List (String × Metadata)) :
    (Discovery.buildTreeIn order web apis).result =
      planted web apis (order.filterMap fun position => (editions apis)[position]?) := by
  rw [Discovery.buildTreeIn, Run.result_bind, planted]
  generalize order.filterMap (fun position => (editions apis)[position]?) = arrived
  cases found : interruption? (arrived.map fun edition => edition.fetchMethods web) with
  | some cause =>
    rw [Run.result_gather, found]
    rfl
  | none =>
    -- Without an interruption each edition has a value, which is what arrived for it.
    have each : ∀ edition ∈ arrived, (edition.fetchMethods web).result =
        .ok (edition.fetchMethods web).result.toOption.join := fun edition member => by
      obtain ⟨methods, done⟩ := interruption?_eq_none_iff.mp found _ (List.mem_map_of_mem member)
      rw [done]
      rfl
    have zipped := @List.zip_map' _ _ _ id
      (fun edition : Edition => (edition.fetchMethods web).result.toOption.join) arrived
    rw [List.map_id] at zipped
    rw [Run.gather_ok each]
    exact congrArg (fun arrivals => Except.ok (Discovery.plant _ arrivals)) zipped

/-- An edition that stops a run does so in every order, unless another one stops it before. -/
theorem planted_stops {arrived : List Edition} {edition : Edition} (member : edition ∈ arrived) {cause : Interruption}
    (stopped : (edition.fetchMethods web).result = .error cause) :
    ∃ other, planted web apis arrived = .error other ∧ ∃ edition ∈ arrived, StopsWith web edition other := by
  rw [planted]
  cases found : interruption? (arrived.map fun edition => edition.fetchMethods web) with
  | some other =>
    obtain ⟨_, inside, ended⟩ := interruption?_eq_some found
    obtain ⟨first, among, rfl⟩ := List.mem_map.mp inside
    exact ⟨other, rfl, first, among, fetchMethods_eq_error ended⟩
  | none =>
    obtain ⟨value, done⟩ := interruption?_eq_none_iff.mp found _ (List.mem_map_of_mem member)
    cases stopped.symm.trans done

/-- Without an edition that stops it, a run goes on in every order. -/
theorem planted_holdsOffers (keyed : IsKeyed apis) {arrived : List Edition} (all : arrived.Perm (editions apis))
    (through : ∀ edition ∈ editions apis, ∀ cause, (edition.fetchMethods web).result ≠ .error cause) :
    ∃ tree, planted web apis arrived = .ok tree ∧ HoldsOffers web apis tree := by
  have each (edition : Edition) (member : edition ∈ editions apis) :
      (edition.fetchMethods web).result = .ok (edition.fetchMethods web).result.toOption.join := by
    cases ended : (edition.fetchMethods web).result with
    | error cause => exact absurd ended (through edition member cause)
    | ok found => rfl
  have none : interruption? (arrived.map fun edition => edition.fetchMethods web) = none := by
    rw [interruption?_eq_none_iff, List.forall_mem_map]
    exact fun edition member => ⟨_, each edition (all.mem_iff.mp member)⟩
  refine ⟨_, by rw [planted, none], plant_holdsOffers keyed all fun edition member methods => ?_⟩
  rw [← fetchMethods_eq_some_iff, each edition member, Except.ok.injEq]
  rfl

/-- Either the run that builds a tree is ended in every order of arrival, by an edition that cannot be asked for or be
compiled, or in every order the tree holds exactly what the web offers. Then the package is the same in all orders. -/
theorem buildTreeIn_any_order (keyed : IsKeyed apis) :
    ((∀ order, order.Perm (List.range (editions apis).length) →
        ∃ cause, (Discovery.buildTreeIn order web apis).result = .error cause ∧
          ∃ edition ∈ editions apis, StopsWith web edition cause) ∨
      ∀ order, order.Perm (List.range (editions apis).length) →
        ∃ tree, (Discovery.buildTreeIn order web apis).result = .ok tree ∧ HoldsOffers web apis tree) ∧
      ∀ early late, early.Perm (List.range (editions apis).length) → late.Perm (List.range (editions apis).length) →
        ∀ first second, (Discovery.buildTreeIn early web apis).result = .ok first →
          (Discovery.buildTreeIn late web apis).result = .ok second → GivesSamePackage first second := by
  -- Which editions would stop the run has nothing to do with the order.
  by_cases through : ∀ edition ∈ editions apis, ∀ cause, (edition.fetchMethods web).result ≠ .error cause
  · have held {order : List Nat} (all : order.Perm (List.range (editions apis).length)) :
        ∃ tree, (Discovery.buildTreeIn order web apis).result = .ok tree ∧ HoldsOffers web apis tree :=
      buildTreeIn_result order web apis ▸ planted_holdsOffers keyed (arrivals_perm all) through
    refine ⟨.inr fun order => held, fun early late before after first second here there => ?_⟩
    obtain ⟨_, done, early⟩ := held before
    obtain rfl := Except.ok.inj (done.symm.trans here)
    obtain ⟨_, done, late⟩ := held after
    obtain rfl := Except.ok.inj (done.symm.trans there)
    -- Both trees hold what the web offers, which fixes all but the order of versions.
    exact givesSamePackage_of_rearranged (early.rearranged late)
  · push Not at through
    obtain ⟨edition, member, cause, stopped⟩ := through
    have failed {order : List Nat} (all : order.Perm (List.range (editions apis).length)) :
        ∃ cause, (Discovery.buildTreeIn order web apis).result = .error cause ∧
          ∃ edition ∈ editions apis, StopsWith web edition cause := by
      obtain ⟨other, ended, first, arrived, stops⟩ := planted_stops ((arrivals_perm all).mem_iff.mpr member) stopped
      exact ⟨other, (buildTreeIn_result order web apis).trans ended, first, (arrivals_perm all).mem_iff.mp arrived, stops⟩
    refine ⟨.inl fun order => failed, fun early late before _ first _ here => ?_⟩
    obtain ⟨other, ended, -⟩ := failed before
    cases ended.symm.trans here

end Orders

def twinMetadata : Metadata := { shopMetadata with versions := ["v1", "v2"] }

/-- A web where two versions of an API have documents. -/
def twinWeb : Web := textWeb [("https://shop.net/docs/json/v1", documentText shopDocument),
  ("https://shop.net/docs/json/v2", documentText shopDocument)]

/-- Two versions may arrive in both orders. The trees differ then, and the packages are the same. -/
theorem twin_versions_arrive :
    ∃ method first second, (Discovery.buildTreeIn [0, 1] twinWeb [("Shop", twinMetadata)]).result = .ok first ∧
      (Discovery.buildTreeIn [1, 0] twinWeb [("Shop", twinMetadata)]).result = .ok second ∧
      first = [("Shop", { metadata := twinMetadata, versions := [("v1", [method]), ("v2", [method])] })] ∧
      second = [("Shop", { metadata := twinMetadata, versions := [("v2", [method]), ("v1", [method])] })] ∧
      GivesSamePackage first second := by
  have keyed : IsKeyed [("Shop", twinMetadata)] := ⟨by decide, List.forall_mem_singleton.mpr rfl⟩
  have parsed : Schema.parseDocument shopDocument = .valid ⟨[("/items", [("get", {})])], []⟩ := by rfl
  obtain ⟨method, notices, made, -⟩ := shop_compiled ["v1", "v2"]
  -- Both versions are described by one document, so that they have the same method.
  have shown (version : String) (known : version ∈ ["v1", "v2"]) :
      Network.fetchJson twinWeb (Edition.address ⟨twinMetadata, version⟩) = .ok shopDocument := by
    have address : Edition.address ⟨twinMetadata, version⟩ = "https://shop.net/docs/json/" ++ version := by
      rcases List.mem_pair.mp known with rfl | rfl <;> decide +kernel
    rw [address]
    rcases List.mem_pair.mp known with rfl | rfl <;>
      exact shopDocument_isPage.fetched (by simp [List.lookup_cons])
  have fetched : ∀ edition ∈ editions [("Shop", twinMetadata)],
      (edition.fetchMethods twinWeb).result = .ok (some [method]) := by
    refine List.forall_mem_cons.mpr ⟨?_, List.forall_mem_singleton.mpr ?_⟩
    · exact fetchMethods_ok (shown "v1" (by decide)) parsed made
    · exact fetchMethods_ok (shown "v2" (by decide)) parsed made
  -- Whatever the order, nothing stops the run, and the methods are planted as they arrive.
  have ends (order : List Nat) (all : order.Perm [0, 1]) :
      (Discovery.buildTreeIn order twinWeb [("Shop", twinMetadata)]).result =
        .ok (Discovery.plant (Discovery.bareTree [("Shop", twinMetadata)])
          ((order.filterMap fun position => (editions [("Shop", twinMetadata)])[position]?).map
            fun edition => (edition, some [method]))) := by
    have arrived (edition : Edition) (member : edition ∈ order.filterMap fun position =>
        (editions [("Shop", twinMetadata)])[position]?) := fetched edition ((arrivals_perm all).mem_iff.mp member)
    have none := interruption?_eq_none_iff.mpr (List.forall_mem_map.mpr fun edition member => ⟨_, arrived edition member⟩)
    rw [buildTreeIn_result, planted, none]
    refine congrArg (fun found => Except.ok (Discovery.plant _ found)) (List.map_congr_left fun edition member => ?_)
    rw [arrived edition member]
    rfl
  have early := ends [0, 1] (by decide)
  have late := ends [1, 0] (by decide)
  exact ⟨method, _, _, early, late, rfl, rfl, (buildTreeIn_any_order keyed).2 [0, 1] [1, 0] (by decide) (by decide)
    _ _ early late⟩

end Bindery
