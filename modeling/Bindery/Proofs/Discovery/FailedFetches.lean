import Bindery.Proofs.Discovery.Arrivals

/-!
# Fetches that fail

A page or document that is not available is left out, and everything else comes out as if it had not been
listed. A stage is left by what a fetch raises just if an address of it is refused, is answered with something that
is no header field, or has an answer that can be read neither as a document nor as a broken one.
-/
namespace Bindery

open Bindery.Discovery (Catalogue Edition Link Listing editions)
open Bindery.Network (FetchFault Reply Response Web)
open Bindery.Schema (Metadata)

/-! ### What a fetch raises -/

/-- Is this raised while something is fetched? -/
def Interruption.isRaised : Interruption → Bool
  | invalidAddress _ | malformedHeader _ | undecodable _ | tooDeep => true
  | failure _ | invalidPattern _ | missingGroup | emptyGroup | missingAddress | emission _ => false

/-- Does a reply raise something, where some successful responses do so when they are read? -/
def Network.Reply.Raises (unread : Response → Prop) : Reply → Prop
  | .response answer => answer.isSuccess = true ∧ unread answer
  | .broken _ _ => False
  | .invalidAddress _ | .malformed _ => True

/-- Is something raised where a text is fetched? -/
def RaisesText (web : Web) (url : String) : Prop :=
  (web url).Raises fun answer => ∃ fault, answer.text = .error fault

/-- Is something raised where a document is fetched? -/
def RaisesJson (web : Web) (url : String) : Prop :=
  (web url).Raises fun answer => answer.json = .error (.unreadable .tooDeep)

/-- Did a fetch fail, so that there is nothing to go on with? -/
def HasFailed {α : Type} (fetched : Except FetchFault α) : Prop := ∃ fault, fetched = .error (.unavailable fault)

theorem fetch_cases (web : Web) (url : String) :
    (∃ cause, Network.fetch web url = .error (.interrupted cause) ∧ cause.isRaised = true ∧
        ∀ unread, (web url).Raises unread) ∨
      (∃ fault, Network.fetch web url = .error (.unavailable fault) ∧ ∀ unread, ¬ (web url).Raises unread) ∨
      ∃ answer, Network.fetch web url = .ok answer ∧ ∀ unread, (web url).Raises unread ↔ unread answer := by
  unfold Network.fetch
  cases web url with
  | invalidAddress message => exact .inl ⟨_, rfl, rfl, fun _ => trivial⟩
  | malformed fault => exact .inl ⟨_, rfl, rfl, fun _ => trivial⟩
  | broken kind message => exact .inr (.inl ⟨_, rfl, fun _ => id⟩)
  | response answer =>
    by_cases success : answer.isSuccess = true
    · exact .inr (.inr ⟨answer, if_pos success, fun _ => and_iff_right success⟩)
    · exact .inr (.inl ⟨_, if_neg success, fun _ read => success read.1⟩)

/-- A fetch of a text is stopped by a reply that raises something, and by nothing else. -/
theorem fetchText_cases (web : Web) (url : String) :
    (∃ cause, Network.fetchText web url = .error (.interrupted cause) ∧ cause.isRaised = true ∧ RaisesText web url) ∨
      ¬ RaisesText web url ∧ (HasFailed (Network.fetchText web url) ∨ ∃ text, Network.fetchText web url = .ok text) := by
  rw [HasFailed, Network.fetchText]
  -- Before a text is decoded, the fetch is stopped, fails, or has an answer.
  obtain ⟨cause, stopped, raised, all⟩ | ⟨fault, failed, none⟩ | ⟨answer, fetched, raises⟩ := fetch_cases web url
  · rw [stopped]
    exact .inl ⟨cause, rfl, raised, all _⟩
  · rw [failed]
    exact .inr ⟨none _, .inl ⟨fault, rfl⟩⟩
  · simp only [fetched, RaisesText, raises]
    cases answer.text with
    | error fault => exact .inl ⟨_, rfl, rfl, fault, rfl⟩
    | ok text => exact .inr ⟨by simp, .inr ⟨text, rfl⟩⟩

theorem fetchJson_cases (web : Web) (url : String) :
    (∃ cause, Network.fetchJson web url = .error (.interrupted cause) ∧ cause.isRaised = true ∧ RaisesJson web url) ∨
      ¬ RaisesJson web url ∧ (HasFailed (Network.fetchJson web url) ∨ ∃ value, Network.fetchJson web url = .ok value) := by
  rw [HasFailed, Network.fetchJson]
  obtain ⟨cause, stopped, raised, all⟩ | ⟨fault, failed, none⟩ | ⟨answer, fetched, raises⟩ := fetch_cases web url
  · rw [stopped]
    exact .inl ⟨cause, rfl, raised, all _⟩
  · rw [failed]
    exact .inr ⟨none _, .inl ⟨fault, rfl⟩⟩
  · simp only [fetched, RaisesJson, raises]
    -- Only a text that is nested too deeply is neither read nor refused.
    rcases answer.json with (_ | _ | _ | _) | value
    · exact .inr ⟨by simp, .inl ⟨_, rfl⟩⟩
    · exact .inr ⟨by simp, .inl ⟨_, rfl⟩⟩
    · exact .inr ⟨by simp, .inl ⟨_, rfl⟩⟩
    · exact .inl ⟨_, rfl, rfl, rfl⟩
    · exact .inr ⟨by simp, .inr ⟨value, rfl⟩⟩

/-! ### Single fetches -/

/-- What is found on a page may stop a run, but nothing is raised there. -/
theorem links_not_raised {listing : Listing} {page : String} {cause : Interruption}
    (stopped : listing.links page = .error cause) : cause.isRaised = false := by
  -- A pattern may be broken, or have no group, or a group without a match; none of this is raised by a fetch.
  unfold Listing.links Discovery.linksBy at stopped
  split at stopped
  · cases stopped
    rfl
  · dsimp only at stopped
    split at stopped
    · cases stopped
      rfl
    · split at stopped
      · split at stopped
        · cases stopped
          rfl
        · cases stopped
      · cases stopped

theorem fetchLinks_raises_iff {web : Web} {listing : Listing} :
    (∃ cause, (listing.fetchLinks web).result = .error cause ∧ cause.isRaised = true) ↔ RaisesText web listing.url := by
  unfold Listing.fetchLinks
  obtain ⟨cause, stopped, raised, raises⟩ | ⟨calm, ⟨fault, failed⟩ | ⟨page, fetched⟩⟩ := fetchText_cases web listing.url
  · rw [stopped]
    exact iff_of_true ⟨cause, rfl, raised⟩ raises
  · rw [failed]
    exact iff_of_false (fun ⟨_, stopped, _⟩ => nomatch stopped) calm
  · rw [fetched]
    refine iff_of_false (fun ⟨cause, stopped, raised⟩ => ?_) calm
    exact Bool.false_ne_true ((links_not_raised stopped).symm.trans raised)

/-- A page that is not available has no links. -/
theorem fetchLinks_failed {web : Web} {listing : Listing} (gone : HasFailed (Network.fetchText web listing.url)) :
    (listing.fetchLinks web).result = .ok [] := by
  obtain ⟨fault, failed⟩ := gone
  rw [Listing.fetchLinks, failed]
  rfl

theorem fetchMetadata_raises_iff {web : Web} {link : Link} :
    (∃ cause, (Discovery.fetchMetadata web link).result = .error cause ∧ cause.isRaised = true) ↔
      RaisesJson web (Discovery.metadataAddress link) := by
  unfold Discovery.fetchMetadata
  obtain ⟨cause, stopped, raised, raises⟩ | ⟨calm, ⟨fault, failed⟩ | ⟨value, fetched⟩⟩ :=
    fetchJson_cases web (Discovery.metadataAddress link)
  · rw [stopped]
    exact iff_of_true ⟨cause, rfl, raised⟩ raises
  · rw [failed]
    exact iff_of_false (fun ⟨_, stopped, _⟩ => nomatch stopped) calm
  · rw [fetched]
    refine iff_of_false (fun ⟨cause, stopped, raised⟩ => ?_) calm
    cases link with
    | none =>
      cases stopped
      cases raised
    | some url => cases stopped

/-- A candidate whose metadata is not available is left out. -/
theorem fetchMetadata_failed {web : Web} {link : Link}
    (gone : HasFailed (Network.fetchJson web (Discovery.metadataAddress link))) :
    (Discovery.fetchMetadata web link).result = .ok none := by
  obtain ⟨fault, failed⟩ := gone
  unfold Discovery.fetchMetadata
  rw [failed]
  rfl

theorem fetchMethods_raises_iff {web : Web} {edition : Edition} :
    (∃ cause, (edition.fetchMethods web).result = .error cause ∧ cause.isRaised = true) ↔
      RaisesJson web edition.address := by
  unfold Edition.fetchMethods
  obtain ⟨cause, stopped, raised, raises⟩ | ⟨calm, ⟨fault, failed⟩ | ⟨value, fetched⟩⟩ :=
    fetchJson_cases web edition.address
  · rw [stopped]
    exact iff_of_true ⟨cause, rfl, raised⟩ raises
  · rw [failed]
    exact iff_of_false (fun ⟨_, stopped, _⟩ => nomatch stopped) calm
  · rw [fetched]
    refine iff_of_false (fun ⟨cause, stopped, raised⟩ => ?_) calm
    -- A document that is there stops the run with a failure to compile it, if at all.
    have stops : StopsWith web edition cause := fetchMethods_eq_error (by rw [Edition.fetchMethods, fetched]; exact stopped)
    obtain interrupted | ⟨_, _, _, _, _, _, rfl⟩ := stops
    · cases fetched.symm.trans interrupted
    · cases raised

/-- A version whose document is not available is left out. -/
theorem fetchMethods_failed {web : Web} {edition : Edition} (gone : HasFailed (Network.fetchJson web edition.address)) :
    (edition.fetchMethods web).result = .ok none := by
  obtain ⟨fault, failed⟩ := gone
  rw [Edition.fetchMethods, failed]
  rfl

/-! ### Orders of arrival -/

section Orders

variable {ι α β : Type}

/-- Lists in all orders are the permuted ones. -/
theorem exists_order_iff {items : List ι} {P : List ι → Prop} :
    (∃ order : List Nat, order.Perm (List.range items.length) ∧ P (order.filterMap fun position => items[position]?)) ↔
      ∃ arrived, List.Perm arrived items ∧ P arrived := by
  constructor
  · exact fun ⟨order, all, holds⟩ => ⟨_, arrivals_perm all, holds⟩
  · rintro ⟨arrived, perm, holds⟩
    -- Each item goes with its position, and the positions are permuted as the items are.
    have placed : List.Forall₂ (fun item position => items[position]? = some item) items (List.range items.length) := by
      rw [List.forall₂_iff_get]
      exact ⟨List.length_range.symm, fun i here there => by simp [here]⟩
    obtain ⟨order, places, all⟩ := List.perm_comp_forall₂ perm placed
    refine ⟨order, all, ?_⟩
    suffices order.filterMap (fun position => items[position]?) = arrived from this ▸ holds
    clear all perm holds
    induction places with
    | nil => rfl
    | cons here _ ih => rw [List.filterMap_cons, here, ih]

variable {items : List ι} {task : ι → Run α}

/-- What is permuted after a map was permuted before it. -/
theorem exists_perm_map {f : ι → α} {items : List ι} {values : List α} (perm : values.Perm (items.map f)) :
    ∃ arrived, List.Perm arrived items ∧ values = arrived.map f := by
  have mapped : List.Forall₂ (fun value item => value = f item) (items.map f) items :=
    List.forall₂_map_left_iff.mpr (List.forall₂_same.mpr fun _ _ => rfl)
  obtain ⟨arrived, same, perm⟩ := List.perm_comp_forall₂ perm mapped
  refine ⟨arrived, perm, ?_⟩
  rw [← List.forall₂_eq_eq_eq, List.forall₂_map_right_iff]
  exact same

/-- Which task of several stops a run depends on the order, and any of them may do so. -/
theorem exists_interruption_iff {P : Option Interruption → Prop} :
    (∃ arrived, List.Perm arrived items ∧ P (interruption? (arrived.map task))) ↔
      (∃ item ∈ items, ∃ cause, (task item).result = .error cause ∧ P (some cause)) ∨
        (∀ item ∈ items, ∃ value, (task item).result = .ok value) ∧ P none := by
  constructor
  · rintro ⟨arrived, perm, holds⟩
    -- In a given order, either some task stops the run or none does.
    cases found : interruption? (arrived.map task) with
    | some cause =>
      obtain ⟨_, member, stopped⟩ := interruption?_eq_some found
      obtain ⟨item, among, rfl⟩ := List.mem_map.mp member
      exact .inl ⟨item, perm.mem_iff.mp among, cause, stopped, found ▸ holds⟩
    | none =>
      refine .inr ⟨fun item member => ?_, found ▸ holds⟩
      exact interruption?_eq_none_iff.mp found _ (List.mem_map_of_mem (perm.mem_iff.mpr member))
  · rintro (⟨item, member, cause, stopped, holds⟩ | ⟨through, holds⟩)
    · -- The task that is to stop the run is put in front of all others.
      obtain ⟨before, after, rfl⟩ := List.append_of_mem member
      have first : interruption? ((item :: (before ++ after)).map task) = some cause := by
        rw [interruption?, List.map_cons, List.findSome?_cons, stopped]
      exact ⟨item :: (before ++ after), List.perm_middle.symm, first ▸ holds⟩
    · exact ⟨items, .refl _, interruption?_eq_none_iff.mpr (List.forall_mem_map.mpr through) ▸ holds⟩

theorem interruption?_filter {keep : ι → Bool}
    (left : ∀ item ∈ items, keep item = false → ∃ value, (task item).result = .ok value) :
    interruption? ((items.filter keep).map task) = interruption? (items.map task) := by
  induction items with
  | nil => rfl
  | cons item rest ih =>
    rw [List.forall_mem_cons] at left
    have tail := ih left.2
    unfold interruption? at tail ⊢
    cases kept : keep item with
    | true =>
      rw [List.filter_cons_of_pos kept, List.map_cons, List.map_cons, List.findSome?_cons, List.findSome?_cons, tail]
    | false =>
      obtain ⟨value, done⟩ := left.1 kept
      rw [List.filter_cons_of_neg (by simp [kept]), List.map_cons, List.findSome?_cons, done, tail]

/-- What tasks come to together, in some order. -/
theorem exists_gatherIn_iff {P : Except Interruption (List α) → Prop} :
    (∃ order, order.Perm (List.range items.length) ∧ P (Run.gatherIn order (items.map task)).result) ↔
      (∃ item ∈ items, ∃ cause, (task item).result = .error cause ∧ P (.error cause)) ∨
        (∀ item ∈ items, ∃ value, (task item).result = .ok value) ∧
          P (.ok (items.filterMap fun item => (task item).result.toOption)) := by
  -- What the tasks come to depends on the order through the first interruption alone.
  let ends (first? : Option Interruption) : Except Interruption (List α) :=
    first?.elim (.ok (items.filterMap fun item => (task item).result.toOption)) .error
  have gathered (order : List Nat) : (Run.gatherIn order (items.map task)).result =
      ends (interruption? ((order.filterMap fun position => items[position]?).map task)) := by
    rw [Run.result_gatherIn, arrivals_map, List.filterMap_map]
    cases interruption? ((order.filterMap fun position => items[position]?).map task) <;> rfl
  simp only [gathered]
  exact exists_order_iff.trans (exists_interruption_iff (P := fun found => P (ends found)))

/-- Tasks that give a value which is ignored later on may as well be left out. -/
theorem exists_gatherIn_filter_iff {keep : ι → Bool} {ignored : α} {P : Except Interruption (List α) → Prop}
    (left : ∀ item ∈ items, keep item = false → (task item).result = .ok ignored)
    (ignores : ∀ before after, P (.ok (before ++ ignored :: after)) ↔ P (.ok (before ++ after))) :
    (∃ order, order.Perm (List.range items.length) ∧ P (Run.gatherIn order (items.map task)).result) ↔
      ∃ order, order.Perm (List.range (items.filter keep).length) ∧
        P (Run.gatherIn order ((items.filter keep).map task)).result := by
  -- The ignored values are dropped one by one, behind the values that came before them.
  have values (before : List α) :
      P (.ok (before ++ items.filterMap fun item => (task item).result.toOption)) ↔
        P (.ok (before ++ (items.filter keep).filterMap fun item => (task item).result.toOption)) := by
    induction items generalizing before with
    | nil => rfl
    | cons item rest ih =>
      rw [List.forall_mem_cons] at left
      cases kept : keep item with
      | true =>
        rw [List.filter_cons_of_pos kept, List.filterMap_cons, List.filterMap_cons]
        cases (task item).result with
        | error cause => exact ih left.2 before
        | ok value => simpa [Except.toOption] using ih left.2 (before ++ [value])
      | false =>
        rw [List.filter_cons_of_neg (by simp [kept]), List.filterMap_cons, left.1 kept]
        exact (ignores _ _).trans (ih left.2 before)
  rw [exists_gatherIn_iff, exists_gatherIn_iff]
  -- A task that is left out stops nothing, so that the same tasks can stop what is left.
  refine or_congr ?_ (and_congr ?_ (values []))
  · simp only [List.mem_filter]
    constructor
    · rintro ⟨item, member, cause, stopped, holds⟩
      cases kept : keep item with
      | true => exact ⟨item, ⟨member, kept⟩, cause, stopped, holds⟩
      | false => cases (left item member kept).symm.trans stopped
    · rintro ⟨item, ⟨member, -⟩, rest⟩
      exact ⟨item, member, rest⟩
  · simp only [List.mem_filter]
    constructor
    · exact fun through item member => through item member.1
    · intro through item member
      cases kept : keep item with
      | true => exact through item ⟨member, kept⟩
      | false => exact ⟨ignored, left item member kept⟩

end Orders

/-! ### Stages -/

/-- Can a stage come to this, in some order in which its documents arrive? -/
def ComesTo {α : Type} (count : Nat) (ends : List Nat → Except Interruption α) (result : Except Interruption α) : Prop :=
  ∃ order, order.Perm (List.range count) ∧ ends order = result

/-- Is a stage left by what a fetch raises just under a condition? Then no order leads to a value. -/
structure RaisesJustIf {α : Type} (comesTo : Except Interruption α → Prop) (condition : Prop) : Prop where
  raised : (∃ cause, comesTo (.error cause) ∧ cause.isRaised = true) ↔ condition
  always : condition → ∀ value, ¬ comesTo (.ok value)

section Stages

variable {ι α β : Type} {items : List ι} {task : ι → Run α} {raises : ι → Prop}
  (each : ∀ item, (∃ cause, (task item).result = .error cause ∧ cause.isRaised = true) ↔ raises item)
include each

/-- A stage where any task can be the first one to stop it, and that gives a value only if all come through. -/
theorem raisesJustIf_of_tasks {comesTo : Except Interruption β → Prop}
    (stopped : ∀ cause, cause.isRaised = true →
      (comesTo (.error cause) ↔ ∃ item ∈ items, (task item).result = .error cause))
    (through : ∀ value, comesTo (.ok value) → ∀ item ∈ items, ∃ value, (task item).result = .ok value) :
    RaisesJustIf comesTo (∃ item ∈ items, raises item) := by
  refine ⟨⟨?_, ?_⟩, ?_⟩
  · rintro ⟨cause, comes, raised⟩
    obtain ⟨item, member, here⟩ := (stopped cause raised).mp comes
    exact ⟨item, member, (each item).mp ⟨cause, here, raised⟩⟩
  · rintro ⟨item, member, raising⟩
    obtain ⟨cause, here, raised⟩ := (each item).mpr raising
    exact ⟨cause, (stopped cause raised).mpr ⟨item, member, here⟩, raised⟩
  -- A value means that all tasks came through, among them the one that raises.
  · rintro ⟨item, member, raising⟩ value comes
    obtain ⟨cause, here, -⟩ := (each item).mpr raising
    obtain ⟨value, done⟩ := through value comes item member
    cases here.symm.trans done

theorem raisesJustIf_gatherIn {next : List α → Except Interruption β}
    (calm : ∀ values cause, next values = .error cause → cause.isRaised = false) :
    RaisesJustIf (ComesTo items.length fun order => (Run.gatherIn order (items.map task)).result >>= next)
      (∃ item ∈ items, raises item) := by
  refine raisesJustIf_of_tasks each (fun cause raised => ?_) fun value comes => ?_
  -- What follows the tasks raises nothing, so that what is raised comes from a task.
  · refine (exists_gatherIn_iff (P := fun gathered => (gathered >>= next) = .error cause)).trans ?_
    constructor
    · rintro (⟨item, member, other, here, same⟩ | ⟨-, stopped⟩)
      · cases same
        exact ⟨item, member, here⟩
      · exact absurd ((calm _ cause stopped).symm.trans raised) Bool.false_ne_true
    · rintro ⟨item, member, here⟩
      exact .inl ⟨item, member, cause, here, rfl⟩
  · obtain ⟨_, _, _, _, same⟩ | ⟨through, -⟩ :=
      (exists_gatherIn_iff (P := fun gathered => (gathered >>= next) = .ok value)).mp comes
    · cases same
    · exact through

end Stages

/-- A failure of discovery without the pages that were asked. -/
def Interruption.withoutPages : Interruption → Interruption
  | failure (.discovery _) => failure (.discovery [])
  | cause => cause

section Discovery

variable {web : Web} {listings : List Listing} {excludes : List String}

theorem discoverIn_result (order : List Nat) (web : Web) (listings : List Listing) (excludes : List String) :
    (Discovery.discoverIn order web listings excludes).result =
      (Run.gatherIn order (listings.map fun listing => listing.fetchLinks web)).result >>= fun found =>
        if (Discovery.merge found excludes).isEmpty then .error (.failure (.discovery (listings.map Listing.url)))
        else .ok (Discovery.merge found excludes) := by
  rw [Discovery.discoverIn, Run.result_bind]
  refine congrArg _ (funext fun found => ?_)
  dsimp only
  split <;> rfl

theorem discoverIn_withoutPages (order : List Nat) (web : Web) (listings : List Listing) (excludes : List String) :
    (Discovery.discoverIn order web listings excludes).result.mapError Interruption.withoutPages =
      (Run.gatherIn order (listings.map fun listing => listing.fetchLinks web)).result.mapError
          Interruption.withoutPages >>= fun found =>
        if (Discovery.merge found excludes).isEmpty then .error (.failure (.discovery []))
        else .ok (Discovery.merge found excludes) := by
  rw [discoverIn_result]
  cases (Run.gatherIn order (listings.map fun listing => listing.fetchLinks web)).result with
  | error cause => rfl
  | ok found =>
    change Except.mapError _ (if _ then _ else _) = (if _ then _ else _)
    split <;> rfl

theorem discoverIn_raises (web : Web) (listings : List Listing) (excludes : List String) :
    RaisesJustIf (ComesTo listings.length fun order => (Discovery.discoverIn order web listings excludes).result)
      (∃ listing ∈ listings, RaisesText web listing.url) := by
  simp only [discoverIn_result]
  refine raisesJustIf_gatherIn (fun listing => fetchLinks_raises_iff) fun found cause stopped => ?_
  split at stopped
  · cases stopped
    rfl
  · cases stopped

theorem merge_ignores (before after : List (List Link)) (excludes : List String) :
    Discovery.merge (before ++ [] :: after) excludes = Discovery.merge (before ++ after) excludes := by
  simp [Discovery.merge]

/-- Pages that are not available may as well not be listed. -/
theorem discoverIn_spares {keep : String → Bool} (gone : ∀ listing ∈ listings, keep listing.url = false →
      HasFailed (Network.fetchText web listing.url)) (result : Except Interruption (List Link)) :
    ComesTo listings.length (fun order =>
        (Discovery.discoverIn order web listings excludes).result.mapError Interruption.withoutPages) result ↔
      ComesTo (listings.filter fun listing => keep listing.url).length (fun order =>
        (Discovery.discoverIn order web (listings.filter fun listing => keep listing.url) excludes).result.mapError
          Interruption.withoutPages) result := by
  simp only [discoverIn_withoutPages]
  refine exists_gatherIn_filter_iff (P := fun gathered => (gathered.mapError Interruption.withoutPages >>= _) = result)
    (fun listing member left => fetchLinks_failed (gone listing member left)) fun before after => ?_
  simp only [Except.mapError, bind, Except.bind, merge_ignores]

end Discovery

section Catalogue

variable {web : Web} {links : List Link}

theorem catalogueIn_result (order : List Nat) (web : Web) (links : List Link) :
    (Discovery.catalogueIn order web links).result =
      (Run.gatherIn order (links.map (Discovery.fetchMetadata web))).result >>= fun answers =>
        .ok (Catalogue.ofAnswers answers) := by
  rw [Discovery.catalogueIn, Run.result_bind]
  rfl

theorem catalogueIn_raises (web : Web) (links : List Link) :
    RaisesJustIf (ComesTo links.length fun order => (Discovery.catalogueIn order web links).result)
      (∃ link ∈ links, RaisesJson web (Discovery.metadataAddress link)) := by
  simp only [catalogueIn_result]
  exact raisesJustIf_gatherIn (fun link => fetchMetadata_raises_iff) fun answers cause stopped => nomatch stopped

theorem ofAnswers_ignores (before after : List (Option Metadata)) :
    Catalogue.ofAnswers (before ++ none :: after) = Catalogue.ofAnswers (before ++ after) := by
  simp [Catalogue.ofAnswers]

/-- Candidates whose metadata is not available may as well not be listed. -/
theorem catalogueIn_spares {keep : String → Bool} (gone : ∀ link ∈ links, keep (Discovery.metadataAddress link) = false →
      HasFailed (Network.fetchJson web (Discovery.metadataAddress link))) (result : Except Interruption Catalogue) :
    ComesTo links.length (fun order => (Discovery.catalogueIn order web links).result) result ↔
      ComesTo (links.filter fun link => keep (Discovery.metadataAddress link)).length (fun order =>
        (Discovery.catalogueIn order web (links.filter fun link => keep (Discovery.metadataAddress link))).result) result := by
  simp only [catalogueIn_result]
  refine exists_gatherIn_filter_iff (P := fun gathered => (gathered >>= _) = result)
    (fun link member left => fetchMetadata_failed (gone link member left)) fun before after => ?_
  simp only [bind, Except.bind, ofAnswers_ignores]

end Catalogue

section Trees

variable {web : Web} {apis : List (String × Metadata)} {keep : String → Bool}

/-- An API with those versions only whose addresses are kept. -/
def Schema.Metadata.keepVersions (keep : String → Bool) (metadata : Metadata) : Metadata :=
  { metadata with versions := metadata.versions.filter fun version => keep (Edition.address ⟨metadata, version⟩) }

/-- APIs with those versions only whose addresses are kept. -/
def keepListed (keep : String → Bool) (apis : List (String × Metadata)) : List (String × Metadata) :=
  apis.map fun entry => (entry.1, entry.2.keepVersions keep)

/-- A tree that lists those versions only whose addresses are kept. -/
def ApiTree.keepListed (keep : String → Bool) (tree : ApiTree) : ApiTree :=
  tree.map fun entry => (entry.1, { entry.2 with metadata := entry.2.metadata.keepVersions keep })

def Discovery.Edition.keepVersions (keep : String → Bool) (edition : Edition) : Edition :=
  { edition with metadata := edition.metadata.keepVersions keep }

/-- The versions that an API lists have no part in what is compiled for one of them. -/
theorem compileDocument_keepVersions (keep : String → Bool) (metadata : Metadata) (document : Schema.ParsedDocument) :
    compileDocument (metadata.keepVersions keep) document = compileDocument metadata document := by
  have paths (operations : List (String × List (String × Schema.Operation))) :
      compilePaths (metadata.keepVersions keep) document.definitions operations =
        compilePaths metadata document.definitions operations := by
    induction operations with
    | nil => rfl
    | cons first rest ih =>
      rw [compilePaths, compilePaths, ih]
      rfl
  exact paths document.operations

theorem fetchMethods_keepVersions (keep : String → Bool) (edition : Edition) :
    (edition.keepVersions keep).fetchMethods web = edition.fetchMethods web := by
  unfold Edition.fetchMethods
  simp only [Discovery.Edition.keepVersions, compileDocument_keepVersions]
  rfl

theorem editions_keepListed (keep : String → Bool) (apis : List (String × Metadata)) :
    editions (keepListed keep apis) =
      ((editions apis).filter fun edition => keep edition.address).map (Edition.keepVersions keep) := by
  rw [editions, editions, keepListed, List.flatMap_map, List.filter_flatMap, List.map_flatMap]
  refine List.flatMap_congr fun entry _ => ?_
  rw [List.filter_map, List.map_map]
  rfl

theorem ownArrivals_keepVersions {found : Edition → Option (List Method)} {arrived : List Edition}
    (gone : ∀ edition ∈ arrived, keep edition.address = false → found edition = none) (name : String) :
    ownArrivals name (((arrived.filter fun edition => keep edition.address).map fun edition =>
        (edition.keepVersions keep, found edition))) =
      ownArrivals name (arrived.map fun edition => (edition, found edition)) := by
  simp only [ownArrivals, List.filterMap_map, List.filterMap_filter]
  refine List.filterMap_congr fun edition member => ?_
  cases kept : keep edition.address with
  | true => rfl
  | false => simp [gone edition member kept]

/-- Editions that arrive in vain may as well not be listed. -/
theorem planted_keepListed {arrived : List Edition} (gone : ∀ edition ∈ arrived, keep edition.address = false →
      (edition.fetchMethods web).result = .ok none) :
    planted web (keepListed keep apis) ((arrived.filter fun edition => keep edition.address).map (Edition.keepVersions keep)) =
      (planted web apis arrived).map (ApiTree.keepListed keep) := by
  -- Editions that are left out had no document, and thus stopped nothing.
  have stopped : interruption? (((arrived.filter fun edition => keep edition.address).map (Edition.keepVersions keep)).map
      fun edition => edition.fetchMethods web) = interruption? (arrived.map fun edition => edition.fetchMethods web) := by
    simp only [List.map_map, Function.comp_def, fetchMethods_keepVersions]
    exact interruption?_filter fun edition member left => ⟨_, gone edition member left⟩
  rw [planted, planted, stopped]
  cases interruption? (arrived.map fun edition => edition.fetchMethods web) with
  | some cause => rfl
  | none =>
    -- Nor did they bring anything, so that each API has the same arrivals.
    have own := @ownArrivals_keepVersions keep (fun edition => (edition.fetchMethods web).result.toOption.join) arrived
      fun edition member left => by rw [gone edition member left]; rfl
    refine congrArg Except.ok ?_
    simp only [List.map_map, Function.comp_def, fetchMethods_keepVersions, plant_eq, Discovery.bareTree, keepListed,
      ApiTree.keepListed, own]
    rfl

/-- Versions whose documents are not available may as well not be listed. -/
theorem buildTreeIn_spares (gone : ∀ edition ∈ editions apis, keep edition.address = false →
      HasFailed (Network.fetchJson web edition.address)) (result : Except Interruption ApiTree) :
    ComesTo (editions apis).length (fun order =>
        (Discovery.buildTreeIn order web apis).result.map (ApiTree.keepListed keep)) result ↔
      ComesTo (editions (keepListed keep apis)).length (fun order =>
        (Discovery.buildTreeIn order web (keepListed keep apis)).result) result := by
  simp only [ComesTo, buildTreeIn_result]
  rw [exists_order_iff (P := fun arrived => (planted web apis arrived).map (ApiTree.keepListed keep) = result),
    exists_order_iff (P := fun arrived => planted web (keepListed keep apis) arrived = result), editions_keepListed]
  constructor
  · rintro ⟨arrived, perm, rfl⟩
    refine ⟨_, (perm.filter _).map _, planted_keepListed fun edition member left => ?_⟩
    exact fetchMethods_failed (gone edition (perm.mem_iff.mp member) left)
  · rintro ⟨listed, perm, rfl⟩
    -- What is not listed arrives after all that is.
    obtain ⟨kept, among, rfl⟩ := exists_perm_map perm
    have all := (among.append_right _).trans (List.filter_append_perm (fun edition => keep edition.address) (editions apis))
    refine ⟨_, all, ?_⟩
    have listed : kept.filter (fun edition => keep edition.address) = kept :=
      List.filter_eq_self.mpr fun edition member => (List.mem_filter.mp (among.mem_iff.mp member)).2
    rw [← planted_keepListed fun edition member left => fetchMethods_failed (gone edition (all.mem_iff.mp member) left),
      List.filter_append, listed, List.filter_filter]
    simp

theorem buildTreeIn_raises (web : Web) (apis : List (String × Metadata)) :
    RaisesJustIf (ComesTo (editions apis).length fun order => (Discovery.buildTreeIn order web apis).result)
      (∃ edition ∈ editions apis, RaisesJson web edition.address) := by
  simp only [buildTreeIn_result]
  have arrivals (P : Except Interruption ApiTree → Prop) := @exists_order_iff _ (editions apis) fun arrived =>
    P (planted web apis arrived)
  refine raisesJustIf_of_tasks (fun edition => fetchMethods_raises_iff) (fun cause _ => ?_) fun tree comes => ?_
  -- A tree is not made just if one of the tasks stops.
  · have stops (arrived : List Edition) : planted web apis arrived = .error cause ↔
        interruption? (arrived.map fun edition => edition.fetchMethods web) = some cause := by
      rw [planted]
      cases interruption? (arrived.map fun edition => edition.fetchMethods web) <;> simp
    refine (arrivals (· = .error cause)).trans ?_
    simp only [stops]
    simpa using @exists_interruption_iff _ _ (editions apis) (fun edition => edition.fetchMethods web) (· = some cause)
  · obtain ⟨arrived, perm, grown⟩ := (arrivals (· = .ok tree)).mp comes
    intro edition member
    cases ended : (edition.fetchMethods web).result with
    | ok methods => exact ⟨methods, rfl⟩
    | error cause =>
      obtain ⟨_, stopped, -⟩ := @planted_stops _ apis _ _ (perm.mem_iff.mpr member) _ ended
      cases stopped.symm.trans grown

end Trees

/-- For every web, and in every order of arrival: a stage is left by what a fetch raises just if a reply that it asks
for raises something, and where fetches only fail, everything comes out as if what they are for had not been listed. -/
theorem failed_fetches_spared (web : Web) (keep : String → Bool) :
    (∀ (listings : List Listing) (excludes : List String),
      RaisesJustIf (ComesTo listings.length fun order => (Discovery.discoverIn order web listings excludes).result)
          (∃ listing ∈ listings, RaisesText web listing.url) ∧
        ((∀ listing ∈ listings, keep listing.url = false → HasFailed (Network.fetchText web listing.url)) → ∀ result,
          ComesTo listings.length (fun order =>
              (Discovery.discoverIn order web listings excludes).result.mapError Interruption.withoutPages) result ↔
            ComesTo (listings.filter fun listing => keep listing.url).length (fun order =>
              (Discovery.discoverIn order web (listings.filter fun listing => keep listing.url) excludes).result.mapError
                Interruption.withoutPages) result)) ∧
      (∀ links : List Link,
        RaisesJustIf (ComesTo links.length fun order => (Discovery.catalogueIn order web links).result)
            (∃ link ∈ links, RaisesJson web (Discovery.metadataAddress link)) ∧
          ((∀ link ∈ links, keep (Discovery.metadataAddress link) = false →
              HasFailed (Network.fetchJson web (Discovery.metadataAddress link))) → ∀ result,
            ComesTo links.length (fun order => (Discovery.catalogueIn order web links).result) result ↔
              ComesTo (links.filter fun link => keep (Discovery.metadataAddress link)).length (fun order =>
                (Discovery.catalogueIn order web
                  (links.filter fun link => keep (Discovery.metadataAddress link))).result) result)) ∧
      ∀ apis : List (String × Metadata),
        RaisesJustIf (ComesTo (editions apis).length fun order => (Discovery.buildTreeIn order web apis).result)
            (∃ edition ∈ editions apis, RaisesJson web edition.address) ∧
          ((∀ edition ∈ editions apis, keep edition.address = false →
              HasFailed (Network.fetchJson web edition.address)) → ∀ result,
            ComesTo (editions apis).length (fun order =>
                (Discovery.buildTreeIn order web apis).result.map (ApiTree.keepListed keep)) result ↔
              ComesTo (editions (keepListed keep apis)).length (fun order =>
                (Discovery.buildTreeIn order web (keepListed keep apis)).result) result) :=
  ⟨fun listings excludes => ⟨discoverIn_raises web listings excludes, discoverIn_spares⟩,
    fun links => ⟨catalogueIn_raises web links, catalogueIn_spares⟩,
    fun apis => ⟨buildTreeIn_raises web apis, buildTreeIn_spares⟩⟩

/-! ### A version that is not there, and one that cannot be asked for -/

def shopListing : Listing := { url := "https://list", pattern := "(.+)" }

def goneListing : Listing := { url := "https://gone", pattern := "(.+)" }

/-- Everything but what the web of the shop does not know. -/
def shopKeeps (url : String) : Bool :=
  url ∉ ["https://gone", "https://gone.net/docs/metadata", "https://shop.net/docs/json/v2"]

/-- A page, a candidate and a version that are not there leave no trace. -/
theorem shop_spared :
    (∀ result, ComesTo 2 (fun order => (Discovery.discoverIn order shopWeb [goneListing, shopListing] []).result.mapError
        Interruption.withoutPages) result ↔
      ComesTo 1 (fun order => (Discovery.discoverIn order shopWeb [shopListing] []).result.mapError
        Interruption.withoutPages) result) ∧
    (∀ result, ComesTo 2 (fun order =>
        (Discovery.catalogueIn order shopWeb [some "https://gone.net", some "https://shop.net"]).result) result ↔
      ComesTo 1 (fun order => (Discovery.catalogueIn order shopWeb [some "https://shop.net"]).result) result) ∧
    ∀ result, ComesTo 2 (fun order => (Discovery.buildTreeIn order shopWeb [("Shop", twinMetadata)]).result.map
        (ApiTree.keepListed shopKeeps)) result ↔
      ComesTo 1 (fun order => (Discovery.buildTreeIn order shopWeb [("Shop", shopMetadata)]).result) result := by
  obtain ⟨pages, candidates, documents⟩ := failed_fetches_spared shopWeb shopKeeps
  refine ⟨(pages [goneListing, shopListing] []).2 ?_, (candidates [some "https://gone.net", some "https://shop.net"]).2 ?_,
    (documents [("Shop", twinMetadata)]).2 ?_⟩
  · exact List.forall_mem_cons.mpr ⟨fun _ => ⟨_, rfl⟩, List.forall_mem_singleton.mpr fun left => absurd left (by decide)⟩
  · exact List.forall_mem_cons.mpr ⟨fun _ => ⟨_, rfl⟩, List.forall_mem_singleton.mpr fun left => absurd left (by decide)⟩
  · exact List.forall_mem_cons.mpr ⟨fun left => absurd left (by decide), List.forall_mem_singleton.mpr fun _ => ⟨_, rfl⟩⟩

def refusal : String := "Invalid non-printable ASCII character in URL, '\\n' at position 29."

/-- The web of the shop, which refuses an address with the end of a line. -/
def refusingWeb : Web := fun url =>
  if url = "https://shop.net/docs/json/v\n2" then .invalidAddress refusal else shopWeb url

def brokenMetadata : Metadata := { shopMetadata with versions := ["v1", "v\n2"] }

/-- A version whose address is refused ends the run, and not only itself. -/
theorem refused_version_ends :
    (∃ method, (Discovery.buildTree refusingWeb [("Shop", shopMetadata)]).result =
        .ok [("Shop", { metadata := shopMetadata, versions := [("v1", [method])] })]) ∧
      (Discovery.buildTreeIn [0, 1] refusingWeb [("Shop", brokenMetadata)]).result =
        .error (.invalidAddress refusal) ∧
      (Discovery.buildTreeIn [1, 0] refusingWeb [("Shop", brokenMetadata)]).result =
        .error (.invalidAddress refusal) := by
  have parsed : Schema.parseDocument shopDocument = .valid ⟨[("/items", [("get", {})])], []⟩ := by rfl
  -- The first version answers as before, whatever other versions are listed.
  have shown (versions : List String) : Network.fetchJson refusingWeb
      (Edition.address ⟨{ shopMetadata with versions }, "v1"⟩) = .ok shopDocument := by
    have address : Edition.address ⟨{ shopMetadata with versions }, "v1"⟩ = "https://shop.net/docs/json/v1" := by rfl
    have same : refusingWeb "https://shop.net/docs/json/v1" = shopWeb "https://shop.net/docs/json/v1" := if_neg (by decide)
    have fetched : Network.fetchJson shopWeb "https://shop.net/docs/json/v1" = .ok shopDocument :=
      shopDocument_isPage.fetched (by simp [List.lookup_cons])
    rw [address]
    rwa [Network.fetchJson, Network.fetch, ← same] at fetched
  have found (versions : List String) : ∃ method,
      (Edition.fetchMethods ⟨{ shopMetadata with versions }, "v1"⟩ refusingWeb).result = .ok (some [method]) := by
    obtain ⟨method, notices, made, -⟩ := shop_compiled versions
    exact ⟨method, fetchMethods_ok (shown versions) parsed made⟩
  -- The end of a line is no part of an address.
  have refused : (Edition.fetchMethods ⟨brokenMetadata, "v\n2"⟩ refusingWeb).result = .error (.invalidAddress refusal) := by
    have address : Edition.address ⟨brokenMetadata, "v\n2"⟩ = "https://shop.net/docs/json/v\n2" := by decide +kernel
    have fetched : Network.fetchJson refusingWeb "https://shop.net/docs/json/v\n2" =
        .error (.interrupted (.invalidAddress refusal)) := by
      rw [Network.fetchJson, Network.fetch, refusingWeb, if_pos rfl]
    rw [Edition.fetchMethods, address, fetched]
    rfl
  obtain ⟨method, alone⟩ := found ["v1"]
  obtain ⟨_, beside⟩ : ∃ method, (Edition.fetchMethods ⟨brokenMetadata, "v1"⟩ refusingWeb).result = .ok (some [method]) :=
    found ["v1", "v\n2"]
  refine ⟨⟨method, ?_⟩, ?_, ?_⟩
  · have ends := buildTreeIn_result [0] refusingWeb [("Shop", shopMetadata)]
    have arrived : [0].filterMap (fun position => (editions [("Shop", shopMetadata)])[position]?) =
        [⟨{ shopMetadata with versions := ["v1"] }, "v1"⟩] := rfl
    rw [arrived, planted] at ends
    simp only [interruption?, List.map_cons, List.map_nil, List.findSome?_cons, List.findSome?_nil, alone] at ends
    exact ends
  · have arrived : [0, 1].filterMap (fun position => (editions [("Shop", brokenMetadata)])[position]?) =
        [⟨brokenMetadata, "v1"⟩, ⟨brokenMetadata, "v\n2"⟩] := rfl
    rw [buildTreeIn_result, arrived, planted]
    simp only [interruption?, List.map_cons, List.findSome?_cons, beside, refused]
  · have arrived : [1, 0].filterMap (fun position => (editions [("Shop", brokenMetadata)])[position]?) =
        [⟨brokenMetadata, "v\n2"⟩, ⟨brokenMetadata, "v1"⟩] := rfl
    rw [buildTreeIn_result, arrived, planted]
    simp only [interruption?, List.map_cons, List.findSome?_cons, refused]

end Bindery
