import Bindery.Proofs.Data.Repetitions
import Bindery.Proofs.Discovery.FailedFetches

/-!
# Candidates of listing pages

The candidates are the links that the available pages show, less the excluded ones, each once and in the order in which
they come first. The order in which the pages arrive has no say in that, and each page that is not available is noted.
-/
namespace Bindery

open Bindery.Discovery (Link Listing)
open Bindery.Network (Web)

/-- Does the pattern of a listing find a link with each match on a page? -/
structure Discovery.Listing.FindsLinks (listing : Listing) (page : String) : Prop where
  found : ∃ pattern groups, Pattern.read listing.pattern = .ok (pattern, groups) ∧ 0 < groups ∧
    ∀ place ∈ pattern.findAll page.toList, (place.group? 1).isSome = true

/-- The links that an available page shows. -/
def Discovery.Listing.Shows (listing : Listing) (web : Web) (link : Link) : Prop :=
  ∃ page links, Network.fetchText web listing.url = .ok page ∧ listing.links page = .ok links ∧ link ∈ links

/-- The links of the available pages, page by page. -/
def shownLinks (web : Web) (listings : List Listing) : List Link :=
  listings.flatMap fun listing =>
    match Network.fetchText web listing.url with
    | .ok page => (listing.links page).toOption.getD []
    | .error _ => []

/-- The notice about a page, if it is not available. -/
def Discovery.Listing.notice? (listing : Listing) (web : Web) : Option Notice :=
  match Network.fetchText web listing.url with
  | .error (.unavailable fault) => some (.unavailableSource listing.url (fault.failure listing.url).message)
  | _ => none

/-- The links of the available pages that are not excluded, in the order of their first occurrences. -/
structure AreCandidates (web : Web) (listings : List Listing) (excludes : List String) (links : List Link) : Prop where
  distinct : links.Nodup
  member : ∀ link, link ∈ links ↔ (∃ listing ∈ listings, listing.Shows web link) ∧ link ∉ excludes.map some
  ordered : links.Pairwise fun before after =>
    (shownLinks web listings).idxOf before < (shownLinks web listings).idxOf after
  given : ∀ link ∈ links, link.isSome = true

/-! ### Merging -/

section Merging

variable (lists : List (List Link)) (excludes : List String)

theorem mem_merge {link : Link} :
    link ∈ Discovery.merge lists excludes ↔ link ∈ lists.flatten ∧ link ∉ excludes.map some := by
  rw [Discovery.merge, List.mem_filter, List.mem_eraseDups]
  simp

theorem nodup_merge : (Discovery.merge lists excludes).Nodup := (nodup_eraseDups _).filter _

theorem pairwise_merge : (Discovery.merge lists excludes).Pairwise fun before after =>
    lists.flatten.idxOf before < lists.flatten.idxOf after :=
  (pairwise_eraseDups _).filter _

/-- What is merged already stays as it is. -/
theorem merge_merge : Discovery.merge [Discovery.merge lists excludes] excludes = Discovery.merge lists excludes := by
  conv_lhs => rw [Discovery.merge, List.flatten_singleton, eraseDups_of_nodup (nodup_merge lists excludes)]
  rw [Discovery.merge, List.filter_filter]
  simp only [Bool.and_self]

/-- A link that is excluded, or that came before, can be put in anywhere. -/
theorem merge_insert {excludes : List String} {before after : List (List Link)} {items later : List Link} {link : Link}
    (idle : link ∈ excludes.map some ∨ link ∈ before.flatten ++ items) :
    Discovery.merge (before ++ (items ++ link :: later) :: after) excludes =
      Discovery.merge (before ++ (items ++ later) :: after) excludes := by
  have split (rest : List Link) : (before ++ (items ++ rest) :: after).flatten =
      (before.flatten ++ items) ++ (rest ++ after.flatten) := by simp
  unfold Discovery.merge
  rw [split, split, List.cons_append]
  -- An excluded link is dropped before repetitions are, and an old one is a repetition.
  obtain excluded | old := idle
  · have dropped : (!(excludes.map some).contains link) = false := by simpa using excluded
    rw [filter_eraseDups, filter_eraseDups, List.filter_append (_ ++ _) (_ :: _),
      List.filter_cons_of_neg (by rw [dropped]; exact Bool.false_ne_true), ← List.filter_append]
  · rw [eraseDups_insert old]

end Merging

/-! ### Pages -/

section Pages

variable {web : Web} {listing : Listing}

/-- With a pattern that finds links, a page gives links. -/
theorem Discovery.Listing.FindsLinks.links {page : String} (finds : listing.FindsLinks page) :
    ∃ links, listing.links page = .ok links ∧ ∀ link ∈ links, link.isSome = true := by
  obtain ⟨pattern, groups, read, some, taken⟩ := finds.found
  -- As each match has its first group, no link is missing, and forcing a scheme leaves it at that.
  have given : ∀ link ∈ (pattern.findAll page.toList).map fun place => (place.group? 1).map String.ofList,
      link.isSome = true := by
    simpa using taken
  have present : ((pattern.findAll page.toList).map fun place => (place.group? 1).map String.ofList).contains none =
      false := by
    rw [List.contains_eq_mem, decide_eq_false_iff_not]
    exact fun member => Bool.false_ne_true (given _ member)
  simp only [Listing.links, read, Discovery.linksBy, some.ne', false_and, if_false, present, Bool.false_eq_true]
  cases listing.forceHttps with
  | false => exact ⟨_, rfl, given⟩
  | true => exact ⟨_, rfl, List.forall_mem_map.mpr fun link member => by simpa using given link member⟩

/-- A page that raises nothing is read, or it is noted that it is not available. -/
theorem fetchLinks_calm (calm : ¬ RaisesText web listing.url)
    (finds : ∀ page, Network.fetchText web listing.url = .ok page → listing.FindsLinks page) :
    (listing.fetchLinks web).result = .ok (shownLinks web [listing]) ∧
      (listing.fetchLinks web).notices = (listing.notice? web).toList ∧
      (∀ link, link ∈ shownLinks web [listing] ↔ listing.Shows web link) ∧
      ∀ link ∈ shownLinks web [listing], link.isSome = true := by
  -- The page is not there and noted, or it is there and its links are read.
  simp only [Listing.fetchLinks, Listing.notice?, Listing.Shows, shownLinks, List.flatMap_singleton]
  obtain ⟨_, _, _, raises⟩ | ⟨-, ⟨fault, failed⟩ | ⟨page, fetched⟩⟩ := fetchText_cases web listing.url
  · exact absurd raises calm
  · simp only [failed]
    exact ⟨rfl, rfl, by simp, by simp⟩
  · obtain ⟨links, shown, given⟩ := (finds page fetched).links
    simp only [fetched, shown, Except.toOption, Option.getD_some]
    exact ⟨rfl, rfl, fun link => by simp [shown], given⟩

end Pages

/-- Tasks that all come through give their values in the order in which they were started, and their notices in the
order in which they come to an end. -/
theorem Run.gatherIn_through {α ι : Type} {items : List ι} {task : ι → Run α} {value : ι → α}
    (through : ∀ item ∈ items, (task item).result = .ok (value item)) {order : List Nat}
    (all : order.Perm (List.range items.length)) :
    (Run.gatherIn order (items.map task)).result = .ok (items.map value) ∧
      (Run.gatherIn order (items.map task)).notices =
        (order.filterMap fun position => items[position]?).flatMap fun item => (task item).notices := by
  refine ⟨Run.gatherIn_ok all through, ?_⟩
  change ((order.filterMap fun position => (items.map task)[position]?).flatMap Run.notices) = _
  rw [arrivals_map, List.flatMap_map]

/-- A page is noted just if it is not available. -/
theorem Discovery.Listing.notice?_isSome {listing : Listing} {web : Web} :
    (listing.notice? web).isSome = true ↔ HasFailed (Network.fetchText web listing.url) := by
  rw [notice?, HasFailed]
  split
  next fault failed => exact iff_of_true rfl ⟨fault, failed⟩
  next other =>
    refine iff_of_false Bool.false_ne_true ?_
    rintro ⟨fault, failed⟩
    exact other fault failed

theorem not_raisesText {web : Web} {url : String}
    (ended : HasFailed (Network.fetchText web url) ∨ ∃ text, Network.fetchText web url = .ok text) :
    ¬ RaisesText web url := by
  obtain ⟨cause, stopped, -, -⟩ | ⟨calm, -⟩ := fetchText_cases web url
  · rw [stopped] at ended
    obtain ⟨_, other⟩ | ⟨_, other⟩ := ended <;> cases other
  · exact calm

/-! ### Candidates -/

section Candidates

variable {web : Web} {listings : List Listing} (excludes : List String)
  (calm : ∀ listing ∈ listings, ¬ RaisesText web listing.url)
  (finds : ∀ listing ∈ listings, ∀ page, Network.fetchText web listing.url = .ok page → listing.FindsLinks page)
include calm finds

/-- The links of all pages, once each and without the excluded ones, are the candidates. -/
theorem areCandidates_merge : AreCandidates web listings excludes
    (Discovery.merge (listings.map fun listing => shownLinks web [listing]) excludes) := by
  have each (listing : Listing) (member : listing ∈ listings) :=
    fetchLinks_calm (calm listing member) (finds listing member)
  -- The links are merged page by page, in the order of the listings.
  have flat : (listings.map fun listing => shownLinks web [listing]).flatten = shownLinks web listings := by
    simp only [shownLinks, List.flatMap_singleton]
    rfl
  refine ⟨nodup_merge .., fun link => ?_, flat ▸ pairwise_merge .., fun link member => ?_⟩
  · rw [mem_merge, List.mem_flatten]
    refine and_congr_left fun _ => ?_
    constructor
    · rintro ⟨links, among, shown⟩
      obtain ⟨listing, listed, rfl⟩ := List.mem_map.mp among
      exact ⟨listing, listed, ((each listing listed).2.2.1 link).mp shown⟩
    · rintro ⟨listing, listed, shows⟩
      exact ⟨_, List.mem_map_of_mem listed, ((each listing listed).2.2.1 link).mpr shows⟩
  · obtain ⟨links, among, shown⟩ := List.mem_flatten.mp ((mem_merge ..).mp member).1
    obtain ⟨listing, listed, rfl⟩ := List.mem_map.mp among
    exact (each listing listed).2.2.2 link shown

/-- In every order of arrival, discovery gives the candidates, or a failure that names all pages if there are none. It
notes each page that is not available, as it arrives, and nothing else. -/
theorem discoverIn_candidates :
    (∃ links, AreCandidates web listings excludes links ∧ ∀ order, order.Perm (List.range listings.length) →
      (Discovery.discoverIn order web listings excludes).result =
          (if links = [] then .error (.failure (.discovery (listings.map Listing.url))) else .ok links) ∧
        (Discovery.discoverIn order web listings excludes).notices =
          (order.filterMap fun position => listings[position]?).filterMap (Listing.notice? · web)) ∧
    (∀ lists, Discovery.merge [Discovery.merge lists excludes] excludes = Discovery.merge lists excludes) ∧
    ∀ before after items later link, link ∈ excludes.map some ∨ link ∈ before.flatten ++ items →
      Discovery.merge (before ++ (items ++ link :: later) :: after) excludes =
        Discovery.merge (before ++ (items ++ later) :: after) excludes := by
  refine ⟨⟨_, areCandidates_merge excludes calm finds, fun order all => ?_⟩, (merge_merge · excludes),
    fun _ _ _ _ _ => merge_insert⟩
  have each (listing : Listing) (member : listing ∈ listings) :=
    fetchLinks_calm (calm listing member) (finds listing member)
  obtain ⟨gathered, noted⟩ := Run.gatherIn_through (fun listing member => (each listing member).1) all
  constructor
  · rw [discoverIn_result, gathered]
    simp only [List.isEmpty_iff]
    rfl
  · -- What becomes of the links is noted nowhere.
    have quiet (links : List Link) : (show Run (List Link) from
        if links.isEmpty then .ofExcept (.error (.failure (.discovery (listings.map Listing.url)))) else pure links).notices =
        [] := by
      split <;> rfl
    rw [Discovery.discoverIn, Run.notices_bind gathered, noted]
    refine (congrArg _ (quiet _)).trans ?_
    rw [List.append_nil, List.filterMap_eq_flatMap_toList (Listing.notice? · web)]
    exact List.flatMap_congr fun listing arrived => (each listing ((arrivals_perm all).mem_iff.mp arrived)).2.1

end Candidates

/-- A page that is not there is noted, and one that is read twice shows its link once. -/
theorem shop_candidates :
    AreCandidates shopWeb [shopListing, goneListing, shopListing] [] [some "https://shop.net"] ∧
      ∃ notice, goneListing.notice? shopWeb = some notice ∧ ∀ order, order.Perm [0, 1, 2] →
        (Discovery.discoverIn order shopWeb [shopListing, goneListing, shopListing] []).result =
            .ok [some "https://shop.net"] ∧
          (Discovery.discoverIn order shopWeb [shopListing, goneListing, shopListing] []).notices = [notice] := by
  have shown : Network.fetchText shopWeb shopListing.url = .ok "https://shop.net" :=
    fetchText_textWeb rfl (by decide +kernel)
  have gone : HasFailed (Network.fetchText shopWeb goneListing.url) := ⟨_, by rfl⟩
  have calm : ∀ listing ∈ [shopListing, goneListing, shopListing], ¬ RaisesText shopWeb listing.url := by
    simp [not_raisesText (.inr ⟨_, shown⟩), not_raisesText (.inl gone)]
  obtain ⟨fault, failed⟩ := gone
  have finds : ∀ listing ∈ [shopListing, goneListing, shopListing], ∀ page,
      Network.fetchText shopWeb listing.url = .ok page → listing.FindsLinks page := by
    have matched : shopListing.FindsLinks "https://shop.net" := ⟨_, _, by rfl, by decide, by decide +kernel⟩
    simp [shown, failed, matched]
  obtain ⟨⟨links, candidates, ends⟩, -⟩ := discoverIn_candidates [] calm finds
  -- The one link is shown twice, and found once.
  have found : links = [some "https://shop.net"] := by
    have linked : shopListing.links "https://shop.net" = .ok [some "https://shop.net"] :=
      ok_of_toOption (by decide +kernel)
    have only (link : Link) : link ∈ links ↔ link = some "https://shop.net" := by
      simp [candidates.member, Listing.Shows, shown, failed, linked]
    refine List.perm_singleton.mp ((List.perm_ext_iff_of_nodup candidates.distinct (List.nodup_singleton _)).mpr ?_)
    simp [only]
  subst found
  obtain ⟨notice, noted⟩ := Option.isSome_iff_exists.mp (Listing.notice?_isSome.mpr ⟨fault, failed⟩)
  refine ⟨candidates, notice, noted, fun order all => ?_⟩
  obtain ⟨result, notices⟩ := ends order all
  have unnoted : shopListing.notice? shopWeb = none := by rw [Listing.notice?, shown]
  -- The notice comes when its page does, and no other page is noted.
  have arrived : (order.filterMap fun position => [shopListing, goneListing, shopListing][position]?).Perm
      [shopListing, goneListing, shopListing] := arrivals_perm all
  have perm := arrived.filterMap (Listing.notice? · shopWeb)
  simp only [List.filterMap_cons, List.filterMap_nil, noted, unnoted] at perm
  exact ⟨result, notices.trans (List.perm_singleton.mp perm)⟩

end Bindery
