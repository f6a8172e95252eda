import Bindery.Discovery.Listing
import Bindery.Proofs.Name.HostNames
import Bindery.Proofs.Pattern.Languages

/-!
# Links to hosts

The pages that are listed unless others are configured show links to the hosts of one domain. Nothing but such links is
found on them, whatever they hold, and all anchors that they are expected to have are found.
-/
namespace Bindery

open Bindery.Discovery (Link Listing defaultListings linksBy secure)
open Bindery.Pattern (Piece literal)

def hostLink (scheme : String) (label : List Char) : String :=
  scheme ++ "://" ++ String.ofList label ++ "." ++ "roblox.com"

/-- A host on a page, with the filler in front of its anchor. -/
structure HostAnchor where
  filler : List Char
  label : List Char

namespace HostAnchor

/-- Is this a host, and does the filler start no tag? -/
structure IsPlain (anchor : HostAnchor) : Prop where
  label : IsHostLabel anchor.label
  filler : '<' ∉ anchor.filler

/-- A link to the documentation of the host. -/
def docs (anchor : HostAnchor) : List Char :=
  anchor.filler ++ ("<a href=\"" ++ hostLink "https" anchor.label ++ "/docs\" rel=\"nofollow\">").toList

def piece (anchor : HostAnchor) : Piece where
  filler := anchor.filler
  front := "<a href=\"".toList
  inside := (hostLink "https" anchor.label).toList
  back := "/docs\" rel=\"nofollow\">".toList

theorem text_piece (anchor : HostAnchor) : anchor.piece.text = anchor.docs := by
  simp [piece, Piece.text, docs, String.toList_append]

end HostAnchor

/-- A host in an item of a list. -/
structure ItemAnchor extends HostAnchor where
  /-- The white space in front of the link. -/
  blanks : List Char
  secured : Bool

namespace ItemAnchor

def IsPlain (anchor : ItemAnchor) : Prop :=
  anchor.toHostAnchor.IsPlain ∧ ∀ c ∈ anchor.blanks, Text.isBlank c = true

def scheme (anchor : ItemAnchor) : String := if anchor.secured then "https" else "http"

/-- A list item with a link to the host. -/
def item (anchor : ItemAnchor) : List Char :=
  anchor.filler ++ "<li>".toList ++ anchor.blanks ++ ("<a href=\"" ++ hostLink anchor.scheme anchor.label ++ "\">").toList

def piece (anchor : ItemAnchor) : Piece where
  filler := anchor.filler
  front := "<li>".toList ++ (anchor.blanks ++ "<a href=\"".toList)
  inside := (hostLink anchor.scheme anchor.label).toList
  back := "\">".toList

theorem text_piece (anchor : ItemAnchor) : anchor.piece.text = anchor.item := by
  simp [piece, Piece.text, item, String.toList_append]

end ItemAnchor

/-! ### Secure forms -/

theorem replaceFirst_of_notMem {old new text : List Char} {c : Char} (part : c ∈ old) (absent : c ∉ text) :
    Discovery.replaceFirst old new text = text := by
  induction text with
  | nil =>
    cases old with
    | nil => cases part
    | cons d old => rfl
  | cons d text ih =>
    have apart : old.isPrefixOf (d :: text) = false := by
      rw [Bool.eq_false_iff, ne_eq, List.isPrefixOf_iff_prefix]
      exact fun start => absent (start.subset part)
    rw [Discovery.replaceFirst, if_neg (by simp [apart]), ih fun member => absent (List.mem_cons_of_mem _ member)]

theorem IsHostLabel.noColon {label : List Char} (valid : IsHostLabel label) : ':' ∉ label := fun member =>
  absurd (valid.chars _ member) (by decide)

theorem hostLink_toList (scheme : String) (label : List Char) :
    (hostLink scheme label).toList = scheme.toList ++ ':' :: ("//".toList ++ (label ++ ".roblox.com".toList)) := by
  simp [hostLink, String.toList_append]

/-- The link to a host is made secure, and stays as it is if it is so already. -/
theorem secure_hostLink {label : List Char} (valid : IsHostLabel label) (secured : Bool) :
    secure (hostLink (if secured then "https" else "http") label) = hostLink "https" label := by
  rw [secure, ← String.toList_inj, String.toList_ofList, hostLink_toList, hostLink_toList]
  -- There is no colon behind that of the scheme, so nothing else is replaced.
  have noColon : ':' ∉ "//".toList ++ (label ++ ".roblox.com".toList) := by simp [valid.noColon]
  generalize "//".toList ++ (label ++ ".roblox.com".toList) = rest at noColon
  cases secured with
  | false => simp [Discovery.replaceFirst]
  | true => simp [Discovery.replaceFirst, replaceFirst_of_notMem (show ':' ∈ ['h', 't', 't', 'p', ':'] by decide) noColon]

/-! ### Patterns -/

def hostPattern : Pattern :=
  .seq (.repeated 1 none false (.oneOf [.range 97 122, .range 65 90, .range 45 45] true .exact))
    (literal ".roblox.co".toList (.char 'm'))

/-- A link in an item of a list. -/
def itemPattern : Pattern :=
  literal "<li>".toList <| .seq (.repeated 0 none true (.oneOf [.kind .blank false true] true .exact)) <|
    literal "<a href=\"".toList <|
      .seq (.group 1 (literal "http".toList (.seq (.repeated 0 (some 1) true (.char 's')) (literal "://".toList hostPattern)))) <|
        literal "\"".toList (.char '>')

def docsPattern : Pattern :=
  literal "<a href=\"".toList <| .seq (.group 1 (literal "https://".toList hostPattern)) <|
    literal "/docs\" rel=\"nofollow\"".toList (.char '>')

theorem defaultListings_read : ∃ items docs, defaultListings = [items, docs] ∧ items.forceHttps = true ∧
    docs.forceHttps = false ∧ Pattern.read items.pattern = .ok (itemPattern, 1) ∧
    Pattern.read docs.pattern = .ok (docsPattern, 1) :=
  ⟨_, _, rfl, rfl, rfl, by decide +kernel, by decide +kernel⟩

/-! ### Languages -/

def labels : Language Char := runsOf Name.isLabelChar 1 none

theorem mem_labels {label : List Char} : label ∈ labels ↔ IsHostLabel label := by
  have chars (c : Char) : Name.isLabelChar c = true ↔ c.isAlpha = true ∨ c = '-' := by simp [Name.isLabelChar]
  constructor
  · rintro ⟨all, something, -⟩
    exact ⟨List.ne_nil_of_length_pos something, fun c member => (chars c).mp (all c member)⟩
  · rintro ⟨nonempty, all⟩
    exact ⟨fun c member => (chars c).mpr (all c member), List.length_pos_of_ne_nil nonempty, rfl⟩

def hosts : Language Char := labels * {".roblox.com".toList}

theorem holds_label (c : Char) :
    ([CharItem.range 97 122, .range 65 90, .range 45 45].any (·.holds .exact c) == true) = Name.isLabelChar c := by
  -- Characters of the pattern are given by their numbers.
  have hyphen : c = '-' ↔ 45 = c.toNat := by rw [eq_comm, ← Char.toNat_inj]; rfl
  rw [Bool.eq_iff_iff, Name.isLabelChar, Bool.or_eq_true, decide_eq_true_iff, hyphen]
  simp [CharItem.holds, CaseRule.same, CaseRule.variants, CaseRule.fold, isAlpha_iff, isUpper_iff, isLower_iff,
    or_assoc, or_comm]

theorem holds_blank (c : Char) :
    ([CharItem.kind .blank false true].any (·.holds .exact c) == true) = Text.isBlank c := by
  simp [CharItem.holds, CharKind.holds]

theorem spells_hostPattern : hostPattern.Spells hosts :=
  (Pattern.spells_repeated holds_label rfl false).seq (Pattern.spells_text ".roblox.co".toList 'm')

def itemFront : Language Char := {"<li>".toList} * (runsOf Text.isBlank 0 none * ({"<a href=\"".toList} * 1))

def itemLinks : Language Char :=
  {"http".toList} * (runsOf ('s' == ·) 0 (some 1) * ({"://".toList} * hosts))

def docsFront : Language Char := {"<a href=\"".toList} * 1

def docsLinks : Language Char := {"https://".toList} * hosts

theorem captures_itemPattern : itemPattern.Captures 1 itemFront itemLinks {"\">".toList} := by
  -- From inside out: the link in its group, the anchor around it, the blanks and the item.
  have secured := Pattern.spells_repeated (Pattern.holds_char 's') (show (some 1).all (0 ≤ ·) = true from rfl) true
  have link := (secured.seq (spells_hostPattern.literal "://".toList)).literal "http".toList
  have blanks := Pattern.spells_repeated holds_blank (show (none : Option Nat).all (0 ≤ ·) = true from rfl) true
  have anchor := (link.group (Pattern.spells_text "\"".toList '>') 1).literal "<a href=\"".toList
  exact (anchor.seq blanks).literal "<li>".toList

theorem captures_docsPattern : docsPattern.Captures 1 docsFront docsLinks {"/docs\" rel=\"nofollow\">".toList} :=
  ((spells_hostPattern.literal "https://".toList).group
    (Pattern.spells_text "/docs\" rel=\"nofollow\"".toList '>') 1).literal "<a href=\"".toList

/-! ### Words of the languages -/

theorem mem_hosts {word : List Char} : word ∈ hosts ↔ ∃ label, IsHostLabel label ∧ word = label ++ ".roblox.com".toList := by
  rw [hosts, Language.mem_mul]
  constructor
  · rintro ⟨label, valid, _, rfl, rfl⟩
    exact ⟨label, mem_labels.mp valid, rfl⟩
  · rintro ⟨label, valid, rfl⟩
    exact ⟨label, mem_labels.mpr valid, _, rfl, rfl⟩

theorem mem_docsLinks {word : List Char} :
    word ∈ docsLinks ↔ ∃ label, IsHostLabel label ∧ word = (hostLink "https" label).toList := by
  simp only [hostLink_toList]
  rw [docsLinks, Language.mem_mul]
  constructor
  · rintro ⟨_, rfl, _, host, rfl⟩
    obtain ⟨label, valid, rfl⟩ := mem_hosts.mp host
    exact ⟨label, valid, rfl⟩
  · rintro ⟨label, valid, rfl⟩
    exact ⟨_, rfl, _, mem_hosts.mpr ⟨label, valid, rfl⟩, rfl⟩

theorem mem_secured {word : List Char} :
    word ∈ runsOf ('s' == ·) 0 (some 1) ↔ ∃ secured : Bool, word = if secured then ['s'] else [] := by
  constructor
  · rintro ⟨all, -, few⟩
    cases word with
    | nil => exact ⟨false, rfl⟩
    | cons c rest =>
      obtain rfl : rest = [] := by simpa using few
      obtain rfl : 's' = c := beq_iff_eq.mp (all c (List.mem_singleton_self c))
      exact ⟨true, rfl⟩
  · rintro ⟨secured, rfl⟩
    cases secured with
    | false => exact ⟨by simp, Nat.zero_le _, rfl⟩
    | true => exact ⟨by simp, Nat.zero_le _, rfl⟩

theorem mem_itemLinks {word : List Char} : word ∈ itemLinks ↔
    ∃ label, IsHostLabel label ∧ ∃ secured : Bool, word = (hostLink (if secured then "https" else "http") label).toList := by
  simp only [hostLink_toList]
  constructor
  · rintro ⟨_, rfl, _, ⟨_, few, _, ⟨_, rfl, _, host, rfl⟩, rfl⟩, rfl⟩
    obtain ⟨secured, rfl⟩ := mem_secured.mp few
    obtain ⟨label, valid, rfl⟩ := mem_hosts.mp host
    exact ⟨label, valid, secured, by cases secured <;> rfl⟩
  · rintro ⟨label, valid, secured, rfl⟩
    refine ⟨_, rfl, _, ⟨_, mem_secured.mpr ⟨secured, rfl⟩, _, ⟨_, rfl, _, mem_hosts.mpr ⟨label, valid, rfl⟩, rfl⟩, rfl⟩, ?_⟩
    cases secured <;> rfl

theorem isPrefixFree_hosts : IsPrefixFree hosts :=
  isPrefixFree_run (isPrefixFree_singleton _) fun _ member => ⟨'.', "roblox.com".toList, member, rfl⟩

theorem isPrefixFree_docsLinks : IsPrefixFree docsLinks := (isPrefixFree_singleton _).mul isPrefixFree_hosts

theorem isPrefixFree_docsFront : IsPrefixFree docsFront := (isPrefixFree_singleton _).mul (isPrefixFree_singleton _)

theorem isPrefixFree_itemLinks : IsPrefixFree itemLinks := by
  -- The colon behind the scheme tells where it ends.
  refine (isPrefixFree_singleton _).mul (isPrefixFree_run ((isPrefixFree_singleton _).mul isPrefixFree_hosts) ?_)
  rintro _ ⟨_, rfl, rest, -, rfl⟩
  exact ⟨':', _, rfl, rfl⟩

theorem isPrefixFree_itemFront : IsPrefixFree itemFront := by
  -- Blanks end at the tag of the link.
  refine (isPrefixFree_singleton _).mul (isPrefixFree_run ((isPrefixFree_singleton _).mul (isPrefixFree_singleton _)) ?_)
  rintro _ ⟨_, rfl, rest, -, rfl⟩
  exact ⟨'<', _, rfl, rfl⟩

/-! ### Links of a page -/

/-- The links by a pattern with one group that is filled with each match. -/
theorem linksBy_of_groups {pattern : Pattern} {page : List Char} {words : List (List Char)} (forceHttps : Bool)
    (filled : (pattern.findAll page).map (·.group? 1) = words.map some) :
    linksBy pattern 1 forceHttps (String.ofList page) =
      .ok (words.map fun word => some ((if forceHttps then secure else id) (String.ofList word))) := by
  have links : (pattern.findAll page).map (fun place => (place.group? 1).map String.ofList) =
      words.map fun word => some (String.ofList word) := by
    have mapped := congrArg (List.map (Option.map String.ofList)) filled
    rwa [List.map_map, List.map_map] at mapped
  -- As every match fills the group, there is no missing link, with which a forced scheme would fail.
  have given : (words.map fun word => some (String.ofList word)).contains none = false := by simp
  simp only [linksBy, Nat.one_ne_zero, false_and, if_false, String.toList_ofList, links, given]
  cases forceHttps with
  | false => rfl
  | true => simp

/-- The links that a listing with one group shows on a page. -/
theorem links_of_groups {listing : Listing} {pattern : Pattern} {page : List Char} {words : List (List Char)}
    (read : Pattern.read listing.pattern = .ok (pattern, 1))
    (filled : (pattern.findAll page).map (·.group? 1) = words.map some) :
    listing.links (String.ofList page) =
      .ok (words.map fun word => some ((if listing.forceHttps then secure else id) (String.ofList word))) := by
  rw [Listing.links, read]
  exact linksBy_of_groups listing.forceHttps filled

/-- Whatever a page holds, its links are links to hosts if the words of the group are. -/
theorem links_of_captures {listing : Listing} {pattern : Pattern} {front inside back : Language Char}
    (read : Pattern.read listing.pattern = .ok (pattern, 1)) (captures : pattern.Captures 1 front inside back)
    (hosts : ∀ word ∈ inside, ∃ label, IsHostLabel label ∧
      (if listing.forceHttps then secure else id) (String.ofList word) = hostLink "https" label) (page : String) :
    ∃ labels : List (List Char), (∀ label ∈ labels, IsHostLabel label) ∧
      listing.links page = .ok (labels.map fun label => some (hostLink "https" label)) := by
  obtain ⟨words, members, filled⟩ := captures.groups page.toList
  have shown := links_of_groups read filled
  rw [String.ofList_toList] at shown
  simp only [shown, Except.ok.injEq]
  refine Pattern.exists_map_eq fun word member => ?_
  obtain ⟨label, valid, same⟩ := hosts word (members word member)
  exact ⟨label, valid, congrArg some same⟩

/-- A page of anchors with filler between them shows the hosts of the anchors. -/
theorem links_of_pieces {ι : Type} {listing : Listing} {pattern : Pattern} {front inside back : Language Char}
    (read : Pattern.read listing.pattern = .ok (pattern, 1)) (captures : pattern.Captures 1 front inside back)
    (starts : ∀ word ∈ front, ∃ rest, word = '<' :: rest) (freeFront : IsPrefixFree front)
    (freeInside : IsPrefixFree inside) (freeBack : IsPrefixFree back) {anchors : List ι} {piece : ι → Piece}
    {label : ι → List Char} (each : ∀ anchor ∈ anchors, '<' ∉ (piece anchor).filler ∧ (piece anchor).front ∈ front ∧
      (piece anchor).inside ∈ inside ∧ (piece anchor).back ∈ back)
    (same : ∀ anchor ∈ anchors, (if listing.forceHttps then secure else id) (String.ofList (piece anchor).inside) =
      hostLink "https" (label anchor)) {tail : List Char} (clean : '<' ∉ tail) :
    listing.links (String.ofList ((anchors.flatMap fun anchor => (piece anchor).text) ++ tail)) =
      .ok (anchors.map fun anchor => some (hostLink "https" (label anchor))) := by
  have found := captures.findAll starts freeFront freeInside freeBack clean (List.forall_mem_map.mpr each)
  rw [List.flatMap_map, List.map_map] at found
  have filled : (pattern.findAll ((anchors.flatMap fun anchor => (piece anchor).text) ++ tail)).map (·.group? 1) =
      (anchors.map fun anchor => (piece anchor).inside).map some := by
    rw [found, List.map_map]
    rfl
  rw [links_of_groups read filled, List.map_map]
  exact congrArg Except.ok (List.map_congr_left fun anchor member => congrArg some (same anchor member))

/-! ### Default listings -/

theorem links_itemPattern {items : Listing} (read : Pattern.read items.pattern = .ok (itemPattern, 1))
    (forced : items.forceHttps = true) :
    (∀ page, ∃ labels : List (List Char), (∀ label ∈ labels, IsHostLabel label) ∧
      items.links page = .ok (labels.map fun label => some (hostLink "https" label))) ∧
    ∀ (anchors : List ItemAnchor) (tail : List Char), (∀ anchor ∈ anchors, anchor.IsPlain) → '<' ∉ tail →
      items.links (String.ofList (anchors.flatMap ItemAnchor.item ++ tail)) =
        .ok (anchors.map fun anchor => some (hostLink "https" anchor.label)) := by
  constructor
  -- On any page, a link in the group is that of a host, secure or made so.
  · refine links_of_captures read captures_itemPattern fun word member => ?_
    obtain ⟨label, valid, secured, rfl⟩ := mem_itemLinks.mp member
    rw [String.ofList_toList, forced, if_pos rfl]
    exact ⟨label, valid, secure_hostLink valid secured⟩
  -- On a page of anchors, each anchor is one piece, and fillers have nothing that starts a match.
  · intro anchors tail plain clean
    simp only [← funext ItemAnchor.text_piece]
    refine links_of_pieces read captures_itemPattern ?_ isPrefixFree_itemFront isPrefixFree_itemLinks
      (isPrefixFree_singleton _) (fun anchor member => ⟨(plain anchor member).1.filler, ?_, ?_, ?_⟩)
      (fun anchor member => ?_) clean
    · rintro _ ⟨_, rfl, rest, -, rfl⟩
      exact ⟨_, rfl⟩
    · have blanks : anchor.blanks ∈ runsOf Text.isBlank 0 none := ⟨(plain anchor member).2, Nat.zero_le _, rfl⟩
      exact ⟨_, rfl, _, ⟨_, blanks, _, ⟨_, rfl, [], rfl, List.append_nil _⟩, rfl⟩, rfl⟩
    · exact mem_itemLinks.mpr ⟨_, (plain anchor member).1.label, anchor.secured, rfl⟩
    · exact rfl
    · rw [forced, if_pos rfl, ItemAnchor.piece, String.ofList_toList]
      exact secure_hostLink (plain anchor member).1.label anchor.secured

theorem links_docsPattern {docs : Listing} (read : Pattern.read docs.pattern = .ok (docsPattern, 1))
    (unforced : docs.forceHttps = false) :
    (∀ page, ∃ labels : List (List Char), (∀ label ∈ labels, IsHostLabel label) ∧
      docs.links page = .ok (labels.map fun label => some (hostLink "https" label))) ∧
    ∀ (anchors : List HostAnchor) (tail : List Char), (∀ anchor ∈ anchors, anchor.IsPlain) → '<' ∉ tail →
      docs.links (String.ofList (anchors.flatMap HostAnchor.docs ++ tail)) =
        .ok (anchors.map fun anchor => some (hostLink "https" anchor.label)) := by
  constructor
  -- The scheme is part of the pattern, so that no link has to be made secure.
  · refine links_of_captures read captures_docsPattern fun word member => ?_
    obtain ⟨label, valid, rfl⟩ := mem_docsLinks.mp member
    rw [String.ofList_toList, unforced]
    exact ⟨label, valid, rfl⟩
  · intro anchors tail plain clean
    simp only [← funext HostAnchor.text_piece]
    refine links_of_pieces read captures_docsPattern ?_ isPrefixFree_docsFront isPrefixFree_docsLinks
      (isPrefixFree_singleton _) (fun anchor member => ⟨(plain anchor member).filler, ?_, ?_, ?_⟩)
      (fun anchor member => ?_) clean
    · rintro _ ⟨_, rfl, rest, -, rfl⟩
      exact ⟨_, rfl⟩
    · exact ⟨_, rfl, [], rfl, List.append_nil _⟩
    · exact mem_docsLinks.mpr ⟨_, (plain anchor member).label, rfl⟩
    · exact rfl
    · rw [unforced, HostAnchor.piece, String.ofList_toList]
      rfl

/-- What the listings show unless others are configured. On any page they find links to hosts of the domain only, and on
a page of anchors with filler between them just the hosts of the anchors. The name of a host follows from its label,
wherever the host is served, and labels that differ in letter case give the same name. -/
theorem defaultListings_hosts :
    (∀ listing ∈ defaultListings, ∀ page, ∃ labels : List (List Char), (∀ label ∈ labels, IsHostLabel label) ∧
      listing.links page = .ok (labels.map fun label => some (hostLink "https" label))) ∧
    (∃ items docs, defaultListings = [items, docs] ∧
      (∀ (anchors : List ItemAnchor) (tail : List Char), (∀ anchor ∈ anchors, anchor.IsPlain) → '<' ∉ tail →
        items.links (String.ofList (anchors.flatMap ItemAnchor.item ++ tail)) =
          .ok (anchors.map fun anchor => some (hostLink "https" anchor.label))) ∧
      ∀ (anchors : List HostAnchor) (tail : List Char), (∀ anchor ∈ anchors, anchor.IsPlain) → '<' ∉ tail →
        docs.links (String.ofList (anchors.flatMap HostAnchor.docs ++ tail)) =
          .ok (anchors.map fun anchor => some (hostLink "https" anchor.label))) ∧
    (∀ label, IsHostLabel label → Name.api? (hostLink "https" label) = labelName? label) ∧
    ∀ label other, IsHostLabel label → IsHostLabel other → label.map Char.toLower = other.map Char.toLower →
      ∀ scheme scheme' rest rest' : String, '/' ∉ scheme.toList → '/' ∉ scheme'.toList →
        Name.api? (scheme ++ "://" ++ String.ofList label ++ "." ++ rest) =
          Name.api? (scheme' ++ "://" ++ String.ofList other ++ "." ++ rest') := by
  obtain ⟨items, docs, both, forced, unforced, readItems, readDocs⟩ := defaultListings_read
  obtain ⟨itemsOnly, itemsAll⟩ := links_itemPattern readItems forced
  obtain ⟨docsOnly, docsAll⟩ := links_docsPattern readDocs unforced
  refine ⟨?_, ⟨items, docs, both, itemsAll, docsAll⟩, ?_, ?_⟩
  · rw [both]
    simpa using ⟨itemsOnly, docsOnly⟩
  · exact fun label valid => api?_host valid (by simp) "roblox.com"
  · intro label other valid valid' same scheme scheme' rest rest' noSlash noSlash'
    -- A name is made of the label in small letters.
    rw [api?_host valid noSlash, api?_host valid' noSlash', ← labelName?_toLower label, same, labelName?_toLower]

/-- A host whose link is in capitals and not secure, and another one behind it. -/
def passesAnchors : List ItemAnchor :=
  [{ filler := "APIs: ".toList, label := "Game-PASSES".toList, blanks := ['\n', ' '], secured := false },
    { filler := "passes, ".toList, label := "auth".toList, blanks := [], secured := true }]

/-- Both hosts are found, and they have names wherever they are served. -/
theorem passes_found :
    (∃ items docs, defaultListings = [items, docs] ∧
      items.links "APIs: <li>\n <a href=\"http://Game-PASSES.roblox.com\">passes, <li><a href=\"https://auth.roblox.com\">auth" =
        .ok [some "https://Game-PASSES.roblox.com", some "https://auth.roblox.com"]) ∧
    Name.api? "https://Game-PASSES.roblox.com" = some "GamePasses" ∧
    Name.api? "ftp://game-passes.net/v1" = some "GamePasses" := by
  obtain ⟨-, ⟨items, docs, both, shown, -⟩, named, same⟩ := defaultListings_hosts
  have plain : ∀ anchor ∈ passesAnchors, anchor.IsPlain := by
    simp only [passesAnchors, List.forall_mem_cons, List.not_mem_nil, false_implies, implies_true, and_true]
    exact ⟨⟨⟨by decide, by decide⟩, by simp [Text.isBlank]⟩, ⟨by decide, by decide⟩, by simp⟩
  -- The name follows from the label, and the other address has a label that differs in case only.
  have first : Name.api? "https://Game-PASSES.roblox.com" = some "GamePasses" :=
    (named "Game-PASSES".toList (by decide)).trans (by decide +kernel)
  have second := same "game-passes".toList "Game-PASSES".toList (by decide) (by decide) (by decide)
    "ftp" "https" "net/v1" "roblox.com" (by decide) (by decide)
  have page : String.ofList (passesAnchors.flatMap ItemAnchor.item ++ "auth".toList) =
      "APIs: <li>\n <a href=\"http://Game-PASSES.roblox.com\">passes, <li><a href=\"https://auth.roblox.com\">auth" := by
    decide +kernel
  have links : passesAnchors.map (fun anchor => some (hostLink "https" anchor.label)) =
      [some "https://Game-PASSES.roblox.com", some "https://auth.roblox.com"] := by
    decide +kernel
  exact ⟨⟨items, docs, both, page ▸ links ▸ shown passesAnchors "auth".toList plain (by decide)⟩, first,
    second.trans first⟩

end Bindery
