import Bindery.Proofs.Path.Scan
import Mathlib.Data.List.Induction

/-!
# The layout of a template

A template is a row of sites, each a gap and then a placeholder, and a tail. Tokens occur in it at the
end of sites alone, and there within the placeholder.
-/
namespace Bindery.Path

theorem IsToken.ne_nil {text : List Char} (token : IsToken text) : text ≠ [] :=
  List.length_pos_iff.mp token.length_pos

/-- What follows a closing brace is nothing, if the last character is the only closing brace. -/
theorem eq_nil_of_closed {inner before after : List Char} (closed : '\x7d' ∉ inner)
    (split : inner ++ ['\x7d'] = before ++ '\x7d' :: after) : after = [] := by
  cases after using List.reverseRec with
  | nil => rfl
  | append_singleton after last _ =>
    have inside : inner = before ++ '\x7d' :: after := by
      have same : inner ++ ['\x7d'] = (before ++ '\x7d' :: after) ++ [last] := by simpa using split
      exact (List.append_inj' same rfl).1
    exact absurd (inside ▸ by simp) closed

/-- The first closing brace of a token ends it. -/
theorem IsToken.closed {text : List Char} (token : IsToken text) {before after : List Char}
    (split : text = before ++ '\x7d' :: after) : after = [] := by
  obtain ⟨c, inner, rfl, -, closed⟩ := token
  have apart : '\x7d' ∉ '\x7b' :: c :: inner := by
    intro member
    rcases List.mem_cons.mp member with opening | deeper
    · cases opening
    · exact closed deeper
  exact eq_nil_of_closed apart split

theorem IsToken.ends {text : List Char} (token : IsToken text) : ∃ before, text = before ++ ['\x7d'] := by
  obtain ⟨c, inner, rfl, -, -⟩ := token
  exact ⟨'\x7b' :: c :: inner, rfl⟩

/-- A token in a cell ends it. -/
theorem IsToken.ends_cell {text : List Char} (token : IsToken text) {inner before after : List Char}
    (closed : '\x7d' ∉ inner) (split : inner ++ ['\x7d'] = before ++ text ++ after) :
    after = [] ∧ text <:+ inner ++ ['\x7d'] := by
  obtain ⟨start, rfl⟩ := token.ends
  -- The closing brace of the token is that of the cell, since there is no other one.
  have last : inner ++ ['\x7d'] = (before ++ start) ++ '\x7d' :: after := by simpa using split
  obtain rfl := eq_nil_of_closed closed last
  exact ⟨rfl, before, by simpa using split.symm⟩

/-- A token does not cross a closing brace: it is before its end, or after it. -/
theorem token_append_cases {cell rest before text after : List Char} (token : IsToken text)
    (ends : ∃ inner, cell = inner ++ ['\x7d']) (joined : cell ++ rest = before ++ text ++ after) :
    (∃ more, cell = before ++ text ++ more ∧ after = more ++ rest) ∨
      ∃ later, before = cell ++ later ∧ rest = later ++ text ++ after := by
  -- Where does the cell end: behind the token, in it, or before it?
  rcases List.append_eq_append_iff.mp joined with ⟨more, split, same⟩ | ⟨more, split, same⟩
  · rcases List.append_eq_append_iff.mp split with ⟨crossing, whole, parts⟩ | ⟨later, earlier, last⟩
    · cases crossing using List.reverseRec with
      | nil => exact .inr ⟨[], by simpa using whole.symm, by simpa [same] using parts.symm⟩
      -- A token that crosses the end of the cell has its closing brace there, and so nothing behind it.
      | append_singleton crossing c _ =>
        obtain ⟨inner, closing⟩ := ends
        have brace : c = '\x7d' := by
          have last : inner ++ ['\x7d'] = (before ++ crossing) ++ [c] := by
            simpa [closing] using whole
          exact (List.cons.inj (List.append_inj' last rfl).2).1.symm
        have onlyEnd : text = crossing ++ '\x7d' :: more := by simpa [brace] using parts
        obtain rfl := token.closed onlyEnd
        refine .inl ⟨[], ?_, by simpa using same.symm⟩
        simpa [parts] using whole
    · exact .inr ⟨later, earlier, by rw [same, last]⟩
  · exact .inl ⟨more, split, same⟩

/-! ### Sites -/

/-- A gap and the placeholder behind it. A token in it ends where the placeholder ends, and does not
reach into the gap. -/
structure Site where
  gap : List Char
  placeholder : Placeholder
  sound : placeholder.IsSound
  silent : scan gap = []
  scanned : ∀ rest, scan (gap ++ placeholder.text ++ rest) = placeholder :: scan rest
  only : ∀ before text after, IsToken text → gap ++ placeholder.text = before ++ text ++ after →
    after = [] ∧ text <:+ placeholder.text

def Site.content (site : Site) : List Char := site.gap ++ site.placeholder.text

/-- A text without tokens. -/
structure IsBlank (text : List Char) : Prop where
  silent : scan text = []
  nowhere : ∀ before token after, IsToken token → text ≠ before ++ token ++ after

theorem IsBlank.of_open {text : List Char} (closed : '\x7d' ∉ text) : IsBlank text := by
  refine ⟨scan_open closed, fun before token after isToken same => ?_⟩
  obtain ⟨inner, rfl⟩ := isToken.ends
  exact closed (same ▸ by simp)

section Cell

variable {inner : List Char} (closed : '\x7d' ∉ inner)

include closed

section Silent

variable (finds : Finds (inner ++ ['\x7d']) none)

include finds

/-- Behind a cell without a placeholder, a scan finds what it would find alone. -/
theorem scan_behind (rest : List Char) : scan (inner ++ ['\x7d'] ++ rest) = scan rest := by
  rw [List.append_assoc, List.singleton_append, scan_append inner rest closed, finds.scanned]
  rfl

/-- A token cannot stand in such a cell, nor cross its end. -/
theorem token_behind {rest before text after : List Char} (token : IsToken text)
    (joined : inner ++ ['\x7d'] ++ rest = before ++ text ++ after) :
    ∃ later, rest = later ++ text ++ after := by
  rcases token_append_cases token ⟨inner, rfl⟩ joined with ⟨more, split, -⟩ | ⟨later, -, split⟩
  · obtain ⟨p, absent, -⟩ := (finds.tokens text token).mp (token.ends_cell closed split).2
    cases absent
  · exact ⟨later, split⟩

theorem IsBlank.cell_append {text : List Char} (blank : IsBlank text) :
    IsBlank (inner ++ ['\x7d'] ++ text) := by
  refine ⟨(scan_behind closed finds text).trans blank.silent, ?_⟩
  intro before token after isToken same
  obtain ⟨later, split⟩ := token_behind closed finds isToken same
  exact blank.nowhere later token after isToken split

/-- A site with one more cell in its gap. -/
def Site.cellAppend (site : Site) : Site where
  gap := inner ++ ['\x7d'] ++ site.gap
  placeholder := site.placeholder
  sound := site.sound
  silent := (scan_behind closed finds site.gap).trans site.silent
  scanned rest := by
    rw [List.append_assoc, List.append_assoc, scan_behind closed finds, ← List.append_assoc, site.scanned]
  only before text after token same := by
    rw [List.append_assoc] at same
    obtain ⟨later, split⟩ := token_behind closed finds token same
    exact site.only later text after token split

end Silent

/-- The site of the placeholder that a cell ends with. -/
def Site.ofCell {p : Placeholder} (finds : Finds (inner ++ ['\x7d']) (some p)) {gap : List Char}
    (split : gap ++ p.text = inner ++ ['\x7d']) : Site where
  gap
  placeholder := p
  sound := (finds.ends p rfl).1
  silent := by
    obtain ⟨start, ending⟩ := (finds.ends p rfl).1.token.ends
    have whole : inner = gap ++ start := by
      rw [ending, ← List.append_assoc] at split
      exact (List.append_inj' split rfl).1.symm
    exact scan_open fun member => closed (whole ▸ List.mem_append_left _ member)
  scanned rest := by
    rw [split, List.append_assoc, List.singleton_append, scan_append inner rest closed, finds.scanned]
    rfl
  only before text after token same := by
    obtain ⟨nothing, ends⟩ := token.ends_cell closed (split ▸ same)
    obtain ⟨q, same, suffix⟩ := (finds.tokens text token).mp ends
    obtain rfl := Option.mem_some.mp same
    exact ⟨nothing, suffix⟩

end Cell

/-! ### Layouts -/

/-- The sites of a template and what follows them. -/
structure Layout (template : List Char) where
  sites : List Site
  tail : List Char
  blank : IsBlank tail
  joined : template = sites.flatMap Site.content ++ tail

/-- Every template has a layout. -/
theorem exists_layout (template : List Char) : Nonempty (Layout template) := by
  obtain ⟨cells, tail, rfl, closed, open_⟩ := exists_cells template
  -- From the last cell to the first: a cell without a placeholder lengthens the gap in front of what follows, and any
  -- other one is a site of its own.
  induction cells with
  | nil => exact ⟨⟨[], tail, .of_open open_, rfl⟩⟩
  | cons inner cells ih =>
    have first := closed inner (List.mem_cons_self ..)
    obtain ⟨layout⟩ := ih fun x member => closed x (List.mem_cons_of_mem _ member)
    have joined : joinCells (inner :: cells) ++ tail =
        inner ++ ['\x7d'] ++ (layout.sites.flatMap Site.content ++ layout.tail) := by
      rw [← layout.joined]
      simp [joinCells]
    obtain ⟨found, finds⟩ := finds_cell inner first
    cases found with
    | none =>
      cases sites : layout.sites with
      | nil => exact ⟨⟨[], _, IsBlank.cell_append first finds layout.blank, by simpa [sites] using joined⟩⟩
      | cons site sites' =>
        refine ⟨⟨Site.cellAppend first finds site :: sites', layout.tail, layout.blank, ?_⟩⟩
        rw [joined, sites]
        simp [Site.content, Site.cellAppend]
    | some p =>
      obtain ⟨gap, split⟩ := (finds.ends p rfl).2
      refine ⟨⟨Site.ofCell first finds split :: layout.sites, layout.tail, layout.blank, ?_⟩⟩
      rw [joined, ← split]
      simp [Site.content, Site.ofCell]

theorem scan_sites_append (sites : List Site) (rest : List Char) :
    scan (sites.flatMap Site.content ++ rest) = sites.map (·.placeholder) ++ scan rest := by
  induction sites with
  | nil => rfl
  | cons site sites ih =>
    rw [List.flatMap_cons, List.append_assoc, Site.content, site.scanned, ih, List.map_cons, List.cons_append]

theorem scan_sites (sites : List Site) {tail : List Char} (blank : IsBlank tail) :
    scan (sites.flatMap Site.content ++ tail) = sites.map (·.placeholder) := by
  rw [scan_sites_append, blank.silent, List.append_nil]

theorem Site.content_ends (site : Site) : ∃ inner, site.content = inner ++ ['\x7d'] := by
  obtain ⟨start, ending⟩ := site.sound.token.ends
  exact ⟨site.gap ++ start, by rw [content, ending, List.append_assoc]⟩

/-- A token in a template is at the end of a site. -/
theorem site_of_token {sites : List Site} {tail before text after : List Char} (blank : IsBlank tail)
    (token : IsToken text) (joined : sites.flatMap Site.content ++ tail = before ++ text ++ after) :
    ∃ earlier site later, sites = earlier ++ site :: later ∧ text <:+ site.placeholder.text ∧
      before ++ text = earlier.flatMap Site.content ++ site.content ∧
      after = later.flatMap Site.content ++ tail := by
  induction sites generalizing before with
  | nil => exact absurd joined (blank.nowhere before text after token)
  | cons site sites ih =>
    rw [List.flatMap_cons, List.append_assoc] at joined
    -- A token is at the end of the first site or behind it.
    rcases token_append_cases token site.content_ends joined with ⟨more, split, rest⟩ | ⟨later, split, rest⟩
    · obtain ⟨rfl, suffix⟩ := site.only before text more token split
      exact ⟨[], site, sites, rfl, suffix, by simpa using split.symm, by simpa using rest⟩
    · obtain ⟨earlier, other, others, rfl, suffix, start, ending⟩ := ih rest
      exact ⟨site :: earlier, other, others, rfl, suffix, by simp [split, start], ending⟩

/-! ### Occurrences of placeholders -/

/-- A placeholder stands in a template where a scan finds it. -/
structure Occurs (template before : List Char) (p : Placeholder) (after : List Char) : Prop where
  split : template = before ++ p.text ++ after
  scanned : scan template = scan before ++ p :: scan after

theorem scan_plain_append {base : List Char} (plain : '\x7b' ∉ base) (s : List Char) :
    scan (base ++ s) = scan s := by
  induction base with
  | nil => rfl
  | cons c base ih =>
    rw [List.mem_cons, not_or] at plain
    rw [List.cons_append, scan_cons_other _ (Ne.symm plain.1), ih plain.2]

theorem IsToken.opens {text : List Char} (token : IsToken text) : ∃ rest, text = '\x7b' :: rest := by
  obtain ⟨c, inner, rfl, -, -⟩ := token
  exact ⟨_, rfl⟩

section Layout

variable {base path : List Char} (plain : '\x7b' ∉ base) (layout : Layout (base ++ path))

include plain

theorem Layout.scanned : scan path = layout.sites.map (·.placeholder) := by
  calc scan path = scan (base ++ path) := (scan_plain_append plain path).symm
    _ = scan (layout.sites.flatMap Site.content ++ layout.tail) := congrArg scan layout.joined
    _ = layout.sites.map (·.placeholder) := scan_sites layout.sites layout.blank

/-- A placeholder that occurs in a path is that of a site. -/
theorem Layout.site_of_occurs {before : List Char} {p : Placeholder} {after : List Char}
    (occurs : Occurs path before p after) :
    ∃ earlier site later, layout.sites = earlier ++ site :: later ∧ site.placeholder = p ∧
      base ++ before = earlier.flatMap Site.content ++ site.gap ∧
      after = later.flatMap Site.content ++ layout.tail := by
  have token : IsToken p.text := by
    refine (isSound_of_mem_scan (s := path) ?_).token
    rw [occurs.scanned]
    exact List.mem_append_right _ (List.mem_cons_self ..)
  have joined : layout.sites.flatMap Site.content ++ layout.tail = (base ++ before) ++ p.text ++ after := by
    rw [← layout.joined, occurs.split]
    simp
  obtain ⟨earlier, site, later, sites, -, start, ending⟩ := site_of_token layout.blank token joined
  -- What follows is scanned alike on both sides, so the placeholder is the last one that is found before it.
  have found : scan before ++ [p] = earlier.map (·.placeholder) ++ [site.placeholder] := by
    have whole := occurs.scanned
    rw [layout.scanned plain, sites, ending, scan_sites later layout.blank] at whole
    have rows : (scan before ++ [p]) ++ later.map (·.placeholder) =
        (earlier.map (·.placeholder) ++ [site.placeholder]) ++ later.map (·.placeholder) := by
      simpa using whole.symm
    exact List.append_cancel_right rows
  obtain rfl : p = site.placeholder := (List.cons.inj (List.append_inj' found rfl).2).1
  refine ⟨earlier, site, later, sites, rfl, ?_, ending⟩
  rw [Site.content, ← List.append_assoc] at start
  exact List.append_cancel_right start

/-- The placeholder of a site occurs in the path. -/
theorem Layout.occurs_of_site {earlier later : List Site} {site : Site}
    (sites : layout.sites = earlier ++ site :: later) :
    ∃ before, base ++ before = earlier.flatMap Site.content ++ site.gap ∧
      Occurs path before site.placeholder (later.flatMap Site.content ++ layout.tail) := by
  have whole : base ++ path = (earlier.flatMap Site.content ++ site.gap) ++
      (site.placeholder.text ++ (later.flatMap Site.content ++ layout.tail)) :=
    layout.joined.trans (by rw [sites]; simp [Site.content])
  have inPath : ∃ before, base ++ before = earlier.flatMap Site.content ++ site.gap ∧
      path = before ++ (site.placeholder.text ++ (later.flatMap Site.content ++ layout.tail)) := by
    rcases List.append_eq_append_iff.mp whole with ⟨before, start, rest⟩ | ⟨more, start, rest⟩
    · exact ⟨before, start.symm, rest⟩
    · -- The base has no opening brace, so the placeholder does not start in it.
      cases more with
      | nil => exact ⟨[], by simpa using start, by simpa using rest.symm⟩
      | cons c more =>
        obtain ⟨inner, opening⟩ := site.sound.token.opens
        rw [opening] at rest
        obtain rfl : '\x7b' = c := (List.cons.inj rest).1
        exact absurd (start ▸ by simp) plain
  obtain ⟨before, start, rest⟩ := inPath
  have scanned : scan before = earlier.map (·.placeholder) := by
    rw [← scan_plain_append plain before, start, scan_sites_append, site.silent, List.append_nil]
  refine ⟨before, start, rest.trans (List.append_assoc ..).symm, ?_⟩
  rw [layout.scanned plain, sites, scan_sites later layout.blank, scanned, List.map_append, List.map_cons]

end Layout

end Bindery.Path
