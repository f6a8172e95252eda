import Bindery.Proofs.Method.Marks
import Bindery.Proofs.Path.Seats

/-!
# Placeholders and the values that take them

A URL is the row of sites of its template, some of them taken by values. A value takes the first free
site that ends with its text, and from then on nothing else finds its text there.
-/
namespace Bindery

open Bindery.Path (IsToken IsBlank Site seat? seatAll?)

/-- Does a text end the placeholder of a site? -/
def endsSite (binding : UrlBinding) (site : Site) : Bool :=
  binding.1.toList.isSuffixOf site.placeholder.text

/-- Sites, each free or taken by a value in the place of a text. -/
abbrev Occupancy := List (Site × Option UrlBinding)

/-- What is left of a site once a text at its end is gone. -/
def Path.Site.without (site : Site) (text : String) : List Char :=
  site.content.take (site.content.length - text.toList.length)

/-- The letters and values of a row of sites. -/
def siteMarks : Occupancy → List Mark
  | [] => []
  | (site, none) :: rest => letters site.content ++ siteMarks rest
  | (site, some binding) :: rest => letters (site.without binding.1) ++ .value binding.2 :: siteMarks rest

/-- Every value has the place of a token that ends its site. -/
def Proper (spots : Occupancy) : Prop :=
  ∀ site binding, (site, some binding) ∈ spots →
    IsToken binding.1.toList ∧ binding.1.toList <:+ site.placeholder.text

theorem siteMarks_append (front back : Occupancy) :
    siteMarks (front ++ back) = siteMarks front ++ siteMarks back := by
  induction front with
  | nil => rfl
  | cons spot front ih =>
    obtain ⟨site, taken⟩ := spot
    cases taken <;> simp [siteMarks, ih]

theorem without_append {site : Site} {text : String} (ends : text.toList <:+ site.placeholder.text) :
    site.without text ++ text.toList = site.content := by
  obtain ⟨start, split⟩ := ends
  have whole : site.content = (site.gap ++ start) ++ text.toList := by
    rw [Site.content, ← split, List.append_assoc]
  rw [Path.Site.without, whole, List.length_append, Nat.add_sub_cancel, List.take_left]

/-- Letters that end with a closing brace keep an occurrence of a token from going beyond them. -/
theorem prefix_of_closed {text x : List Char} {rest : List Mark} (token : IsToken text)
    (ends : ∃ inner, x = inner ++ ['\x7d']) (here : letters text <+: letters x ++ rest) : text <+: x := by
  have stops : EndsLetters [] := by simp [EndsLetters]
  rcases List.prefix_or_prefix_of_prefix here (List.prefix_append (letters x) rest) with within | beyond
  · exact prefix_of_letters stops (by simpa using within)
  · obtain ⟨more, rfl⟩ := prefix_of_letters stops (by simpa using beyond)
    -- A token that went beyond the letters would have their closing brace inside, where tokens have none.
    obtain ⟨inner, rfl⟩ := ends
    have onlyEnd : inner ++ ['\x7d'] ++ more = inner ++ '\x7d' :: more := by simp
    have nothing : inner ++ ['\x7d'] = inner ++ ['\x7d'] ++ more := by
      rw [token.closed onlyEnd, List.append_nil]
    exact nothing ▸ List.prefix_rfl

section Step

variable {binding : UrlBinding} (token : IsToken binding.1.toList)

include token

/-- In a taken site no token is left. -/
private theorem replaceFirst_taken {site : Site} {other : UrlBinding} (otherToken : IsToken other.1.toList)
    (ends : other.1.toList <:+ site.placeholder.text) (rest : List Mark) :
    replaceFirst binding.1.toList binding.2 (letters (site.without other.1) ++ .value other.2 :: rest) =
      letters (site.without other.1) ++ .value other.2 :: replaceFirst binding.1.toList binding.2 rest := by
  rw [replaceFirst_skip, replaceFirst_value token.ne_nil]
  intro y z split _ here
  obtain ⟨more, rfl⟩ := prefix_of_letters (by simp [EndsLetters]) here
  -- With the taken text put back, the token would be in the content of the site and not at its end.
  have whole : site.gap ++ site.placeholder.text =
      y ++ binding.1.toList ++ (more ++ other.1.toList) := by
    have joined := without_append ends
    rw [split] at joined
    simpa [Site.content] using joined.symm
  have nothing := (site.only _ _ _ token whole).1
  exact otherToken.ne_nil (List.append_eq_nil_iff.mp nothing).2

private theorem replaceFirst_free {site : Site} (differs : endsSite binding site = false)
    (rest : List Mark) :
    replaceFirst binding.1.toList binding.2 (letters site.content ++ rest) =
      letters site.content ++ replaceFirst binding.1.toList binding.2 rest := by
  refine replaceFirst_skip binding.2 fun y z split something here => ?_
  -- The content ends with a brace, so an occurrence that starts in it also ends in it.
  have closing : ∃ inner, z = inner ++ ['\x7d'] := by
    obtain ⟨inner, whole⟩ := site.content_ends
    rw [whole] at split
    cases z using List.reverseRec with
    | nil => exact absurd rfl something
    | append_singleton z c _ =>
      rw [← List.append_assoc] at split
      exact ⟨z, by rw [(List.append_inj' split rfl).2]⟩
  obtain ⟨more, rfl⟩ := prefix_of_closed token closing here
  have whole : site.gap ++ site.placeholder.text = y ++ binding.1.toList ++ more := by
    simpa [Site.content] using split
  -- A token in the content stands at the end of the placeholder, but this site has none there.
  have ends := (site.only _ _ _ token whole).2
  rw [endsSite, List.isSuffixOf_iff_suffix.mpr ends] at differs
  cases differs

private theorem replaceFirst_suited {site : Site} (ends : binding.1.toList <:+ site.placeholder.text)
    (rest : List Mark) :
    replaceFirst binding.1.toList binding.2 (letters site.content ++ rest) =
      letters (site.without binding.1) ++ .value binding.2 :: rest := by
  rw [← without_append ends, letters_append, List.append_assoc, replaceFirst_skip,
    replaceFirst_here token.ne_nil]
  intro y z split something here
  -- An earlier occurrence would overlap this one or stand before it; but the site has one only, at its end.
  obtain ⟨start, ending⟩ := token.ends
  have closing : ∃ inner, z ++ binding.1.toList = inner ++ ['\x7d'] :=
    ⟨z ++ start, by rw [ending, List.append_assoc]⟩
  have joined : letters binding.1.toList <+: letters (z ++ binding.1.toList) ++ rest := by
    simpa using here
  obtain ⟨more, same⟩ := prefix_of_closed token closing joined
  have whole : site.gap ++ site.placeholder.text = y ++ binding.1.toList ++ more := by
    have parts := without_append ends
    rw [split, List.append_assoc, ← same] at parts
    simpa [Site.content] using parts.symm
  obtain ⟨rfl, -⟩ := site.only _ _ _ token whole
  have length := congrArg List.length same
  rw [List.append_nil, List.length_append] at length
  exact something (List.length_eq_zero_iff.mp (by omega))

/-- The first occurrence of a token is at the first free site that ends with it. -/
theorem replaceFirst_siteMarks {spots : Occupancy} (proper : Proper spots) {tail : List Char}
    (blank : IsBlank tail) :
    replaceFirst binding.1.toList binding.2 (siteMarks spots ++ letters tail) =
      siteMarks ((seat? (endsSite binding) binding spots).getD spots) ++ letters tail := by
  induction spots with
  | nil =>
    have skipped : replaceFirst binding.1.toList binding.2 (letters tail ++ []) = letters tail ++ [] := by
      -- No free site is left, and the tail has no token.
      refine replaceFirst_skip binding.2 fun y z split _ here => ?_
      obtain ⟨more, rfl⟩ := prefix_of_letters (by simp [EndsLetters]) here
      exact blank.nowhere y _ more token (by simpa using split)
    simpa [siteMarks, seat?] using skipped
  | cons spot rest ih =>
    obtain ⟨site, taken⟩ := spot
    have later := ih fun other binding member => proper other binding (List.mem_cons_of_mem _ member)
    -- The token skips a taken site, and a free one unless that ends with it.
    cases taken with
    | some other =>
      obtain ⟨otherToken, ends⟩ := proper site other (List.mem_cons_self ..)
      simp only [siteMarks, seat?, List.append_assoc, List.cons_append]
      rw [replaceFirst_taken token otherToken ends, later]
      cases seat? (endsSite binding) binding rest <;> simp [siteMarks]
    | none =>
      simp only [siteMarks, seat?, List.append_assoc]
      split
      next suited =>
        rw [replaceFirst_suited token (List.isSuffixOf_iff_suffix.mp suited)]
        simp [siteMarks]
      next differs =>
        rw [replaceFirst_free token (by simpa using differs), later]
        cases seat? (endsSite binding) binding rest <;> simp [siteMarks]

theorem Proper.seat {spots result : Occupancy} (proper : Proper spots)
    (seated : seat? (endsSite binding) binding spots = some result) : Proper result := by
  obtain ⟨before, place, after, rfl, suited, rfl⟩ := Path.seat?_eq_some seated
  intro site other member
  -- Only the site of the new value has changed.
  rcases List.mem_append.mp member with early | late
  · exact proper site other (List.mem_append_left _ early)
  · rcases List.mem_cons.mp late with here | later
    · cases here
      exact ⟨token, List.isSuffixOf_iff_suffix.mp suited⟩
    · exact proper site other (List.mem_append_right _ (List.mem_cons_of_mem _ later))

end Step

/-! ### All values of a URL -/

/-- A URL whose letters and values are those of a row of sites and a tail. -/
structure Shows (parts : List UrlPart) (spots : Occupancy) (tail : List Char) : Prop where
  apart : parts.IsChain UrlPart.Apart
  proper : Proper spots
  row : marks parts = siteMarks spots ++ letters tail

/-- A value takes its seat, or there is none and the URL does not change. -/
theorem Shows.step {parts : List UrlPart} {spots : Occupancy} {tail : List Char}
    (shows : Shows parts spots tail) (blank : IsBlank tail) {binding : UrlBinding}
    (token : IsToken binding.1.toList) :
    Shows (interpolate binding.1 binding.2 parts)
      ((seat? (endsSite binding) binding spots).getD spots) tail := by
  refine ⟨apart_interpolate shows.apart _ _, ?_, ?_⟩
  · cases seated : seat? (endsSite binding) binding spots with
    | none => exact shows.proper
    | some result => exact shows.proper.seat token seated
  · rw [marks_interpolate shows.apart token.ne_nil, shows.row,
      replaceFirst_siteMarks token shows.proper blank]

/-- If every value has a seat, the URL shows them all in their seats. -/
theorem Shows.run {parts : List UrlPart} {spots result : Occupancy} {tail : List Char}
    (shows : Shows parts spots tail) (blank : IsBlank tail) {bindings : List UrlBinding}
    (tokens : ∀ binding ∈ bindings, IsToken binding.1.toList)
    (seated : seatAll? endsSite bindings spots = some result) :
    Shows (bindAll parts bindings) result tail := by
  induction bindings generalizing parts spots with
  | nil =>
    cases seated
    exact shows
  | cons binding rest ih =>
    obtain ⟨next, first, others⟩ := Option.bind_eq_some_iff.mp seated
    -- The invariant is that the URL shows the occupancy reached so far.
    have step := shows.step blank (tokens binding (List.mem_cons_self ..))
    rw [first, Option.getD_some] at step
    exact ih step (fun other member => tokens other (List.mem_cons_of_mem _ member)) others

def markValues : List Mark → List Value
  | [] => []
  | .letter _ :: rest => markValues rest
  | .value value :: rest => value :: markValues rest

@[simp]
theorem markValues_letters_append (x : List Char) (rest : List Mark) :
    markValues (letters x ++ rest) = markValues rest := by
  induction x with
  | nil => rfl
  | cons c x ih => exact ih

theorem markValues_marks (parts : List UrlPart) : markValues (marks parts) = urlValues parts := by
  induction parts with
  | nil => rfl
  | cons part rest ih =>
    cases part with
    | text literal => simpa [marks, urlValues] using ih
    | value value => simp [marks, markValues, urlValues, ih]

/-- If some value has no seat, there is a value that is not in the URL. -/
theorem Shows.unseated {parts : List UrlPart} {spots : Occupancy} {tail : List Char}
    (shows : Shows parts spots tail) (blank : IsBlank tail) {bindings : List UrlBinding}
    (tokens : ∀ binding ∈ bindings, IsToken binding.1.toList)
    (distinct : (bindings.map Prod.snd ++ urlValues parts).Nodup)
    (unseated : seatAll? endsSite bindings spots = none) :
    ∃ binding ∈ bindings, binding.2 ∉ urlValues (bindAll parts bindings) := by
  induction bindings generalizing parts spots with
  | nil => cases unseated
  | cons binding rest ih =>
    have token := tokens binding (List.mem_cons_self ..)
    have step := shows.step blank token
    rw [List.map_cons, List.cons_append, List.nodup_cons] at distinct
    cases first : seat? (endsSite binding) binding spots with
    | none =>
      rw [first, Option.getD_none] at step
      -- Without a seat the URL stays, and the values of the rest are others.
      have unchanged : urlValues (interpolate binding.1 binding.2 parts) = urlValues parts := by
        rw [← markValues_marks, step.row, ← shows.row, markValues_marks]
      refine ⟨binding, List.mem_cons_self .., fun present => distinct.1 ?_⟩
      have bound := (urlValues_bindAll rest (interpolate binding.1 binding.2 parts)).subset present
      rwa [unchanged] at bound
    | some next =>
      rw [first, Option.getD_some] at step
      have later : seatAll? endsSite rest next = none := by simpa [seatAll?, first] using unseated
      -- After a step the values of the URL and those to come are still distinct: one has moved over.
      have apart : (rest.map Prod.snd ++ urlValues (interpolate binding.1 binding.2 parts)).Nodup := by
        obtain ⟨others, same, among⟩ := urlValues_interpolate binding.1 binding.2 parts
        have whole : (rest.map Prod.snd ++ binding.2 :: urlValues parts).Nodup :=
          List.perm_middle.nodup_iff.mpr (List.nodup_cons.mpr distinct)
        exact (same.append_left _).nodup_iff.mp (whole.sublist (among.append_left _))
      obtain ⟨other, member, missing⟩ := ih step
        (fun other member => tokens other (List.mem_cons_of_mem _ member)) apart later
      exact ⟨other, List.mem_cons_of_mem _ member, missing⟩

/-! ### Places of values -/

/-- A value in the row of sites has taken one of them. -/
theorem split_siteMarks {spots : Occupancy} {tail : List Char} {front back : List Mark} {value : Value}
    (split : siteMarks spots ++ letters tail = front ++ .value value :: back) :
    ∃ earlier site binding later, spots = earlier ++ (site, some binding) :: later ∧ binding.2 = value ∧
      front = siteMarks earlier ++ letters (site.without binding.1) ∧
      back = siteMarks later ++ letters tail := by
  induction spots generalizing front with
  | nil =>
    -- The tail has letters only.
    have onlyLetters : letters tail ++ [] = front ++ .value value :: back := by simpa [siteMarks] using split
    obtain ⟨more, -, nothing⟩ := split_letters onlyLetters
    cases more <;> cases nothing
  | cons spot rest ih =>
    obtain ⟨site, taken⟩ := spot
    cases taken with
    | none =>
      rw [siteMarks, List.append_assoc] at split
      obtain ⟨more, rfl, deeper⟩ := split_letters split
      obtain ⟨earlier, other, binding, later, rfl, same, front', back'⟩ := ih deeper
      exact ⟨(site, none) :: earlier, other, binding, later, rfl, same, by simp [siteMarks, front'], back'⟩
    | some here =>
      rw [siteMarks, List.append_assoc, List.cons_append] at split
      obtain ⟨more, rfl, deeper⟩ := split_letters split
      -- Behind the letters of a taken site comes its own value, or the value looked for comes later.
      cases more with
      | nil =>
        cases deeper
        exact ⟨[], site, here, rest, rfl, rfl, by simp [siteMarks], rfl⟩
      | cons mark more =>
        obtain ⟨first, further⟩ := List.cons.inj deeper
        obtain ⟨earlier, other, binding, later, rfl, same, front', back'⟩ := ih further
        exact ⟨(site, some here) :: earlier, other, binding, later, rfl, same,
          by simp [siteMarks, front', ← first], back'⟩

/-- The contents of sites, whether they are taken or not. -/
def contents (spots : Occupancy) : List Char := (spots.map Prod.fst).flatMap Site.content

/-- Sites spell their contents if every value spells the text that it has the place of. -/
theorem spelled_siteMarks {spell : Value → Option (List Char)} {spots : Occupancy} (proper : Proper spots)
    (spells : ∀ site binding, (site, some binding) ∈ spots → spell binding.2 = some binding.1.toList)
    (x : List Char) : spelledMarks? spell (siteMarks spots ++ letters x) = some (contents spots ++ x) := by
  induction spots with
  | nil =>
    have spelled := spelledMarks?_letters spell x []
    simpa [siteMarks, contents, spelledMarks?] using spelled
  | cons spot rest ih =>
    obtain ⟨site, taken⟩ := spot
    have later := ih (fun other binding member => proper other binding (List.mem_cons_of_mem _ member))
      fun other binding member => spells other binding (List.mem_cons_of_mem _ member)
    cases taken with
    | none =>
      rw [siteMarks, List.append_assoc, spelledMarks?_letters, later]
      simp [contents]
    | some binding =>
      -- A taken site spells what is left of it and then the text that its value took the place of.
      have ends := (proper site binding (List.mem_cons_self ..)).2
      have first := spells site binding (List.mem_cons_self ..)
      rw [siteMarks, List.append_assoc, spelledMarks?_letters, List.cons_append, spelledMarks?, first, later]
      simp [contents, ← without_append ends]

end Bindery
