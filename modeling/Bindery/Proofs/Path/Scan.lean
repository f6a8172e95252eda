import Bindery.Path.Template

/-!
# Placeholders and closing braces

Only a closing brace ends a placeholder, so a template falls into cells, each up to a closing brace,
and a cell holds one placeholder at most, at its end. A text that could be the text of a placeholder
occurs in a template only at the end of a cell.
-/
namespace Bindery.Path

/-- A text in braces that starts with a name; its only closing brace is its last character. -/
def IsToken (text : List Char) : Prop :=
  ∃ c inner, text = '\x7b' :: c :: inner ++ ['\x7d'] ∧ isNameChar c = true ∧ '\x7d' ∉ c :: inner

theorem IsToken.length_pos {text : List Char} (token : IsToken text) : 0 < text.length := by
  obtain ⟨c, inner, rfl, -, -⟩ := token
  simp

/-- A placeholder as a scan finds it: its name is all that its text has for one. -/
structure Placeholder.IsSound (p : Placeholder) : Prop where
  token : IsToken p.text
  named : p.name = p.text.tail.takeWhile isNameChar

theorem closing_not_nameChar : isNameChar '\x7d' = false := by decide

theorem takeWhile_name_append (x rest : List Char) (closed : '\x7d' ∉ x) :
    (x ++ '\x7d' :: rest).takeWhile isNameChar = x.takeWhile isNameChar := by
  induction x with
  | nil => simp [closing_not_nameChar]
  | cons c x ih =>
    have others : '\x7d' ∉ x := fun member => closed (List.mem_cons_of_mem _ member)
    simp only [List.cons_append, List.takeWhile_cons, ih others]

/-- The placeholder at an opening brace, if the first closing brace is known. -/
theorem placeholderAt?_append (x rest : List Char) (closed : '\x7d' ∉ x) :
    placeholderAt? (x ++ '\x7d' :: rest) =
      match x.takeWhile isNameChar with
      | [] => none
      | c :: name => some ⟨c :: name, '\x7b' :: x ++ ['\x7d']⟩ := by
  -- Nothing before the first closing brace stops the search for it.
  have before : ∀ c ∈ x, (decide (c ≠ '\x7d')) = true := by
    intro c member
    simpa using fun same : c = '\x7d' => closed (same ▸ member)
  have dropped : (x ++ '\x7d' :: rest).dropWhile (fun c => decide (c ≠ '\x7d')) = '\x7d' :: rest := by
    rw [List.dropWhile_append_of_pos before, List.dropWhile_cons_of_neg (by simp)]
  have taken : (x ++ '\x7d' :: rest).takeWhile (fun c => decide (c ≠ '\x7d')) = x := by
    rw [List.takeWhile_append_of_pos before, List.takeWhile_cons_of_neg (by simp), List.append_nil]
  unfold placeholderAt?
  rw [takeWhile_name_append x rest closed, dropped, taken]
  cases x.takeWhile isNameChar <;> rfl

theorem placeholderAt?_open {x : List Char} (closed : '\x7d' ∉ x) : placeholderAt? x = none := by
  have dropped : x.dropWhile (fun c => decide (c ≠ '\x7d')) = [] := by
    rw [← List.append_nil x, List.dropWhile_append_of_pos, List.dropWhile_nil]
    intro c member
    simpa using fun same : c = '\x7d' => closed (same ▸ member)
  unfold placeholderAt?
  rw [dropped]
  cases x.takeWhile isNameChar <;> rfl

@[simp]
theorem scan_nil : scan [] = [] := by rw [scan]

theorem scan_cons_other {c : Char} (rest : List Char) (other : c ≠ '\x7b') :
    scan (c :: rest) = scan rest := by
  rw [scan, if_neg other]

theorem scan_cons_none {rest : List Char} (none_here : placeholderAt? rest = none) :
    scan ('\x7b' :: rest) = scan rest := by
  rw [scan, if_pos rfl, none_here]

/-- A found placeholder takes the text up to the closing brace with it. -/
theorem scan_cons_found {x rest : List Char} {c : Char} {name : List Char} (closed : '\x7d' ∉ x)
    (named : x.takeWhile isNameChar = c :: name) :
    scan ('\x7b' :: (x ++ '\x7d' :: rest)) = ⟨c :: name, '\x7b' :: x ++ ['\x7d']⟩ :: scan rest := by
  rw [scan, if_pos rfl, placeholderAt?_append x rest closed, named]
  simp

theorem scan_open {x : List Char} (closed : '\x7d' ∉ x) : scan x = [] := by
  induction x with
  | nil => exact scan_nil
  | cons c x ih =>
    have others : '\x7d' ∉ x := fun member => closed (List.mem_cons_of_mem _ member)
    by_cases opening : c = '\x7b'
    · subst opening
      rw [scan_cons_none (placeholderAt?_open others), ih others]
    · rw [scan_cons_other x opening, ih others]

/-! ### Cells -/

/-- What a cell adds to a scan, and that it does not reach beyond its closing brace. -/
theorem scan_append (x rest : List Char) (closed : '\x7d' ∉ x) :
    scan (x ++ '\x7d' :: rest) = scan (x ++ ['\x7d']) ++ scan rest := by
  induction x with
  | nil =>
    have apart : ('\x7d' : Char) ≠ '\x7b' := by decide
    simp only [List.nil_append]
    rw [scan_cons_other rest apart, scan_cons_other [] apart, scan_nil, List.nil_append]
  | cons c x ih =>
    have others : '\x7d' ∉ x := fun member => closed (List.mem_cons_of_mem _ member)
    simp only [List.cons_append]
    -- Only an opening brace can start a placeholder, and whether it does is decided before the closing brace.
    by_cases opening : c = '\x7b'
    · subst opening
      cases named : x.takeWhile isNameChar with
      | nil =>
        have absent : ∀ after, placeholderAt? (x ++ '\x7d' :: after) = none := by
          intro after
          rw [placeholderAt?_append x after others, named]
        rw [scan_cons_none (absent rest), scan_cons_none (absent []), ih others]
      | cons n name =>
        rw [scan_cons_found others named, scan_cons_found others named, scan_nil]
        rfl
    · rw [scan_cons_other _ opening, scan_cons_other _ opening, ih others]

/-- What is found in a cell: a placeholder at its end, if any. All tokens at the end of the cell are
at the end of that placeholder. -/
structure Finds (cell : List Char) (found : Option Placeholder) : Prop where
  scanned : scan cell = found.toList
  ends : ∀ p ∈ found, p.IsSound ∧ p.text <:+ cell
  tokens : ∀ text, IsToken text → (text <:+ cell ↔ ∃ p ∈ found, text <:+ p.text)

/-- A character that starts neither a placeholder nor a token changes nothing. -/
theorem Finds.cons {cell : List Char} {found : Option Placeholder} (finds : Finds cell found) (c : Char)
    (scanned : scan (c :: cell) = scan cell) (whole : ¬ IsToken (c :: cell)) :
    Finds (c :: cell) found := by
  refine ⟨scanned.trans finds.scanned, fun p member => ?_, fun text token => ?_⟩
  · obtain ⟨sound, ends⟩ := finds.ends p member
    exact ⟨sound, ends.trans (List.suffix_cons ..)⟩
  · have differs : text ≠ c :: cell := fun same => whole (same ▸ token)
    rw [List.suffix_cons_iff, or_iff_right differs]
    exact finds.tokens text token

theorem finds_cell (x : List Char) (closed : '\x7d' ∉ x) : ∃ found, Finds (x ++ ['\x7d']) found := by
  -- From the back: the cell of what follows is known, and one more character in front of it either opens a
  -- placeholder that reaches to the closing brace, or changes nothing.
  induction x with
  | nil =>
    refine ⟨none, by rw [List.nil_append, scan_cons_other [] (by decide)]; exact scan_nil, ?_, ?_⟩
    · intro p member
      cases member
    · rintro _ ⟨c, inner, rfl, -, -⟩
      refine ⟨fun suffix => ?_, fun ⟨p, member, _⟩ => by cases member⟩
      simpa using suffix.length_le
  | cons c x ih =>
    have others : '\x7d' ∉ x := fun member => closed (List.mem_cons_of_mem _ member)
    obtain ⟨found, finds⟩ := ih others
    by_cases opening : c = '\x7b'
    · subst opening
      -- An opening brace needs a name behind it.
      cases named : x.takeWhile isNameChar with
      | nil =>
        refine ⟨found, finds.cons _ (scan_cons_none ?_) ?_⟩
        · rw [placeholderAt?_append x [] others, named]
        · rintro ⟨n, inner, whole, isName, -⟩
          have same : x = n :: inner := List.append_cancel_right (List.cons.inj whole).2
          simp [same, isName] at named
      | cons n name =>
        -- A placeholder up to the closing brace hides whatever was found behind its brace.
        let placeholder : Placeholder := ⟨n :: name, '\x7b' :: x ++ ['\x7d']⟩
        have token : IsToken placeholder.text := by
          cases x with
          | nil => cases named
          | cons m inner =>
            refine ⟨m, inner, rfl, ?_, others⟩
            cases isName : isNameChar m with
            | true => rfl
            | false => simp [isName] at named
        have sound : placeholder.IsSound :=
          ⟨token, ((takeWhile_name_append x [] others).trans named).symm⟩
        refine ⟨some placeholder, ?_, ?_, ?_⟩
        · rw [List.cons_append, scan_cons_found others named, scan_nil]
          rfl
        · rintro p ⟨⟩
          exact ⟨sound, List.suffix_refl _⟩
        · simp only [Option.mem_some_iff, exists_eq_left', placeholder, implies_true]
    · refine ⟨found, finds.cons c (scan_cons_other _ opening) ?_⟩
      rintro ⟨n, inner, whole, -, -⟩
      exact opening (List.cons.inj whole).1

/-! ### Templates -/

/-- Cells one after another, each with its closing brace. -/
def joinCells (cells : List (List Char)) : List Char := cells.flatMap (· ++ ['\x7d'])

/-- Every template consists of cells and a rest without a closing brace. -/
theorem exists_cells (s : List Char) : ∃ cells tail, s = joinCells cells ++ tail ∧
    (∀ x ∈ cells, '\x7d' ∉ x) ∧ '\x7d' ∉ tail := by
  induction s with
  | nil => exact ⟨[], [], rfl, by simp, by simp⟩
  | cons c s ih =>
    obtain ⟨cells, tail, rfl, closed, open_⟩ := ih
    -- A closing brace makes a cell of its own; any other character joins the first cell, or the rest if there is
    -- none.
    by_cases closing : c = '\x7d'
    · subst closing
      exact ⟨[] :: cells, tail, rfl, by simpa using closed, open_⟩
    · have apart : '\x7d' ≠ c := fun same => closing same.symm
      cases cells with
      | nil => exact ⟨[], c :: tail, rfl, by simp, by simp [apart, open_]⟩
      | cons x cells =>
        refine ⟨(c :: x) :: cells, tail, rfl, ?_, open_⟩
        intro y member
        rcases List.mem_cons.mp member with rfl | later
        · simp [apart, closed x (List.mem_cons_self ..)]
        · exact closed y (List.mem_cons_of_mem _ later)

/-- A template is scanned cell by cell. -/
theorem scan_joinCells {cells : List (List Char)} {tail : List Char} (closed : ∀ x ∈ cells, '\x7d' ∉ x)
    (open_ : '\x7d' ∉ tail) :
    scan (joinCells cells ++ tail) = cells.flatMap fun x => scan (x ++ ['\x7d']) := by
  induction cells with
  | nil => exact scan_open open_
  | cons x cells ih =>
    have first := closed x (List.mem_cons_self ..)
    have later := ih fun y member => closed y (List.mem_cons_of_mem _ member)
    have joined : joinCells (x :: cells) ++ tail = x ++ '\x7d' :: (joinCells cells ++ tail) := by
      simp [joinCells]
    rw [joined, scan_append x _ first, later, List.flatMap_cons]

/-- A placeholder that is found stands at the end of a cell. -/
theorem cell_of_mem_scan {s : List Char} {p : Placeholder} (member : p ∈ scan s) :
    p.IsSound ∧ ∃ cell, p.text <:+ cell ∧ cell <:+: s := by
  obtain ⟨cells, tail, rfl, closed, open_⟩ := exists_cells s
  rw [scan_joinCells closed open_] at member
  obtain ⟨x, among, here⟩ := List.mem_flatMap.mp member
  obtain ⟨found, finds⟩ := finds_cell x (closed x among)
  rw [finds.scanned] at here
  obtain ⟨sound, ends⟩ := finds.ends p (Option.mem_toList.mp here)
  have joined : x ++ ['\x7d'] <:+: joinCells cells := by
    rw [joinCells, List.flatMap_def]
    exact List.infix_of_mem_flatten (List.mem_map_of_mem among)
  exact ⟨sound, x ++ ['\x7d'], ends, joined.trans (List.prefix_append ..).isInfix⟩

theorem isSound_of_mem_scan {s : List Char} {p : Placeholder} (member : p ∈ scan s) : p.IsSound :=
  (cell_of_mem_scan member).1

/-- What a scan finds stands in the template. -/
theorem infix_of_mem_scan {s : List Char} {p : Placeholder} (member : p ∈ scan s) :
    p.text <:+: s := by
  obtain ⟨-, cell, ends, within⟩ := cell_of_mem_scan member
  exact ends.isInfix.trans within

end Bindery.Path
