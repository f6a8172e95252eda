import Bindery.Pattern.Basic

/-!
# All ways to match

The matcher takes how to go on, and tries one way after the other. Here the places that a pattern can lead to are
listed instead, the preferred ones first: what the matcher finds is what comes of the first place from which it goes on.
So a match is found just if there is one, whatever the order in which the ways are tried.
-/
namespace Bindery

namespace Pattern

/-- The places after a repetition whose body leads from a place to others. -/
def repeatWays (body : Cursor → List Cursor) (least : Nat) (most : Option Nat) (greedy : Bool) :
    Nat → Nat → Option Nat → Cursor → List Cursor
  | 0, _, _, s => [s]
  | budget + 1, count, last, s =>
    if count < least then (body s).flatMap (repeatWays body least most greedy budget (count + 1) last)
    else
      let more := if most.all (count < ·) && last ≠ some s.position then
          (body s).flatMap (repeatWays body least most greedy budget (count + 1) (some s.position))
        else []
      if greedy then more ++ [s] else s :: more

/-- The places after a pattern, in the order in which they are tried. -/
def ways : Pattern → Cursor → List Cursor
  | empty, s => [s]
  | oneOf items inside rule, s =>
    match s.rest with
    | [] => []
    | c :: _ => if items.any (·.holds rule c) == inside then [s.skip 1] else []
  | seq first second, s => (first.ways s).flatMap second.ways
  | alt first second, s => first.ways s ++ second.ways s
  | repeated least most greedy body, s => repeatWays body.ways least most greedy (least + s.rest.length + 2) 0 none s
  | group index body, s => (body.ways s).map fun t => { t with groups := (index, consumed s t) :: t.groups }
  | anchor place, s => if s.holds place then [s] else []
  | again index rule, s => ((s.group? index).bind (s.after? rule)).toList
  | settled body, s => (body.ways s).head?.toList
  | look back inside body, s =>
    match (s.back? back).bind fun t => (body.ways t).head? with
    | some found => if inside then [{ s with groups := found.groups }] else []
    | none => if inside then [] else [s]
  | given index taken other, s => if (s.group? index).isSome then taken.ways s else other.ways s

/-! ### The matcher tries the ways in turn -/

theorem findSome?_flatMap {α β γ : Type} (items : List α) (more : α → List β) (f : β → Option γ) :
    (items.flatMap more).findSome? f = items.findSome? fun item => (more item).findSome? f := by
  induction items with
  | nil => rfl
  | cons item rest ih =>
    rw [List.flatMap_cons, List.findSome?_append, List.findSome?_cons, ih]
    cases (more item).findSome? f <;> rfl

theorem findSome?_some {α : Type} (items : List α) : items.findSome? some = items.head? := by
  cases items <;> rfl

theorem repeatBody_eq {body : Matcher} {places : Cursor → List Cursor}
    (same : ∀ next s, body next s = (places s).findSome? next) (least : Nat) (most : Option Nat) (greedy : Bool)
    (next : Cursor → Option Cursor) (budget count : Nat) (last : Option Nat) (s : Cursor) :
    repeatBody body least most greedy next budget count last s =
      (repeatWays places least most greedy budget count last s).findSome? next := by
  induction budget generalizing count last s with
  | zero => simp [repeatBody, repeatWays]
  | succ budget ih =>
    -- One more round of the body, after which the budget is smaller.
    have more (count : Nat) (last : Option Nat) (s : Cursor) :
        body (repeatBody body least most greedy next budget count last) s =
          ((places s).flatMap (repeatWays places least most greedy budget count last)).findSome? next := by
      rw [same, findSome?_flatMap]
      exact congrArg (List.findSome? · _) (funext (ih count last))
    simp only [repeatBody, repeatWays, more]
    split
    · rfl
    -- Both ways are tried; being greedy only decides which one comes first.
    · cases greedy with
      | true =>
        rw [if_pos rfl, if_pos rfl, List.findSome?_append, Option.or_eq_orElse]
        split <;> simp
      | false =>
        rw [if_neg Bool.false_ne_true, if_neg Bool.false_ne_true, List.findSome?_cons]
        split <;> cases next s <;> rfl

/-- The matcher gives what comes of the first place from which it can go on. -/
theorem run_eq_findSome? (pattern : Pattern) (next : Cursor → Option Cursor) (s : Cursor) :
    pattern.run next s = (pattern.ways s).findSome? next := by
  -- A sequence passes its second part on as the way to go on, so that has to stay general.
  induction pattern generalizing next s with
  | empty => simp [run, ways]
  | oneOf items inside rule =>
    rw [run, ways]
    cases chars : s.rest with
    | nil => rfl
    | cons c rest => dsimp only; split <;> simp [Cursor.skip, chars]
  | seq first second ih ih' =>
    rw [run, ways, ih, findSome?_flatMap]
    exact congrArg (List.findSome? · _) (funext (ih' next))
  | alt first second ih ih' => rw [run, ways, ih, ih', List.findSome?_append, Option.or_eq_orElse]
  | repeated least most greedy body ih => exact repeatBody_eq ih ..
  | group index body ih => rw [run, ways, ih, List.findSome?_map]; rfl
  | anchor place => rw [run, ways]; split <;> simp
  | again index rule => rw [run, ways]; cases (s.group? index).bind (s.after? rule) <;> simp
  | settled body ih => rw [run, ways, ih, findSome?_some]; cases (body.ways s).head? <;> simp
  | look back inside body ih =>
    simp only [run, ways, funext (ih some), findSome?_some]
    cases (s.back? back).bind fun t => (body.ways t).head? with
    | none => cases inside <;> simp
    | some found => cases inside <;> simp
  | given index taken other ih ih' => rw [run, ways, ih, ih']; split <;> rfl

/-! ### Matches -/

theorem mem_ways_of_matchAt? {pattern : Pattern} {advance : Bool} {s t : Cursor}
    (found : pattern.matchAt? advance s = some t) : t ∈ pattern.ways s := by
  rw [matchAt?, run_eq_findSome?] at found
  obtain ⟨place, member, here⟩ := List.exists_of_findSome?_eq_some found
  split at here
  · cases here
  · exact Option.some.inj here ▸ member

/-- Where there is no match, there is no way to one. -/
theorem matchAt?_eq_none {pattern : Pattern} {advance : Bool} {s : Cursor} (none : pattern.matchAt? advance s = none) :
    ∀ t ∈ pattern.ways s, advance = true ∧ t.position = s.position := by
  rw [matchAt?, run_eq_findSome?, List.findSome?_eq_none_iff] at none
  intro t member
  simpa using none t member

section Search

variable {pattern : Pattern} {position : Nat} {before rest : List Char} {advance : Bool}

theorem search_of_matchAt? {finish : Cursor} (found : pattern.matchAt? advance ⟨position, before, rest, []⟩ = some finish) :
    pattern.search position before advance rest = some (⟨position, before, rest, []⟩, finish) := by
  unfold search
  simp only [found]

theorem search_nil (none : pattern.matchAt? advance ⟨position, before, [], []⟩ = none) :
    pattern.search position before advance [] = .none := by
  unfold search
  simp only [none]

theorem search_cons {c : Char} (none : pattern.matchAt? advance ⟨position, before, c :: rest, []⟩ = none) :
    pattern.search position before advance (c :: rest) = pattern.search (position + 1) (c :: before) false rest := by
  rw [search]
  simp only [none]

theorem mem_ways_of_search {start finish : Cursor}
    (found : pattern.search position before advance rest = some (start, finish)) :
    finish ∈ pattern.ways start ∧ start.groups = [] := by
  -- Each search starts where no group is filled, and goes on at the next character if there is no match.
  induction rest generalizing position before advance with
  | nil =>
    cases matched : pattern.matchAt? advance ⟨position, before, [], []⟩ with
    | none => cases (search_nil matched).symm.trans found
    | some place =>
      cases (search_of_matchAt? matched).symm.trans found
      exact ⟨mem_ways_of_matchAt? matched, rfl⟩
  | cons c rest ih =>
    cases matched : pattern.matchAt? advance ⟨position, before, c :: rest, []⟩ with
    | none => exact ih ((search_cons matched).symm.trans found)
    | some place =>
      cases (search_of_matchAt? matched).symm.trans found
      exact ⟨mem_ways_of_matchAt? matched, rfl⟩

end Search

/-- Every match comes about by one of the ways of the pattern, from some place where no group is filled. -/
theorem mem_ways_of_findAll {pattern : Pattern} {text : List Char} {finish : Cursor} (found : finish ∈ pattern.findAll text) :
    ∃ start : Cursor, finish ∈ pattern.ways start ∧ start.groups = [] := by
  rw [findAll] at found
  -- Whatever is left of the text and of the budget, each match comes of a search of its own.
  generalize 2 * text.length + 2 = budget, Cursor.atStart text = s, false = advance at found
  induction budget generalizing s advance with
  | zero => cases found
  | succ budget ih =>
    unfold searchAll at found
    split at found
    · cases found
    next start place here =>
      obtain rfl | later := List.mem_cons.mp found
      · exact ⟨start, mem_ways_of_search here⟩
      · exact ih _ _ later

end Pattern

end Bindery
