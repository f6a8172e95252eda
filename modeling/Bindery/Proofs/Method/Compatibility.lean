import Bindery.Proofs.Method.Arguments
import Bindery.Proofs.Method.Placement

/-!
# Which parameters a request has room for

Whether parameters can be placed depends on their locations alone, and not on their order. The order
decides which of them is at fault if they cannot.
-/
namespace Bindery

open Bindery.Schema (Definitions Operation Parameter)

/-- Locations that one request has room for. -/
structure Compatible (places : List (Option String)) : Prop where
  known : ∀ place ∈ places, ∃ location : Location, place = some location.label
  oneBody : places.count (some Location.body.label) ≤ 1
  bodyAlone : some Location.body.label ∈ places → some Location.form.label ∉ places

/-- What is wrong with a parameter of some name and location beside earlier ones. -/
inductive Offends (earlier : List (Option String)) (place : Option String) (name : String) :
    PlacementFault → Prop
  | unknown (nowhere : ∀ location : Location, place ≠ some location.label) :
      Offends earlier place name (.unknownLocation place name)
  | secondBody (body : place = some Location.body.label)
      (taken : some Location.body.label ∈ earlier ∨ some Location.form.label ∈ earlier) :
      Offends earlier place name (.secondBody name)
  | formBesideBody (form : place = some Location.form.label)
      (taken : some Location.body.label ∈ earlier) :
      Offends earlier place name (.formBesideBody name)

theorem Compatible.nil : Compatible [] :=
  ⟨by simp, by simp, by simp⟩

theorem Compatible.of_perm {places others : List (Option String)} (same : places.Perm others)
    (fits : Compatible places) : Compatible others where
  known place member := fits.known place (same.mem_iff.mpr member)
  oneBody := same.count_eq _ ▸ fits.oneBody
  bodyAlone body form := fits.bodyAlone (same.mem_iff.mpr body) (same.mem_iff.mpr form)

theorem Compatible.perm {places others : List (Option String)} (same : places.Perm others) :
    Compatible places ↔ Compatible others := ⟨.of_perm same, .of_perm same.symm⟩

/-- Fewer locations fit together too. -/
theorem Compatible.sublist {places fewer : List (Option String)} (within : fewer.Sublist places)
    (fits : Compatible places) : Compatible fewer where
  known place member := fits.known place (within.subset member)
  oneBody := Nat.le_trans (within.count_le _) fits.oneBody
  bodyAlone body form := fits.bodyAlone (within.subset body) (within.subset form)

private theorem body_ne_form : some Location.body.label ≠ some Location.form.label := by decide

/-- One location more fits unless it offends beside the others. -/
theorem Compatible.snoc_iff {earlier : List (Option String)} (fits : Compatible earlier)
    (place : Option String) (name : String) :
    Compatible (earlier ++ [place]) ↔ ∀ fault, ¬ Offends earlier place name fault := by
  constructor
  · rintro ⟨known, oneBody, bodyAlone⟩ fault offends
    -- Each way to offend breaks one of the three conditions.
    cases offends with
    | unknown nowhere =>
      obtain ⟨location, here⟩ := known place (by simp)
      exact nowhere location here
    | secondBody body taken =>
      subst body
      rcases taken with body | form
      · have twice := List.count_pos_iff.mpr body
        rw [List.count_append, List.count_singleton_self] at oneBody
        omega
      · exact bodyAlone (by simp) (by simp [form])
    | formBesideBody form taken =>
      subst form
      exact bodyAlone (by simp [taken]) (by simp)
  · intro blameless
    have here : ∃ location : Location, place = some location.label := by
      by_contra nowhere
      exact blameless _ (.unknown fun location same => nowhere ⟨location, same⟩)
    refine ⟨?_, ?_, ?_⟩
    · intro other member
      rcases List.mem_append.mp member with before | last
      · exact fits.known other before
      · exact List.mem_singleton.mp last ▸ here
    · rw [List.count_append]
      -- Only a body counts, and there was none before it, or it would offend.
      by_cases body : place = some Location.body.label
      · have first : some Location.body.label ∉ earlier := fun taken =>
          blameless _ (.secondBody body (.inl taken))
        simp [List.count_eq_zero.mpr first, body]
      · have other : [place].count (some Location.body.label) = 0 :=
          List.count_eq_zero.mpr fun member => body (List.mem_singleton.mp member).symm
        rw [other, Nat.add_zero]
        exact fits.oneBody
    · intro body form
      -- A body and a form are both old, or the newer of the two offends beside the older.
      rcases List.mem_append.mp body with bodyBefore | bodyLast
      · rcases List.mem_append.mp form with formBefore | formLast
        · exact fits.bodyAlone bodyBefore formBefore
        · exact blameless _ (.formBesideBody (List.mem_singleton.mp formLast).symm bodyBefore)
      · have isBody := (List.mem_singleton.mp bodyLast).symm
        rcases List.mem_append.mp form with formBefore | formLast
        · exact blameless _ (.secondBody isBody (.inr formBefore))
        · exact body_ne_form (isBody.symm.trans (List.mem_singleton.mp formLast).symm)

/-! ### Arguments -/

def placesOf (arguments : List Argument) : List (Option String) := arguments.map (·.target.location)

theorem compatible_placesOf_nil : Compatible (placesOf []) := Compatible.nil

theorem any_isAt_iff (placed : List Argument) (location : Location) :
    placed.any (·.isAt location) = true ↔ some location.label ∈ placesOf placed := by
  simp only [List.any_eq_true, Argument.isAt_iff, placesOf, List.mem_map]

theorem Argument.fault?_eq_some_iff (placed : List Argument) (argument : Argument)
    (fault : PlacementFault) : argument.fault? placed = some fault ↔
      Offends (placesOf placed) argument.target.location argument.documented fault := by
  have at_ : ∀ location, argument.location? = some location →
      argument.target.location = some location.label := fun location found =>
    Argument.isAt_iff.mp (by simpa [Argument.isAt] using found)
  unfold Argument.fault?
  -- Each branch of the check is one way to offend.
  constructor
  · intro found
    split at found
    next nowhere =>
      cases found
      refine .unknown fun location here => ?_
      have known := Argument.isAt_iff.mpr here
      simp [Argument.isAt, nowhere] at known
    next here =>
      split at found
      next taken =>
        cases found
        refine .secondBody (at_ _ here) ?_
        simpa only [Bool.or_eq_true, any_isAt_iff] using taken
      · cases found
    next here =>
      split at found
      next taken =>
        cases found
        exact .formBesideBody (at_ _ here) ((any_isAt_iff _ _).mp taken)
      · cases found
    · cases found
  · intro offends
    have found : ∀ location : Location, argument.target.location = some location.label →
        argument.location? = some location := fun location here => by
      simpa [Argument.isAt] using Argument.isAt_iff.mpr here
    cases offends with
    | unknown nowhere =>
      cases here : argument.location? with
      | none => rfl
      | some location => exact absurd (at_ location here) (nowhere location)
    | secondBody body taken =>
      simp only [found .body body]
      rw [if_pos]
      simpa only [Bool.or_eq_true, any_isAt_iff] using taken
    | formBesideBody form taken =>
      simp only [found .form form]
      rw [if_pos ((any_isAt_iff _ _).mpr taken)]

theorem Argument.blameless_of_fault?_eq_none {placed : List Argument} (argument : Argument)
    (faultless : argument.fault? placed = none) :
    ∀ fault, ¬ Offends (placesOf placed) argument.target.location argument.documented fault := by
  intro fault offends
  rw [(argument.fault?_eq_some_iff placed fault).mpr offends] at faultless
  cases faultless

/-- There is no fault exactly if all locations fit together. -/
theorem firstFault?_eq_none_iff {placed : List Argument} (fits : Compatible (placesOf placed))
    (arguments : List Argument) :
    firstFault? placed arguments = none ↔ Compatible (placesOf (placed ++ arguments)) := by
  induction arguments generalizing placed with
  | nil => simpa [firstFault?] using fits
  | cons argument rest ih =>
    have joined : placed ++ argument :: rest = (placed ++ [argument]) ++ rest := by simp
    have step := fits.snoc_iff argument.target.location argument.documented
    have places : placesOf (placed ++ [argument]) = placesOf placed ++ [argument.target.location] := by
      simp [placesOf]
    simp only [firstFault?, Option.or_eq_none_iff]
    -- The invariant is that the arguments placed so far fit together, and so does the next one unless it offends.
    cases here : argument.fault? placed with
    | some fault =>
      have offends := (argument.fault?_eq_some_iff placed fault).mp here
      refine iff_of_false (by simp) fun compatible => ?_
      rw [joined] at compatible
      have shorter : Compatible (placesOf (placed ++ [argument])) :=
        compatible.sublist ((List.sublist_append_left _ rest).map _)
      exact step.mp (places ▸ shorter) fault offends
    | none =>
      have blameless := argument.blameless_of_fault?_eq_none here
      rw [joined, ← ih (places ▸ step.mpr blameless)]
      simp

/-- The first fault is that of the first argument that offends beside those before it. -/
theorem firstFault?_eq_some_iff {placed : List Argument} (fits : Compatible (placesOf placed))
    (arguments : List Argument) (fault : PlacementFault) :
    firstFault? placed arguments = some fault ↔ ∃ before argument after,
      arguments = before ++ argument :: after ∧ Compatible (placesOf (placed ++ before)) ∧
        Offends (placesOf (placed ++ before)) argument.target.location argument.documented fault := by
  induction arguments generalizing placed with
  | nil => simp [firstFault?]
  | cons first rest ih =>
    have step := fits.snoc_iff first.target.location first.documented
    have places : placesOf (placed ++ [first]) = placesOf placed ++ [first.target.location] := by
      simp [placesOf]
    simp only [firstFault?]
    cases here : first.fault? placed with
    | some found =>
      have offends := (first.fault?_eq_some_iff placed found).mp here
      constructor
      · intro same
        obtain rfl : found = fault := by simpa using same
        exact ⟨[], first, rest, rfl, by simpa using fits, by simpa using offends⟩
      · rintro ⟨before, argument, after, split, compatible, other⟩
        cases before with
        | nil =>
          cases split
          have same := (first.fault?_eq_some_iff placed fault).mpr (by simpa using other)
          simpa [here] using same
        | cons second before =>
          -- What follows an argument at fault never fits.
          cases split
          have absent := (firstFault?_eq_none_iff fits (first :: before)).mpr compatible
          simp [firstFault?, here] at absent
    -- A blameless argument joins those placed before, and the fault is one of the rest.
    | none =>
      have blameless := first.blameless_of_fault?_eq_none here
      rw [Option.none_or, ih (places ▸ step.mpr blameless)]
      constructor
      · rintro ⟨before, argument, after, rfl, compatible, offends⟩
        exact ⟨first :: before, argument, after, rfl, by simpa using compatible, by simpa using offends⟩
      · rintro ⟨before, argument, after, split, compatible, offends⟩
        cases before with
        | nil =>
          cases split
          exact absurd (by simpa using offends) (blameless fault)
        | cons second before =>
          cases split
          exact ⟨before, argument, after, rfl, by simpa using compatible, by simpa using offends⟩

end Bindery
