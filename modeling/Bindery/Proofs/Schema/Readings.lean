import Bindery.Schema.Checked

/-!
# Readings that come to a value

A reading that comes to a value has come through each of its parts.
-/
namespace Bindery

open Bindery.Data (Datum)
open Bindery.Schema (Checked fieldOr)

variable {α β : Type}

theorem andThen_eq_valid {x : Checked α} {f : α → Checked β} {b : β} (valid : x.andThen f = .valid b) :
    ∃ a, x = .valid a ∧ f a = .valid b := by
  cases x with
  | valid a => exact ⟨a, rfl, valid⟩
  | invalid faults => cases valid

/-- A value that was asked for a bound keeps it. -/
theorem bound_of_valid {x : Checked α} {within : α → Prop} [DecidablePred within] {kind : Schema.FaultKind} {a : α}
    (valid : (x.andThen fun value => if within value then .valid value else .fail kind) = .valid a) : within a := by
  obtain ⟨value, -, bounded⟩ := andThen_eq_valid valid
  split at bounded
  next holds =>
    cases bounded
    exact holds
  next => cases bounded

theorem map_eq_valid {x : Checked α} {f : α → β} {b : β} (valid : x.map f = .valid b) : ∃ a, x = .valid a ∧ f a = b := by
  cases x with
  | valid a =>
    cases valid
    exact ⟨a, rfl, rfl⟩
  | invalid faults => cases valid

theorem seq_eq_valid {f : Checked (α → β)} {x : Checked α} {b : β} (valid : f <*> x = .valid b) :
    ∃ g a, f = .valid g ∧ x = .valid a ∧ g a = b := by
  cases f with
  | valid g =>
    cases x with
    | valid a =>
      cases valid
      exact ⟨g, a, rfl, rfl, rfl⟩
    | invalid faults => cases valid
  | invalid faults => cases x <;> cases valid

theorem toOption_eq_some {x : Checked α} {a : α} (some : x.toOption = some a) : x = .valid a := by
  cases x with
  | valid value => exact congrArg Checked.valid (Option.some.inj some)
  | invalid faults => cases some

/-- What a field comes to was read from a member, unless there is none. -/
theorem fieldOr_eq_valid {keys : List String} {absent : Checked α} {read : Datum → Checked α}
    {members : List (String × Datum)} {a : α} (valid : fieldOr keys absent read members = .valid a) :
    absent = .valid a ∨ ∃ value, read value = .valid a := by
  rw [fieldOr] at valid
  cases found : Schema.findField keys members with
  | none =>
    rw [found] at valid
    exact .inl valid
  | some member =>
    simp only [found] at valid
    refine .inr ⟨member.2, ?_⟩
    cases here : read member.2 with
    | valid value =>
      rw [here] at valid
      exact valid
    | invalid faults =>
      rw [here] at valid
      cases valid

end Bindery
