import Bindery.Interruption
import Bindery.Proofs.Steps
import Mathlib.Data.List.Forall2
import Mathlib.Data.List.Range

/-!
# Tasks that run together

Tasks come to an end in any order. The first one that is interrupted ends all of them. If none is, their values are
given in the order in which they were started, and only their notices tell how they arrived.
-/
namespace Bindery

variable {α β ι : Type}

/-! ### Parts of a run -/

theorem Run.result_bind (first : Run α) (next : α → Run β) :
    (first >>= next).result = first.result >>= fun a => (next a).result := by
  simp only [Run.result, ExceptT.run_bind]
  generalize first.run = ended
  obtain ⟨result | a, notices⟩ := ended <;> rfl

/-- A run that goes on has come through its first part. -/
theorem Run.bind_eq_ok {first : Run α} {next : α → Run β} {b : β} (done : (first >>= next).result = .ok b) :
    ∃ a, first.result = .ok a ∧ (next a).result = .ok b :=
  Bindery.bind_eq_ok ((Run.result_bind first next).symm.trans done)

theorem Run.result_bind_ok {first : Run α} {next : α → Run β} {a : α} (done : first.result = .ok a) :
    (first >>= next).result = (next a).result := by
  rw [Run.result_bind, done]
  rfl

theorem Run.notices_bind {first : Run α} {a : α} (done : first.result = .ok a) (next : α → Run β) :
    (first >>= next).notices = first.notices ++ (next a).notices := by
  unfold Run.result at done
  simp only [Run.notices, ExceptT.run_bind]
  generalize first.run = ended at done ⊢
  obtain ⟨result, notices⟩ := ended
  obtain rfl : result = .ok a := done
  rfl

/-! ### Arrivals -/

theorem filterMap_range_getElem? (items : List α) :
    (List.range items.length).filterMap (fun position => items[position]?) = items := by
  induction items with
  | nil => rfl
  | cons first rest ih =>
    rw [List.length_cons, List.range_succ_eq_map]
    simpa [List.filterMap_map, Function.comp_def] using ih

/-- Everything arrives, in some order. -/
theorem arrivals_perm {items : List α} {order : List Nat} (all : order.Perm (List.range items.length)) :
    (order.filterMap fun position => items[position]?).Perm items := by
  have perm := all.filterMap fun position => items[position]?
  rwa [filterMap_range_getElem?] at perm

/-- Tasks arrive as the items do that they are for. -/
theorem arrivals_map (order : List Nat) (items : List ι) (task : ι → α) :
    (order.filterMap fun position => (items.map task)[position]?) =
      (order.filterMap fun position => items[position]?).map task := by
  rw [List.map_filterMap]
  simp only [List.getElem?_map]

/-- The first interruption among tasks that came to an end. -/
def interruption? {α : Type} (tasks : List (Run α)) : Option Interruption :=
  tasks.findSome? fun task =>
    match task.result with
    | .error cause => some cause
    | .ok _ => none

section Interruptions

variable {tasks : List (Run α)}

theorem interruption?_eq_some {cause : Interruption} (found : interruption? tasks = some cause) :
    ∃ task ∈ tasks, task.result = .error cause := by
  obtain ⟨task, member, ended⟩ := List.exists_of_findSome?_eq_some found
  refine ⟨task, member, ?_⟩
  cases result : task.result with
  | ok value => simp [result] at ended
  | error other =>
    rw [result] at ended
    rw [Option.some.inj ended]

theorem interruption?_eq_none_iff : interruption? tasks = none ↔ ∀ task ∈ tasks, ∃ value, task.result = .ok value := by
  rw [interruption?, List.findSome?_eq_none_iff]
  refine forall₂_congr fun task _ => ?_
  cases task.result <;> simp

end Interruptions

/-! ### Results -/

theorem Run.result_gatherIn (order : List Nat) (tasks : List (Run α)) :
    (Run.gatherIn order tasks).result = match interruption? (order.filterMap fun position => tasks[position]?) with
      | some cause => .error cause
      | none => .ok (tasks.filterMap fun task => task.result.toOption) := rfl

theorem Run.result_gather (tasks : List (Run α)) :
    (Run.gather tasks).result = match interruption? tasks with
      | some cause => .error cause
      | none => .ok (tasks.filterMap fun task => task.result.toOption) := by
  rw [Run.gather, Run.result_gatherIn, filterMap_range_getElem?]

/-- Tasks that all come through do so together, in every order. -/
theorem Run.gatherIn_ok {items : List ι} {task : ι → Run β} {value : ι → β} {order : List Nat}
    (all : order.Perm (List.range items.length)) (done : ∀ item ∈ items, (task item).result = .ok (value item)) :
    (Run.gatherIn order (items.map task)).result = .ok (items.map value) := by
  have through : interruption? (order.filterMap fun position => (items.map task)[position]?) = none := by
    rw [arrivals_map, interruption?_eq_none_iff, List.forall_mem_map]
    exact fun item arrived => ⟨_, done item ((arrivals_perm all).mem_iff.mp arrived)⟩
  -- Nothing interrupts, whatever the order, and the results are put back into that of the tasks.
  rw [Run.result_gatherIn, through, List.filterMap_map]
  refine congrArg Except.ok ?_
  rw [← List.filterMap_eq_map]
  exact List.filterMap_congr fun item member => by simp [done item member, Except.toOption]

theorem Run.gather_ok {items : List ι} {task : ι → Run β} {value : ι → β}
    (done : ∀ item ∈ items, (task item).result = .ok (value item)) :
    (Run.gather (items.map task)).result = .ok (items.map value) :=
  Run.gatherIn_ok (by rw [List.length_map]) done

/-- Tasks that come through together have done so one by one, and give their values in order. -/
theorem Run.gather_eq_ok {tasks : List (Run α)} {values : List α} (done : (Run.gather tasks).result = .ok values) :
    List.Forall₂ (fun task value => task.result = .ok value) tasks values := by
  rw [Run.result_gather] at done
  cases found : interruption? tasks with
  | some cause =>
    rw [found] at done
    cases done
  | none =>
    rw [found] at done
    obtain rfl := Except.ok.inj done
    -- No task was interrupted, so that the list of values leaves none of them out.
    have through := interruption?_eq_none_iff.mp found
    clear done found
    induction tasks with
    | nil => exact .nil
    | cons task rest ih =>
      rw [List.forall_mem_cons] at through
      obtain ⟨⟨value, here⟩, later⟩ := through
      rw [List.filterMap_cons, here]
      exact .cons here (ih later)

end Bindery
