import Mathlib.Control.Lawful

/-!
# Steps that can fail

Files are changed and a package is written in steps that give a value or fail, and leave a state in either
case. What follows says how such steps are put together, and what a sequence of them keeps.
-/
namespace Bindery

variable {ε σ α β : Type}

theorem bind_eq_ok {first : Except ε α} {next : α → Except ε β} {b : β} (done : (first >>= next) = .ok b) :
    ∃ a, first = .ok a ∧ next a = .ok b := by
  cases first with
  | error fault => cases done
  | ok a => exact ⟨a, rfl, done⟩

/-- A list of results has a first one. -/
theorem mapM_cons_eq_ok {f : α → Except ε β} {item : α} {rest : List α} {results : List β}
    (done : (item :: rest).mapM f = .ok results) :
    ∃ result others, f item = .ok result ∧ rest.mapM f = .ok others ∧ results = result :: others := by
  rw [List.mapM_cons] at done
  obtain ⟨result, first, continued⟩ := bind_eq_ok done
  obtain ⟨others, last, gathered⟩ := bind_eq_ok continued
  cases gathered
  exact ⟨result, others, first, last, rfl⟩

/-- A list of items that each have a result has the list of results. -/
theorem mapM_eq_ok {f : α → Except ε β} {result : α → β} {items : List α} (each : ∀ item ∈ items, f item = .ok (result item)) :
    items.mapM f = .ok (items.map result) := by
  induction items with
  | nil => rfl
  | cons item rest ih =>
    rw [List.forall_mem_cons] at each
    rw [List.mapM_cons, each.1, ih each.2]
    rfl

/-- A list without results has a first item that has none. -/
theorem mapM_eq_error {f : α → Except ε β} {items : List α} {fault : ε} (failed : items.mapM f = .error fault) :
    ∃ before item after results, items = before ++ item :: after ∧ before.mapM f = .ok results ∧
      f item = .error fault := by
  induction items with
  | nil => cases failed
  | cons item rest ih =>
    rw [List.mapM_cons] at failed
    -- Either the first item fails, or the failure is among the rest and the first item comes before it.
    cases first : f item with
    | error other =>
      rw [first] at failed
      cases failed
      exact ⟨[], item, rest, [], rfl, rfl, first⟩
    | ok result =>
      rw [first] at failed
      cases last : rest.mapM f with
      | ok others =>
        rw [last] at failed
        cases failed
      | error other =>
        rw [last] at failed
        cases failed
        obtain ⟨before, item', after, results, rfl, done, stuck⟩ := ih last
        refine ⟨item :: before, item', after, result :: results, rfl, ?_, stuck⟩
        rw [List.mapM_cons, first, done]
        rfl

/-- What a step gives, and the state after it. -/
def outcome (step : ExceptT ε (StateM σ) α) (s : σ) : Except ε α × σ := StateT.run (ExceptT.run step) s

section Outcomes

variable {s t : σ}

theorem outcome_bind_ok {first : ExceptT ε (StateM σ) α} {next : α → ExceptT ε (StateM σ) β} {a : α}
    (done : outcome first s = (.ok a, t)) : outcome (first >>= next) s = outcome (next a) t := by
  unfold outcome at done ⊢
  rw [ExceptT.run_bind, StateT.run_bind, done]
  rfl

theorem outcome_bind_error {first : ExceptT ε (StateM σ) α} {next : α → ExceptT ε (StateM σ) β} {fault : ε}
    (failed : outcome first s = (.error fault, t)) : outcome (first >>= next) s = (.error fault, t) := by
  unfold outcome at failed ⊢
  rw [ExceptT.run_bind, StateT.run_bind, failed]
  rfl

/-- A sequence that gives a value has come through its first step. -/
theorem outcome_bind_eq_ok {first : ExceptT ε (StateM σ) α} {next : α → ExceptT ε (StateM σ) β} {b : β}
    (done : outcome (first >>= next) s = (.ok b, t)) :
    ∃ a between, outcome first s = (.ok a, between) ∧ outcome (next a) between = (.ok b, t) := by
  cases ended : outcome first s with
  | mk result between =>
    cases result with
    | error fault =>
      rw [outcome_bind_error ended] at done
      cases done
    | ok a => exact ⟨a, between, rfl, (outcome_bind_ok ended).symm.trans done⟩

theorem outcome_catch_ok {step : ExceptT ε (StateM σ) α} {handler : ε → ExceptT ε (StateM σ) α} {a : α}
    (done : outcome step s = (.ok a, t)) : outcome (tryCatch step handler) s = (.ok a, t) := by
  unfold outcome at done ⊢
  rw [ExceptT.run_tryCatch, StateT.run_bind, done]
  rfl

theorem outcome_catch_error {step : ExceptT ε (StateM σ) α} {handler : ε → ExceptT ε (StateM σ) α} {fault : ε}
    (failed : outcome step s = (.error fault, t)) :
    outcome (tryCatch step handler) s = outcome (handler fault) t := by
  unfold outcome at failed ⊢
  rw [ExceptT.run_tryCatch, StateT.run_bind, failed]
  rfl

@[simp] theorem outcome_pure (a : α) : outcome (pure a : ExceptT ε (StateM σ) α) s = (.ok a, s) := rfl

@[simp] theorem outcome_get : outcome (get : ExceptT ε (StateM σ) σ) s = (.ok s, s) := rfl

@[simp] theorem outcome_modify (change : σ → σ) :
    outcome (modify change : ExceptT ε (StateM σ) Unit) s = (.ok (), change s) := rfl

@[simp] theorem outcome_throw (fault : ε) : outcome (throw fault : ExceptT ε (StateM σ) α) s = (.error fault, s) := rfl

end Outcomes

/-! ### What steps keep -/

/-- A step keeps a property of states if it does not fail, and fails in certain ways only. -/
structure Meets (Inv : σ → Prop) (Fails : ε → Prop) (step : ExceptT ε (StateM σ) α) : Prop where
  ends : ∀ s, Inv s → match outcome step s with
    | (.ok _, after) => Inv after
    | (.error fault, _) => Fails fault

section Sequences

variable {Inv : σ → Prop} {Fails : ε → Prop}

theorem Meets.ok {step : ExceptT ε (StateM σ) α} (meets : Meets Inv Fails step) {s t : σ} {a : α}
    (holds : Inv s) (done : outcome step s = (.ok a, t)) : Inv t := by
  have kept := meets.ends s holds
  rwa [done] at kept

theorem Meets.error {step : ExceptT ε (StateM σ) α} (meets : Meets Inv Fails step) {s t : σ} {fault : ε}
    (holds : Inv s) (failed : outcome step s = (.error fault, t)) : Fails fault := by
  have known := meets.ends s holds
  rwa [failed] at known

theorem Meets.of_pure (a : α) : Meets Inv Fails (pure a : ExceptT ε (StateM σ) α) := ⟨fun _ holds => holds⟩

theorem Meets.of_get : Meets Inv Fails (get : ExceptT ε (StateM σ) σ) := ⟨fun _ holds => holds⟩

theorem Meets.of_throw {fault : ε} (known : Fails fault) :
    Meets Inv Fails (throw fault : ExceptT ε (StateM σ) α) := ⟨fun _ _ => known⟩

theorem Meets.of_modify {change : σ → σ} (kept : ∀ s, Inv s → Inv (change s)) :
    Meets Inv Fails (modify change : ExceptT ε (StateM σ) Unit) := ⟨kept⟩

theorem Meets.bind {first : ExceptT ε (StateM σ) α} {next : α → ExceptT ε (StateM σ) β}
    (here : Meets Inv Fails first) (there : ∀ a, Meets Inv Fails (next a)) : Meets Inv Fails (first >>= next) := by
  constructor
  intro s holds
  -- The second step starts from a state that the first one leaves without failing.
  cases ended : outcome first s with
  | mk result between =>
    cases result with
    | error fault =>
      rw [outcome_bind_error ended]
      exact here.error holds ended
    | ok a =>
      rw [outcome_bind_ok ended]
      exact (there a).ends between (here.ok holds ended)

theorem Meets.ite {condition : Prop} [Decidable condition] {yes no : ExceptT ε (StateM σ) α}
    (first : condition → Meets Inv Fails yes) (second : ¬condition → Meets Inv Fails no) :
    Meets Inv Fails (if condition then yes else no) := by
  split
  next holds => exact first holds
  next fails => exact second fails

/-- A failure may come from any state, so nothing is known of the state that the handler meets. -/
theorem Meets.catch {step : ExceptT ε (StateM σ) α} {handler : ε → ExceptT ε (StateM σ) α}
    (here : Meets (fun _ => True) Fails step) (there : ∀ fault, Fails fault → Meets (fun _ => True) Fails (handler fault)) :
    Meets (fun _ => True) Fails (tryCatch step handler) := by
  constructor
  intro s holds
  cases ended : outcome step s with
  | mk result after =>
    cases result with
    | ok a =>
      rw [outcome_catch_ok ended]
      trivial
    | error fault =>
      rw [outcome_catch_error ended]
      exact (there fault (here.error holds ended)).ends after trivial

/-- A loop keeps what each of its rounds keeps. -/
theorem Meets.forEach {items : List α} {body : α → ExceptT ε (StateM σ) β}
    (each : ∀ item ∈ items, Meets Inv Fails (body item)) :
    Meets Inv Fails (forIn items PUnit.unit fun item _ => do
      let _ ← body item
      pure (ForInStep.yield PUnit.unit)) := by
  induction items with
  | nil => exact Meets.of_pure _
  | cons item rest ih =>
    rw [List.forall_mem_cons] at each
    rw [List.forIn_cons, bind_assoc]
    refine each.1.bind fun b => ?_
    rw [pure_bind]
    exact ih each.2

end Sequences

/-- A loop goes on where its first rounds end. -/
theorem outcome_forEach_append {first second : List α} {body : α → ExceptT ε (StateM σ) β} {s t : σ} {u : PUnit}
    (done : outcome (forIn first PUnit.unit fun item _ => do
      let _ ← body item
      pure (ForInStep.yield PUnit.unit)) s = (.ok u, t)) :
    outcome (forIn (first ++ second) PUnit.unit fun item _ => do
      let _ ← body item
      pure (ForInStep.yield PUnit.unit)) s = outcome (forIn second PUnit.unit fun item _ => do
        let _ ← body item
        pure (ForInStep.yield PUnit.unit)) t := by
  induction first generalizing s with
  | nil =>
    rw [List.forIn_nil, outcome_pure] at done
    cases done
    rfl
  | cons item rest ih =>
    rw [List.forIn_cons, bind_assoc] at done
    -- The first round ends somewhere, and the rest of the rounds goes on from there.
    obtain ⟨b, between, here, others⟩ := outcome_bind_eq_ok done
    rw [pure_bind] at others
    rw [List.cons_append, List.forIn_cons, bind_assoc, outcome_bind_ok here, pure_bind]
    exact ih others

end Bindery
