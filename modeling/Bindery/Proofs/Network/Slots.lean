import Bindery.Network.Slots
import Mathlib.Data.List.Perm.Basic

/-!
# Moves of request slots

However requests start and finish, never more than the slots are under way, and they start in line. Where a request is
left, a move is left. Requests that are served one after another use as many slots as they can.
-/
namespace Bindery.Network.Slots

/-- What starts and finishes lead to. -/
inductive Reaches (first : Slots) : Slots → Prop
  | here : Reaches first first
  | start {between last : Slots} (earlier : Reaches first between) (moved : between.start? = some last) :
      Reaches first last
  | finish {between last : Slots} {request : Nat} (earlier : Reaches first between)
      (moved : between.finish? request = some last) : Reaches first last

theorem start?_eq_some_iff {slots next : Slots} :
    slots.start? = some next ↔ ∃ request rest, slots.waiting = request :: rest ∧ slots.active.length < slots.cap ∧
      next = { slots with
        waiting := rest
        active := slots.active ++ [request]
        started := slots.started ++ [request]
        peak := max slots.peak (slots.active.length + 1) } := by
  unfold start?
  cases slots.waiting with
  | nil => simp
  | cons request rest =>
    by_cases room : slots.active.length < slots.cap
    · simp [room, eq_comm]
    · simp [room]

theorem finish?_eq_some_iff {slots next : Slots} {request : Nat} :
    slots.finish? request = some next ↔ request ∈ slots.active ∧
      next = { slots with active := slots.active.erase request, finished := slots.finished ++ [request] } := by
  unfold finish?
  by_cases active : request ∈ slots.active
  · simp [active, eq_comm]
  · simp [active]

/-- What holds of slots at all times: the requests are under way, or have been, or wait in their order. -/
structure IsSound (limit count : Nat) (slots : Slots) : Prop where
  cap : slots.cap = limit
  order : slots.started ++ slots.waiting = List.range count
  active : (slots.active ++ slots.finished).Perm slots.started
  room : slots.active.length ≤ slots.peak ∧ slots.peak ≤ limit

section Moves

variable {cap count : Nat} {slots next : Slots}

theorem ofCount_isSound (cap count : Nat) : IsSound cap count (ofCount cap count) :=
  ⟨rfl, rfl, .refl _, Nat.le_refl _, Nat.zero_le _⟩

theorem IsSound.start (sound : IsSound cap count slots) (moved : slots.start? = some next) : IsSound cap count next := by
  obtain ⟨request, rest, waiting, free, rfl⟩ := start?_eq_some_iff.mp moved
  have order := sound.order
  have room := sound.room
  rw [sound.cap] at free
  refine ⟨sound.cap, ?_, ?_, ?_⟩
  · simpa [waiting] using order
  · -- The request that starts moves behind those that came to an end.
    have moved : (slots.active ++ [request] ++ slots.finished).Perm (slots.active ++ slots.finished ++ [request]) := by
      rw [List.append_assoc, List.append_assoc]
      exact List.perm_append_comm.append_left slots.active
    exact moved.trans (sound.active.append_right [request])
  · simp only [List.length_append, List.length_singleton]
    exact ⟨Nat.le_max_right _ _, Nat.max_le.mpr ⟨room.2, free⟩⟩

theorem IsSound.finish (sound : IsSound cap count slots) {request : Nat} (moved : slots.finish? request = some next) :
    IsSound cap count next := by
  obtain ⟨active, rfl⟩ := finish?_eq_some_iff.mp moved
  have room := sound.room
  have fewer : (slots.active.erase request).length ≤ slots.active.length := List.length_erase_le
  refine ⟨sound.cap, sound.order, ?_, ?_⟩
  -- The request that comes to an end moves from the ones under way to the others.
  · have back : (slots.active.erase request ++ (slots.finished ++ [request])).Perm (slots.active ++ slots.finished) := by
      rw [← List.append_assoc]
      refine (List.perm_append_singleton _ _).trans ?_
      exact (List.perm_cons_erase active).symm.append_right slots.finished
    exact back.trans sound.active
  · exact ⟨Nat.le_trans fewer room.1, room.2⟩

theorem Reaches.isSound (reached : Reaches (ofCount cap count) slots) : IsSound cap count slots := by
  induction reached with
  | here => exact ofCount_isSound cap count
  | start _ moved ih => exact ih.start moved
  | finish _ moved ih => exact ih.finish moved

/-- A slot is free, or a request that is under way has it. -/
theorem IsSound.balance (sound : IsSound cap count slots) : slots.free + slots.active.length = cap := by
  have room := sound.room
  rw [free, sound.cap]
  omega

/-- Where a request has not come to an end, one can start or come to an end. -/
theorem IsSound.goes_on (sound : IsSound cap count slots) (something : 0 < cap) (left : slots.finished.length < count) :
    (∃ next, slots.start? = some next) ∨ ∃ request ∈ slots.active, ∃ next, slots.finish? request = some next := by
  -- What is under way can come to an end. If nothing is, all slots are free for those that wait.
  cases under : slots.active with
  | cons request others =>
    refine .inr ⟨request, List.mem_cons_self .., _, finish?_eq_some_iff.mpr ⟨?_, rfl⟩⟩
    rw [under]
    exact List.mem_cons_self ..
  | nil =>
    cases waiting : slots.waiting with
    | cons request rest =>
      refine .inl ⟨_, start?_eq_some_iff.mpr ⟨request, rest, waiting, ?_, rfl⟩⟩
      rw [under, sound.cap]
      exact something
    | nil =>
      -- Nothing waits and nothing is under way, so all has come to an end.
      have all := sound.active.length_eq
      have counted := congrArg List.length sound.order
      simp only [under, waiting, List.nil_append, List.append_nil, List.length_range] at all counted
      omega

end Moves

/-! ### Serving all requests -/

/-- The moves that are left: two for each request in line, and one for each under way. -/
def weight (slots : Slots) : Nat := 2 * slots.waiting.length + slots.active.length

/-- As long as requests wait and slots have never all been in use, nothing has come to an end. -/
structure IsEager (cap count : Nat) (slots : Slots) : Prop where
  sound : IsSound cap count slots
  reached : Reaches (ofCount cap count) slots
  peak : slots.peak = min cap slots.started.length
  early : slots.finished = [] ∨ slots.waiting = [] ∨ cap ≤ slots.started.length

section Serving

variable {cap count : Nat} {slots next : Slots}

theorem IsEager.advance (eager : IsEager cap count slots) (moved : slots.advance? = some next) :
    IsEager cap count next ∧ next.weight + 1 = slots.weight := by
  unfold advance? at moved
  -- A request starts if one can; only else the oldest one comes to an end.
  cases begun : slots.start? with
  | some started =>
    rw [begun] at moved
    obtain rfl := Option.some.inj moved
    have sound := eager.sound.start begun
    obtain ⟨request, rest, waiting, free, rfl⟩ := start?_eq_some_iff.mp begun
    have all := eager.sound.active.length_eq
    have peak := eager.peak
    have early := eager.early
    simp only [waiting, List.length_append, reduceCtorEq, false_or] at all early
    rw [eager.sound.cap] at free
    refine ⟨⟨sound, eager.reached.start begun, ?_, ?_⟩, ?_⟩
    · -- As long as nothing has come to an end, all that started is under way; after that all slots have been in use.
      simp only [List.length_append, List.length_singleton, peak]
      rcases early with none | full
      · rw [none, List.length_nil] at all
        omega
      · omega
    · simp only [List.length_append, List.length_singleton]
      exact early.imp_right fun full => .inr (by omega)
    · simp only [weight, waiting, List.length_cons, List.length_append, List.length_nil]
      omega
  | none =>
    rw [begun] at moved
    obtain ⟨request, oldest, done⟩ := Option.bind_eq_some_iff.mp moved
    have sound := eager.sound.finish done
    have active := List.mem_of_mem_head? (Option.mem_def.mpr oldest)
    obtain ⟨-, rfl⟩ := finish?_eq_some_iff.mp done
    refine ⟨⟨sound, eager.reached.finish done, eager.peak, .inr ?_⟩, ?_⟩
    · -- A request only comes to an end before one starts if none waits or all slots are in use.
      cases waiting : slots.waiting with
      | nil => exact .inl rfl
      | cons first rest =>
        have full : ¬ slots.active.length < slots.cap := fun free => by
          have startable := start?_eq_some_iff.mpr ⟨first, rest, waiting, free, rfl⟩
          cases begun.symm.trans startable
        have all := eager.sound.active.length_eq
        rw [List.length_append] at all
        rw [eager.sound.cap] at full
        exact .inr (by simp only; omega)
    · have fewer := List.length_erase_of_mem active
      have some := List.length_pos_of_mem active
      simp only [weight, fewer]
      omega

theorem IsEager.advanceBy (eager : IsEager cap count slots) {moves : Nat} (enough : slots.weight ≤ moves) :
    IsEager cap count (slots.advanceBy moves) ∧ (slots.advanceBy moves).advance? = none := by
  -- Each move takes one off the weight, so that none is left when the moves are used up.
  induction moves generalizing slots with
  | zero =>
    refine ⟨eager, ?_⟩
    cases moved : slots.advance? with
    | none => exact moved
    | some next =>
      have lighter := (eager.advance moved).2
      omega
  | succ moves ih =>
    rw [Slots.advanceBy]
    cases moved : slots.advance? with
    | none => exact ⟨eager, moved⟩
    | some next =>
      obtain ⟨eager', lighter⟩ := eager.advance moved
      exact ih eager' (by omega)

/-- All requests start in order and come to an end, and as many as possible are under way at once. -/
theorem serve_ends (cap count : Nat) (something : 0 < cap) :
    Reaches (ofCount cap count) (serve cap count) ∧ (serve cap count).started = List.range count ∧
      (serve cap count).active = [] ∧ (serve cap count).finished.Perm (List.range count) ∧
      (serve cap count).peak = min cap count := by
  have first : IsEager cap count (ofCount cap count) :=
    ⟨ofCount_isSound cap count, .here, by simp [ofCount], .inl rfl⟩
  -- Each request is begun and ended, so that twice as many moves are enough.
  have enough : (ofCount cap count).weight ≤ 2 * count := by simp [weight, ofCount]
  obtain ⟨eager, stopped⟩ := first.advanceBy enough
  change IsEager cap count (serve cap count) at eager
  change (serve cap count).advance? = none at stopped
  have order := eager.sound.order
  have perm := eager.sound.active
  have peak := eager.peak
  -- What is under way could come to an end, and what waits could start then.
  have idle : (serve cap count).active = [] := by
    cases active : (serve cap count).active with
    | nil => rfl
    | cons request others =>
      unfold advance? at stopped
      cases begun : (serve cap count).start? with
      | some next =>
        rw [begun] at stopped
        cases stopped
      | none => simp [begun, active, finish?] at stopped
  have served : (serve cap count).waiting = [] := by
    cases waiting : (serve cap count).waiting with
    | nil => rfl
    | cons request rest =>
      have free : (serve cap count).active.length < (serve cap count).cap := by
        rw [idle, eager.sound.cap]
        exact something
      have startable := start?_eq_some_iff.mpr ⟨request, rest, waiting, free, rfl⟩
      rw [advance?, startable] at stopped
      cases stopped
  rw [served, List.append_nil] at order
  rw [idle, List.nil_append, order] at perm
  rw [order, List.length_range] at peak
  exact ⟨eager.reached, order, idle, perm, peak⟩

end Serving

example : (serve 3 10).peak = 3 := by decide

end Bindery.Network.Slots
