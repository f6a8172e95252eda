import Bindery.Network.Fetch
import Bindery.Proofs.Network.Slots
import Mathlib.Data.List.Basic

/-!
# Schedules of fetches

Fetches that are run at the same time share a number of slots: each waits in line for one, asks for its address, and
gives the slot back before it goes on with what came of that, be it a response or not. Whatever comes in whatever
order, the slots suffice, no fetch is left behind, and each gets what its own address answered.
-/
namespace Bindery.Network

/-! ### Routines -/

/-- What is left to do for a task, up to where it has to wait. -/
inductive Routine (ρ α : Type) where
  /-- There is a result, which may be a failure. -/
  | done (result : α)
  /-- Wait in line for a slot. -/
  | enter (next : Routine ρ α)
  /-- Give the slot back. -/
  | leave (next : Routine ρ α)
  /-- Ask for an address, and wait for what comes of it. -/
  | ask (url : String) (next : ρ → Routine ρ α)

namespace Routine

variable {ρ α β : Type}

/-- Go on with a result. -/
def followedBy (routine : Routine ρ α) (next : α → Routine ρ β) : Routine ρ β :=
  match routine with
  | done result => next result
  | enter later => .enter (later.followedBy next)
  | leave later => .leave (later.followedBy next)
  | ask url later => .ask url fun answer => (later answer).followedBy next

/-- Do something with a slot, which is given back with whatever result. -/
def holding (routine : Routine ρ α) : Routine ρ α :=
  .enter (routine.followedBy fun result => .leave (.done result))

end Routine

/-- What comes of a request: a reply, or something else that is raised. -/
inductive Answer (ε : Type) where
  | reply (reply : Reply)
  | raised (cause : ε)

section Fetching

variable {ε β : Type}

/-- What a request comes to: only a failure on the way is told as one, and everything else passes through. -/
def concluded (url : String) : Answer ε → Except (ε ⊕ FetchFault) Response
  | .reply reply => (fetch (fun _ => reply) url).mapError .inr
  | .raised cause => .error (.inl cause)

/-- Fetch a response while holding a slot. -/
def getting (url : String) : Routine (Answer ε) (Except (ε ⊕ FetchFault) Response) :=
  .holding (.ask url fun answer => .done (concluded url answer))

/-- Fetch a response, and read it without a slot. -/
def reading (read : Response → Except FetchFault β) (url : String) : Routine (Answer ε) (Except (ε ⊕ FetchFault) β) :=
  (getting url).followedBy fun result => .done (result >>= fun response => (read response).mapError .inr)

def readAnswer (read : Response → Except FetchFault β) (url : String) (answer : Answer ε) : Except (ε ⊕ FetchFault) β :=
  concluded url answer >>= fun response => (read response).mapError .inr

/-- A reply is read as the one that a web gives. -/
theorem readAnswer_reply (read : Response → Except FetchFault β) (web : Web) (url : String) :
    readAnswer read url (.reply (web url) : Answer ε) = (fetch web url >>= read).mapError .inr := by
  -- What a fetch comes to depends on the reply at its own address only.
  have same : fetch (fun _ => web url) url = fetch web url := rfl
  rw [readAnswer, concluded, same]
  cases fetch web url <;> rfl

def textOf (response : Response) : Except FetchFault String :=
  response.text.mapError fun fault => .interrupted (.undecodable fault)

def documentOf (response : Response) : Except FetchFault Data.Datum :=
  response.json.mapError fun fault =>
    match fault with
    | .unreadable .tooDeep => .interrupted .tooDeep
    | _ => .unavailable (.unreadable fault)

theorem fetchText_eq (web : Web) (url : String) : fetchText web url = fetch web url >>= textOf := by
  rw [fetchText]
  cases fetch web url with
  | error fault => rfl
  | ok response =>
    have read : (Except.ok response >>= textOf) = textOf response := rfl
    rw [read, textOf]
    dsimp only
    cases response.text <;> rfl

theorem fetchJson_eq (web : Web) (url : String) : fetchJson web url = fetch web url >>= documentOf := by
  rw [fetchJson]
  cases fetch web url <;> rfl

end Fetching

/-! ### The loop that runs routines -/

/-- Tasks that are run together, each with its position. -/
structure Loop (ρ α : Type) where
  /-- How many slots are free. -/
  free : Nat
  /-- Tasks that have not begun, the next one first. -/
  pending : List (Nat × Routine ρ α)
  /-- Tasks that wait for a slot, the next one first. -/
  line : List (Nat × Routine ρ α) := []
  /-- Tasks that have asked for an address. -/
  asking : List (Nat × (ρ → Routine ρ α)) := []
  /-- The addresses that were asked for, in order. -/
  requested : List String := []
  /-- The results, in the order in which they came. -/
  ended : List (Nat × α) := []

/-- What happens next: a task begins, the first one in line gets a slot, or a request is answered. -/
inductive Happening (ρ : Type) where
  | begin
  | wake
  | reply (position : Nat) (answer : ρ)

/-- What is answered, and to which task. -/
def Happening.answer? {ρ : Type} : Happening ρ → Option (Nat × ρ)
  | .reply position answer => some (position, answer)
  | .begin | .wake => none

namespace Loop

variable {ρ α : Type}

/-- Run a task until it has to wait or has come to an end. Nobody gets a slot before those in line. -/
def resume (loop : Loop ρ α) (position : Nat) : Routine ρ α → Loop ρ α
  | .done result => { loop with ended := loop.ended ++ [(position, result)] }
  | .enter next =>
    if 0 < loop.free && loop.line.isEmpty then resume { loop with free := loop.free - 1 } position next
    else { loop with line := loop.line ++ [(position, next)] }
  | .leave next => resume { loop with free := loop.free + 1 } position next
  | .ask url next =>
    { loop with asking := loop.asking ++ [(position, next)], requested := loop.requested ++ [url] }

/-- What a loop becomes, if this can happen. -/
def step? (loop : Loop ρ α) : Happening ρ → Option (Loop ρ α)
  | .begin =>
    match loop.pending with
    | [] => none
    | (position, routine) :: rest => some (resume { loop with pending := rest } position routine)
  | .wake =>
    match loop.line with
    | [] => none
    | (position, next) :: rest =>
      if 0 < loop.free then some (resume { loop with free := loop.free - 1, line := rest } position next) else none
  | .reply position answer =>
    (loop.asking.find? fun task => task.1 == position).map fun task =>
      resume { loop with asking := loop.asking.eraseP fun task => task.1 == position } position (task.2 answer)

/-- What a loop becomes if all this happens in turn. -/
def run? (loop : Loop ρ α) : List (Happening ρ) → Option (Loop ρ α)
  | [] => some loop
  | next :: rest => (loop.step? next).bind fun between => run? between rest

def ofUrls (cap : Nat) (task : String → Routine ρ α) (urls : List String) : Loop ρ α :=
  { free := cap, pending := urls.zipIdx.map fun entry => (entry.2, task entry.1) }

/-- How much can still happen. -/
def weight (loop : Loop ρ α) : Nat := 3 * loop.pending.length + 2 * loop.line.length + loop.asking.length

/-- The results by the position of their tasks. -/
def gathered (loop : Loop ρ α) (count : Nat) : List α :=
  (List.range count).filterMap fun position => (loop.ended.find? fun result => result.1 == position).map Prod.snd

end Loop

/-! ### What holds at all times -/

section Invariant

variable {ρ α : Type} {conclude : String → ρ → α}

/-- What is left of a task that gets a slot: to ask, and to give the slot back with whatever came of that. -/
def Routine.withSlot (conclude : String → ρ → α) (url : String) : Routine ρ α :=
  .ask url fun answer => .leave (.done (conclude url answer))

/-- What holds of tasks at all times: some have asked, the next ones are in line, and the rest have not begun. -/
structure Loop.IsSound (cap : Nat) (conclude : String → ρ → α) (urls : List String) (heard : List (Nat × ρ))
    (loop : Loop ρ α) (asked queued rest : List (String × Nat)) : Prop where
  split : urls.zipIdx = asked ++ (queued ++ rest)
  pending : loop.pending = rest.map fun entry => (entry.2, .enter (.withSlot conclude entry.1))
  line : loop.line = queued.map fun entry => (entry.2, .withSlot conclude entry.1)
  requested : loop.requested = asked.map Prod.fst
  balance : loop.free + loop.asking.length = cap
  asking : ∀ task ∈ loop.asking, ∃ url, (url, task.1) ∈ asked ∧
    task.2 = fun answer => .leave (.done (conclude url answer))
  ended : List.Forall₂ (fun (result : Nat × α) (reply : Nat × ρ) => result.1 = reply.1 ∧
    ∃ url, (url, reply.1) ∈ asked ∧ result.2 = conclude url reply.2) loop.ended heard
  /-- The tasks move as requests do that are given by their positions. -/
  slots : ∃ slots : Slots, Slots.Reaches (.ofCount cap urls.length) slots ∧
    slots.waiting = (queued ++ rest).map Prod.snd ∧ slots.active = loop.asking.map Prod.fst ∧
    slots.started = asked.map Prod.snd ∧ slots.finished = loop.ended.map Prod.fst

namespace Loop

variable {cap : Nat} {urls : List String} {heard : List (Nat × ρ)} {loop next : Loop ρ α}
  {asked queued rest : List (String × Nat)}

theorem ofUrls_isSound (cap : Nat) (conclude : String → ρ → α) (urls : List String) :
    IsSound cap conclude urls [] (ofUrls cap (fun url => .enter (.withSlot conclude url)) urls) [] [] urls.zipIdx where
  split := rfl
  pending := rfl
  line := rfl
  requested := rfl
  balance := rfl
  asking := nofun
  ended := .nil
  slots := ⟨_, .here, by simp [Slots.ofCount, List.zipIdx_map_snd, List.range_eq_range'], rfl, rfl, rfl⟩

theorem IsSound.grant (sound : IsSound cap conclude urls heard loop asked queued rest) (free : 0 < loop.free)
    {url : String} {position : Nat} {queued' rest' : List (String × Nat)}
    (first : queued ++ rest = (url, position) :: (queued' ++ rest')) :
    IsSound cap conclude urls heard
      { loop with
        free := loop.free - 1
        pending := rest'.map fun entry => (entry.2, .enter (.withSlot conclude entry.1))
        line := queued'.map fun entry => (entry.2, .withSlot conclude entry.1)
        asking := loop.asking ++ [(position, fun answer => .leave (.done (conclude url answer)))]
        requested := loop.requested ++ [url] }
      (asked ++ [(url, position)]) queued' rest' where
  split := by rw [sound.split, first, List.append_assoc, List.singleton_append]
  pending := rfl
  line := rfl
  requested := by rw [sound.requested, List.map_append, List.map_singleton]
  balance := by
    have balance := sound.balance
    simp only [List.length_append, List.length_singleton]
    omega
  asking := by
    refine List.forall_mem_append.mpr ⟨fun task member => ?_, List.forall_mem_singleton.mpr ⟨url, by simp, rfl⟩⟩
    obtain ⟨own, among, same⟩ := sound.asking task member
    exact ⟨own, List.mem_append_left _ among, same⟩
  ended := sound.ended.imp fun result reply ⟨same, own, among, concluded⟩ =>
    ⟨same, own, List.mem_append_left _ among, concluded⟩
  slots := by
    -- The line of requests moves with the tasks: its first position is that of the task that asks now.
    obtain ⟨slots, reached, waiting, active, started, finished⟩ := sound.slots
    have room : slots.active.length < slots.cap := by
      rw [reached.isSound.cap, active, List.length_map]
      have balance := sound.balance
      omega
    rw [first, List.map_cons] at waiting
    refine ⟨_, reached.start (Slots.start?_eq_some_iff.mpr ⟨position, _, waiting, room, rfl⟩), rfl, ?_, ?_, finished⟩
    · simp only [active, List.map_append, List.map_singleton]
    · simp only [started, List.map_append, List.map_singleton]

theorem IsSound.begin (sound : IsSound cap conclude urls heard loop asked queued rest)
    (happens : loop.step? .begin = some next) :
    (∃ asked' queued' rest', IsSound cap conclude urls heard next asked' queued' rest') ∧ next.weight < loop.weight := by
  have pending := sound.pending
  have line := sound.line
  -- Without tasks that have not begun, none can begin.
  cases rest with
  | nil => simp [step?, pending] at happens
  | cons entry rest' =>
    obtain ⟨url, position⟩ := entry
    rw [List.map_cons] at pending
    simp only [step?, pending, Option.some.injEq, resume] at happens
    by_cases free : 0 < loop.free ∧ queued = []
    · -- Nobody is in line, so that the task that begins is the first one that has not asked.
      obtain ⟨free, rfl⟩ := free
      have first : [] ++ (url, position) :: rest' = (url, position) :: ([] ++ rest') := rfl
      have granted := sound.grant free first
      rw [List.map_nil] at line granted
      rw [line, decide_eq_true free] at happens
      simp only [List.isEmpty_nil, Bool.and_self, if_true, Routine.withSlot, resume] at happens
      subst happens
      refine ⟨⟨_, _, _, granted⟩, ?_⟩
      simp only [weight, pending, line, List.length_cons, List.length_append, List.length_nil, List.length_map]
      omega
    · -- No slot is free, or others are in line: the task waits behind them.
      have busy : (decide (0 < loop.free) && loop.line.isEmpty) = false := by
        cases queued with
        | nil => simpa using fun some => absurd ⟨some, rfl⟩ free
        | cons first others => simp [line]
      rw [busy] at happens
      simp only [Bool.false_eq_true, if_false] at happens
      subst happens
      have waits : queued ++ [(url, position)] ++ rest' = queued ++ (url, position) :: rest' := List.append_cons .. |>.symm
      refine ⟨⟨asked, queued ++ [(url, position)], rest', ?_⟩, ?_⟩
      · exact {
          split := waits.symm ▸ sound.split
          pending := rfl
          line := by rw [line, List.map_append, List.map_singleton]
          requested := sound.requested
          balance := sound.balance
          asking := sound.asking
          ended := sound.ended
          slots := waits.symm ▸ sound.slots }
      · simp only [weight, pending, List.length_cons, List.length_append, List.length_nil, List.length_map]
        omega

theorem IsSound.wake (sound : IsSound cap conclude urls heard loop asked queued rest)
    (happens : loop.step? .wake = some next) :
    (∃ asked' queued' rest', IsSound cap conclude urls heard next asked' queued' rest') ∧ next.weight < loop.weight := by
  have line := sound.line
  -- Nobody can get a slot where nobody is in line.
  cases queued with
  | nil => simp [step?, line] at happens
  | cons entry queued' =>
    obtain ⟨url, position⟩ := entry
    rw [List.map_cons] at line
    by_cases free : 0 < loop.free
    · -- The first one in line asks; those that have not begun stay as they are.
      simp only [step?, line, if_pos free, Option.some.injEq, Routine.withSlot, resume] at happens
      subst happens
      have first : (url, position) :: queued' ++ rest = (url, position) :: (queued' ++ rest) := rfl
      have granted := sound.grant free first
      rw [← sound.pending] at granted
      refine ⟨⟨_, _, _, granted⟩, ?_⟩
      simp only [weight, line, List.length_cons, List.length_append, List.length_nil, List.length_map]
      omega
    · simp [step?, line, free] at happens

theorem IsSound.reply (sound : IsSound cap conclude urls heard loop asked queued rest) {position : Nat} {answer : ρ}
    (happens : loop.step? (.reply position answer) = some next) :
    (∃ asked' queued' rest', IsSound cap conclude urls (heard ++ [(position, answer)]) next asked' queued' rest') ∧
      next.weight < loop.weight := by
  obtain ⟨task, found, happens⟩ := Option.map_eq_some_iff.mp happens
  have member := List.mem_of_find?_eq_some found
  obtain rfl : task.1 = position := by simpa using List.find?_some found
  obtain ⟨url, among, concludes⟩ := sound.asking task member
  -- Whatever the answer is, the task gives its slot back and has a result.
  simp only [concludes, resume] at happens
  subst happens
  have fewer : (loop.asking.eraseP fun other => other.1 == task.1).length + 1 = loop.asking.length :=
    List.length_eraseP_add_one member (by simp)
  have positions : (loop.asking.eraseP fun other => other.1 == task.1).map Prod.fst =
      (loop.asking.map Prod.fst).erase task.1 := by
    rw [List.erase_eq_eraseP', List.eraseP_map]
    rfl
  refine ⟨⟨asked, queued, rest, ?_⟩, ?_⟩
  · exact {
      split := sound.split
      pending := sound.pending
      line := sound.line
      requested := sound.requested
      balance := by
        have balance := sound.balance
        simp only
        omega
      asking := fun other still => sound.asking other (List.mem_of_mem_eraseP still)
      ended := List.rel_append sound.ended (.cons ⟨rfl, url, among, rfl⟩ .nil)
      slots := by
        obtain ⟨slots, reached, waiting, active, started, finished⟩ := sound.slots
        have under : task.1 ∈ slots.active := active ▸ List.mem_map_of_mem member
        refine ⟨_, reached.finish (Slots.finish?_eq_some_iff.mpr ⟨under, rfl⟩), waiting, ?_, started, ?_⟩
        · simp only [active, positions]
        · simp only [finished, List.map_append, List.map_singleton] }
  · simp only [weight]
    omega

/-- Whatever happens, all this goes on to hold, and less can happen after it. -/
theorem IsSound.step (sound : IsSound cap conclude urls heard loop asked queued rest) {happening : Happening ρ}
    (happens : loop.step? happening = some next) :
    (∃ asked' queued' rest',
        IsSound cap conclude urls (heard ++ [happening].filterMap Happening.answer?) next asked' queued' rest') ∧
      next.weight < loop.weight := by
  simp only [List.filterMap_cons, List.filterMap_nil]
  cases happening with
  | begin => simpa only [Happening.answer?, List.append_nil] using sound.begin happens
  | wake => simpa only [Happening.answer?, List.append_nil] using sound.wake happens
  | reply position answer => exact sound.reply happens

theorem IsSound.run (sound : IsSound cap conclude urls heard loop asked queued rest) {happenings : List (Happening ρ)}
    (happen : loop.run? happenings = some next) :
    (∃ asked' queued' rest',
        IsSound cap conclude urls (heard ++ happenings.filterMap Happening.answer?) next asked' queued' rest') ∧
      next.weight + happenings.length ≤ loop.weight := by
  -- The tasks that have asked, wait or have not begun are other ones after each step, so that they all vary.
  induction happenings generalizing loop heard asked queued rest with
  | nil =>
    obtain rfl := Option.some.inj happen
    exact ⟨⟨asked, queued, rest, (List.append_nil heard).symm ▸ sound⟩, Nat.le_refl _⟩
  | cons first others ih =>
    obtain ⟨between, happens, later⟩ := Option.bind_eq_some_iff.mp happen
    obtain ⟨⟨asked', queued', rest', sound'⟩, lighter⟩ := sound.step happens
    obtain ⟨sound'', less⟩ := ih sound' later
    rw [List.append_assoc, ← List.filterMap_append] at sound''
    refine ⟨sound'', ?_⟩
    rw [List.length_cons]
    omega

end Loop

/-! ### What holds of every schedule -/

/-- What holds after anything that can happen to tasks that share slots. -/
structure SharesSlots (cap : Nat) (conclude : String → ρ → α) (urls : List String) (happened : List (Happening ρ))
    (loop : Loop ρ α) : Prop where
  /-- Each slot is free or holds one request that is under way. -/
  balance : loop.free + loop.asking.length = cap
  /-- The addresses are asked for in order, each once. -/
  order : loop.requested <+: urls
  /-- What was asked for is under way or has come to an end, and nothing does so twice. -/
  asked : loop.asking.length + loop.ended.length = loop.requested.length
  once : (loop.asking.map Prod.fst ++ loop.ended.map Prod.fst).Nodup
  /-- A task has a result just if its request was answered, and the result is that of its own address and answer. -/
  results : ∀ position result, (position, result) ∈ loop.ended ↔ ∃ url answer, urls[position]? = some url ∧
    Happening.reply position answer ∈ happened ∧ result = conclude url answer
  /-- As long as a task has no result, a request can be answered, or a task can go on by itself. -/
  goes_on : 0 < cap → loop.ended.length < urls.length →
    (∃ task ∈ loop.asking, ∀ answer, (loop.step? (.reply task.1 answer)).isSome = true) ∨
      (loop.step? .wake).isSome = true ∨ (loop.step? .begin).isSome = true
  /-- No more can happen than that each task begins, gets a slot and is answered. -/
  short : happened.length ≤ 3 * urls.length
  /-- When all tasks have results, all slots are free, everything was asked for, and the results are in place. -/
  atEnd : loop.ended.length = urls.length → loop.free = cap ∧ loop.requested = urls ∧
    (loop.gathered urls.length).length = urls.length ∧
    ∀ position url, urls[position]? = some url → ∃ answer, Happening.reply position answer ∈ happened ∧
      (loop.gathered urls.length)[position]? = some (conclude url answer)
  /-- The tasks have started and come to an end as requests do in a line for the slots. -/
  slots : ∃ slots : Slots, Slots.Reaches (.ofCount cap urls.length) slots ∧
    slots.active = loop.asking.map Prod.fst ∧ slots.started = List.range loop.requested.length ∧
    slots.finished = loop.ended.map Prod.fst ∧ slots.peak ≤ cap

/-- A list by positions, where every position has something. -/
theorem getElem?_filterMap_range {f : Nat → Option α} {count : Nat} (all : ∀ i < count, (f i).isSome = true) :
    ((List.range count).filterMap f).length = count ∧
      ∀ i < count, ((List.range count).filterMap f)[i]? = f i := by
  induction count with
  | zero => exact ⟨rfl, nofun⟩
  | succ count ih =>
    obtain ⟨length, each⟩ := ih fun i less => all i (Nat.lt_succ_of_lt less)
    obtain ⟨last, here⟩ := Option.isSome_iff_exists.mp (all count (Nat.lt_succ_self count))
    -- The last position comes behind all others, which have their values by induction.
    have split : (List.range (count + 1)).filterMap f = (List.range count).filterMap f ++ [last] := by
      rw [List.range_succ, List.filterMap_append, List.filterMap_cons, here, List.filterMap_nil]
    rw [split]
    refine ⟨by rw [List.length_append, length, List.length_singleton], fun i less => ?_⟩
    by_cases end_ : i = count
    · subst end_
      rw [List.getElem?_append_right (by omega), length, Nat.sub_self, here]
      rfl
    · rw [List.getElem?_append_left (by omega), each i (by omega)]

section Sound

variable {cap : Nat} {urls : List String} {heard : List (Nat × ρ)} {loop : Loop ρ α}
  {asked queued rest : List (String × Nat)} (sound : Loop.IsSound cap conclude urls heard loop asked queued rest)
include sound

theorem Loop.IsSound.positions : asked.map Prod.snd ++ (queued ++ rest).map Prod.snd = List.range urls.length := by
  rw [← List.map_append, ← sound.split, List.zipIdx_map_snd, List.range_eq_range']

theorem Loop.IsSound.started : asked.map Prod.snd = List.range loop.requested.length := by
  -- Positions are in order, so that those that have asked are the first ones.
  have whole := congrArg (List.take asked.length) sound.positions
  have short : asked.length ≤ urls.length := by
    have lengths := congrArg List.length sound.positions
    simp only [List.length_append, List.length_map, List.length_range] at lengths
    omega
  rw [List.take_left' (List.length_map ..), List.take_range, Nat.min_eq_left short] at whole
  rw [whole, sound.requested, List.length_map]

/-- What was asked for is what is under way or has come to an end. -/
theorem Loop.IsSound.under_way : (loop.asking.map Prod.fst ++ loop.ended.map Prod.fst).Perm (asked.map Prod.snd) := by
  obtain ⟨slots, reached, -, active, started, finished⟩ := sound.slots
  have perm := reached.isSound.active
  rwa [active, finished, started] at perm

theorem Loop.IsSound.url {url : String} {position : Nat} (among : (url, position) ∈ asked) :
    urls[position]? = some url := by
  have listed : (url, position) ∈ urls.zipIdx := by
    rw [sound.split]
    exact List.mem_append_left _ among
  exact List.mem_zipIdx_iff_getElem?.mp listed

theorem Loop.IsSound.mem_ended_iff {position : Nat} {result : α} :
    (position, result) ∈ loop.ended ↔
      ∃ url answer, urls[position]? = some url ∧ (position, answer) ∈ heard ∧ result = conclude url answer := by
  -- Results and answers stand at the same places of their lists.
  constructor
  · intro member
    obtain ⟨i, bound, here⟩ := List.mem_iff_getElem.mp member
    have both := sound.ended.get bound (sound.ended.length_eq ▸ bound)
    rw [List.get_eq_getElem, here] at both
    obtain ⟨rfl, url, among, concluded⟩ := both
    exact ⟨url, _, sound.url among, List.get_mem _ _, concluded⟩
  · rintro ⟨url, answer, listed, member, rfl⟩
    obtain ⟨i, bound, here⟩ := List.mem_iff_getElem.mp member
    have bound' : i < loop.ended.length := sound.ended.length_eq.symm ▸ bound
    have both := sound.ended.get bound' bound
    rw [List.get_eq_getElem, List.get_eq_getElem, here] at both
    obtain ⟨same, url', among, concluded⟩ := both
    obtain rfl := Option.some.inj ((sound.url among).symm.trans listed)
    have whole : loop.ended[i] = (position, conclude url' answer) := Prod.ext same concluded
    exact whole ▸ List.getElem_mem _

theorem Loop.IsSound.goes_on (something : 0 < cap) (left : loop.ended.length < urls.length) :
    (∃ task ∈ loop.asking, ∀ answer, (loop.step? (.reply task.1 answer)).isSome = true) ∨
      (loop.step? .wake).isSome = true ∨ (loop.step? .begin).isSome = true := by
  -- A request that is under way can be answered. Else a slot is free for the line, or for those that have not begun.
  cases under : loop.asking with
  | cons task others =>
    refine .inl ⟨task, List.mem_cons_self .., fun answer => ?_⟩
    simp [Loop.step?, under]
  | nil =>
    have free : 0 < loop.free := by
      have balance := sound.balance
      rw [under, List.length_nil] at balance
      omega
    cases line : loop.line with
    | cons first others => exact .inr (.inl (by simp [Loop.step?, line, free]))
    | nil =>
      cases pending : loop.pending with
      | cons first others => exact .inr (.inr (by simp [Loop.step?, pending]))
      | nil =>
        -- Nobody waits, so all have asked, and all that have asked have results.
        have none := sound.line.symm.trans line
        have none' := sound.pending.symm.trans pending
        rw [List.map_eq_nil_iff] at none none'
        have perm := sound.under_way.length_eq
        have all := congrArg List.length sound.split
        simp only [under, none, none', List.length_append, List.length_map, List.length_nil, List.length_zipIdx] at perm all
        omega

/-- Once all tasks have results, nothing is under way and each result is found under its position. -/
theorem Loop.IsSound.atEnd (all : loop.ended.length = urls.length) :
    loop.free = cap ∧ loop.requested = urls ∧ (loop.gathered urls.length).length = urls.length ∧
      ∀ position url, urls[position]? = some url → ∃ answer, (position, answer) ∈ heard ∧
        (loop.gathered urls.length)[position]? = some (conclude url answer) := by
  have perm := sound.under_way
  have lengths := perm.length_eq
  have split := congrArg List.length sound.split
  simp only [List.length_append, List.length_map, List.length_zipIdx] at lengths split
  -- There are as many results as tasks, which leaves none to ask, to wait or to begin.
  have idle : loop.asking = [] := List.length_eq_zero_iff.mp (by omega)
  have none : queued ++ rest = [] := List.length_eq_zero_iff.mp (by rw [List.length_append]; omega)
  have asked_all : asked = urls.zipIdx := by rw [sound.split, none, List.append_nil]
  have balance := sound.balance
  rw [idle, List.length_nil, Nat.add_zero] at balance
  have requested : loop.requested = urls := by rw [sound.requested, asked_all, List.zipIdx_map_fst]
  rw [idle, List.map_nil, List.nil_append, sound.started, requested] at perm
  -- Every position is that of some result.
  have found : ∀ position < urls.length, ∃ result,
      (loop.ended.find? fun result => result.1 == position) = some (position, result) := by
    intro position less
    obtain ⟨entry, member, same⟩ := List.mem_map.mp (perm.mem_iff.mpr (List.mem_range.mpr less))
    have some : (loop.ended.find? fun result => result.1 == position).isSome = true :=
      List.find?_isSome.mpr ⟨entry, member, by simp [same]⟩
    obtain ⟨⟨position', result⟩, here⟩ := Option.isSome_iff_exists.mp some
    obtain rfl : position' = position := by simpa using List.find?_some here
    exact ⟨result, here⟩
  have present : ∀ position < urls.length,
      ((loop.ended.find? fun result => result.1 == position).map Prod.snd).isSome = true := by
    intro position less
    obtain ⟨result, here⟩ := found position less
    rw [here]
    rfl
  obtain ⟨length, each⟩ := getElem?_filterMap_range present
  refine ⟨balance, requested, length, fun position url listed => ?_⟩
  have less : position < urls.length := (List.getElem?_eq_some_iff.mp listed).1
  obtain ⟨result, here⟩ := found position less
  obtain ⟨url', answer, listed', answered, rfl⟩ := sound.mem_ended_iff.mp (List.mem_of_find?_eq_some here)
  obtain rfl := Option.some.inj (listed'.symm.trans listed)
  refine ⟨answer, answered, (each position less).trans ?_⟩
  rw [here]
  rfl

end Sound

theorem Happening.mem_answers_iff {happened : List (Happening ρ)} {position : Nat} {answer : ρ} :
    (position, answer) ∈ happened.filterMap Happening.answer? ↔ .reply position answer ∈ happened := by
  rw [List.mem_filterMap]
  constructor
  · rintro ⟨happening, member, same⟩
    cases happening with
    | begin => cases same
    | wake => cases same
    | reply position' answer' =>
      cases same
      exact member
  · exact fun member => ⟨_, member, rfl⟩

/-- Tasks that only ask while they have a slot, and give it back with any answer, share the slots in every schedule. -/
theorem run_sharesSlots (cap : Nat) (conclude : String → ρ → α) {urls : List String} {happened : List (Happening ρ)}
    {loop : Loop ρ α}
    (reached : (Loop.ofUrls cap (fun url => .enter (.withSlot conclude url)) urls).run? happened = some loop) :
    SharesSlots cap conclude urls happened loop := by
  obtain ⟨⟨asked, queued, rest, sound⟩, less⟩ := (Loop.ofUrls_isSound cap conclude urls).run reached
  rw [List.nil_append] at sound
  obtain ⟨slots, moves, -, active, started, finished⟩ := sound.slots
  have perm := sound.under_way
  exact {
    balance := sound.balance
    order := by
      refine ⟨(queued ++ rest).map Prod.fst, ?_⟩
      rw [sound.requested, ← List.map_append, ← sound.split, List.zipIdx_map_fst]
    asked := by
      have lengths := perm.length_eq
      simp only [List.length_append, List.length_map] at lengths
      rw [lengths, sound.requested, List.length_map]
    once := perm.nodup_iff.mpr (sound.started ▸ List.nodup_range)
    results := fun position result => by
      rw [sound.mem_ended_iff]
      simp only [Happening.mem_answers_iff]
    goes_on := sound.goes_on
    short := by
      have weight : (Loop.ofUrls cap (fun url => .enter (.withSlot conclude url)) urls).weight = 3 * urls.length := by
        simp [Loop.ofUrls, Loop.weight]
      omega
    atEnd := fun all => by simpa only [Happening.mem_answers_iff] using sound.atEnd all
    slots := ⟨slots, moves, active, started.trans sound.started, finished, moves.isSound.room.2⟩ }

end Invariant

/-! ### Fetches -/

section Fetches

variable {ε β : Type}

/-- For every number of slots, all addresses, whatever is read of a response, and whatever comes of the requests in
whatever order: fetches share the slots. If all that comes is what a web answers, their results are those of the web. -/
theorem fetches_share_slots (cap : Nat) (read : Response → Except FetchFault β) {urls : List String}
    {happened : List (Happening (Answer ε))} {loop : Loop (Answer ε) (Except (ε ⊕ FetchFault) β)}
    (reached : (Loop.ofUrls cap (reading read) urls).run? happened = some loop) :
    SharesSlots cap (readAnswer read) urls happened loop ∧
      ∀ web : Web, (∀ position url answer, urls[position]? = some url → .reply position answer ∈ happened →
          answer = .reply (web url)) →
        loop.ended.length = urls.length →
          loop.gathered urls.length = urls.map fun url => (fetch web url >>= read).mapError .inr := by
  have shares : SharesSlots cap (readAnswer read) urls happened loop := run_sharesSlots cap (readAnswer read) reached
  refine ⟨shares, fun web answers all => ?_⟩
  -- Position by position, the result is that of the address there, and so is what the web answers.
  obtain ⟨-, -, length, each⟩ := shares.atEnd all
  refine List.ext_getElem? fun position => ?_
  rw [List.getElem?_map]
  cases listed : urls[position]? with
  | none =>
    rw [List.getElem?_eq_none_iff] at listed
    exact List.getElem?_eq_none_iff.mpr (length.symm ▸ listed)
  | some url =>
    obtain ⟨answer, answered, here⟩ := each position url listed
    rw [here, answers position url answer listed answered, readAnswer_reply]
    rfl

def halfWeb : Web := fun url =>
  if url = "https://gone" then .broken "ConnectError" "All connection attempts failed" else .response {}

/-- Two fetches with one slot: the second one waits until the first one has failed. -/
def halfSchedule : List (Happening (Answer Unit)) :=
  [.begin, .begin, .reply 0 (.reply (halfWeb "https://gone")), .wake, .reply 1 (.reply (halfWeb "https://here"))]

/-- The slot of a fetch that failed goes to the next one in line, and each failure and text is in its place. -/
theorem half_schedule_ends :
    (∃ loop, (Loop.ofUrls 1 (reading textOf) ["https://gone", "https://here"]).run? (halfSchedule.take 2) = some loop ∧
        loop.free = 0 ∧ loop.requested = ["https://gone"] ∧ (loop.step? .wake).isNone = true) ∧
      ∃ loop, (Loop.ofUrls 1 (reading textOf) ["https://gone", "https://here"]).run? halfSchedule = some loop ∧
        SharesSlots 1 (readAnswer textOf) ["https://gone", "https://here"] halfSchedule loop ∧ loop.free = 1 ∧
        loop.gathered 2 = ["https://gone", "https://here"].map fun url => (fetchText halfWeb url).mapError .inr := by
  refine ⟨⟨_, rfl, rfl, rfl, rfl⟩, _, rfl, ?_⟩
  obtain ⟨shares, inPlace⟩ := @fetches_share_slots Unit _ 1 textOf ["https://gone", "https://here"] halfSchedule _ rfl
  refine ⟨shares, rfl, ?_⟩
  simp only [fetchText_eq]
  refine inPlace halfWeb (fun position url answer listed member => ?_) rfl
  -- The two replies of the schedule are those of the web at the two addresses.
  simp only [halfSchedule, List.mem_cons, reduceCtorEq, Happening.reply.injEq, false_or, List.not_mem_nil, or_false] at member
  rcases member with ⟨rfl, rfl⟩ | ⟨rfl, rfl⟩
  · cases listed
    rfl
  · cases listed
    rfl

end Fetches

end Bindery.Network
