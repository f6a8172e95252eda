/-!
# Seats

Guests come one after another, and each takes the first free seat that suits.
-/
namespace Bindery.Path

variable {α β : Type}

/-- Give a guest the first free seat that suits. -/
def seat? (suits : α → Bool) (guest : β) : List (α × Option β) → Option (List (α × Option β))
  | [] => none
  | (place, some other) :: rest => (seat? suits guest rest).map ((place, some other) :: ·)
  | (place, none) :: rest =>
    if suits place then some ((place, some guest) :: rest)
    else (seat? suits guest rest).map ((place, none) :: ·)

/-- Give seats to guests, one after another. -/
def seatAll? (suits : β → α → Bool) : List β → List (α × Option β) → Option (List (α × Option β))
  | [], seats => some seats
  | guest :: rest, seats => (seat? (suits guest) guest seats).bind (seatAll? suits rest)

/-- A guest takes a free seat that suits, and all other seats stay as they are. -/
theorem seat?_eq_some {suits : α → Bool} {guest : β} {seats result : List (α × Option β)}
    (seated : seat? suits guest seats = some result) :
    ∃ before place after, seats = before ++ (place, none) :: after ∧ suits place = true ∧
      result = before ++ (place, some guest) :: after := by
  induction seats generalizing result with
  | nil => cases seated
  | cons seat rest ih =>
    obtain ⟨place, taken⟩ := seat
    -- Whether the first seat is taken or does not suit, it stays as it is and the guest goes on.
    have further : ∀ {others}, seat? suits guest rest = some others →
        result = (place, taken) :: others → ∃ before place' after,
          (place, taken) :: rest = before ++ (place', none) :: after ∧ suits place' = true ∧
            result = before ++ (place', some guest) :: after := by
      intro others later same
      obtain ⟨before, place', after, rfl, suitable, rfl⟩ := ih later
      exact ⟨(place, taken) :: before, place', after, rfl, suitable, same⟩
    cases taken with
    | some other =>
      obtain ⟨others, later, same⟩ := Option.map_eq_some_iff.mp seated
      exact further later same.symm
    | none =>
      rw [seat?] at seated
      split at seated
      next suitable =>
        cases seated
        exact ⟨[], place, rest, rfl, suitable, rfl⟩
      next =>
        obtain ⟨others, later, same⟩ := Option.map_eq_some_iff.mp seated
        exact further later same.symm

theorem seat?_places {suits : α → Bool} {guest : β} {seats result : List (α × Option β)}
    (seated : seat? suits guest seats = some result) : result.map Prod.fst = seats.map Prod.fst := by
  obtain ⟨before, place, after, rfl, -, rfl⟩ := seat?_eq_some seated
  simp

/-- Who has a seat keeps it. -/
theorem seat?_taken {suits : α → Bool} {guest : β} {seats result : List (α × Option β)}
    (seated : seat? suits guest seats = some result) (place : α) (other : β) :
    (place, some other) ∈ seats → (place, some other) ∈ result := by
  obtain ⟨before, free, after, rfl, -, rfl⟩ := seat?_eq_some seated
  intro member
  have kept : (place, some other) ∈ before ∨ (place, some other) ∈ after := by simpa using member
  rcases kept with early | late
  · exact List.mem_append_left _ early
  · exact List.mem_append_right _ (List.mem_cons_of_mem _ late)

theorem seatAll?_places {suits : β → α → Bool} {guests : List β} {seats result : List (α × Option β)}
    (seated : seatAll? suits guests seats = some result) : result.map Prod.fst = seats.map Prod.fst := by
  induction guests generalizing seats with
  | nil =>
    cases seated
    rfl
  | cons guest rest ih =>
    obtain ⟨next, first, others⟩ := Option.bind_eq_some_iff.mp seated
    exact (ih others).trans (seat?_places first)

theorem seatAll?_taken {suits : β → α → Bool} {guests : List β} {seats result : List (α × Option β)}
    (seated : seatAll? suits guests seats = some result) {place : α} {other : β}
    (taken : (place, some other) ∈ seats) : (place, some other) ∈ result := by
  induction guests generalizing seats with
  | nil =>
    cases seated
    exact taken
  | cons guest rest ih =>
    obtain ⟨next, first, others⟩ := Option.bind_eq_some_iff.mp seated
    exact ih others (seat?_taken first place other taken)

theorem seatAll?_guest {suits : β → α → Bool} {guests : List β} {seats result : List (α × Option β)}
    (seated : seatAll? suits guests seats = some result) {guest : β} (member : guest ∈ guests) :
    ∃ place, (place, some guest) ∈ result := by
  induction guests generalizing seats with
  | nil => cases member
  | cons first rest ih =>
    obtain ⟨next, here, others⟩ := Option.bind_eq_some_iff.mp seated
    -- The first guest keeps the seat while the others are served.
    rcases List.mem_cons.mp member with rfl | later
    · obtain ⟨before, place, after, -, -, rfl⟩ := seat?_eq_some here
      exact ⟨place, seatAll?_taken others (by simp)⟩
    · exact ih others later

theorem seatAll?_known {suits : β → α → Bool} {guests : List β} {seats result : List (α × Option β)}
    (seated : seatAll? suits guests seats = some result) {place : α} {other : β}
    (taken : (place, some other) ∈ result) : (place, some other) ∈ seats ∨ other ∈ guests := by
  induction guests generalizing seats with
  | nil =>
    cases seated
    exact .inl taken
  | cons guest rest ih =>
    obtain ⟨next, here, others⟩ := Option.bind_eq_some_iff.mp seated
    -- A seat taken after the first guest was served belongs to that guest, to an earlier one, or to one that came
    -- later.
    rcases ih others with now | later
    · obtain ⟨before, free, after, rfl, -, rfl⟩ := seat?_eq_some here
      rcases List.mem_append.mp now with early | late
      · exact .inl (List.mem_append_left _ early)
      · rcases List.mem_cons.mp late with new | old
        · cases new
          exact .inr (List.mem_cons_self ..)
        · exact .inl (List.mem_append_right _ (List.mem_cons_of_mem _ old))
    · exact .inr (List.mem_cons_of_mem _ later)

/-! ### Other names for seats and guests -/

section Rename

variable {α' β' : Type} (place : α → α') (name : β → β')

/-- A seat under another name, with its guest under another name. -/
def renameSeat (seat : α × Option β) : α' × Option β' := (place seat.1, seat.2.map name)

theorem seat?_map {suits : α → Bool} {suits' : α' → Bool} (same : ∀ a, suits' (place a) = suits a)
    (guest : β) (seats : List (α × Option β)) :
    seat? suits' (name guest) (seats.map (renameSeat place name)) =
      (seat? suits guest seats).map (List.map (renameSeat place name)) := by
  induction seats with
  | nil => rfl
  | cons seat rest ih =>
    obtain ⟨a, taken⟩ := seat
    cases taken with
    | some other =>
      simp only [List.map_cons, renameSeat, Option.map_some, seat?, ih, Option.map_map]
      rfl
    | none =>
      simp only [List.map_cons, renameSeat, Option.map_none, seat?, same]
      split
      next => rfl
      next =>
        simp only [ih, Option.map_map]
        rfl

theorem seatAll?_map {suits : β → α → Bool} {suits' : β' → α' → Bool} {guests : List β}
    (same : ∀ guest ∈ guests, ∀ a, suits' (name guest) (place a) = suits guest a)
    (seats : List (α × Option β)) :
    seatAll? suits' (guests.map name) (seats.map (renameSeat place name)) =
      (seatAll? suits guests seats).map (List.map (renameSeat place name)) := by
  induction guests generalizing seats with
  | nil => rfl
  | cons guest rest ih =>
    have first := same guest (List.mem_cons_self ..)
    have others := fun other member => same other (List.mem_cons_of_mem guest member)
    simp only [List.map_cons, seatAll?, seat?_map place name first]
    cases seat? (suits guest) guest seats with
    | none => rfl
    | some next => exact ih others next

end Rename

end Bindery.Path
