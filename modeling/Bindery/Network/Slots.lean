/-!
# Request slots

Requests wait in a line for one of a number of slots. Two moves change the state: the first request
in line starts if a slot is free, and a request that is under way finishes and gives its slot back.
-/
namespace Bindery.Network

/-- Requests by their position in the list of requests. -/
structure Slots where
  /-- The number of slots. -/
  cap : Nat
  /-- Requests in line, the next one first. -/
  waiting : List Nat
  /-- Requests under way, the oldest first. -/
  active : List Nat := []
  /-- Requests that were started, in order. -/
  started : List Nat := []
  /-- Requests that came to an end, in order. -/
  finished : List Nat := []
  /-- The most requests that were under way at once. -/
  peak : Nat := 0
  deriving DecidableEq, Repr

namespace Slots

/-- All requests in line. -/
def ofCount (cap count : Nat) : Slots := { cap, waiting := List.range count }

def free (slots : Slots) : Nat := slots.cap - slots.active.length

/-- Start the first request in line, if a slot is free. -/
def start? (slots : Slots) : Option Slots :=
  match slots.waiting with
  | [] => none
  | request :: rest =>
    if slots.active.length < slots.cap then
      some { slots with
        waiting := rest
        active := slots.active ++ [request]
        started := slots.started ++ [request]
        peak := max slots.peak (slots.active.length + 1) }
    else none

/-- A request that is under way comes to an end. -/
def finish? (slots : Slots) (request : Nat) : Option Slots :=
  if slots.active.contains request then
    some { slots with
      active := slots.active.erase request
      finished := slots.finished ++ [request] }
  else none

/-- Start a request if that is possible, and else finish the oldest one. -/
def advance? (slots : Slots) : Option Slots :=
  match slots.start? with
  | some next => some next
  | none => slots.active.head?.bind slots.finish?

/-- Go on for a number of moves, or until none is left. -/
def advanceBy : Nat → Slots → Slots
  | 0, slots => slots
  | moves + 1, slots =>
    match slots.advance? with
    | some next => advanceBy moves next
    | none => slots

/-- Serve all requests: each takes two moves. -/
def serve (cap count : Nat) : Slots := advanceBy (2 * count) (ofCount cap count)

end Slots

end Bindery.Network
