import Bindery.Network.Response
import Bindery.Notice
import Bindery.Package.Emission
import Bindery.Pattern.Reader

/-!
# What ends a run

A run goes on without a page or document that cannot be had, and ends at anything else.
-/
namespace Bindery

inductive Interruption where
  /-- A failure that is reported in words. -/
  | failure (failure : Failure)
  /-- A request was made for something that is no address. -/
  | invalidAddress (message : String)
  /-- A response has something that is no header field. -/
  | malformedHeader (fault : Network.HeaderFault)
  /-- A text cannot be decoded. -/
  | undecodable (fault : Text.DecodingFault)
  /-- A search pattern cannot be read. -/
  | invalidPattern (fault : Pattern.Fault)
  /-- A search pattern has no group. -/
  | missingGroup
  /-- The group of a search pattern took no part in a match where an address is needed. -/
  | emptyGroup
  /-- What a document holds is nested too deeply. -/
  | tooDeep
  /-- An API without an address answered. -/
  | missingAddress
  /-- The writing of the package stopped. -/
  | emission (fault : EmissionFault)
  deriving Repr

/-- A part of a run: a value or what ended it, and the notices on the way. -/
abbrev Run := ExceptT Interruption Noted

namespace Run

def ofExcept {α : Type} (result : Except Interruption α) : Run α := ExceptT.mk (pure result)

/-- A run that ends with a failure, or has notices. -/
def ofFailing {α : Type} (result : Except Failure (Noted α)) : Run α :=
  match result with
  | .ok noted => ExceptT.mk ⟨.ok noted.value, noted.notices⟩
  | .error failure => ofExcept (.error (.failure failure))

/-- Only a notice. -/
def note (notice : Notice) : Run Unit := ExceptT.mk ⟨.ok (), [notice]⟩

def result {α : Type} (run : Run α) : Except Interruption α := (ExceptT.run run).value

def notices {α : Type} (run : Run α) : List Notice := (ExceptT.run run).notices

/-- Tasks that run at the same time. `order` lists their positions as they come to an end; the first
one that is interrupted ends the run. Their values are given in the order of the tasks. -/
def gatherIn {α : Type} (order : List Nat) (tasks : List (Run α)) : Run (List α) :=
  let ended := order.filterMap fun position => tasks[position]?
  let interruption := ended.findSome? fun task =>
    match task.result with
    | .error cause => some cause
    | .ok _ => none
  ExceptT.mk ⟨match interruption with
    | some cause => .error cause
    | none => .ok (tasks.filterMap fun task => task.result.toOption),
    ended.flatMap notices⟩

/-- Tasks that come to an end in the order in which they were started. -/
def gather {α : Type} (tasks : List (Run α)) : Run (List α) :=
  gatherIn (List.range tasks.length) tasks

end Run

end Bindery
