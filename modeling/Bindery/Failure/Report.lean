import Bindery.Failure

/-!
# Reports

A failure can be reported by hand, with arguments of any kind. A report keeps the arguments as they
are given, and its message shows them in the words of `Failure.message`. Arguments that carry nothing
are not shown.
-/
namespace Bindery

open Bindery.Data (Datum)

/-- An argument of a report. -/
inductive Reported where
  | value (value : Datum)
  /-- What caused a failure, by its text. -/
  | cause (text : String)
  deriving Repr, Inhabited

namespace Reported

/-- The text of an argument. -/
def text : Reported → String
  | value d => d.display
  | cause s => s

def datum : Reported → Datum
  | value d => d
  | cause s => .text s

/-- Is an argument shown? A cause is, even one without a text. -/
def isShown : Reported → Bool
  | value d => !d.isVoid
  | cause _ => true

/-- The text of an argument that is shown. -/
def shown? (argument : Reported) : Option String :=
  if argument.isShown then some argument.text else none

end Reported

/-- A failure as it is reported. -/
structure Report where
  kind : FailureKind
  message : Datum
  /-- Arguments after the message that have no meaning. -/
  further : List Datum := []
  fields : List (String × Datum) := []
  deriving Repr

/-- Why there is no report. -/
inductive ReportFault where
  /-- There are too many or too few arguments, or one of a kind that means nothing there. -/
  | wrongArguments
  /-- The verb of an operation is no text. -/
  | notText
  deriving DecidableEq, Repr

namespace FailureKind

/-- The names of the arguments that can be given by place, and of those given by name only. -/
def parameters : FailureKind → List String × List String
  | any | schema => (["message"], [])
  | discovery => (["sources"], [])
  | documentLoad => (["source", "cause"], [])
  | generation => (["message", "context", "cause"], [])
  | endpoint => (["method_name", "method", "path", "reason"], [])
  | configuration => (["message", "config_path", "field"], [])
  | output => (["output_path", "cause"], [])
  | unsupported => (["feature", "suggestion"], [])
  | missingArgument => (["parameter", "method_name"], [])
  | api => (["message"], ["status_code", "response", "errors"])

def required : FailureKind → List String
  | discovery => []
  | missingArgument => ["parameter", "method_name"]
  | api => ["message", "status_code"]
  | kind => kind.parameters.1.take 1

/-- Can there be more arguments by place than have a meaning? -/
def takesMore (kind : FailureKind) : Bool := kind = any || kind = schema

end FailureKind

namespace Report

def named? (kind : FailureKind) (placed : List Reported) (named : List (String × Reported)) :
    Option (List (String × Reported)) :=
  let (places, others) := kind.parameters
  let free := places.drop placed.length ++ others
  let given := places.zip placed ++ named
  let known := named.all fun (name, _) => free.contains name
  let complete := kind.required.all fun name => (given.lookup name).isSome
  let fits := placed.length ≤ places.length || kind.takesMore
  if known && complete && fits then some given else none

/-- A message with a text after it; a list takes its characters as items. -/
def extend (message : Datum) (text : String) : Except ReportFault Datum :=
  match message with
  | .text start => .ok (.text (start ++ text))
  | .list items => .ok (.list (items ++ text.toList.map fun c => .text (String.ofList [c])))
  | _ => .error .wrongArguments

/-- The names of sources: a text stands for its characters. -/
def sourceNames : Datum → Except ReportFault (List String)
  | .text names => .ok (names.toList.map fun c => String.ofList [c])
  | .object members => .ok (members.map Prod.fst)
  | .list names => names.mapM fun name =>
      match name with
      | .text name => .ok name
      | _ => .error .wrongArguments
  | _ => .error .wrongArguments

/-- A list that may be left out. -/
def listed (value : Datum) : Datum := if value.isVoid then .list [] else value

/-- The verb of an operation, where the path is shown too. -/
def shownVerb (verb path : Reported) : Except ReportFault (Option String) :=
  if !verb.isShown || !path.isShown then .ok none
  else match verb.datum with
    | .text verb => .ok (some verb)
    | _ => .error .notText

/-- The message of a report, from its arguments by their names. -/
def messageOf (kind : FailureKind) (argument : String → Reported) : Except ReportFault Datum := do
  let message := argument "message"
  let text (name : String) := (argument name).text
  let shown (name : String) := (argument name).shown?
  match kind with
  | .any | .schema | .api => return message.datum
  | .discovery =>
    let sources := listed (argument "sources").datum
    return .text (Failure.discovery (← sourceNames sources)).message
  | .documentLoad => return .text (Failure.documentLoad (text "source") (shown "cause")).message
  | .generation =>
    match shown "context", shown "cause" with
    | none, none => return message.datum
    | none, some cause => extend message.datum (Failure.causeClause (some cause))
    | context, cause => return .text (Failure.generation message.text context cause).message
  | .endpoint =>
    let verb ← shownVerb (argument "method") (argument "path")
    return .text (Failure.endpoint (text "method_name") verb (shown "path") (shown "reason")).message
  | .configuration =>
    match shown "config_path", shown "field" with
    | none, none => return message.datum
    | none, some field => extend message.datum (Failure.fieldClause (some field))
    | path, field => return .text (Failure.configuration message.text path field).message
  | .output => return .text (Failure.output (text "output_path") (shown "cause")).message
  | .unsupported => return .text (Failure.unsupported (text "feature") (shown "suggestion")).message
  | .missingArgument =>
    return .text (Failure.missingArgument (text "parameter") (text "method_name")).message

/-- The fields of a report besides its message, from its arguments by their names. -/
def fieldsOf (kind : FailureKind) (argument : String → Reported) : List (String × Datum) :=
  let (places, others) := kind.parameters
  let own := (places ++ others).filter (· ≠ "message")
  let fields := own.map fun name =>
    let value := (argument name).datum
    (name, if name = "sources" || name = "errors" then listed value else value)
  -- What is generated for an endpoint has a context and a cause, which are not given.
  if kind = .endpoint then fields ++ [("context", .null), ("cause", .null)] else fields

/-- A report of a kind, with arguments by place and by name. -/
def ofArguments (kind : FailureKind) (placed : List Reported) (named : List (String × Reported)) :
    Except ReportFault Report :=
  match named? kind placed named with
  | none => .error .wrongArguments
  | some given => do
    let argument (name : String) : Reported := (given.lookup name).getD (.value .null)
    let further := (placed.drop kind.parameters.1.length).map Reported.datum
    return ⟨kind, ← messageOf kind argument, further, fieldsOf kind argument⟩

/-- The text of a report: its message, or what it is made of if there is more than that. -/
def text (report : Report) : String :=
  if report.further.isEmpty then report.message.display
  else
    let all := String.intercalate ", " ((report.message :: report.further).map fun value =>
      String.ofList value.written)
    "(" ++ all ++ ")"

end Report

end Bindery
