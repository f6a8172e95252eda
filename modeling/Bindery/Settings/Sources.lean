import Bindery.Data.JsonText
import Bindery.Data.VariableFile
import Bindery.Settings.Environment

/-!
# The sources of settings

A field can be set in five places, of which the first one wins: arguments, the members of a document,
the environment, files of variables and directories of secrets. All of them are read, so that a fault
in one shows even if another one sets the field.
-/
namespace Bindery.Settings

open Bindery.Data (Datum insertMember)
open Bindery.Files (Entry FilePath FileTree Place)

/-- What a run is started with. -/
structure Surroundings where
  /-- The name of the working directory. -/
  directory : String
  files : FileTree
  environment : List (String × String) := []

/-- Line breaks of any kind as one character. -/
def normaliseBreaks : List Char → List Char
  | [] => []
  | '\r' :: '\n' :: rest => '\n' :: normaliseBreaks rest
  | '\r' :: rest => '\n' :: normaliseBreaks rest
  | c :: rest => c :: normaliseBreaks rest

def textIn? (charset : Text.Charset) (bytes : List UInt8) : Option String :=
  (charset.decodeStrictly? bytes).map fun text => String.ofList (normaliseBreaks text.toList)

def textOf? (bytes : List UInt8) : Option String := textIn? .utf8 bytes

/-- Members set in two places: the upper ones win, and the lower ones come first. -/
def merge (lower upper : List (String × Datum)) : List (String × Datum) :=
  upper.foldl (fun members (key, value) => insertMember members key value) lower

/-! ## Files of variables -/

def variablesOf (surroundings : Surroundings) (options : Options) (bytes : List UInt8) :
    Except OptionFault (List (String × Option String)) := do
  let charset ← options.charset
  if let some fault := charset.fault? bytes then throw (.decoding fault)
  match textIn? charset bytes with
  | none => throw .undecodable
  | some text => return Data.VariableFile.read surroundings.environment text

/-- The variables of all files that are there; of those that are in several files the last ones
count. -/
def fileVariables (surroundings : Surroundings) (options : Options) (naming : Naming) :
    Except OptionFault Variables := do
  (← options.variableFiles).foldlM (fun earlier value => do
    match ← Options.path value with
    | none => return earlier
    | some path =>
      match ← (surroundings.files.look? path).mapError .refused with
      | some (.file bytes) =>
        let more := naming.namedValues (← variablesOf surroundings options bytes)
        return more.foldl (fun all (name, value) => insertMember all name value) earlier
      | _ => return earlier) []

/-! ## Secrets -/

/-- What a path of secrets leads to, if there is something. -/
def secretPlace? (files : FileTree) (value : Datum) : Except OptionFault (Option (Place × Entry)) := do
  let some path ← Options.path value | return none
  let found ← (files.look? path).mapError .refused
  return do return ((← (files.find path).toOption), (← found))

/-- The directories of secrets that exist. -/
def secretPlaces (surroundings : Surroundings) (options : Options) :
    Except OptionFault (List Place) := do
  let found ← (← options.secretDirectories).mapM (secretPlace? surroundings.files)
  let there := found.filterMap id
  if there.any fun (_, entry) => entry ≠ .directory then throw .unusable
  return there.map Prod.fst

def fileNamed? (files : FileTree) (naming : Naming) (place : Place) (name : String) :
    Option (List UInt8) :=
  let named := files.entries.find? fun entry =>
    entry.1.dropLast = place && entry.1.getLast?.any fun last =>
      last = name || (!naming.caseSensitive && Text.lower last = Text.lower name)
  match named with
  | some (_, .file content) => some content
  | _ => none

/-- The secret that sets a field. In several directories, the last one counts. -/
def secret? (surroundings : Surroundings) (naming : Naming) (places : List Place)
    (field : String) : Except VariableFault (Option Datum) := do
  let name ← (naming.nameFor? field).mapError .option
  match places.reverse.findSome? fun place => fileNamed? surroundings.files naming place name with
  | none => return none
  | some bytes =>
    match textOf? bytes with
    | none => throw (.option .unusable)
    | some written =>
      let text := String.ofList (Text.trimBlanks written.toList)
      if !listFields.contains field then return some (.text text)
      match ← listFromText field text with
      | .null => return none
      | value => return some value

def fromSecrets (surroundings : Surroundings) (options : Options) (naming : Naming) :
    Except VariableFault (List (String × Datum)) := do
  let places ← (secretPlaces surroundings options).mapError .option
  if places.isEmpty then return []
  let found ← fields.mapM fun field => do
    return (← secret? surroundings naming places field).map fun value => (field, value)
  return found.filterMap id

/-! ## Arguments -/

/-- What arguments begin with that name a field. -/
def argumentSign : String := "--"

/-- Arguments as names with values: a value stands after an equality sign or is the next argument. -/
def pairArguments : List String → Except OptionFault (List (String × String))
  | [] => .ok []
  | argument :: rest =>
    match argument.splitOn "=" with
    | name :: first :: more => do
      return (name, String.intercalate "=" (first :: more)) :: (← pairArguments rest)
    | _ =>
      match rest with
      | [] => .error .unknownArgument
      | value :: others => do return (argument, value) :: (← pairArguments others)

/-- The word that stands for null among arguments. -/
def nullArgument : String := "null"

/-- A piece of a list among arguments as JSON. -/
def argumentItem (piece : String) : List Char :=
  let text := Text.trimBlanks piece.toList
  let named := ["true", "false", nullArgument].any fun word => word.toList = text
  if named || text.head? = some '"' || (Data.plainFloat text).isSome then text
  else Data.Json.writeText (String.ofList text)

/-- The fields that arguments set. A list is written in one argument, with commas, or in several. -/
def fromArguments (arguments : List String) : Except VariableFault (List (String × Datum)) := do
  let pairs ← (pairArguments arguments).mapError .option
  if pairs.any fun pair => !fields.any fun field => pair.1 = argumentSign ++ field then
    throw (.option .unknownArgument)
  let found ← fields.mapM fun field => do
    let own := pairs.filter fun pair => pair.1 = argumentSign ++ field
    match own.getLast? with
    | none => return none
    | some (_, value) =>
      if !listFields.contains field then
        return some (field, if value = nullArgument then .null else .text value)
      let items := own.flatMap fun pair => (pair.2.splitOn ",").map argumentItem
      let list := '[' :: List.intercalate [','] items ++ [']']
      return some (field, ← listFromText field (String.ofList list))
  return found.filterMap id

/-! ## All sources -/

/-- All that is set, by the members of a document and elsewhere. Faults of options that must be known
before anything is looked up come first, and then those of the sources, the upper ones first. -/
def gather (surroundings : Surroundings) (members : List (String × Datum)) :
    Except VariableFault (List (String × Datum)) := do
  let (options, own) := Options.split members
  if ← options.replacesSources.mapError .option then return []
  let naming ← options.naming.mapError .option
  let files ← (fileVariables surroundings options naming).mapError .option
  let arguments ← options.arguments.mapError .option
  let argued ← fromArguments arguments
  let ambient := naming.namedValues (surroundings.environment.map fun (name, value) => (name, some value))
  let fromEnvironment ← naming.fromVariables ambient
  let fromFiles ← naming.fromVariables files
  let further := (naming.unusedVariables files).filter fun member =>
    (fromFiles.lookup member.1).isNone
  let secrets ← fromSecrets surroundings options naming
  return [fromFiles ++ further, fromEnvironment, own, argued].foldl merge secrets

end Bindery.Settings
