import Bindery.Data.Toml.Document
import Bindery.Data.Yaml.Value
import Bindery.Settings.Sources

/-!
# Loading settings

Settings come from a file that is named, or else from a settings file in the working directory, or
from a table of the project file there. The environment sets what the file leaves open.
-/
namespace Bindery.Settings

open Bindery.Data (Datum)
open Bindery.Files (FilePath FileTree Refusal)

/-- Why a settings file is not read. -/
inductive ContentsFault where
  | noText
  | json (fault : Data.Json.Fault)
  | yaml (fault : Data.Yaml.Fault)
  deriving DecidableEq, Repr

/-- Faults that break off the reading of a file without a word about the file. -/
def ContentsFault.isBare : ContentsFault → Bool
  | .json .tooDeep => true
  | .yaml fault =>
    match fault with
    | .unknownName _ | .emptyNumber | .formlessMoment | .mappedMoment | .hugeCode
    | .tooManyGroups | .tooDeep =>
      true
    | _ => false
  | _ => false

/-- Why there are no settings. -/
inductive LoadFault where
  /-- A failure that is reported in words; wrong fields are listed. -/
  | failure (message : String) (path : Option String) (faults : Option (List Schema.Fault))
  /-- A field has a key that is no text. -/
  | foreignKey
  /-- A field has a key that is reserved. -/
  | reservedKey
  /-- One of the sources of settings is not read. -/
  | source (fault : VariableFault)
  /-- The system refuses to read the project file. -/
  | refused (refusal : Refusal)
  /-- The project file is no text. -/
  | undecodable
  | project (fault : Data.Toml.Fault)
  /-- A settings file is read up to a value that breaks off the reading. -/
  | contents (fault : ContentsFault)
  /-- The tools of the project file are no table. -/
  | toolsNotTable (tools : Datum)
  deriving Repr

def LoadFault.failure? : LoadFault → Option Failure
  | failure message path _ => some (.configuration message path none)
  | _ => none

/-- The files that hold settings, the first one first. -/
def settingsFiles : List String := ["rbxapi.yaml", "rbxapi.yml"]

def projectFile : String := "pyproject.toml"

/-- What a settings file holds. -/
structure Contents where
  value : Datum
  hasTextKeys : Bool := true

/-- How deep the values of settings are looked at. -/
def settingsDepth : Nat := 4

/-- Read a settings file: JSON by its name, and YAML otherwise, where a void document is an empty
mapping. -/
def contents? (path : FilePath) (bytes : List UInt8) : Except ContentsFault Contents :=
  match textOf? bytes with
  | none => .error .noText
  | some text =>
    if Text.lower path.extension = ".json" then
      match Data.Json.read text with
      | .ok value => .ok { value }
      | .error fault => .error (.json fault)
    else
      match Data.Yaml.read settingsDepth text with
      | .ok document =>
        .ok ⟨if document.value.isVoid then .object [] else document.value, document.hasTextKeys⟩
      | .error fault => .error (.yaml fault)

/-- The name of a member that would stand for the settings themselves. -/
def reservedName : String := "__pydantic_self__"

/-- Settings from members of a document and the other sources. -/
def validate (surroundings : Surroundings) (path : Option String) (contents : Contents) :
    Except LoadFault Settings :=
  match contents.value with
  | .object members =>
    if !contents.hasTextKeys then .error .foreignKey
    else if (members.lookup reservedName).isSome then .error .reservedKey
    else match gather surroundings members with
      | .error fault => .error (.source fault)
      | .ok all =>
        match Settings.read all with
        | .valid settings => .ok settings
        | .invalid faults => .error (.failure "Invalid configuration" path (some faults))
  | _ => .error (.failure "Configuration must be a mapping" path none)

/-- Settings from a file, which is called `shown` in messages. -/
def fromFile (surroundings : Surroundings) (path : FilePath) (shown : String) :
    Except LoadFault Settings :=
  match surroundings.files.readFile path with
  | .error refusal =>
    if refusal.kind = .notFound then
      .error (.failure "Configuration file not found" (some shown) none)
    else .error (.failure "Cannot read configuration" (some shown) none)
  | .ok bytes =>
    match contents? path bytes with
    | .ok contents => validate surroundings (some shown) contents
    | .error fault =>
      if fault.isBare then .error (.contents fault)
      else .error (.failure "Cannot read configuration" (some shown) none)

/-- A file of the working directory, as it is called in messages. -/
def shownPath (surroundings : Surroundings) (name : String) : String :=
  surroundings.directory ++ "/" ++ name

def occursIn (part : List Char) : List Char → Bool
  | [] => part.isEmpty
  | c :: rest => part.isPrefixOf (c :: rest) || occursIn part rest

/-- The name of the table of settings among the tools of a project. -/
def toolName : String := "rbxapi"

/-- The settings among the tools of a project, if there are any. -/
def ownTable? : Datum → Except LoadFault (Option Datum)
  | .object tools => .ok (tools.lookup toolName)
  | .text tools =>
    if occursIn toolName.toList tools.toList then .error (.toolsNotTable (.text tools)) else .ok none
  | .list tools =>
    if tools.any fun tool => tool.text? = some toolName then .error (.toolsNotTable (.list tools))
    else .ok none
  | tools => .error (.toolsNotTable tools)

/-- The settings in the text of a project file, if there are any. -/
def projectSettings? (text : String) : Except LoadFault (Option Datum) :=
  match Data.Toml.read text with
  | .error fault => .error (.project fault)
  | .ok members =>
    match members.lookup "tool" with
    | none => .ok none
    | some tools => ownTable? tools

/-- Settings from the project file, if it has any. -/
def fromProject? (surroundings : Surroundings) : Except LoadFault (Option Settings) :=
  match surroundings.files.readFile (.ofText projectFile) with
  | .error refusal => .error (.refused refusal)
  | .ok bytes =>
    match textOf? bytes with
    | none => .error .undecodable
    | some text =>
      match projectSettings? text with
      | .error fault => .error fault
      | .ok none => .ok none
      | .ok (some value) =>
        (validate surroundings (some (shownPath surroundings projectFile)) { value }).map
          some

/-- Is there a file of a name in the working directory? -/
def isPresent (surroundings : Surroundings) (name : String) : Bool :=
  match surroundings.files.pathExists (.ofText name) with
  | .ok present => present
  | .error _ => false

def load (surroundings : Surroundings) (path : Option String) : Except LoadFault Settings :=
  match path.filter fun p => !p.isEmpty with
  | some named => fromFile surroundings (.ofText named) named
  | none =>
    match settingsFiles.find? (isPresent surroundings) with
    | some name => fromFile surroundings (.ofText name) (shownPath surroundings name)
    | none =>
      -- Without a file, the environment and the defaults remain.
      let ambient := validate surroundings none { value := .object [] }
      if isPresent surroundings projectFile then
        match fromProject? surroundings with
        | .error fault => .error fault
        | .ok (some settings) => .ok settings
        | .ok none => ambient
      else ambient

end Bindery.Settings
