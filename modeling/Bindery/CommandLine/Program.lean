import Bindery.CommandLine.Arguments
import Bindery.CommandLine.Markup
import Bindery.Generation
import Bindery.Settings.Load

/-!
# The program

A run of the program is a function of its arguments, its surroundings and the web.
-/
namespace Bindery.CommandLine

open Bindery.Data (Datum)
open Bindery.Files (FileTree)
open Bindery.Network (Web)
open Bindery.Settings (ContentsFault LoadFault Surroundings VariableFault)

/-- What comes of a run of the program. -/
structure Outcome where
  exitCode : Nat
  /-- What it prints, one message after the other. -/
  printed : List String := []
  /-- What it says about how it is used. -/
  advice : List String := []
  files : FileTree
  deriving Inhabited

def programName : String := "rbxapi"

def programVersion : String := "0.1.0"

def usage : List String := [
  "Usage: " ++ programName ++ " COMMAND [OPTIONS]",
  "",
  "Generate a typed Python client for the Roblox web APIs",
  "",
  "  generate               Generate the API client package",
  "    -c, --config PATH    Path to configuration file (YAML or JSON)",
  "    -o, --output PATH    Directory to write the package to",
  "    -v, --verbose        Show debug logging",
  "  version                Show the version",
  "  --help                 Show this message"]

/-- What is said of tools that are no table. -/
def toolsMessage : Datum → String
  | .text _ | .brokenText _ => "string indices must be integers, not 'str'"
  | .list _ | .object _ => "list indices must be integers or slices, not str"
  | tools => "argument of type '" ++ tools.kindName ++ "' is not iterable"

/-- What is said of texts that are nested too deeply. -/
def depthMessage : String := "maximum recursion depth exceeded"

/-- What is said of a value that breaks off the reading of a file. -/
def contentsMessage : ContentsFault → String
  | .yaml (.unknownName word) => Text.literal word
  | .yaml .emptyNumber => "string index out of range"
  | .yaml .formlessMoment => "'NoneType' object has no attribute 'groupdict'"
  | .yaml .mappedMoment => "expected string or bytes-like object, got 'list'"
  | .yaml .hugeCode => "Python int too large to convert to C int"
  | .yaml .tooManyGroups => "int too large to convert to float"
  | _ => depthMessage

/-- What is said of a source of settings that is not read. -/
def sourceMessage : VariableFault → String
  | .unreadable _ .tooDeep => depthMessage
  | .unreadable field _ =>
    "error parsing value for field \"" ++ field ++ "\" from source \"EnvSettingsSource\""
  | .undivided _ => "must be str or None, not int"
  | .option _ => "an option of the settings cannot be followed"

def loadMessage : LoadFault → String
  | .failure message path _ => (Failure.configuration message path none).message
  | .foreignKey => "keywords must be strings"
  | .reservedKey => "got multiple values for argument '" ++ Settings.reservedName ++ "'"
  | .source fault => sourceMessage fault
  | .refused refusal => refusal.message
  | .undecodable => "the project file is no text"
  | .project .malformed => "Invalid statement"
  | .project .hugeInteger => "Exceeds the limit (4300 digits) for integer string conversion"
  | .project .tooDeep => depthMessage
  | .contents fault => contentsMessage fault
  | .toolsNotTable tools => toolsMessage tools

/-- What is said of a run that ended early. -/
def interruptionMessage : Interruption → String
  | .failure failure => failure.message
  | .invalidAddress message => message
  | .malformedHeader fault => fault.message
  | .undecodable fault => fault.message
  | .invalidPattern .tooDeep => depthMessage
  | .invalidPattern _ => "the pattern of a source cannot be read"
  | .missingGroup => "no such group"
  | .emptyGroup => "'NoneType' object has no attribute 'replace'"
  | .tooDeep => depthMessage
  | .missingAddress => "expected string or bytes-like object, got 'NoneType'"
  | .emission (.refused path refusal) => (refusalFailure path refusal).message
  | .emission (.unusablePath refusal) => refusal.message
  | .emission .nullCharacter => "source code string cannot contain null bytes"
  | .emission (.illegal module) => illegalMessage module
  | .emission (.unprintable fault) => fault.message

/-- The message of a failed run; one whose tags do not match cannot be shown. -/
def failureLines (message : String) : List String :=
  (plainText? ("[red]An error was detected while building the API:[/red] " ++ message)).toList

/-- What is shown while a package is generated; it may have tags that do not match. -/
def waitingText (output : String) : String :=
  "[progress.description]Generating the API in " ++ output ++ ". Please, wait..."

/-- Generate a package. An output directory given as an argument replaces that of the settings. -/
def runGenerate (surroundings : Surroundings) (web : Web) (config output : Option String) : Outcome :=
  match Settings.load surroundings config with
  | .error fault =>
    { exitCode := 1, printed := failureLines (loadMessage fault), files := surroundings.files }
  | .ok loaded =>
    -- An empty directory counts as none.
    let settings := match output.filter fun o => !o.isEmpty with
      | some directory => { loaded with output := directory }
      | none => loaded
    -- A run that cannot be announced does not begin, and the reason cannot be shown either.
    if (plainText? (waitingText settings.output)).isNone then
      { exitCode := 1, files := surroundings.files }
    else
    let (result, track) := generate web settings surroundings.files
    let progress := track.progress.map Progress.message
    let files := track.workspace.files
    match result with
    | .ok paths =>
      { exitCode := 0
        printed := progress ++
          ["API was successfully built (" ++ toString paths.length ++ " files)."]
        files }
    | .error cause =>
      { exitCode := 1, printed := progress ++ failureLines (interruptionMessage cause), files }

/-- Run the program. Arguments that are not understood give the exit code two. -/
def run (surroundings : Surroundings) (web : Web) (arguments : List String) : Outcome :=
  match Command.ofArguments arguments with
  | .error fault =>
    { exitCode := 2
      advice := if fault = .noCommand then usage else ["Error: " ++ fault.message]
      files := surroundings.files }
  | .ok .help => { exitCode := 0, advice := usage, files := surroundings.files }
  | .ok .version =>
    { exitCode := 0
      printed := [programName ++ " version: " ++ programVersion]
      files := surroundings.files }
  | .ok (.generate config output _) => runGenerate surroundings web config output

end Bindery.CommandLine
