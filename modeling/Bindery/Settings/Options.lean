import Bindery.Data.Datum
import Bindery.Files.Tree
import Bindery.Text.Charset

/-!
# How settings are looked up

Settings can be set by variables and by secrets. Among the members of a document of settings, those
with certain names are no settings themselves, but tell how variables and secrets are found. Null is
the same as leaving one out. What an option holds is looked at only when it is used.
-/
namespace Bindery.Settings

open Bindery.Data (Datum)
open Bindery.Files (FilePath Refusal)
open Bindery.Text (Charset)

/-- Why an option cannot be followed. -/
inductive OptionFault where
  /-- A value is of a kind that means nothing here. -/
  | wrongKind
  /-- A value is of the right kind, but of no use. -/
  | unusable
  /-- A list has too many or too few items. -/
  | wrongCount
  | unknownCharset
  /-- A file is no text in the charset that the options name. -/
  | undecodable
  /-- The charset cannot decode a file at all. -/
  | decoding (fault : Text.DecodingFault)
  /-- There is no such user to have a home directory. -/
  | unknownUser
  /-- There is no such argument. -/
  | unknownArgument
  /-- The system refuses to look for a file. -/
  | refused (refusal : Refusal)
  deriving DecidableEq, Repr

/-- The names of all options; some of them change nothing here. -/
def optionNames : List String := [
  "_case_sensitive", "_nested_model_default_partial_update", "_env_prefix", "_env_prefix_target",
  "_env_file", "_env_file_encoding", "_env_ignore_empty", "_env_nested_delimiter",
  "_env_nested_max_split", "_env_parse_none_str", "_env_parse_enums", "_cli_prog_name",
  "_cli_parse_args", "_cli_settings_source", "_cli_parse_none_str", "_cli_hide_none_type",
  "_cli_avoid_json", "_cli_enforce_required", "_cli_use_class_docs_for_groups",
  "_cli_exit_on_error", "_cli_prefix", "_cli_flag_prefix_char", "_cli_implicit_flags",
  "_cli_ignore_unknown_args", "_cli_kebab_case", "_cli_shortcuts", "_secrets_dir",
  "_build_sources"]

/-- The options that are given, with their values. -/
structure Options where
  given : List (String × Datum) := []
  deriving Repr, Inhabited

namespace Options

/-- The options among some members, and the other members. -/
def split (members : List (String × Datum)) : Options × List (String × Datum) :=
  let (given, others) := members.partition fun member => optionNames.contains member.1
  (⟨given⟩, others)

def get? (options : Options) (name : String) : Option Datum :=
  match options.given.lookup name with
  | none | some .null => none
  | some value => some value

def isOn (options : Options) (name : String) : Bool := (options.get? name).any fun value => !value.isVoid

end Options

/-! ## Names of variables -/

/-- What parts the name of a field from the name of something in it. -/
structure Separator where
  text : String
  /-- Can names be divided at it? -/
  divides : Bool
  deriving DecidableEq, Repr

/-- What the names of variables begin with, if nothing else is said. -/
def usualStart : String := "RBXAPI_"

/-- How variables are named, and what their values mean. -/
structure Naming where
  /-- Is there a difference between capital and small letters? -/
  caseSensitive : Bool := false
  /-- What the names of variables begin with, if that is a text. -/
  start : Option String := some usualStart
  /-- Do empty values count as not set? -/
  ignoresEmpty : Bool := false
  /-- The value that stands for null. -/
  nullText : Option String := none
  separator : Option Separator := none
  deriving DecidableEq, Repr

namespace Naming

/-- A name as it is compared with others. -/
def fold (naming : Naming) (name : String) : String :=
  if naming.caseSensitive then name else Text.lower name

def nameFor? (naming : Naming) (field : String) : Except OptionFault String :=
  match naming.start with
  | some start => .ok (naming.fold (start ++ field))
  | none => .error .unusable

end Naming

namespace Options

def hasLength : Datum → Bool
  | .text _ | .list _ | .object _ | .binary _ => true
  | _ => false

/-- What names begin with; the target of that may be something else than the names of fields. -/
def start (options : Options) : Except OptionFault (Option String) :=
  let target := options.get? "_env_prefix_target"
  let applies := match target.bind Datum.text? with
    | some name => name = "variable" || name = "all"
    | none => target.isNone
  match options.get? "_env_prefix" with
  | none => .ok (if applies then ({} : Naming).start else some "")
  | some value =>
    if !hasLength value then .error .wrongKind
    else if applies then .ok value.text?
    else .ok (some "")

/-- How often a name can be divided, if that is a number. -/
def countOfDivisions (options : Options) : Except OptionFault Bool :=
  match options.get? "_env_nested_max_split" with
  | none | some (.int _) | some (.bool _) => .ok true
  | some (.float value) => .ok value.isZero
  | some value => if value.isVoid then .ok true else .error .wrongKind

def separator (options : Options) : Except OptionFault (Option Separator) := do
  let countable ← options.countOfDivisions
  match (options.get? "_env_nested_delimiter").filter fun value => !value.isVoid with
  | none => return none
  | some value => return some ⟨value.display, value.text?.isSome && countable⟩

/-- How variables are named, as far as that can be told before one is looked up. -/
def naming (options : Options) : Except OptionFault Naming := do
  return {
    caseSensitive := options.isOn "_case_sensitive"
    start := ← options.start
    ignoresEmpty := options.isOn "_env_ignore_empty"
    nullText := (options.get? "_env_parse_none_str").bind Datum.text?
    separator := ← options.separator }

/-! ## Files and directories -/

/-- A path, if its value is one. There is nothing of use in a home directory. -/
def path (value : Datum) : Except OptionFault (Option FilePath) :=
  match value with
  | .text written =>
    let path := FilePath.ofText written
    let user := if path.absolute then "" else path.segments.headD ""
    if user = "~" then .ok none
    else if user.startsWith "~" then .error .unknownUser
    else .ok (some path)
  | _ => .error .wrongKind

/-- One value, or those of a collection. -/
def values : Datum → Except OptionFault (List Datum)
  | .text written => .ok [.text written]
  | .list items => .ok items
  | .object members => .ok (members.map fun member => .text member.1)
  | .binary bytes => .ok (bytes.map fun byte => .int byte.toNat)
  | _ => .error .wrongKind

/-- The files of variables, as they are given. -/
def variableFiles (options : Options) : Except OptionFault (List Datum) :=
  match options.get? "_env_file" with
  | none => .ok []
  | some value => values value

/-- The directories of secrets, as they are given. -/
def secretDirectories (options : Options) : Except OptionFault (List Datum) :=
  match options.get? "_secrets_dir" with
  | none => .ok []
  | some value => values value

/-- The charset of the files of variables. -/
def charset (options : Options) : Except OptionFault Charset :=
  match (options.get? "_env_file_encoding").filter fun value => !value.isVoid with
  | none => .ok .utf8
  | some (.text name) =>
    match Charset.named? name with
    -- Codes that do not turn bytes into texts do not count.
    | none | some (.unusable .ofBytes) | some (.unusable .ofTexts) => .error .unknownCharset
    | some charset => .ok charset
  | some _ => .error .wrongKind

/-! ## Arguments -/

/-- The arguments that set fields; there may be a mere statement that there are some. -/
def arguments (options : Options) : Except OptionFault (List String) :=
  match options.get? "_cli_parse_args" with
  | none => .ok []
  | some (.list items) => items.mapM fun item =>
      match item with
      | .text argument => .ok argument
      | _ => .error .wrongKind
  | some (.bool _) => .ok []
  | some (.int value) => if value = 0 then .ok [] else .error .unusable
  | some (.float value) => if value.isZero then .ok [] else .error .unusable
  | some _ => .error .unusable

/-- Do the options replace all sources of settings by none? A replacement by other sources cannot be
followed. -/
def replacesSources (options : Options) : Except OptionFault Bool :=
  match options.get? "_build_sources" with
  | none => .ok false
  | some value =>
    match value with
    | .text written =>
      if written.length = 2 then .error .wrongKind else .error .wrongCount
    | _ =>
      match values value with
      | .error fault => .error fault
      | .ok [sources, _] => if sources.isVoid then .ok true else .error .wrongKind
      | .ok _ => .error .wrongCount

end Options

end Bindery.Settings
