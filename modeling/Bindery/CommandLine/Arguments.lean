/-!
# Arguments

The program has commands, and commands have options. Options come with two hyphens or, in a row, as
letters after one hyphen; after two hyphens on their own there are no more options.
-/
namespace Bindery.CommandLine

/-- Why arguments are not understood. -/
inductive UsageFault where
  | noCommand
  | unknownCommand (name : String)
  | unknownOption (option : String)
  | missingValue (option : String)
  /-- A value is given to an option that takes none. -/
  | unexpectedValue (option : String)
  | extraArgument (argument : String)
  deriving DecidableEq, Repr

def UsageFault.message : UsageFault → String
  | noCommand => "Missing command"
  | unknownCommand name => "No such command '" ++ name ++ "'"
  | unknownOption option => "No such option: " ++ option
  | missingValue option => "Option '--" ++ option ++ "' requires an argument"
  | unexpectedValue option => "Option '--" ++ option ++ "' does not take a value"
  | extraArgument argument => "Got unexpected extra argument (" ++ argument ++ ")"

/-- An option that a command has. -/
structure OptionForm where
  name : String
  letter : Option Char := none
  takesValue : Bool := false
  deriving DecidableEq, Repr

/-- An option as given. -/
structure Given where
  name : String
  value : String := ""
  deriving DecidableEq, Repr

def helpOption : OptionForm := { name := "help" }

/-- Options given by letters after one hyphen, and the arguments after them. -/
def takeLetters (forms : List OptionForm) :
    List Char → List String → Except UsageFault (List Given × List String)
  | [], rest => .ok ([], rest)
  | letter :: more, rest =>
    match forms.find? fun form => form.letter = some letter with
    | none => .error (.unknownOption ("-" ++ String.ofList [letter]))
    | some form =>
      if form.takesValue then
        -- The value is what is left of the word, or else the next argument.
        match more, rest with
        | [], [] => .error (.missingValue form.name)
        | [], value :: others => .ok ([⟨form.name, value⟩], others)
        | _, _ => .ok ([⟨form.name, String.ofList more⟩], rest)
      else do
        let (others, after) ← takeLetters forms more rest
        return (⟨form.name, ""⟩ :: others, after)

/-- An option given by its name, and the arguments after it. -/
def takeName (forms : List OptionForm) (word : List Char) (rest : List String) :
    Except UsageFault (List Given × List String) :=
  let name := String.ofList (word.takeWhile (· ≠ '='))
  match forms.find? fun form => form.name = name with
  | none => .error (.unknownOption ("--" ++ name))
  | some form =>
    match form.takesValue, word.dropWhile (· ≠ '='), rest with
    | true, _ :: value, _ => .ok ([⟨name, String.ofList value⟩], rest)
    | true, [], value :: others => .ok ([⟨name, value⟩], others)
    | true, [], [] => .error (.missingValue name)
    | false, [], _ => .ok ([⟨name, ""⟩], rest)
    | false, _ :: _, _ => .error (.unexpectedValue name)

/-- Part options from other arguments. With `early`, the first other argument ends the options. Every
step takes at least one argument. -/
def part (forms : List OptionForm) (early : Bool) :
    Nat → List String → Except UsageFault (List Given × List String)
  | 0, rest => .ok ([], rest)
  | _, [] => .ok ([], [])
  | steps + 1, word :: rest =>
    match word.toList with
    | ['-', '-'] => .ok ([], rest)
    | '-' :: '-' :: name => do
      let (given, after) ← takeName forms name rest
      let (others, arguments) ← part forms early steps after
      return (given ++ others, arguments)
    | '-' :: letter :: more => do
      let (given, after) ← takeLetters forms (letter :: more) rest
      let (others, arguments) ← part forms early steps after
      return (given ++ others, arguments)
    | _ =>
      if early then .ok ([], word :: rest)
      else do
        let (given, arguments) ← part forms early steps rest
        return (given, word :: arguments)

/-- What the program is told to do. -/
inductive Command where
  | help
  | version
  | generate (config output : Option String) (verbose : Bool)
  deriving DecidableEq, Repr

def generateForms : List OptionForm := [
  { name := "config", letter := some 'c', takesValue := true },
  { name := "output", letter := some 'o', takesValue := true },
  { name := "verbose", letter := some 'v' },
  helpOption]

def isGiven (given : List Given) (name : String) : Bool := given.any fun g => g.name = name

/-- The value of an option; of several the last one counts. -/
def valueOf? (given : List Given) (name : String) : Option String :=
  (given.reverse.find? fun g => g.name = name).map Given.value

/-- The options of a command that takes no other arguments; help comes first. -/
def optionsOnly (forms : List OptionForm) (arguments : List String) (make : List Given → Command) :
    Except UsageFault Command := do
  let (given, others) ← part forms false arguments.length arguments
  if isGiven given "help" then return .help
  if let extra :: _ := others then throw (.extraArgument extra)
  return make given

/-- What is made of a name that no command has. It is read as an option once more, since it may stand
behind two hyphens. -/
def Command.ofUnknown (name : String) : Except UsageFault Command := do
  let (given, _) ← part [helpOption] true 1 [name]
  if isGiven given "help" then return .help
  throw (.unknownCommand name)

/-- The command of a name, with the arguments after the name. -/
def Command.ofName (name : String) (arguments : List String) : Except UsageFault Command :=
  if name = "version" then
    optionsOnly [helpOption] arguments fun _ => .version
  else if name = "generate" then
    optionsOnly generateForms arguments fun given =>
      .generate (valueOf? given "config") (valueOf? given "output") (isGiven given "verbose")
  else Command.ofUnknown name

def Command.ofArguments (arguments : List String) : Except UsageFault Command := do
  let (given, rest) ← part [helpOption] true arguments.length arguments
  if isGiven given "help" then return .help
  match rest with
  | [] => .error .noCommand
  | name :: more => Command.ofName name more

end Bindery.CommandLine
