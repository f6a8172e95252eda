import Bindery.Schema.Node
import Bindery.Text.LetterCase

/-!
# API documents

The documentation of one API version: its paths with their operations, and its definitions. Only
what generation uses is read, and unknown members are ignored.
-/
namespace Bindery.Schema

open Bindery.Data (Datum)

/-- A documented parameter. -/
structure Parameter where
  name : String
  /-- Where it is sent, as documented. -/
  place : Option String := none
  type : Option String := none
  items : Option Node := none
  schema : Option Node := none
  required : Bool := false
  enum : Option (List Datum) := none
  description : Option String := none
  deriving Inhabited, Repr

/-- What is documented for one verb of a path. -/
structure Operation where
  summary : Option String := none
  description : Option String := none
  deprecated : Bool := false
  parameters : List Parameter := []
  deriving Inhabited, Repr

/-- The documentation of one API version. Verbs are read when they are asked for. -/
structure Document where
  paths : List (String × List (String × Datum)) := []
  definitions : Definitions := []
  deriving Inhabited, Repr

def httpVerbs : List String :=
  ["connect", "delete", "get", "head", "options", "patch", "post", "put", "trace"]

/-- Is a key of a path item a verb? Other keys hold no operation. -/
def isVerb (key : String) : Bool := httpVerbs.contains (Text.lower key)

def readParameter (value : Datum) : Checked Parameter :=
  (readRecord value).andThen fun members =>
    Parameter.mk <$> required "name" readText members
      <*> fieldOr ["in", "in_"] (.valid none) (orNull readText) members
      <*> optionalField "type" readText members
      <*> optionalField "items" readNode members
      <*> fieldOr ["schema", "schema_"] (.valid none) (orNull readNode) members
      <*> fieldOr ["required"] (.valid false) readBool members
      <*> optionalField "enum" readList members
      <*> optionalField "description" readText members

def readOperation (value : Datum) : Checked Operation :=
  (readRecord value).andThen fun members =>
    Operation.mk <$> optionalField "summary" readText members
      <*> optionalField "description" readText members
      <*> fieldOr ["deprecated"] (.valid false) readBool members
      <*> fieldOr ["parameters"] (.valid [])
        (fun value => (readList value).andThen (eachItem readParameter)) members

/-- A mapping of names to nodes, as definitions are. -/
def readDefinitions (value : Datum) : Checked Definitions := readProperties value

def readDocument (value : Datum) : Checked Document :=
  (readRecord value).andThen fun members =>
    Document.mk <$> fieldOr ["paths"] (.valid [])
        (fun value => (readMapping value).andThen (eachMember readMapping)) members
      <*> fieldOr ["definitions"] (.valid []) readDefinitions members

/-- The operations of a path item, in document order; an empty operation documents nothing, and the
first faulty one decides. -/
def readOperations : List (String × Datum) → Checked (List (String × Operation))
  | [] => .valid []
  | (key, value) :: rest =>
    if isVerb key then
      (readOperation (if value.isVoid then .object [] else value)).andThen fun operation =>
        (readOperations rest).map fun others => (key, operation) :: others
    else readOperations rest

/-- The operations of one path, none if the document lacks it. -/
def Document.operations (document : Document) (path : String) :
    Checked (List (String × Operation)) :=
  readOperations ((document.paths.lookup path).getD [])

/-- A document together with the operations of all its paths. -/
structure ParsedDocument where
  operations : List (String × List (String × Operation)) := []
  definitions : Definitions := []
  deriving Inhabited, Repr

/-- The operations of every path; the first path with a fault decides. -/
def readPaths : List (String × List (String × Datum)) →
    Checked (List (String × List (String × Operation)))
  | [] => .valid []
  | (path, item) :: rest =>
    (readOperations item).andThen fun operations =>
      (readPaths rest).map fun others => (path, operations) :: others

def parseDocument (value : Datum) : Checked ParsedDocument :=
  (readDocument value).andThen fun document =>
    (readPaths document.paths).map fun operations => ⟨operations, document.definitions⟩

/-- What is known of one API. -/
structure Metadata where
  identifier : String
  url : String
  name : Option String := none
  description : Option String := none
  versions : List String := []
  /-- Other members of the metadata document. -/
  extra : List (String × Datum) := []
  deriving Inhabited, Repr

def metadataFields : List String := ["identifier", "url", "name", "description", "versions"]

def readMetadata (value : Datum) : Checked Metadata :=
  (readRecord value).andThen fun members =>
    (fun identifier url name description versions =>
      { identifier, url, name, description, versions,
        extra := members.filter fun member => !metadataFields.contains member.1 }) <$>
      required "identifier" readText members
      <*> required "url" readText members
      <*> optionalField "name" readText members
      <*> optionalField "description" readText members
      <*> fieldOr ["versions"] (.valid [])
        (fun value => (readList value).andThen (eachItem readText)) members

/-- The text, unless it is missing or empty. -/
def nonEmpty? (text : Option String) : Option String := text.filter fun s => !s.isEmpty

/-- One line about an API for generated documentation. -/
def Metadata.title (metadata : Metadata) : String :=
  let name := (nonEmpty? metadata.name).getD metadata.identifier
  match nonEmpty? metadata.description with
  | some description => name ++ ": " ++ description
  | none => name

end Bindery.Schema
