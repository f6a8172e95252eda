import Bindery.Schema.Checked

/-!
# Schema nodes

A schema node describes a value in place or refers to a definition by name. Following a reference
takes one step only: a definition that is a reference itself describes nothing.
-/
namespace Bindery.Schema

open Bindery.Data (Datum)

/-- A schema, in place or by reference. -/
inductive Node where
  | reference (target : String)
  | inline (type description : Option String) (properties : List (String × Node))
      (items : Option Node) (enum : Option (List Datum))
  deriving Inhabited, Repr

/-- A schema given in place. -/
structure Description where
  type : Option String := none
  description : Option String := none
  properties : List (String × Node) := []
  items : Option Node := none
  enum : Option (List Datum) := none
  deriving Inhabited, Repr

/-- The named schemas of a document, in document order. -/
abbrev Definitions := List (String × Node)

/-- What a node says in place. -/
def Node.described? : Node → Option Description
  | .reference _ => none
  | .inline type description properties items enum => some ⟨type, description, properties, items, enum⟩

/-- The start of the references to definitions. -/
def definitionPrefix : List Char := "#/definitions/".toList

/-- The name after the start of a reference, up to the end of the line. -/
def definitionName? (target : String) : Option String :=
  if definitionPrefix.isPrefixOf target.toList then
    match (target.toList.drop definitionPrefix.length).takeWhile (· ≠ '\n') with
    | [] => none
    | name => some (String.ofList name)
  else none

/-- The definition that a reference names, if it describes something in place. -/
def definition? (definitions : Definitions) (target : String) : Option Description := do
  let name ← definitionName? target
  let node ← definitions.lookup name
  node.described?

/-- The way into a node: its form comes after the field that holds it. -/
def referenceStep : Step := .key "ref"

def inlineStep : Step := .key "inline"

/-- A field that may be absent or null. -/
def optionalField {α : Type} (key : String) (read : Datum → Checked α)
    (members : List (String × Datum)) : Checked (Option α) :=
  fieldOr [key] (.valid none) (orNull read) members

/-- How deep nodes may be nested. -/
def nodeDepth : Nat := 254

mutual

/-- Read a node: an object with a `$ref` is a reference, all else is in place. There is room for nodes
of so many levels. -/
def readNodeIn (room : Nat) : Datum → Checked Node
  | .object members =>
    if members.any (·.1 = "$ref") then
      (if room = 0 then Checked.fail .tooDeep
        else Node.reference <$> required "$ref" readText members).within referenceStep
    else
      (if room = 0 then Checked.fail .tooDeep
        else Node.inline <$> optionalField "type" readText members
          <*> optionalField "description" readText members
          <*> propertiesField (room - 1) members
          <*> itemsField (room - 1) members
          <*> optionalField "enum" readList members).within inlineStep
  | _ => (Checked.fail (if room = 0 then .tooDeep else .notRecord)).within inlineStep

def propertiesField (room : Nat) : List (String × Datum) → Checked (List (String × Node))
  | [] => .valid []
  | (key, value) :: rest =>
    if key = "properties" then (readPropertiesIn room value).within (.key key)
    else propertiesField room rest

/-- A mapping of names to nodes. -/
def readPropertiesIn (room : Nat) : Datum → Checked (List (String × Node))
  | .object members => readNodesIn room members
  | _ => .fail .notMapping

def readNodesIn (room : Nat) : List (String × Datum) → Checked (List (String × Node))
  | [] => .valid []
  | (key, value) :: rest =>
    (fun first others => (key, first) :: others) <$> (readNodeIn room value).within (.key key) <*>
      readNodesIn room rest

def itemsField (room : Nat) : List (String × Datum) → Checked (Option Node)
  | [] => .valid none
  | (key, value) :: rest =>
    if key = "items" then
      match value with
      | .null => .valid none
      | node => (some <$> readNodeIn room node).within (.key key)
    else itemsField room rest

end

/-- Read a node that no other node is around. -/
def readNode (value : Datum) : Checked Node := readNodeIn nodeDepth value

/-- Read a mapping of names to nodes that no other node is around. -/
def readProperties (value : Datum) : Checked (List (String × Node)) := readPropertiesIn nodeDepth value

end Bindery.Schema
