import Bindery.Data.Yaml.Scalar
import Bindery.Data.Yaml.Token

/-!
# The nodes of a YAML text

A document is a graph of scalars, sequences and mappings: an alias is one more way to the node that
has its anchor, and that node may be around the alias. A text holds at most one document.
-/
namespace Bindery.Data.Yaml

/-- The number of a node in its graph. -/
abbrev NodeId := Nat

/-- What a node is made of. -/
inductive Content where
  | scalar (text : String)
  /-- A text with half of a character pair in it. -/
  | brokenScalar (text : String)
  | sequence (items : List NodeId)
  | mapping (pairs : List (NodeId × NodeId))
  deriving Inhabited, Repr

/-- A node with what its tag, or else its form, says that it stands for. -/
structure Node where
  kind : Kind
  content : Content
  deriving Repr

/-- The nodes of a document by their numbers. -/
structure Graph where
  nodes : Array Node := #[]
  deriving Inhabited, Repr

namespace Graph

def node (graph : Graph) (id : NodeId) : Node := graph.nodes.getD id ⟨.null, .scalar ""⟩

/-- Add a node; it gets the next number. -/
def push (graph : Graph) (node : Node) : Graph := ⟨graph.nodes.push node⟩

def size (graph : Graph) : Nat := graph.nodes.size

def set (graph : Graph) (id : NodeId) (node : Node) : Graph := ⟨graph.nodes.setIfInBounds id node⟩

end Graph

def depthLimit : Nat := 490

/-- Tokens under way, with what earlier ones declared. -/
structure Reading where
  tokens : List Token
  graph : Graph := {}
  anchors : List (String × NodeId) := []
  handles : List (String × String) := []
  /-- How many more collections may be opened around each other. -/
  room : Nat := depthLimit

abbrev Read := StateT Reading (Except Fault)

namespace Read

def peek : Read (Option Token) := do return (← get).tokens.head?

def advance : Read Unit := modify fun s => { s with tokens := s.tokens.tail }

def nextIs (signs : List Token) : Read Bool := do
  match (← get).tokens with
  | [] => return false
  | token :: _ => return signs.contains token

def accept (sign : Token) : Read Bool := do
  let found ← nextIs [sign]
  if found then advance
  return found

def expect (sign : Token) : Read Unit := do
  if !(← accept sign) then throw .malformed

/-- The full text of a tag. -/
def resolveTag (handle : Option String) (suffix : String) : Read String := do
  match handle with
  | none => return suffix
  | some h =>
    match (← get).handles.lookup h with
    | some expansion => return expansion ++ suffix
    | none => throw .malformed

/-- The anchor and the tag of a node, in any order. -/
def properties : Read (Option String × Option String) := do
  match ← peek with
  | some (.anchor name) =>
    advance
    match ← peek with
    | some (.tag handle suffix) =>
      advance
      return (some name, some (← resolveTag handle suffix))
    | _ => return (some name, none)
  -- an anchor and a tag come in either order
  | some (.tag handle suffix) =>
    advance
    match ← peek with
    | some (.anchor name) =>
      advance
      return (some name, some (← resolveTag handle suffix))
    | _ => return (none, some (← resolveTag handle suffix))
  | _ => return (none, none)

/-- Add a node, which gets the anchor. -/
def addNode (anchor : Option String) (kind : Kind) (content : Content) : Read NodeId := do
  let id := (← get).graph.size
  modify fun s => { s with
    graph := s.graph.push ⟨kind, content⟩
    anchors := match anchor with
      | some name => (name, id) :: s.anchors
      | none => s.anchors }
  return id

/-- What a tag stands for. A bare exclamation mark says no more than that there is no tag. -/
def kindOr (untagged : Kind) : Option String → Kind
  | none | some "!" => untagged
  | some tag => .ofTag tag

/-- A scalar; with a bare exclamation mark it counts as plain. -/
def addScalar (anchor tag : Option String) (plain : Bool) (text : String) : Read NodeId :=
  let untagged := if plain || tag = some "!" then .ofPlain text else .text
  addNode anchor (kindOr untagged tag) (.scalar text)

/-- What stands where a node is left out. -/
def missing : Read NodeId := addNode none .null (.scalar "")

/-- A collection. It has its number before its content is read, so that its content can refer to it. -/
def addCollection (anchor : Option String) (kind : Kind) (empty : Content) (read : Read Content) :
    Read NodeId := do
  let id ← addNode anchor kind empty
  let room := (← get).room
  if room = 0 then throw .tooDeep
  modify fun s => { s with room := room - 1 }
  let content ← read
  modify fun s => { s with room, graph := s.graph.set id ⟨kind, content⟩ }
  return id

def addSequence (anchor tag : Option String) (items : Read (List NodeId)) : Read NodeId :=
  addCollection anchor (kindOr .list tag) (.sequence []) (.sequence <$> items)

def addMapping (anchor tag : Option String) (pairs : Read (List (NodeId × NodeId))) : Read NodeId :=
  addCollection anchor (kindOr .mapping tag) (.mapping []) (.mapping <$> pairs)

mutual

/-- A node. Collections given by indentation are allowed only with `block`, and lists that are not
indented only with `bare`. -/
def node : Nat → Bool → Bool → Read NodeId
  | 0, _, _ => throw .malformed
  | fuel + 1, block, bare => do
    match ← peek with
    | some (.aliasOf name) =>
      advance
      match (← get).anchors.lookup name with
      | some found => return found
      | none => throw .undefinedAlias
    | _ =>
      let (anchor, tag) ← properties
      let known := (← get).anchors
      if anchor.any fun name => (known.lookup name).isSome then throw .repeatedAnchor
      content fuel block bare anchor tag

/-- What follows the anchor and the tag of a node. -/
def content : Nat → Bool → Bool → Option String → Option String → Read NodeId
  | 0, _, _, _, _ => throw .malformed
  | fuel + 1, block, bare, anchor, tag => do
    -- A node with an anchor or a tag may be left out.
    let leftOut := if anchor.isSome || tag.isSome then addScalar anchor tag true ""
      else throw .malformed
    match ← peek with
    | some (.scalar text plain) =>
      advance
      addScalar anchor tag plain text
    | some (.brokenScalar text) =>
      advance
      addNode anchor (kindOr .text tag) (.brokenScalar text)
    | some .flowSequenceStart =>
      advance
      addSequence anchor tag (flowItems fuel true)
    | some .flowMappingStart =>
      advance
      addMapping anchor tag (flowPairs fuel true)
    -- No sign opens a list that is not indented: its first dash is all there is.
    | some .dash => if bare then addSequence anchor tag (bareItems fuel) else leftOut
    | some .sequenceStart =>
      if block then
        advance
        addSequence anchor tag (blockItems fuel)
      else leftOut
    | some .mappingStart =>
      if block then
        advance
        addMapping anchor tag (blockPairs fuel)
      else leftOut
    | _ => leftOut

/-- A node, unless one of some signs shows that it is left out. -/
def nodeUnless : Nat → List Token → Bool → Bool → Read NodeId
  | 0, _, _, _ => throw .malformed
  | fuel + 1, signs, block, bare => do
    if ← nextIs signs then missing else node fuel block bare

def blockItems : Nat → Read (List NodeId)
  | 0 => throw .malformed
  | fuel + 1 => do
    if ← accept .dash then
      let item ← nodeUnless fuel [.dash, .blockEnd] true false
      return item :: (← blockItems fuel)
    expect .blockEnd
    return []

/-- The items of a list at the column of the mapping around it. -/
def bareItems : Nat → Read (List NodeId)
  | 0 => throw .malformed
  | fuel + 1 => do
    if ← accept .dash then
      let item ← nodeUnless fuel [.dash, .key, .value, .blockEnd] true false
      return item :: (← bareItems fuel)
    return []

def blockPairs : Nat → Read (List (NodeId × NodeId))
  | 0 => throw .malformed
  | fuel + 1 => do
    if ← accept .key then
      let key ← nodeUnless fuel [.key, .value, .blockEnd] true true
      let value ← if ← accept .value then nodeUnless fuel [.key, .value, .blockEnd] true true
        else missing
      return (key, value) :: (← blockPairs fuel)
    expect .blockEnd
    return []

/-- The items of a list in brackets. A pair among them is a mapping of its own. -/
def flowItems : Nat → Bool → Read (List NodeId)
  | 0, _ => throw .malformed
  | fuel + 1, first => do
    if ← accept .flowSequenceEnd then return []
    if !first then expect .comma
    if ← accept .key then
      let item ← addMapping none none do
        let key ← nodeUnless fuel [.value, .comma, .flowSequenceEnd] false false
        let value ← if ← accept .value then nodeUnless fuel [.comma, .flowSequenceEnd] false false
          else missing
        return [(key, value)]
      return item :: (← flowItems fuel false)
    -- A comma may stand before the closing bracket.
    if ← accept .flowSequenceEnd then return []
    let item ← node fuel false false
    return item :: (← flowItems fuel false)

/-- The pairs of a mapping in braces. A node on its own is a key without a value. -/
def flowPairs : Nat → Bool → Read (List (NodeId × NodeId))
  | 0, _ => throw .malformed
  | fuel + 1, first => do
    if ← accept .flowMappingEnd then return []
    if !first then expect .comma
    if ← accept .key then
      let key ← nodeUnless fuel [.value, .comma, .flowMappingEnd] false false
      let value ← if ← accept .value then nodeUnless fuel [.comma, .flowMappingEnd] false false
        else missing
      return (key, value) :: (← flowPairs fuel false)
    -- A comma may stand before the closing brace.
    if ← accept .flowMappingEnd then return []
    let key ← node fuel false false
    let value ← missing
    return (key, value) :: (← flowPairs fuel false)

end

/-- The handles that need no declaration. -/
def standardHandles : List (String × String) := [("!", "!"), ("!!", "tag:yaml.org,2002:")]

/-- The directives before a document. There may be one version, and one meaning of each handle. -/
def directives : Nat → Bool → List (String × String) → Read (List (String × String))
  | 0, _, _ => throw .malformed
  | fuel + 1, versioned, handles => do
    match ← peek with
    | some (.versionDirective major) =>
      if versioned || major ≠ 1 then throw .malformed
      advance
      directives fuel true handles
    | some (.tagDirective handle expansion) =>
      if (handles.lookup handle).isSome then throw .malformed
      advance
      directives fuel versioned ((handle, expansion) :: handles)
    -- directives that nobody knows are skipped
    | some .otherDirective =>
      advance
      directives fuel versioned handles
    | _ => return handles

def skipEnds : Read Unit :=
  modify fun s => { s with tokens := s.tokens.dropWhile (· = .documentEnd) }

def isDirective : Token → Bool
  | .versionDirective _ | .tagDirective .. | .otherDirective => true
  | _ => false

/-- A document that begins with its own sign. -/
def markedDocument (fuel : Nat) : Read NodeId := do
  let handles ← directives fuel false []
  modify fun s => { s with handles := handles ++ standardHandles }
  expect .documentStart
  match ← peek with
  | none | some .documentStart | some .documentEnd => missing
  | some token => if isDirective token then missing else node fuel true false

/-- The document of a text, if there is one. -/
def document (fuel : Nat) : Read (Option NodeId) := do
  match ← peek with
  | none => return none
  | some token =>
    let made ←
      if isDirective token || token = .documentStart then markedDocument fuel
      else
        modify fun s => { s with handles := standardHandles }
        node fuel true false
    skipEnds
    -- Whatever is left belongs to a second document.
    if (← peek).isSome then throw .severalDocuments
    return some made

end Read

/-- The document of a text, if there is one: its nodes, and the number of the outermost. -/
def document? (text : String) : Except Fault (Option (Graph × NodeId)) := do
  let tokens ← tokens text
  let (found, s) ← StateT.run (Read.document (3 * tokens.length + 3)) { tokens }
  return found.map fun id => (s.graph, id)

end Bindery.Data.Yaml
