import Bindery.Data.Yaml.Node

/-!
# The values of YAML documents

Every node gets one value, so that aliases share it. A collection is made empty first and filled
later, after the collections that were made before it; a document whose nodes contain themselves
therefore has values all the same, and they are read out down to some depth. Which of several faults
is found follows from that order.
-/
namespace Bindery.Data.Yaml

/-- The value of a node, with other nodes for the values in it. -/
inductive Value where
  | scalar (value : Datum)
  | list (items : List NodeId)
  | mapping (entries : List (Datum × NodeId))
  | set (keys : List Datum)
  | pairs (entries : List (NodeId × NodeId))
  deriving Inhabited, Repr

/-- Values under construction. -/
structure Construction where
  graph : Graph
  values : Array (Option Value)
  /-- The collections made so far, in order. -/
  collections : Array NodeId := #[]

def Construction.value? (s : Construction) (id : NodeId) : Option Value := s.values.getD id none

abbrev Build := StateT Construction (Except Fault)

namespace Build

def setValue (id : NodeId) (value : Value) : Build Unit :=
  modify fun s => { s with values := s.values.setIfInBounds id (some value) }

/-! ## Merged mappings -/

def pairsOf (node : Node) : List (NodeId × NodeId) :=
  match node.content with
  | .mapping pairs => pairs
  | _ => []

def setPairs (id : NodeId) (pairs : List (NodeId × NodeId)) : Build Unit :=
  modify fun s =>
    { s with graph := s.graph.set id { s.graph.node id with content := .mapping pairs } }

/-- The keys that stand for the value of a mapping are texts from now on. -/
def settleKeys (pairs : List (NodeId × NodeId)) : Build Unit :=
  modify fun s =>
    { s with graph := pairs.foldl (fun graph pair =>
        let key := graph.node pair.1
        if key.kind = .value then graph.set pair.1 { key with kind := .text } else graph) s.graph }

/-- Take out the first pair of a mapping whose key merges another mapping, and give its value. -/
def takeMerge? (id : NodeId) : Build (Option NodeId) := do
  let graph := (← get).graph
  let pairs := pairsOf (graph.node id)
  let isOwn (pair : NodeId × NodeId) := (graph.node pair.1).kind ≠ .merge
  match pairs.dropWhile isOwn with
  | [] => return none
  | merge :: rest =>
    setPairs id (pairs.takeWhile isOwn ++ rest)
    return some merge.2

/-- Put the pairs that the merge keys of a mapping name before its own pairs. In a list of mappings
the earlier ones come last, so that they win. Every round takes out one merge key for good, also where
mappings name each other. -/
def flatten : Nat → NodeId → List (NodeId × NodeId) → Build Unit
  | 0, _, _ => throw .malformed
  | fuel + 1, id, merged => do
    match ← takeMerge? id with
    | none =>
      let own := pairsOf ((← get).graph.node id)
      settleKeys own
      setPairs id (merged ++ own)
    | some source =>
      -- The pairs of a mapping once its own merge keys are gone.
      let flat (mapping : NodeId) : Build (List (NodeId × NodeId)) := do
        match ((← get).graph.node mapping).content with
        | .mapping _ =>
          flatten fuel mapping []
          return pairsOf ((← get).graph.node mapping)
        | _ => throw .malformed
      let more ← match ((← get).graph.node source).content with
        | .sequence items => pure (← items.mapM flat).reverse.flatten
        | _ => flat source
      flatten fuel id (merged ++ more)

/-! ## Scalars -/

/-- The text of a scalar. For a mapping, the value of its key for that stands in. -/
def scalarText (graph : Graph) : Nat → NodeId → Except Fault String
  | 0, _ => .error .tooDeep
  | fuel + 1, id =>
    match (graph.node id).content with
    | .scalar text | .brokenScalar text => .ok text
    | .sequence _ => .error .invalidScalar
    | .mapping pairs =>
      match pairs.find? fun pair => (graph.node pair.1).kind = .value with
      | some pair => scalarText graph fuel pair.2
      | none => .error .invalidScalar

/-- The value of a node that is no collection. -/
def scalarOf (graph : Graph) (id : NodeId) : Except Fault Datum := do
  let node := graph.node id
  if [Kind.merge, .value, .unknown].contains node.kind then throw .unknownTag
  let text ← scalarText graph (graph.size + 1) id
  match node.kind, node.content with
  | .moment, .mapping _ => throw .mappedMoment
  | .text, .brokenScalar text => return .brokenText text
  | kind, _ => scalarValue kind text

/-! ## Collections -/

/-- A collection before it is filled. -/
def emptyValue? : Kind → Option Value
  | .list => some (.list [])
  | .mapping => some (.mapping [])
  | .set => some (.set [])
  | .orderedPairs | .pairs => some (.pairs [])
  | _ => none

/-- Make the value of a node, if it is not there yet. -/
def make (id : NodeId) : Build Unit := do
  let s ← get
  if (s.value? id).isSome then return
  match emptyValue? (s.graph.node id).kind with
  | some empty =>
    setValue id empty
    modify fun s => { s with collections := s.collections.push id }
  | none =>
    match scalarOf s.graph id with
    | .ok value => setValue id (.scalar value)
    | .error fault => throw fault

/-- Are two keys the same? Numbers are compared by value, whatever they are written as. -/
def isSameKey (a b : Datum) : Bool :=
  -- true and one, and one and its double, are one key; what is not a number is none
  let number : Datum → Option Number.Binary64 ⊕ Int
    | .bool value => .inr (if value then 1 else 0)
    | .int value => .inr value
    | .float value => match value.toInt? with
      | some whole => .inr whole
      | none => .inl (some value)
    | _ => .inl none
  match a, b with
  | .null, .null => true
  | .text s, .text t => s = t
  | .brokenText s, .brokenText t => s = t
  | .moment s, .moment t => s = t
  | .binary s, .binary t => s = t
  | _, _ =>
    match number a, number b with
    | .inr m, .inr n => m = n
    | .inl (some x), .inl (some y) => x = y
    | _, _ => false

/-- Set the value of a key; an old one keeps its place. -/
def addEntry (key : Datum) (value : NodeId) : List (Datum × NodeId) → List (Datum × NodeId)
  | [] => [(key, value)]
  | entry :: rest =>
    if isSameKey entry.1 key then (entry.1, value) :: rest else entry :: addEntry key value rest

/-- The entries of a mapping. Collections cannot be keys. -/
def entriesOf (id : NodeId) : Build (List (Datum × NodeId)) := do
  let graph := (← get).graph
  flatten (graph.nodes.foldl (fun n node => n + (pairsOf node).length) 1) id []
  (pairsOf ((← get).graph.node id)).foldlM (fun entries pair => do
    make pair.1
    match (← get).value? pair.1 with
    | some (.scalar key) =>
      make pair.2
      return addEntry key pair.2 entries
    | _ => throw .compoundKey) []

/-- A mapping with one pair, as that pair. -/
def pairOf (id : NodeId) : Build (NodeId × NodeId) := do
  match ((← get).graph.node id).content with
  | .mapping [pair] =>
    make pair.1
    make pair.2
    return pair
  | _ => throw .invalidScalar

def fill (id : NodeId) : Build Unit := do
  let node := (← get).graph.node id
  match node.kind, node.content with
  | .list, .sequence items =>
    items.forM make
    setValue id (.list items)
  | .mapping, .mapping _ => setValue id (.mapping (← entriesOf id))
  | .set, .mapping _ => setValue id (.set ((← entriesOf id).map Prod.fst))
  | .orderedPairs, .sequence items | .pairs, .sequence items =>
    setValue id (.pairs (← items.mapM pairOf))
  | _, _ => throw .invalidScalar

/-- Fill the collections from one on, in the order in which they were made; every node is made once,
so that their number is bounded. -/
def fillFrom : Nat → Nat → Build Unit
  | 0, _ => return
  | fuel + 1, position => do
    match (← get).collections[position]? with
    | none => return
    | some id =>
      fill id
      fillFrom fuel (position + 1)

/-- Make the value of a node and all that is in it. -/
def makeAll (root : NodeId) : Build Unit := do
  make root
  fillFrom ((← get).graph.size + 1) 0

end Build

/-! ## Documents -/

/-- The value of a node down to a depth; collections that lie deeper are left empty. A key that is no
text has no place in an object. -/
def Construction.datum (s : Construction) : Nat → NodeId → Datum
  | 0, id =>
    match s.value? id with
    | some (.scalar value) => value
    | some (.mapping _) => .object []
    | _ => .list []
  | depth + 1, id =>
    match s.value? id with
    | some (.scalar value) => value
    | some (.list items) => .list (items.map (s.datum depth))
    | some (.mapping entries) => .object (entries.filterMap fun entry =>
        entry.1.text?.map fun key => (key, s.datum depth entry.2))
    | some (.set keys) => .list keys
    | some (.pairs entries) => .list (entries.map fun entry =>
        .list [s.datum depth entry.1, s.datum depth entry.2])
    | none => .null

/-- What a document holds. -/
structure Document where
  value : Datum
  /-- Are all keys of the outermost mapping texts? -/
  hasTextKeys : Bool := true
  deriving Repr, Inhabited

/-- Read a text down to a depth; without a document it holds nothing. -/
def read (depth : Nat) (text : String) : Except Fault Document := do
  match ← document? text with
  | none => return { value := .null }
  | some (graph, root) =>
    let ((), s) ← (Build.makeAll root).run { graph, values := .replicate graph.size none }
    let hasTextKeys := match s.value? root with
      | some (.mapping entries) => entries.all fun entry => entry.1.text?.isSome
      | _ => true
    return { value := s.datum depth root, hasTextKeys }

end Bindery.Data.Yaml
