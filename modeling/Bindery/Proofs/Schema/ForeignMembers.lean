import Bindery.Method.Compile
import Bindery.Proofs.Data.Members

/-!
# Foreign members

Documents may hold members that no field of a record asks for. Whatever is added of them, and wherever, a
document is read in the same way: the same faults are found, or the same operations and definitions.
-/
namespace Bindery.Schema

open Bindery.Data (Datum)

/-! ### Places of a document -/

/-- What a value of a document is read as. -/
inductive Place where
  | document
  | paths
  | pathItem
  | operation
  | parameters
  | parameter
  | nodes
  | node
  /-- What is taken as it is. -/
  | value
  deriving DecidableEq, Repr

def documentKeys : List String := ["paths", "definitions"]

def operationKeys : List String := ["summary", "description", "deprecated", "parameters"]

/-- Two fields of a parameter have a second key. -/
def parameterKeys : List String :=
  ["name", "in", "in_", "type", "items", "schema", "schema_", "required", "enum", "description"]

def referenceKeys : List String := ["$ref", "ref"]

/-- The key of references is among these: it would make another kind of node. -/
def inlineKeys : List String := ["$ref", "type", "description", "properties", "items", "enum"]

/-- Does nothing ask for a key at a place that has these members? -/
def Place.isForeign (place : Place) (members : List (String × Datum)) (key : String) : Bool :=
  match place with
  | document => !documentKeys.contains key
  | pathItem => !isVerb key
  | operation => !operationKeys.contains key
  | parameter => !parameterKeys.contains key
  | node =>
    if members.any (·.1 = "$ref") then !referenceKeys.contains key else !inlineKeys.contains key
  -- Each member of a mapping counts.
  | paths | nodes | parameters | value => false

def Place.below (place : Place) (key : String) : Place :=
  match place with
  | document => if key = "paths" then paths else if key = "definitions" then nodes else value
  | paths => pathItem
  | pathItem => if isVerb key then operation else value
  | operation => if key = "parameters" then parameters else value
  | parameter => if key = "items" ∨ key = "schema" ∨ key = "schema_" then node else value
  | nodes => node
  | node => if key = "properties" then nodes else if key = "items" then node else value
  | parameters | value => value

/-- A member of an object before and after foreign ones are added. -/
inductive Entry where
  | kept (key : String) (before after : Datum)
  | added (key : String) (value : Datum)

def Entry.before? : Entry → Option (String × Datum)
  | kept key before _ => some (key, before)
  | added .. => none

def Entry.after : Entry → String × Datum
  | kept key _ after => (key, after)
  | added key value => (key, value)

def membersBefore (entries : List Entry) : List (String × Datum) := entries.filterMap Entry.before?

def membersAfter (entries : List Entry) : List (String × Datum) := entries.map Entry.after

/-- The second value is the first one with foreign members added, here and further below. -/
inductive Grown : Place → Datum → Datum → Prop where
  | same {place : Place} (value : Datum) : Grown place value value
  | members {place : Place} (entries : List Entry)
      (kept : ∀ key before after, Entry.kept key before after ∈ entries → Grown (place.below key) before after)
      (added : ∀ key value, Entry.added key value ∈ entries →
        place.isForeign (membersBefore entries) key = true) :
      Grown place (.object (membersBefore entries)) (.object (membersAfter entries))
  | items (pairs : List (Datum × Datum)) (each : ∀ pair ∈ pairs, Grown .parameter pair.1 pair.2) :
      Grown .parameters (.list (pairs.map Prod.fst)) (.list (pairs.map Prod.snd))

section Entries

variable {rest : List Entry}

theorem membersBefore_kept (key : String) (before after : Datum) :
    membersBefore (.kept key before after :: rest) = (key, before) :: membersBefore rest := rfl

theorem membersBefore_added (key : String) (value : Datum) :
    membersBefore (.added key value :: rest) = membersBefore rest := rfl

theorem membersAfter_kept (key : String) (before after : Datum) :
    membersAfter (.kept key before after :: rest) = (key, after) :: membersAfter rest := rfl

theorem membersAfter_added (key : String) (value : Datum) :
    membersAfter (.added key value :: rest) = (key, value) :: membersAfter rest := rfl

end Entries

/-! ### Fields -/

section Fields

variable {α β : Type}

/-- A key that was not added has the same member before and after, up to what was added below. -/
theorem lookup_entries {entries : List Entry} {key : String} (asked : ∀ value, Entry.added key value ∉ entries) :
    ((membersBefore entries).lookup key = none ∧ (membersAfter entries).lookup key = none) ∨
      ∃ before after, Entry.kept key before after ∈ entries ∧ (membersBefore entries).lookup key = some before ∧
        (membersAfter entries).lookup key = some after := by
  induction entries with
  | nil => exact .inl ⟨rfl, rfl⟩
  | cons entry rest ih =>
    have later := (ih fun value member => asked value (List.mem_cons_of_mem _ member)).imp_right
      (Exists.imp fun _ => Exists.imp fun _ => And.imp_left (List.mem_cons_of_mem entry))
    cases entry with
    | kept other before after =>
      rw [membersBefore_kept, membersAfter_kept]
      -- A kept member is at the same place among the kept ones as among all.
      by_cases here : key = other
      · subst here
        exact .inr ⟨before, after, List.mem_cons_self .., List.lookup_cons_self, List.lookup_cons_self⟩
      · have apart : (key == other) = false := by simpa using here
        rw [List.lookup_cons, List.lookup_cons, apart]
        exact later
    | added other value =>
      have apart : (key == other) = false := by
        simpa using fun same : key = other => asked value (same ▸ List.mem_cons_self ..)
      rw [membersBefore_added, membersAfter_added, List.lookup_cons, apart]
      exact later

theorem map_fieldOr (keys : List String) (absent : Checked α) (read : Datum → Checked α) (f : α → β)
    (members : List (String × Datum)) :
    (fieldOr keys absent read members).map f =
      fieldOr keys (absent.map f) (fun value => (read value).map f) members := by
  unfold fieldOr
  cases findField keys members with
  | none => rfl
  | some found =>
    dsimp only
    cases read found.2 <;> rfl

/-- What comes to the same was found with the same faults, or else without any. -/
theorem map_eq_map {x y : Checked α} {f : α → β} (same : x.map f = y.map f) :
    (∃ faults, x = .invalid faults ∧ y = .invalid faults) ∨ ∃ a b, x = .valid a ∧ y = .valid b ∧ f a = f b := by
  cases x with
  | valid a =>
    cases y with
    | valid b => exact .inr ⟨a, b, rfl, rfl, Checked.valid.inj same⟩
    | invalid faults => cases same
  | invalid faults =>
    cases y with
    | valid b => cases same
    | invalid others =>
      obtain rfl := Checked.invalid.inj same
      exact .inl ⟨faults, rfl, rfl⟩

end Fields

section Grown

variable {α : Type} {place : Place} {entries : List Entry}
  (added : ∀ key value, Entry.added key value ∈ entries → place.isForeign (membersBefore entries) key = true)
include added

theorem not_added_of_asked {key : String} (asked : place.isForeign (membersBefore entries) key = false) (value : Datum) :
    Entry.added key value ∉ entries := fun member =>
  Bool.false_ne_true (asked.symm.trans (added key value member))

/-- A field is read alike if what is kept under its keys is. -/
theorem fieldOr_grown {keys : List String} {absent : Checked α} {read : Datum → Checked α}
    (asked : ∀ key ∈ keys, place.isForeign (membersBefore entries) key = false)
    (alike : ∀ key ∈ keys, ∀ before after, Entry.kept key before after ∈ entries → read after = read before) :
    fieldOr keys absent read (membersAfter entries) = fieldOr keys absent read (membersBefore entries) := by
  induction keys with
  | nil => rfl
  | cons key rest ih =>
    rw [List.forall_mem_cons] at asked alike
    have later := ih asked.2 alike.2
    unfold fieldOr findField at later ⊢
    rw [List.findSome?_cons, List.findSome?_cons]
    -- A key that is asked for is found before and after, or else the next one is tried.
    obtain ⟨before, after⟩ | ⟨first, second, member, before, after⟩ :=
      lookup_entries (not_added_of_asked added asked.1)
    · rw [before, after]
      exact later
    · rw [before, after]
      exact congrArg (Checked.within (.key key)) (alike.1 first second member)

end Grown

/-! ### Values and nodes -/

/-- Nothing is foreign in what is taken as it is. -/
theorem Grown.eq_of_value {place : Place} {before after : Datum} (grown : Grown place before after)
    (whole : place = .value) : after = before := by
  induction grown with
  | same value => rfl
  | @members place entries kept added ih =>
    subst whole
    -- Nothing was added here, and what is kept is the same by induction.
    have none (key : String) (value : Datum) : Entry.added key value ∉ entries := not_added_of_asked added rfl value
    refine congrArg Datum.object ?_
    clear kept added
    induction entries with
    | nil => rfl
    | cons entry rest later =>
      have others := later (fun key before after member => ih key before after (List.mem_cons_of_mem _ member))
        fun key value member => none key value (List.mem_cons_of_mem _ member)
      cases entry with
      | kept key before after =>
        rw [membersAfter_kept, membersBefore_kept, others, ih key before after (List.mem_cons_self ..) rfl]
      | added key value => exact absurd (List.mem_cons_self ..) (none key value)
  | items pairs each ih => cases whole

theorem orNull_grown {α : Type} {place : Place} {before after : Datum} {read : Datum → Checked α}
    (grown : Grown place before after) (alike : read after = read before) :
    orNull read after = orNull read before := by
  cases grown with
  | same value => rfl
  | members entries kept added => exact congrArg (Checked.map some) alike
  | items pairs each => exact congrArg (Checked.map some) alike

/-- A field is found in the first member, or else in the rest. -/
theorem fieldOr_cons {α : Type} (key : String) (value : Datum) (rest : List (String × Datum)) (name : String)
    (absent : Checked α) (read : Datum → Checked α) : fieldOr [name] absent read ((key, value) :: rest) =
      if key = name then (read value).within (.key key) else fieldOr [name] absent read rest := by
  by_cases here : key = name
  · subst here
    simp [fieldOr, findField]
  · have apart : (name == key) = false := by simpa using Ne.symm here
    simp [fieldOr, findField, List.lookup_cons, apart, here]

theorem propertiesField_eq (room : Nat) (members : List (String × Datum)) :
    propertiesField room members = fieldOr ["properties"] (.valid []) (readPropertiesIn room) members := by
  induction members with
  | nil => rw [propertiesField]; rfl
  | cons member rest ih =>
    obtain ⟨key, value⟩ := member
    rw [propertiesField, ih, fieldOr_cons]

theorem itemsField_eq (room : Nat) (members : List (String × Datum)) :
    itemsField room members = fieldOr ["items"] (.valid none) (orNull (readNodeIn room)) members := by
  have mapped (value : Datum) : some <$> readNodeIn room value = (readNodeIn room value).map some := by
    cases readNodeIn room value <;> rfl
  induction members with
  | nil => rw [itemsField]; rfl
  | cons member rest ih =>
    obtain ⟨key, value⟩ := member
    cases value with
    | null => rw [itemsField, ih, fieldOr_cons]; rfl
    | _ => rw [itemsField, ih, fieldOr_cons, mapped]; rfl; exact nofun

/-- Nodes are read alike if what is kept of them is. -/
theorem readNodeIn_grown {entries : List Entry} {room : Nat}
    (added : ∀ key value, Entry.added key value ∈ entries → Place.node.isForeign (membersBefore entries) key = true)
    (texts : ∀ key ∈ ["$ref", "type", "description", "enum"], ∀ before after,
      Entry.kept key before after ∈ entries → after = before)
    (properties : ∀ before after, Entry.kept "properties" before after ∈ entries →
      ∀ room, readPropertiesIn room after = readPropertiesIn room before)
    (items : ∀ before after, Entry.kept "items" before after ∈ entries → ∀ room,
      orNull (readNodeIn room) after = orNull (readNodeIn room) before) :
    readNodeIn room (.object (membersAfter entries)) = readNodeIn room (.object (membersBefore entries)) := by
  have plain {α : Type} {absent : Checked α} {read : Datum → Checked α} {key : String}
      (known : key ∈ ["$ref", "type", "description", "enum"])
      (asked : Place.node.isForeign (membersBefore entries) key = false) :
      fieldOr [key] absent read (membersAfter entries) = fieldOr [key] absent read (membersBefore entries) := by
    refine fieldOr_grown added (List.forall_mem_singleton.mpr asked) (List.forall_mem_singleton.mpr ?_)
    exact fun before after member => congrArg read (texts key known before after member)
  -- The key of references decides on the kind of node, so both kinds ask for it.
  have refers : (membersAfter entries).any (·.1 = "$ref") = (membersBefore entries).any (·.1 = "$ref") := by
    have asked : Place.node.isForeign (membersBefore entries) "$ref" = false := by
      simp only [Place.isForeign]
      split <;> decide
    rw [Data.any_key_iff, Data.any_key_iff]
    obtain ⟨before, after⟩ | ⟨_, _, -, before, after⟩ := lookup_entries (not_added_of_asked added asked)
    · rw [before, after]
    · rw [before, after]
      rfl
  rw [readNodeIn, readNodeIn, refers]
  -- A reference asks for one field, and every other node for five.
  by_cases reference : (membersBefore entries).any (·.1 = "$ref") = true
  · have asked : Place.node.isForeign (membersBefore entries) "$ref" = false := by
      rw [Place.isForeign, if_pos reference]
      decide
    rw [if_pos reference, if_pos reference, required, required, plain (by decide) asked]
  · have asked : ∀ key ∈ inlineKeys, Place.node.isForeign (membersBefore entries) key = false := by
      simp only [Place.isForeign, if_neg reference]
      decide
    rw [if_neg reference, if_neg reference, propertiesField_eq, propertiesField_eq, itemsField_eq, itemsField_eq,
      optionalField, optionalField, optionalField, optionalField, optionalField, optionalField,
      plain (by decide) (asked "type" (by decide)), plain (by decide) (asked "description" (by decide)),
      plain (by decide) (asked "enum" (by decide)),
      fieldOr_grown added (List.forall_mem_singleton.mpr (asked "properties" (by decide)))
        (List.forall_mem_singleton.mpr fun before after member => properties before after member _),
      fieldOr_grown added (List.forall_mem_singleton.mpr (asked "items" (by decide)))
        (List.forall_mem_singleton.mpr fun before after member => items before after member _)]

/-- Whatever is added to the nodes of a mapping, it is read alike. -/
theorem readNodesIn_grown {entries : List Entry} {room : Nat} (none : ∀ key value, Entry.added key value ∉ entries)
    (alike : ∀ key before after, Entry.kept key before after ∈ entries →
      readNodeIn room after = readNodeIn room before) :
    readNodesIn room (membersAfter entries) = readNodesIn room (membersBefore entries) := by
  induction entries with
  | nil => rfl
  | cons entry rest ih =>
    have later := ih (fun key value member => none key value (List.mem_cons_of_mem _ member))
      fun key before after member => alike key before after (List.mem_cons_of_mem _ member)
    cases entry with
    | kept key before after =>
      rw [membersAfter_kept, membersBefore_kept, readNodesIn, readNodesIn, later,
        alike key before after (List.mem_cons_self ..)]
    | added key value => exact absurd (List.mem_cons_self ..) (none key value)

/-- Nodes and mappings of nodes are read alike, however deep foreign members are added. -/
theorem Grown.read_nodes {place : Place} {before after : Datum} (grown : Grown place before after) :
    (place = .node → ∀ room, readNodeIn room after = readNodeIn room before) ∧
      (place = .nodes → ∀ room, readPropertiesIn room after = readPropertiesIn room before) := by
  induction grown with
  | same value => exact ⟨fun _ _ => rfl, fun _ _ => rfl⟩
  | items pairs each ih => exact ⟨nofun, nofun⟩
  | @members place entries kept added ih =>
    constructor
    -- The fields of a node that are taken as they are have not grown; the other two are read alike by induction.
    · rintro rfl room
      refine readNodeIn_grown added (fun key known before after member => ?_)
        (fun before after member => (ih _ before after member).2 rfl) fun before after member room => ?_
      · have plain : ∀ key ∈ ["$ref", "type", "description", "enum"], Place.node.below key = .value := by decide
        exact (kept key before after member).eq_of_value (plain key known)
      · exact orNull_grown (kept _ before after member) ((ih _ before after member).1 rfl room)
    · rintro rfl room
      rw [readPropertiesIn, readPropertiesIn]
      exact readNodesIn_grown (fun key value => not_added_of_asked added rfl value)
        fun key before after member => (ih key before after member).1 rfl room

/-! ### Records -/

section Records

variable {before after : Datum}

theorem readParameter_grown (grown : Grown .parameter before after) : readParameter after = readParameter before := by
  cases grown with
  | same value => rfl
  | members entries kept added =>
    -- All fields are asked for, and each is taken as it is or read as a node.
    have asked : ∀ key ∈ parameterKeys, Place.parameter.isForeign (membersBefore entries) key = false := by
      simp only [Place.isForeign]
      decide
    have text {α : Type} {absent : Checked α} {read : Datum → Checked α} {keys : List String}
        (known : ∀ key ∈ keys, key ∈ parameterKeys ∧ Place.parameter.below key = .value) :
        fieldOr keys absent read (membersAfter entries) = fieldOr keys absent read (membersBefore entries) :=
      fieldOr_grown added (fun key own => asked key (known key own).1) fun key own before after member =>
        congrArg read ((kept key before after member).eq_of_value (known key own).2)
    have node {keys : List String} (known : ∀ key ∈ keys, key ∈ parameterKeys ∧ Place.parameter.below key = .node) :
        fieldOr keys (.valid none) (orNull readNode) (membersAfter entries) =
          fieldOr keys (.valid none) (orNull readNode) (membersBefore entries) :=
      fieldOr_grown added (fun key own => asked key (known key own).1) fun key own before after member => by
        have below := (kept key before after member)
        exact orNull_grown below (below.read_nodes.1 (known key own).2 _)
    simp only [readParameter, readRecord, Checked.andThen, required, optionalField]
    rw [text (by decide), text (by decide), text (by decide), node (by decide), node (by decide), text (by decide),
      text (by decide), text (by decide)]

def readParameters (value : Datum) : Checked (List Parameter) := (readList value).andThen (eachItem readParameter)

theorem readParameters_grown (grown : Grown .parameters before after) : readParameters after = readParameters before := by
  cases grown with
  | same value => rfl
  | members entries kept added => rfl
  | items pairs each =>
    have go (position : Nat) : eachItem.go readParameter position (pairs.map Prod.snd) =
        eachItem.go readParameter position (pairs.map Prod.fst) := by
      induction pairs generalizing position with
      | nil => rfl
      | cons pair rest ih =>
        rw [List.forall_mem_cons] at each
        rw [List.map_cons, List.map_cons, eachItem.go, eachItem.go, readParameter_grown each.1, ih each.2]
    exact go 0

/-- An operation that is empty is read like any other. -/
theorem readOperation_void (members : List (String × Datum)) :
    readOperation (if (Datum.object members).isVoid then .object [] else .object members) =
      readOperation (.object members) := by
  cases members <;> rfl

theorem readOperation_grown (grown : Grown .operation before after) :
    readOperation (if after.isVoid then .object [] else after) =
      readOperation (if before.isVoid then .object [] else before) := by
  cases grown with
  | same value => rfl
  | members entries kept added =>
    have asked : ∀ key ∈ operationKeys, Place.operation.isForeign (membersBefore entries) key = false := by
      simp only [Place.isForeign]
      decide
    have text {α : Type} {absent : Checked α} {read : Datum → Checked α} {key : String}
        (known : key ∈ operationKeys ∧ Place.operation.below key = .value) :
        fieldOr [key] absent read (membersAfter entries) = fieldOr [key] absent read (membersBefore entries) :=
      fieldOr_grown added (List.forall_mem_singleton.mpr (asked key known.1)) <| List.forall_mem_singleton.mpr
        fun before after member => congrArg read ((kept key before after member).eq_of_value known.2)
    have parameters : fieldOr ["parameters"] (.valid []) readParameters (membersAfter entries) =
        fieldOr ["parameters"] (.valid []) readParameters (membersBefore entries) :=
      fieldOr_grown added (List.forall_mem_singleton.mpr (asked _ (by decide))) <| List.forall_mem_singleton.mpr
        fun before after member => readParameters_grown (kept _ before after member)
    rw [readOperation_void, readOperation_void]
    simp only [readOperation, readRecord, Checked.andThen, optionalField]
    unfold readParameters Checked.andThen at parameters
    rw [text (by decide), text (by decide), text (by decide), parameters]

/-- What is no verb is passed over, whatever it is. -/
theorem readOperations_grown {entries : List Entry}
    (kept : ∀ key before after, Entry.kept key before after ∈ entries → Grown (Place.pathItem.below key) before after)
    (added : ∀ key value, Entry.added key value ∈ entries → isVerb key = false) :
    readOperations (membersAfter entries) = readOperations (membersBefore entries) := by
  induction entries with
  | nil => rfl
  | cons entry rest ih =>
    have later := ih (fun key before after member => kept key before after (List.mem_cons_of_mem _ member))
      fun key value member => added key value (List.mem_cons_of_mem _ member)
    cases entry with
    | kept key before after =>
      have below := kept key before after (List.mem_cons_self ..)
      rw [membersAfter_kept, membersBefore_kept, readOperations, readOperations, later]
      -- An operation is read alike, and what is no verb is not read at all.
      by_cases verb : isVerb key = true
      · simp only [Place.below, if_pos verb] at below
        rw [if_pos verb, if_pos verb, readOperation_grown below]
      · rw [if_neg verb, if_neg verb]
    | added key value =>
      rw [membersAfter_added, membersBefore_added, readOperations, added key value (List.mem_cons_self ..), later]
      rfl

theorem readPathItem_grown (grown : Grown .pathItem before after) :
    (readMapping after).map readOperations = (readMapping before).map readOperations := by
  cases grown with
  | same value => rfl
  | members entries kept added =>
    refine congrArg Checked.valid (readOperations_grown kept fun key value member => ?_)
    simpa [Place.isForeign] using added key value member

/-- All paths come to the same if each of them does. -/
theorem readPaths_entries {entries : List Entry} (none : ∀ key value, Entry.added key value ∉ entries)
    (alike : ∀ key before after, Entry.kept key before after ∈ entries →
      (readMapping after).map readOperations = (readMapping before).map readOperations) :
    (eachMember readMapping (membersAfter entries)).map readPaths =
      (eachMember readMapping (membersBefore entries)).map readPaths := by
  induction entries with
  | nil => rfl
  | cons entry rest ih =>
    have later := ih (fun key value member => none key value (List.mem_cons_of_mem _ member))
      fun key before after member => alike key before after (List.mem_cons_of_mem _ member)
    cases entry with
    | kept key before after =>
      -- Faults are found in the same places, and without any the operations of the paths are put together.
      have own := alike key before after (List.mem_cons_self ..)
      rw [membersAfter_kept, membersBefore_kept, eachMember, eachMember]
      obtain ⟨faults, second, first⟩ | ⟨item', item, second, first, same⟩ := map_eq_map own <;>
        obtain ⟨others, second', first'⟩ | ⟨paths', paths, second', first', same'⟩ := map_eq_map later <;>
        rw [second, first, second', first']
      · rfl
      · rfl
      · refine congrArg Checked.valid ?_
        rw [readPaths, readPaths, same, same']
    | added key value => exact absurd (List.mem_cons_self ..) (none key value)

theorem readPaths_grown (grown : Grown .paths before after) :
    ((readMapping after).andThen (eachMember readMapping)).map readPaths =
      ((readMapping before).andThen (eachMember readMapping)).map readPaths := by
  cases grown with
  | same value => rfl
  | members entries kept added =>
    exact readPaths_entries (fun key value => not_added_of_asked added rfl value)
      fun key before after member => readPathItem_grown (kept key before after member)

/-- A document is read with the same faults or to the same operations and definitions, whatever foreign members it
has. -/
theorem parseDocument_grown (grown : Grown .document before after) : parseDocument after = parseDocument before := by
  cases grown with
  | same value => rfl
  | members entries kept added =>
    have asked : ∀ key ∈ documentKeys, Place.document.isForeign (membersBefore entries) key = false := by
      simp only [Place.isForeign]
      decide
    have definitions : fieldOr ["definitions"] (.valid []) readDefinitions (membersAfter entries) =
        fieldOr ["definitions"] (.valid []) readDefinitions (membersBefore entries) :=
      fieldOr_grown added (List.forall_mem_singleton.mpr (asked _ (by decide))) <| List.forall_mem_singleton.mpr
        fun before after member => (kept _ before after member).read_nodes.2 rfl _
    have paths := @fieldOr_grown _ _ _ added ["paths"] ((Checked.valid []).map readPaths)
      (fun value => ((readMapping value).andThen (eachMember readMapping)).map readPaths)
      (List.forall_mem_singleton.mpr (asked _ (by decide))) <| List.forall_mem_singleton.mpr
        fun before after member => readPaths_grown (kept _ before after member)
    rw [← map_fieldOr, ← map_fieldOr] at paths
    simp only [parseDocument, readDocument, readRecord, Checked.andThen]
    rw [definitions]
    -- The paths are only looked into where the definitions have no faults either.
    unfold Checked.andThen at paths
    obtain ⟨faults, second, first⟩ | ⟨paths', paths, second, first, same⟩ := map_eq_map paths
    · rw [second, first]
    · rw [second, first]
      cases fieldOr ["definitions"] (.valid []) readDefinitions (membersBefore entries) with
      | valid found => exact congrArg (Checked.map fun operations => (⟨operations, found⟩ : ParsedDocument)) same
      | invalid others => rfl

end Records

/-- Whatever foreign members are added to a document, and wherever, it has faults just if it had some before, and
these are the same. Without faults, its methods, or the failure to compile them, are those it had before. -/
theorem foreign_members_unseen {before after : Datum} (grown : Grown .document before after) :
    ((∃ faults, parseDocument after = .invalid faults) ↔ ∃ faults, parseDocument before = .invalid faults) ∧
      (∀ faults, parseDocument after = .invalid faults → parseDocument before = .invalid faults) ∧
      ∀ first second, parseDocument before = .valid first → parseDocument after = .valid second →
        ∀ metadata, compileDocument metadata second = compileDocument metadata first := by
  have same := parseDocument_grown grown
  refine ⟨by rw [same], fun faults found => same ▸ found, fun first second here there metadata => ?_⟩
  obtain rfl := Checked.valid.inj (there.symm.trans (same.trans here))
  rfl

/-! ### A document with foreign members -/

/-- Does an entry fit in at a place that has these members? -/
def Entry.Fits (place : Place) (members : List (String × Datum)) : Entry → Prop
  | kept key before after => Grown (place.below key) before after
  | added key _ => place.isForeign members key = true

theorem Grown.of_entries {place : Place} (entries : List Entry)
    (fits : ∀ entry ∈ entries, entry.Fits place (membersBefore entries)) :
    Grown place (.object (membersBefore entries)) (.object (membersAfter entries)) :=
  .members entries (fun _ _ _ member => fits _ member) fun _ _ member => fits _ member

def referenceEntries : List Entry :=
  [.kept "$ref" (.text "#/definitions/A") (.text "#/definitions/A"), .added "properties" (.list [])]

def schemaEntries : List Entry := [
  .added "ref" .null,
  .kept "type" (.text "array") (.text "array"),
  .kept "items" (.object (membersBefore referenceEntries)) (.object (membersAfter referenceEntries))]

def parameterEntries : List Entry := [
  .kept "name" (.text "q") (.text "q"),
  .kept "in" (.text "query") (.text "query"),
  .added "format" (.int 1),
  .kept "schema" (.object (membersBefore schemaEntries)) (.object (membersAfter schemaEntries))]

def operationEntries : List Entry := [
  .kept "parameters" (.list [.object (membersBefore parameterEntries)]) (.list [.object (membersAfter parameterEntries)]),
  .added "responses" (.object [])]

/-- What a path has besides verbs is no operation. -/
def itemEntries : List Entry := [
  .added "parameters" (.text "none"),
  .kept "get" (.object (membersBefore operationEntries)) (.object (membersAfter operationEntries))]

def documentEntries : List Entry := [
  .added "swagger" (.text "2.0"),
  .kept "paths" (.object [("/items", .object (membersBefore itemEntries))])
    (.object [("/items", .object (membersAfter itemEntries))])]

theorem documentEntries_grown :
    Grown .document (.object (membersBefore documentEntries)) (.object (membersAfter documentEntries)) := by
  have reference : Grown .node _ _ := .of_entries referenceEntries <|
    List.forall_mem_cons.mpr ⟨.same _, List.forall_mem_singleton.mpr (by simp only [Entry.Fits]; decide)⟩
  have schema : Grown .node _ _ := .of_entries schemaEntries <| List.forall_mem_cons.mpr
    ⟨by simp only [Entry.Fits]; decide, List.forall_mem_cons.mpr ⟨.same _, List.forall_mem_singleton.mpr reference⟩⟩
  have parameter : Grown .parameter _ _ := .of_entries parameterEntries <| List.forall_mem_cons.mpr
    ⟨.same _, List.forall_mem_cons.mpr ⟨.same _, List.forall_mem_cons.mpr
      ⟨by simp only [Entry.Fits]; decide, List.forall_mem_singleton.mpr schema⟩⟩⟩
  have parameters : Grown .parameters (.list [.object (membersBefore parameterEntries)])
      (.list [.object (membersAfter parameterEntries)]) := .items [(_, _)] (List.forall_mem_singleton.mpr parameter)
  have operation : Grown .operation _ _ := .of_entries operationEntries <| List.forall_mem_cons.mpr
    ⟨parameters, List.forall_mem_singleton.mpr (by simp only [Entry.Fits]; decide)⟩
  have verb : Place.pathItem.below "get" = .operation := rfl
  have item : Grown .pathItem _ _ := .of_entries itemEntries <| List.forall_mem_cons.mpr
    ⟨rfl, List.forall_mem_singleton.mpr (by rw [Entry.Fits, verb]; exact operation)⟩
  have paths : Grown .paths (.object [("/items", .object (membersBefore itemEntries))])
      (.object [("/items", .object (membersAfter itemEntries))]) :=
    .of_entries [.kept "/items" _ _] (List.forall_mem_singleton.mpr item)
  exact .of_entries documentEntries <| List.forall_mem_cons.mpr
    ⟨by simp only [Entry.Fits]; decide, List.forall_mem_singleton.mpr paths⟩

/-- What is read of the document. -/
def queryDocument : ParsedDocument where
  operations := [("/items", [("get", { parameters := [{
    name := "q"
    place := some "query"
    schema := some (.inline (some "array") none [] (some (.reference "#/definitions/A")) none) }] })])]

/-- A document with foreign members at all depths is read as if it had none of them. -/
theorem documentEntries_unseen :
    Grown .document (.object (membersBefore documentEntries)) (.object (membersAfter documentEntries)) ∧
      parseDocument (.object (membersBefore documentEntries)) = .valid queryDocument ∧
      ∃ second, parseDocument (.object (membersAfter documentEntries)) = .valid second ∧
        ∀ metadata, compileDocument metadata second = compileDocument metadata queryDocument := by
  obtain ⟨faulty, -, compiled⟩ := foreign_members_unseen documentEntries_grown
  have read : parseDocument (.object (membersBefore documentEntries)) = .valid queryDocument := rfl
  refine ⟨documentEntries_grown, read, ?_⟩
  cases there : parseDocument (.object (membersAfter documentEntries)) with
  | valid second => exact ⟨second, rfl, compiled _ second read there⟩
  | invalid faults =>
    obtain ⟨others, found⟩ := faulty.mp ⟨faults, there⟩
    cases read.symm.trans found

end Bindery.Schema
