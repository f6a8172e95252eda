import Bindery.Proofs.Schema.Readings
import Bindery.Proofs.Settings.Sources
import Bindery.Settings.Load

/-!
# How loading ends

Loading ends with settings within their bounds, or with a failure that is reported in words, unless something escapes that
tells of it: a project file that cannot be read, tools that are no table, or a document whose keys cannot be taken for
fields. What has a plain mapping in it is never such a case.

Each step of loading gets the exact condition under which it ends properly: contents (`validate_endsProperly_iff`), a file
(`fromFile_endsProperly_iff`), the project file (`fromProject_endsProperly_iff`). `load_endsProperly_iff` follows the lookup
from one to the next.
-/
namespace Bindery.Settings

open Bindery.Data (Datum)
open Bindery.Files (FilePath)

/-- Settings within their bounds, or a failure that is reported in words. -/
def EndsProperly (result : Except LoadFault Settings) : Prop :=
  (∃ settings, result = .ok settings ∧ 0 < settings.maxConcurrentRequests ∧ settings.timeout.isPositive = true) ∨
    ∃ message path faults, result = .error (.failure message path faults)

/-- Can it be told whether a document is valid? A mapping has texts for keys, of which none is reserved, and what the
options among them ask for can be followed. -/
def Contents.IsOrderly (surroundings : Surroundings) (contents : Contents) : Prop :=
  ∀ members, contents.value = .object members → contents.hasTextKeys = true ∧ members.lookup reservedName = none ∧
    ∃ all, gather surroundings members = .ok all

/-- Does a file break off no reading, and is what it holds orderly? -/
structure FileIsOrderly (surroundings : Surroundings) (path : FilePath) : Prop where
  documented : ∀ bytes fault, surroundings.files.readFile path = .ok bytes → contents? path bytes = .error fault →
    fault.isBare = false
  contents : ∀ bytes contents, surroundings.files.readFile path = .ok bytes → contents? path bytes = .ok contents →
    contents.IsOrderly surroundings

/-- Are the tools of a project a table, with orderly settings if it has any, or something that does not mention them? -/
def ToolsAreOrderly (surroundings : Surroundings) : Datum → Prop
  | .object tools => ∀ own, tools.lookup toolName = some own → Contents.IsOrderly surroundings { value := own }
  | .text tools => ¬ toolName.toList <:+: tools.toList
  | .list tools => ∀ tool ∈ tools, tool.text? ≠ some toolName
  | _ => False

/-- Is the project file a text that can be read, with orderly tools if it has any? -/
def ProjectIsOrderly (surroundings : Surroundings) : Prop :=
  ∃ bytes text members, surroundings.files.readFile (.ofText projectFile) = .ok bytes ∧ textOf? bytes = some text ∧
    Data.Toml.read text = .ok members ∧ ∀ tools, members.lookup "tool" = some tools → ToolsAreOrderly surroundings tools

/-- Is the file orderly in which settings are looked up, if there is one? -/
@[mk_iff]
structure IsOrderly (surroundings : Surroundings) (path : Option String) : Prop where
  named : ∀ named, path.filter (fun p => !p.isEmpty) = some named → FileIsOrderly surroundings (.ofText named)
  found : path.filter (fun p => !p.isEmpty) = none → ∀ name, settingsFiles.find? (isPresent surroundings) = some name →
    FileIsOrderly surroundings (.ofText name)
  project : path.filter (fun p => !p.isEmpty) = none → settingsFiles.find? (isPresent surroundings) = none →
    isPresent surroundings projectFile = true → ProjectIsOrderly surroundings

/-! ### Bounds -/

/-- Settings that were read are within their bounds. -/
theorem read_bounds {members : List (String × Datum)} {settings : Settings}
    (valid : Settings.read members = .valid settings) :
    0 < settings.maxConcurrentRequests ∧ settings.timeout.isPositive = true := by
  -- The fields are read one by one, the last one outermost.
  obtain ⟨f₁, _, valid, -, same₁⟩ := seq_eq_valid valid
  obtain ⟨f₂, _, valid, -, same₂⟩ := seq_eq_valid valid
  obtain ⟨f₃, _, valid, -, same₃⟩ := seq_eq_valid valid
  obtain ⟨f₄, _, valid, -, same₄⟩ := seq_eq_valid valid
  obtain ⟨f₅, _, valid, -, same₅⟩ := seq_eq_valid valid
  obtain ⟨f₆, timeout, valid, timed, same₆⟩ := seq_eq_valid valid
  obtain ⟨f₇, cap, valid, capped, same₇⟩ := seq_eq_valid valid
  obtain ⟨f₈, output, valid, -, same₈⟩ := seq_eq_valid valid
  cases valid
  subst same₈ same₇ same₆ same₅ same₄ same₃ same₂ same₁
  constructor
  · obtain initial | ⟨value, read⟩ := fieldOr_eq_valid capped
    · cases initial
      have initially : (0 : Int) < ({} : Settings).maxConcurrentRequests := by decide
      exact initially
    · have positive : (0 : Int) < cap := bound_of_valid read
      exact positive
  · obtain initial | ⟨value, read⟩ := fieldOr_eq_valid timed
    · cases initial
      have initially : ({} : Settings).timeout.isPositive = true := by decide
      exact initially
    · have positive : timeout.isPositive = true :=
        @bound_of_valid _ _ (fun x : Number.Binary64 => x.isPositive = true) _ _ _ read
      exact positive

/-! ### Documents -/

theorem endsProperly_failure (message : String) (path : Option String) (faults : Option (List Schema.Fault)) :
    EndsProperly (.error (.failure message path faults)) :=
  .inr ⟨message, path, faults, rfl⟩

section Documents

variable {surroundings : Surroundings}

theorem validate_endsProperly_iff (path : Option String) (contents : Contents) :
    EndsProperly (validate surroundings path contents) ↔ contents.IsOrderly surroundings := by
  unfold validate
  split
  next members value =>
    have orderly : contents.IsOrderly surroundings ↔ contents.hasTextKeys = true ∧ members.lookup reservedName = none ∧
        ∃ all, gather surroundings members = .ok all := by
      simp [Contents.IsOrderly, value]
    rw [orderly]
    cases contents.hasTextKeys with
    | false => simp [EndsProperly]
    | true =>
      cases members.lookup reservedName with
      | some value => simp [EndsProperly]
      | none =>
        cases gather surroundings members with
        | error fault => simp [EndsProperly]
        | ok all =>
          simp only [Bool.not_true, Bool.false_eq_true, if_false, Option.isSome_none, Except.ok.injEq, exists_eq', and_self,
            iff_true]
          -- From here on it is only told what is wrong with the fields.
          cases read : Settings.read all with
          | valid settings => exact .inl ⟨settings, rfl, read_bounds read⟩
          | invalid faults => exact endsProperly_failure ..
  next other =>
    exact iff_of_true (endsProperly_failure ..) fun members value => absurd value (other members)

theorem fileIsOrderly_iff {path : FilePath} {bytes : List UInt8} (read : surroundings.files.readFile path = .ok bytes) :
    FileIsOrderly surroundings path ↔ match contents? path bytes with
      | .error fault => fault.isBare = false
      | .ok contents => contents.IsOrderly surroundings := by
  constructor
  -- The file is read once, so that there is one document to speak of.
  · rintro ⟨documented, orderly⟩
    split
    next fault held => exact documented bytes fault read held
    next contents held => exact orderly bytes contents read held
  · intro ends
    constructor
    · intro other fault reread held
      cases read.symm.trans reread
      rwa [held] at ends
    · intro other contents reread held
      cases read.symm.trans reread
      rwa [held] at ends

theorem fromFile_endsProperly_iff (path : FilePath) (shown : String) :
    EndsProperly (fromFile surroundings path shown) ↔ FileIsOrderly surroundings path := by
  unfold fromFile
  cases reading : surroundings.files.readFile path with
  | error refusal =>
    -- What cannot be read is reported in words, and has no document that could be disorderly.
    refine iff_of_true ?_ ⟨fun _ _ read => ?_, fun _ _ read => ?_⟩
    · dsimp only
      split <;> exact endsProperly_failure ..
    · cases reading.symm.trans read
    · cases reading.symm.trans read
  | ok bytes =>
    rw [fileIsOrderly_iff reading]
    dsimp only
    cases contents? path bytes with
    | error fault =>
      dsimp only
      split
      next bare => simp [EndsProperly, bare]
      next bare => exact iff_of_true (endsProperly_failure ..) (Bool.eq_false_iff.mpr bare)
    | ok contents => exact validate_endsProperly_iff ..

/-! ### The project file -/

theorem occursIn_iff {part text : List Char} : occursIn part text = true ↔ part <:+: text := by
  induction text with
  | nil => cases part <;> simp [occursIn]
  | cons c rest ih => rw [occursIn, Bool.or_eq_true, List.isPrefixOf_iff_prefix, ih, List.infix_cons_iff]

/-- Tools are orderly if they are asked for settings without a fault, and the settings are orderly. -/
theorem toolsAreOrderly_iff {tools : Datum} : ToolsAreOrderly surroundings tools ↔
    ∃ own, ownTable? tools = .ok own ∧ ∀ value ∈ own, Contents.IsOrderly surroundings { value } := by
  cases tools with
  | text written =>
    rw [ToolsAreOrderly, ← occursIn_iff, ownTable?]
    -- A text or a list is asked whether it mentions the table, and cannot be indexed if it does.
    split
    next within => simp [within]
    next without => simp [without]
  | list items =>
    have mentioned : (items.any fun tool => tool.text? = some toolName) = true ↔
        ∃ tool ∈ items, tool.text? = some toolName := by
      simp
    rw [ToolsAreOrderly, ownTable?]
    split
    next within =>
      obtain ⟨tool, among, named⟩ := mentioned.mp within
      have blamed : ¬ ∀ tool ∈ items, tool.text? ≠ some toolName := by
        intro apart
        exact apart tool among named
      simp [blamed]
    next without =>
      have apart : ∀ tool ∈ items, tool.text? ≠ some toolName := by
        intro tool among named
        exact without (mentioned.mpr ⟨tool, among, named⟩)
      exact iff_of_true apart ⟨none, rfl, by simp⟩
  | object members => simp [ToolsAreOrderly, ownTable?]
  | _ => simp [ToolsAreOrderly, ownTable?]

/-- The table of settings is found without a fault exactly where the project file is a table with orderly tools. -/
theorem projectSettings?_orderly_iff {text : String} :
    (∃ own, projectSettings? text = .ok own ∧ ∀ value ∈ own, Contents.IsOrderly surroundings { value }) ↔
      ∃ members, Data.Toml.read text = .ok members ∧
        ∀ tools, members.lookup "tool" = some tools → ToolsAreOrderly surroundings tools := by
  unfold projectSettings?
  cases Data.Toml.read text with
  | error fault => simp
  | ok members =>
    dsimp only
    simp only [Except.ok.injEq, exists_eq_left']
    cases members.lookup "tool" with
    | none => simp
    | some tools => simp only [Option.some.injEq, forall_eq', toolsAreOrderly_iff]

section Bare

variable {message : String} {path : Option String} {faults : Option (List Schema.Fault)}

theorem ownTable?_ne_failure {tools : Datum} : ownTable? tools ≠ .error (.failure message path faults) := by
  fun_cases ownTable? tools <;> nofun

/-- Faults of the project file itself are reported bare. -/
theorem projectSettings?_ne_failure {text : String} :
    projectSettings? text ≠ .error (.failure message path faults) := by
  fun_cases projectSettings? text with
  | case1 fault => nofun
  | case2 members => nofun
  | case3 members read tools => exact ownTable?_ne_failure

end Bare

/-- Where nothing is found in the project file, loading ends as it does without one. -/
theorem fromProject_endsProperly_iff {ambient : Except LoadFault Settings} (proper : EndsProperly ambient) :
    EndsProperly (match fromProject? surroundings with
      | .error fault => .error fault
      | .ok (some settings) => .ok settings
      | .ok none => ambient) ↔ ProjectIsOrderly surroundings := by
  unfold ProjectIsOrderly fromProject?
  cases surroundings.files.readFile (.ofText projectFile) with
  | error refusal => simp [EndsProperly]
  | ok bytes =>
    simp only [Except.ok.injEq, exists_and_left, exists_eq_left']
    cases textOf? bytes with
    | none => simp [EndsProperly]
    | some text =>
      simp only [Option.some.injEq, exists_eq_left', ← projectSettings?_orderly_iff]
      cases found : projectSettings? text with
      | error fault =>
        -- A fault of the project file escapes as it is.
        have bare : ¬ EndsProperly (.error fault) := by
          rintro (⟨_, loaded, _⟩ | ⟨message, path, faults, failed⟩)
          · cases loaded
          · cases failed
            exact projectSettings?_ne_failure found
        simp [bare]
      | ok own =>
        cases own with
        | none => exact iff_of_true proper ⟨none, rfl, by simp⟩
        | some value =>
          -- The table is validated like the contents of a file.
          have ends : EndsProperly (validate surroundings (some (shownPath surroundings projectFile)) { value }) ↔
            Contents.IsOrderly surroundings { value } := validate_endsProperly_iff ..
          simp only [Except.ok.injEq, exists_eq_left', Option.mem_some_iff, forall_eq', ← ends]
          cases validate surroundings (some (shownPath surroundings projectFile)) { value } <;> exact Iff.rfl

end Documents

/-! ### Loading -/

/-- Is there no mapping, or one with texts for keys, of which none is reserved or an option? -/
def Contents.IsPlain (contents : Contents) : Prop :=
  ∀ members, contents.value = .object members →
    contents.hasTextKeys = true ∧ members.lookup reservedName = none ∧ HasNoOptions members

theorem isPlain_empty : Contents.IsPlain { value := .object [] } := by
  intro members value
  cases value
  exact ⟨rfl, rfl, nofun⟩

/-- Without variables for settings, plain contents are orderly. -/
theorem Contents.IsPlain.isOrderly {surroundings : Surroundings} (unset : IsUnset surroundings.environment)
    {contents : Contents} (plain : contents.IsPlain) : contents.IsOrderly surroundings :=
  fun members value =>
    have ⟨textKeys, unreserved, noOptions⟩ := plain members value
    ⟨textKeys, unreserved, _, gather_eq_ok unset noOptions⟩

/-- Without variables for settings, loading ends properly exactly where the file is orderly in which they are looked up, and
plain contents always are orderly. -/
theorem load_endsProperly_iff {surroundings : Surroundings} (unset : IsUnset surroundings.environment)
    (path : Option String) :
    (EndsProperly (load surroundings path) ↔ IsOrderly surroundings path) ∧
      ∀ contents : Contents, contents.IsPlain → contents.IsOrderly surroundings := by
  refine ⟨?_, fun contents plain => plain.isOrderly unset⟩
  have ambient : EndsProperly (validate surroundings none { value := .object [] }) :=
    (validate_endsProperly_iff ..).mpr (isPlain_empty.isOrderly unset)
  unfold load
  -- In each branch of the lookup, two of the three conditions say nothing.
  rw [isOrderly_iff]
  cases given : path.filter fun p => !p.isEmpty with
  | some named => simp [fromFile_endsProperly_iff]
  | none =>
    dsimp only
    cases found : settingsFiles.find? (isPresent surroundings) with
    | some name => simp [fromFile_endsProperly_iff]
    | none =>
      dsimp only
      cases present : isPresent surroundings projectFile with
      | true =>
        simp only [if_true, reduceCtorEq, false_implies, implies_true, forall_const, true_and]
        exact fromProject_endsProperly_iff ambient
      | false => simp [ambient]

/-- A working directory with nothing in it but a project file, and no variables. -/
def withProject (text : String) : Surroundings where
  directory := "/work"
  files := { entries := [([projectFile], .file text.toByteArray.data.toList)] }

/-- An empty table of settings in the project file leaves the defaults. -/
theorem load_emptyTable : IsUnset (withProject "[tool.rbxapi]").environment ∧
    IsOrderly (withProject "[tool.rbxapi]") none ∧ EndsProperly (load (withProject "[tool.rbxapi]") none) := by
  have unset : IsUnset (withProject "[tool.rbxapi]").environment := nofun
  have loading := load_endsProperly_iff unset none
  -- The table is found in the file, and is a mapping without members.
  have project : ProjectIsOrderly (withProject "[tool.rbxapi]") :=
    ⟨_, "[tool.rbxapi]", [("tool", .object [(toolName, .object [])])], rfl, rfl, rfl, fun tools found => by
      cases found
      intro own found
      cases found
      exact loading.2 _ isPlain_empty⟩
  have orderly : IsOrderly (withProject "[tool.rbxapi]") none := ⟨nofun, fun _ => nofun, fun _ _ _ => project⟩
  exact ⟨unset, orderly, loading.1.mpr orderly⟩

/-- A malformed project file is not reported in words. -/
theorem load_malformedProject : IsUnset (withProject "[").environment ∧
    ¬ EndsProperly (load (withProject "[") none) := by
  have bare : load (withProject "[") none = .error (.project .malformed) := rfl
  refine ⟨nofun, ?_⟩
  rw [bare]
  rintro (⟨_, loaded, _⟩ | ⟨_, _, _, failed⟩)
  · cases loaded
  · cases failed

end Bindery.Settings
