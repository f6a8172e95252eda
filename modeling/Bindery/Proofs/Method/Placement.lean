import Bindery.Method.Placement
import Mathlib.Data.List.Basic

/-!
# What placing arguments does

The parts of a request are known from the arguments placed so far, and so is the fault of the next
argument. A step lemma says so for one argument, and a run lemma for all of them.
-/
namespace Bindery

/-! ### Locations -/

/-- Where an argument goes, if that is a place in a request. -/
def Argument.location? (argument : Argument) : Option Location :=
  argument.target.location.bind Location.ofLabel?

def Argument.isAt (location : Location) (argument : Argument) : Bool :=
  argument.location? = some location

def Argument.isFile (argument : Argument) : Bool := argument.type = some "file"

theorem Location.ofLabel?_eq_some_iff {label : String} {location : Location} :
    Location.ofLabel? label = some location ↔ label = location.label := by
  constructor
  · intro found
    have same := List.find?_some found
    exact (of_decide_eq_true same).symm
  · rintro rfl
    cases location <;> rfl

theorem Argument.isAt_iff {argument : Argument} {location : Location} :
    argument.isAt location = true ↔ argument.target.location = some location.label := by
  simp only [Argument.isAt, Argument.location?, decide_eq_true_eq, Option.bind_eq_some_iff,
    Location.ofLabel?_eq_some_iff]
  exact ⟨fun ⟨_, found, same⟩ => same ▸ found, fun found => ⟨_, found, rfl⟩⟩

/-! ### The parts of a request -/

/-- What an argument adds to a part that has its values under names. -/
def Argument.entry (argument : Argument) : String × Value :=
  (argument.target.name, .argument argument.name)

/-- What an argument adds to a form. -/
def Argument.field (argument : Argument) : String × String := (argument.target.name, argument.name)

/-- A value for the URL with the placeholder that it takes the place of. -/
abbrev UrlBinding := String × Value

/-- Put values into a URL one after another. -/
def bindAll (parts : List UrlPart) (bindings : List UrlBinding) : List UrlPart :=
  bindings.foldl (fun parts binding => interpolate binding.1 binding.2 parts) parts

/-- The value of an argument with its placeholder, if the path has one. -/
def Argument.binding? (placeholders : List (String × String)) (argument : Argument) :
    Option UrlBinding :=
  (placeholders.lookup argument.target.name).map fun text => (text, .argument argument.name)

def urlBindings (placeholders : List (String × String)) (arguments : List Argument) : List UrlBinding :=
  (arguments.filter (·.isAt .path)).filterMap (·.binding? placeholders)

/-- The parts of a request once some arguments are placed. -/
def slotsOf (placeholders : List (String × String)) (url : String) (placed : List Argument) : Slots where
  url := bindAll [.text url] (urlBindings placeholders placed)
  query := (placed.filter (·.isAt .query)).map Argument.entry
  headers := (placed.filter (·.isAt .header)).map Argument.entry
  body := (placed.find? (·.isAt .body)).map fun argument => .argument argument.name
  form := (placed.filter fun argument => argument.isAt .form && !argument.isFile).map Argument.field
  files := (placed.filter fun argument => argument.isAt .form && argument.isFile).map Argument.field

/-- The notices about arguments that the path has no placeholder for. -/
def missingNotices (path : String) (placeholders : List (String × String)) (arguments : List Argument) :
    List Notice :=
  (arguments.filter fun argument =>
    argument.isAt .path && (placeholders.lookup argument.target.name).isNone).map fun argument =>
      .missingPlaceholder argument.target.name path

/-- The fault of an argument beside those placed before it. -/
def Argument.fault? (placed : List Argument) (argument : Argument) : Option PlacementFault :=
  match argument.location? with
  | none => some (.unknownLocation argument.target.location argument.documented)
  | some .body =>
    if placed.any (·.isAt .body) || placed.any (·.isAt .form) then some (.secondBody argument.documented)
    else none
  | some .form =>
    if placed.any (·.isAt .body) then some (.formBesideBody argument.documented) else none
  | some _ => none

/-- The first fault among arguments, placed one after another. -/
def firstFault? (placed : List Argument) : List Argument → Option PlacementFault
  | [] => none
  | argument :: rest => (argument.fault? placed).or (firstFault? (placed ++ [argument]) rest)

private theorem body_isSome (placeholders : List (String × String)) (url : String)
    (placed : List Argument) :
    (slotsOf placeholders url placed).body.isSome = placed.any (·.isAt .body) := by
  simp only [slotsOf, Option.isSome_map]
  rw [Bool.eq_iff_iff, List.find?_isSome, List.any_eq_true]

private theorem form_taken (placeholders : List (String × String)) (url : String)
    (placed : List Argument) :
    (!(slotsOf placeholders url placed).form.isEmpty || !(slotsOf placeholders url placed).files.isEmpty) =
      placed.any (·.isAt .form) := by
  simp only [slotsOf, List.isEmpty_map]
  -- A field is in the form or among the files, whichever it is: so the two together are empty without fields.
  induction placed with
  | nil => rfl
  | cons argument placed ih =>
    cases here : argument.isAt .form with
    | false => simpa [here] using ih
    | true => cases file : argument.isFile <;> simp [here, file]

/-- Placing one argument beside others. -/
theorem place_slotsOf (path : String) (placeholders : List (String × String)) (url : String)
    (placed : List Argument) (argument : Argument) :
    place path placeholders (slotsOf placeholders url placed) argument =
      match argument.fault? placed with
      | some fault => .error fault
      | none => .ok ⟨slotsOf placeholders url (placed ++ [argument]),
          missingNotices path placeholders [argument]⟩ := by
  -- The source reads the label of an argument, the specification its location; they are one by definition.
  have location : argument.target.location.bind Location.ofLabel? = argument.location? := rfl
  have isAt : ∀ l, argument.isAt l = decide (argument.location? = some l) := fun _ => rfl
  unfold place Argument.fault?
  rw [location]
  cases found : argument.location? with
  | none => rfl
  | some l =>
    -- One case for each location. Only a body and a form look at what is there already.
    cases l with
    | path =>
      cases text : placeholders.lookup argument.target.name <;>
        simp [placeInPath, slotsOf, urlBindings, bindAll, missingNotices, isAt, found, pure,
          Argument.binding?, text]
    | query => simp [slotsOf, urlBindings, missingNotices, isAt, found, pure, Argument.entry]
    | header => simp [slotsOf, urlBindings, missingNotices, isAt, found, pure, Argument.entry]
    | body =>
      simp only [Bool.or_assoc, body_isSome, form_taken]
      cases taken : placed.any (·.isAt .body) with
      | true => simp
      | false =>
        -- Without a fault no body was placed before, so the new one is the first.
        have absent : placed.find? (·.isAt .body) = none := by simpa using taken
        cases placed.any (·.isAt .form) with
        | true => simp
        | false => simp [slotsOf, urlBindings, missingNotices, isAt, found, pure, absent]
    | form =>
      simp only [body_isSome]
      cases placed.any (·.isAt .body) with
      | true => simp
      | false =>
        -- A file goes beside the fields of the form and not among them.
        by_cases file : argument.type = some "file"
        · simp [slotsOf, urlBindings, missingNotices, isAt, found, pure, file, Argument.isFile,
            Argument.field]
        · simp [slotsOf, urlBindings, missingNotices, isAt, found, pure, file, Argument.isFile,
            Argument.field]

/-- Placing all arguments: the first fault decides. -/
theorem placeAll_slotsOf (path : String) (placeholders : List (String × String)) (url : String)
    (placed arguments : List Argument) :
    placeAll path placeholders (slotsOf placeholders url placed) arguments =
      match firstFault? placed arguments with
      | some fault => .error fault
      | none => .ok ⟨slotsOf placeholders url (placed ++ arguments),
          missingNotices path placeholders arguments⟩ := by
  induction arguments generalizing placed with
  | nil => simp [placeAll, firstFault?, missingNotices, pure]
  | cons argument rest ih =>
    simp only [placeAll, firstFault?, place_slotsOf]
    -- A fault of the first argument ends the run; without one the rest goes on beside it.
    cases argument.fault? placed with
    | some fault => rfl
    | none =>
      simp only [ih, Option.none_or]
      cases firstFault? (placed ++ [argument]) rest with
      | some fault => rfl
      -- The notices of the rest follow that of the first argument, if it has one.
      | none => simp [missingNotices, List.filter_cons]; split <;> simp

/-- An ungrouped request has the slots of all arguments, unless one is at fault. -/
theorem buildRequest_ungrouped (endpoint : Endpoint) (url : String) (list : ArgumentList)
    (ungrouped : list.grouped = false) :
    buildRequest endpoint url list =
      match firstFault? [] list.arguments with
      | some fault => .error fault
      | none => .ok ⟨(slotsOf list.placeholders url list.arguments).request endpoint.verb,
          missingNotices endpoint.path list.placeholders list.arguments⟩ := by
  have run := placeAll_slotsOf endpoint.path list.placeholders url [] list.arguments
  have start : slotsOf list.placeholders url [] = { url := [.text url] } := rfl
  rw [start] at run
  unfold buildRequest
  rw [ungrouped]
  simp only [run]
  cases firstFault? [] list.arguments <;> rfl

end Bindery
