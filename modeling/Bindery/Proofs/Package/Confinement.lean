import Bindery.Proofs.Files.Confinement
import Bindery.Proofs.Package.RootModule
import Bindery.Proofs.Package.WrittenFiles

/-!
# Packages in their directory

Whatever the versions of an API are called, a package is written into its directory only: each version has a file whose
name is that of a class, and everything outside stays as it is, wherever the writing stops.
-/
namespace Bindery

open Bindery.Files (FileAction FilePath FileTree IsConfined Place)
open Bindery.Source (Stmt classesIn)

/-! ### Names of version modules -/

/-- Names as versions of APIs have them: letters, an underscore, and whatever is left of the version. -/
structure IsVersionName (name : String) : Prop where
  spelled : ∃ api suffix, name = api ++ "_" ++ suffix ∧ IsLetters api ∧
    ∀ c ∈ suffix.toList, c.isAlphanum = true ∨ c = '_'
  plain : IsPlain name
  notKeyword : name ∉ Name.keywords
  legal : Source.isLegalName name = true

theorem versionClass_isVersionName {api : String} (letters : IsLetters api) (version : String) :
    IsVersionName (Name.versionClass api version) where
  spelled := by
    refine ⟨api, Name.versionSuffix version, rfl, letters, fun c member => ?_⟩
    simpa [Text.isWordChar] using versionSuffix_word version c member
  plain := versionClass_isPlain letters.isPlain version
  notKeyword := versionClass_not_keyword api version
  legal := versionClass_isLegalName letters version

/-- The files of a package, below its directory, with their texts. -/
inductive IsPackageFile (settings : EmissionSettings) (tree : ApiTree) : List String → String → Prop
  | root {text : String} (given : rootText settings tree = .ok text) : IsPackageFile settings tree ["__init__.py"] text
  | marker : IsPackageFile settings tree ["apis", "__init__.py"] ""
  | version {entry : ApiNode × String} {text : String} (member : entry ∈ generated tree)
      (given : moduleText settings ("apis/" ++ className entry) (versionModule entry.1 entry.2) = .ok text) :
      IsPackageFile settings tree ["apis", className entry ++ ".py"] text

namespace Emission

/-! ### Confined steps -/

/-- Is a step of writing confined, whether it fails or not? -/
def Confines {α : Type} (inside : Place → Bool) (allowed : Place → List UInt8 → Prop) (step : Emission α) : Prop :=
  ∀ before : Workspace, IsConfined inside allowed before.files (outcome step before).2.files

section Confined

variable {α β : Type} {inside : Place → Bool} {allowed : Place → List UInt8 → Prop} {settings : EmissionSettings}

theorem Confines.of_unchanged {step : Emission α} (same : ∀ before, (outcome step before).2 = before) :
    Confines inside allowed step := by
  intro before
  rw [same]
  exact .refl before.files

theorem Confines.bind {first : Emission α} {next : α → Emission β} (here : Confines inside allowed first)
    (there : ∀ a, Confines inside allowed (next a)) : Confines inside allowed (first >>= next) := by
  intro before
  have early := here before
  cases ended : outcome first before with
  | mk result between =>
    rw [ended] at early
    cases result with
    | error fault =>
      rw [outcome_bind_error ended]
      exact early
    | ok a =>
      rw [outcome_bind_ok ended]
      exact early.trans (there a between)

theorem onFiles_confines {path : FilePath} {action : FileAction Unit}
    (confined : ∀ files, IsConfined inside allowed files (outcome action files).2) :
    Confines inside allowed (onFiles path action) := by
  intro before
  rw [onFiles_after]
  exact confined before.files

theorem writeFile_confines {name content : String} (within : inside (settings.output.join name).goal = true)
    (fine : allowed (settings.output.join name).goal (Text.encodeUtf8 content)) :
    Confines inside allowed (writeFile settings name content) := by
  apply (onFiles_confines fun files => Files.placeFile_isConfined files _ within fine).bind
  intro _
  exact Confines.bind (fun before => .refl before.files) fun _ => .of_unchanged fun _ => rfl

theorem removeWith_confines {action : FilePath → FileAction Unit} {name : String}
    (confined : ∀ files, IsConfined inside allowed files (outcome (action (settings.output.join name)) files).2) :
    Confines inside allowed (removeWith settings action name) := by
  intro before
  rw [removeWith, outcome_bind_ok outcome_get]
  cases before.files.pathExists (settings.output.join name) with
  | error refusal => exact .refl before.files
  | ok present =>
    cases present with
    | false => exact .refl before.files
    | true => exact onFiles_confines confined before

theorem writeModule_confines {name : String} {statements : List Stmt}
    (within : inside (settings.output.join (name ++ ".py")).goal = true)
    (fine : ∀ text, moduleText settings name statements = .ok text →
      allowed (settings.output.join (name ++ ".py")).goal (Text.encodeUtf8 text)) :
    Confines inside allowed (writeModule settings statements name) := by
  rw [writeModule_eq]
  cases given : moduleText settings name statements with
  | error fault => exact .of_unchanged fun _ => rfl
  | ok text => exact writeFile_confines within (fine text given)

theorem writeModules_confines {modules : List (String × List Stmt)}
    (each : ∀ module ∈ modules, Confines inside allowed (writeModule settings module.2 module.1)) :
    Confines inside allowed (writeModules settings modules) := by
  induction modules with
  | nil => exact .of_unchanged fun _ => rfl
  | cons module rest ih =>
    rw [List.forall_mem_cons] at each
    rw [writeModules_cons]
    exact each.1.bind fun _ => ih each.2

end Confined

/-! ### Whole packages -/

/-- The places and contents of the files of a package. -/
def IsPackageFileAt (settings : EmissionSettings) (tree : ApiTree) (place : Place) (content : List UInt8) : Prop :=
  ∃ names text, place = settings.output.goal ++ names ∧ content = Text.encodeUtf8 text ∧
    IsPackageFile settings tree names text

section Packages

variable {settings : EmissionSettings} {tree : ApiTree}

theorem goal_join_root (output : FilePath) : (output.join "__init__.py").goal = output.goal ++ ["__init__.py"] := by
  rw [join_index, Files.goal_below _ (by decide)]

theorem goal_join_marker (output : FilePath) :
    (output.join "apis/__init__.py").goal = output.goal ++ ["apis", "__init__.py"] := by
  rw [join_package, Files.goal_below _ (by decide)]

theorem goal_join_versions (output : FilePath) : (output.join "apis").goal = output.goal ++ ["apis"] := by
  rw [Files.join_segment _ (by decide), Files.goal_below _ (by decide)]

theorem goal_join_version (output : FilePath) {name : String} (plain : IsPlain name) :
    (output.join ("apis/" ++ name ++ ".py")).goal = output.goal ++ ["apis", name ++ ".py"] := by
  rw [join_version _ plain]
  exact Files.goal_below _ (List.forall_mem_cons.mpr ⟨by decide, List.forall_mem_singleton.mpr (file_isSegment plain).2.2⟩)

theorem clean_confines {allowed : Place → List UInt8 → Prop} :
    Confines (isPackagePlace settings.output.goal) allowed (clean settings) := by
  apply Confines.bind
  · -- The directory of versions goes with all that is below it, which is a place of the package as well.
    refine removeWith_confines fun files => Files.removeDirectory_isConfined files _ fun rest => ?_
    rw [goal_join_versions, List.append_assoc]
    exact isPackagePlace_versions _ rest
  · intro _
    refine removeWith_confines fun files => Files.removeFile_isConfined files _ ?_
    rw [goal_join_root]
    exact isPackagePlace_root _

theorem emit_confines (plain : ∀ entry ∈ generated tree, IsPlain (className entry)) :
    Confines (isPackagePlace settings.output.goal) (IsPackageFileAt settings tree) (emit settings tree) := by
  -- All files written are places of the package with the text that they have there.
  have marker : Confines (isPackagePlace settings.output.goal) (IsPackageFileAt settings tree)
      (writeFile settings "apis/__init__.py" "") := by
    apply writeFile_confines
    · rw [goal_join_marker]
      exact isPackagePlace_versions _ _
    · rw [goal_join_marker]
      exact ⟨_, "", rfl, rfl, .marker⟩
  have versions : Confines (isPackagePlace settings.output.goal) (IsPackageFileAt settings tree)
      (writeModules settings ((generated tree).map namedModule)) := by
    refine writeModules_confines (List.forall_mem_map.mpr fun entry member => ?_)
    have goal := goal_join_version settings.output (plain entry member)
    apply writeModule_confines
    · rw [namedModule, goal]
      exact isPackagePlace_versions _ _
    · intro text given
      rw [namedModule, goal]
      exact ⟨_, text, rfl, rfl, .version member given⟩
  have root : Confines (isPackagePlace settings.output.goal) (IsPackageFileAt settings tree)
      (writeModule settings (indexModule tree) "__init__") := by
    apply writeModule_confines
    · rw [show "__init__" ++ ".py" = "__init__.py" from rfl, goal_join_root]
      exact isPackagePlace_root _
    · intro text given
      rw [show "__init__" ++ ".py" = "__init__.py" from rfl, goal_join_root]
      exact ⟨_, text, rfl, rfl, .root given⟩
  -- The steps follow one after another, and a failure of any ends the writing with what is done so far.
  rw [emit_parts]
  refine (clean_confines.bind fun _ => marker).bind fun _ => versions.bind fun _ => root.bind fun _ => ?_
  exact .of_unchanged fun _ => rfl

/-- For every tree whose APIs are named after addresses, whatever their versions are called, and wherever the writing
stops: the paths that are kept are those of the package, no file outside it is added, changed or removed, and the file
of a version has the name of the one class in it. -/
theorem emit_stays_inside (named : ∀ entry ∈ tree, ∃ url, Name.api? url = some entry.2.metadata.identifier)
    (workspace : Workspace) :
    (∀ entry ∈ generated tree, IsVersionName (className entry) ∧
        ∃ members, classesIn (versionModule entry.1 entry.2) = [(className entry, members)]) ∧
      (∃ paths : List FilePath, (outcome (emit settings tree) workspace).2.written =
          workspace.written ++ paths.map FilePath.text ∧
        Changes workspace.files paths (outcome (emit settings tree) workspace).2.files ∧
        ∀ path ∈ paths, path = settings.output.below ["__init__.py"] ∨
          path = settings.output.below ["apis", "__init__.py"] ∨
          ∃ entry ∈ generated tree, path = settings.output.below ["apis", className entry ++ ".py"]) ∧
      IsConfined (isPackagePlace settings.output.goal) (IsPackageFileAt settings tree) workspace.files
        (outcome (emit settings tree) workspace).2.files := by
  -- The name of an API comes from an address, and that is all that the names of its modules depend on.
  have letters : ∀ entry ∈ generated tree, IsLetters entry.1.metadata.identifier := by
    intro entry member
    obtain ⟨api, among, inside⟩ := List.mem_flatMap.mp member
    obtain ⟨version, -, rfl⟩ := List.mem_map.mp inside
    obtain ⟨url, derived⟩ := named api among
    exact (api?_isLetters derived).1
  have names : ∀ entry ∈ generated tree, IsVersionName (className entry) := fun entry member =>
    versionClass_isVersionName (letters entry member) entry.2
  refine ⟨fun entry member => ⟨names entry member, _, (versionModule_parts entry.1 entry.2).2.1⟩, ?_,
    emit_confines (fun entry member => (names entry member).plain) workspace⟩
  obtain ⟨paths, early, -, changed, kept⟩ := (@emit_logs settings tree).each workspace
  refine ⟨paths, kept, changed, fun path member => ?_⟩
  -- What was written before it stopped is a beginning of what was planned.
  have planned := early.subset member
  rw [packagePaths_eq, List.mem_cons, List.mem_append, List.mem_map, List.mem_singleton] at planned
  rcases planned with rfl | ⟨entry, among, rfl⟩ | rfl
  · exact .inr (.inl (join_package _))
  · exact .inr (.inr ⟨entry, among, join_version _ (names entry among).plain⟩)
  · exact .inl (join_index _)

end Packages

/-! ### A version that looks like a path -/

def strayVersion : String := "/../../etc/é\n"

def strayApi : ApiNode where
  metadata := { shopMetadata with versions := [strayVersion] }
  versions := [(strayVersion, [{
    name := "Items", documentation := "", arguments := []
    request := { verb := "get", url := [.text "https://shop.net/items"] } }])]

theorem generated_stray : generated [("Shop", strayApi)] = [(strayApi, strayVersion)] := by
  have versions : strayApi.generatedVersions = [strayVersion] := by
    simp [ApiNode.generatedVersions, strayApi]
  simp only [generated, List.flatMap_cons, List.flatMap_nil, versions]
  rfl

/-- A version that looks like a path gets a name without slashes and dots, and the package stays where it belongs. -/
theorem stray_version_inside :
    className (strayApi, strayVersion) = "Shop________etc___" ∧
      (∃ paths : List FilePath, (outcome (emit outSettings [("Shop", strayApi)]) { files := earlierFiles }).2.written =
          paths.map FilePath.text ∧
        ∀ path ∈ paths, path = ⟨false, ["out", "__init__.py"]⟩ ∨ path = ⟨false, ["out", "apis", "__init__.py"]⟩ ∨
          path = ⟨false, ["out", "apis", "Shop________etc___.py"]⟩) ∧
      (outcome (emit outSettings [("Shop", strayApi)]) { files := earlierFiles }).2.files.entryAt? ["out", "notes.txt"] =
        some (.file [33]) := by
  have named : ∀ entry ∈ [("Shop", strayApi)], ∃ url, Name.api? url = some entry.2.metadata.identifier :=
    List.forall_mem_singleton.mpr ⟨"https://shop.net", by decide +kernel⟩
  have name : className (strayApi, strayVersion) = "Shop________etc___" := by decide
  have output : outSettings.output = ⟨false, ["out"]⟩ := by decide
  obtain ⟨-, ⟨paths, written, -, inside⟩, confined⟩ :=
    @emit_stays_inside outSettings _ named { files := earlierFiles }
  rw [generated_stray] at inside
  refine ⟨name, ⟨paths, written, fun path member => ?_⟩, ?_⟩
  · rcases inside path member with root | marker | ⟨entry, among, version⟩
    · exact .inl (root.trans (by rw [output]; rfl))
    · exact .inr (.inl (marker.trans (by rw [output]; rfl)))
    · obtain rfl := List.mem_singleton.mp among
      rw [name, output] at version
      exact .inr (.inr version)
  · exact confined.kept ["out", "notes.txt"] _ (by decide) (by decide)

end Emission
end Bindery
