import Mathlib.Data.List.Forall2
import Bindery.Proofs.Package.BuiltPackages

/-!
# Written files

Whatever is written or removed, and wherever that stops, the paths that are kept are those of the files that were
written, in order. With this the claims about whole packages are put together.
-/
namespace Bindery

open Bindery.Files (FileAction FilePath FileTree Place Refusal)
open Bindery.Source (Stmt)

/-- How files change by operations, of which some write a file: the paths are those of the files written. -/
inductive Changes : FileTree → List FilePath → FileTree → Prop
  | none (files : FileTree) : Changes files [] files
  | wrote {before between after : FileTree} {path : FilePath} {content : List UInt8} {paths : List FilePath}
      (done : outcome (FileAction.placeFile path content) before = (.ok (), between))
      (later : Changes between paths after) : Changes before (path :: paths) after
  | refused {before between after : FileTree} {path : FilePath} {content : List UInt8} {refusal : Refusal}
      {paths : List FilePath} (failed : outcome (FileAction.placeFile path content) before = (.error refusal, between))
      (later : Changes between paths after) : Changes before paths after
  | removed {before after : FileTree} {action : FileAction Unit} {path : FilePath} {paths : List FilePath}
      (removal : action = FileAction.removeDirectory path ∨ action = FileAction.removeFile path)
      (later : Changes (action.applyTo before) paths after) : Changes before paths after

theorem Changes.trans {first second third : FileTree} {paths paths' : List FilePath} (here : Changes first paths second)
    (there : Changes second paths' third) : Changes first (paths ++ paths') third := by
  induction here with
  | none => exact there
  | wrote done _ ih => exact .wrote done (ih there)
  | refused failed _ ih => exact .refused failed (ih there)
  | removed removal _ ih => exact .removed removal (ih there)

namespace Emission

variable {settings : EmissionSettings}

/-- A step writes files in the order of a plan, all of them if it does not fail, and keeps their paths. -/
structure Logs {α : Type} (step : Emission α) (plan : List FilePath) : Prop where
  each : ∀ before : Workspace, ∃ paths, paths <+: plan ∧
    (∀ a after, outcome step before = (.ok a, after) → paths = plan) ∧
    Changes before.files paths (outcome step before).2.files ∧
    (outcome step before).2.written = before.written ++ paths.map FilePath.text

section Sequences

variable {α β : Type}

theorem Logs.of_unchanged {step : Emission α} (same : ∀ before, (outcome step before).2 = before) : Logs step [] where
  each before := ⟨[], List.prefix_rfl, fun _ _ _ => rfl, (same before).symm ▸ .none _, by simp [same before]⟩

theorem Logs.bind {first : Emission α} {next : α → Emission β} {plan plan' : List FilePath} (here : Logs first plan)
    (there : ∀ a, Logs (next a) plan') : Logs (first >>= next) (plan ++ plan') := by
  constructor
  intro before
  obtain ⟨paths, early, whole, changed, kept⟩ := here.each before
  -- After a failure the plan of the second step is not begun.
  cases ended : outcome first before with
  | mk result between =>
    rw [ended] at changed kept
    cases result with
    | error fault =>
      rw [outcome_bind_error ended]
      exact ⟨paths, early.trans (List.prefix_append _ _), nofun, changed, kept⟩
    | ok a =>
      obtain ⟨paths', early', whole', changed', kept'⟩ := (there a).each between
      rw [outcome_bind_ok ended, whole a between ended] at *
      refine ⟨plan ++ paths', (List.prefix_append_right_inj plan).mpr early', fun b after done => ?_,
        changed.trans changed', ?_⟩
      · rw [whole' b after done]
      · rw [kept', kept, List.map_append, List.append_assoc]

end Sequences

/-- A change that is refused leaves the rest of a workspace alone. -/
theorem onFiles_refused {path : FilePath} {action : FileAction Unit} {workspace : Workspace} {refusal : Refusal}
    {files : FileTree} (failed : outcome action workspace.files = (.error refusal, files)) :
    outcome (onFiles path action) workspace = (.error (refusalFault path refusal), { workspace with files }) := by
  rw [onFiles, outcome_bind_ok outcome_get]
  unfold outcome at failed
  rw [failed]
  rfl

theorem onFiles_after (path : FilePath) (action : FileAction Unit) (workspace : Workspace) :
    (outcome (onFiles path action) workspace).2 = { workspace with files := action.applyTo workspace.files } := by
  cases ended : outcome action workspace.files with
  | mk result files =>
    have applied : action.applyTo workspace.files = files := congrArg Prod.snd ended
    rw [applied]
    cases result with
    | ok _ => rw [outcome_onFiles ended]
    | error refusal => rw [onFiles_refused ended]

theorem writeFile_logs (name content : String) : Logs (writeFile settings name content) [settings.output.join name] := by
  constructor
  intro before
  cases ended : outcome (FileAction.placeFile (settings.output.join name) (Text.encodeUtf8 content)) before.files with
  | mk result files =>
    -- A file that is refused is not kept.
    cases result with
    | ok _ =>
      rw [outcome_writeFile ended]
      exact ⟨_, List.prefix_rfl, fun _ _ _ => rfl, .wrote ended (.none _), rfl⟩
    | error refusal =>
      rw [writeFile, outcome_bind_error (onFiles_refused ended)]
      refine ⟨[], List.nil_prefix, ?_, .refused ended (.none _), (List.append_nil _).symm⟩
      intro _ _ done
      cases done

theorem removeWith_logs {action : FilePath → FileAction Unit} {name : String}
    (removal : ∀ path, action path = FileAction.removeDirectory path ∨ action path = FileAction.removeFile path) :
    Logs (removeWith settings action name) [] := by
  constructor
  intro before
  refine ⟨[], List.prefix_rfl, fun _ _ _ => rfl, ?_⟩
  rw [removeWith, outcome_bind_ok outcome_get]
  cases before.files.pathExists (settings.output.join name) with
  | error refusal => exact ⟨.none _, (List.append_nil _).symm⟩
  | ok present =>
    cases present with
    | false => exact ⟨.none _, (List.append_nil _).symm⟩
    | true =>
      simp only [if_true, onFiles_after]
      exact ⟨.removed (removal _) (.none _), (List.append_nil _).symm⟩

theorem clean_logs : Logs (clean settings) [] :=
  (removeWith_logs fun _ => .inl rfl).bind fun _ => removeWith_logs fun _ => .inr rfl

theorem writeModule_logs (statements : List Stmt) (name : String) :
    Logs (writeModule settings statements name) [settings.output.join (name ++ ".py")] := by
  rw [writeModule_eq]
  cases moduleText settings name statements with
  | error fault =>
    exact ⟨fun before => ⟨[], List.nil_prefix, nofun, .none _, (List.append_nil _).symm⟩⟩
  | ok text => exact writeFile_logs _ text

theorem writeModules_logs (modules : List (String × List Stmt)) :
    Logs (writeModules settings modules) (modules.map fun module => settings.output.join (module.1 ++ ".py")) := by
  induction modules with
  | nil => exact .of_unchanged fun _ => rfl
  | cons module rest ih =>
    rw [writeModules_cons]
    exact (writeModule_logs module.2 module.1).bind fun _ => ih

theorem emit_logs (tree : ApiTree) : Logs (emit settings tree) (packagePaths settings.output tree) := by
  have versions : Logs (writeModules settings ((generated tree).map namedModule))
      ((generated tree).map (versionPath settings.output)) := by
    have modules := @writeModules_logs settings ((generated tree).map namedModule)
    rwa [List.map_map] at modules
  rw [emit_parts, packagePaths_eq]
  refine (clean_logs.bind fun _ => writeFile_logs "apis/__init__.py" "").bind fun _ => versions.bind fun _ => ?_
  exact (writeModule_logs (indexModule tree) "__init__").bind fun _ => .of_unchanged fun _ => rfl

/-! ### Sequences of tasks -/

/-- What can be asked of an emitter. -/
inductive Task where
  | emit (tree : ApiTree)
  | clean
  | module (statements : List Stmt) (name : String)

/-- Do what is asked for, and give the paths that are told. -/
def Task.run (settings : EmissionSettings) : Task → Emission (List String)
  | .emit tree => Emission.emit settings tree
  | .clean => do
    Emission.clean settings
    return []
  | .module statements name => do return [← writeModule settings statements name]

/-- The paths that a task writes if nothing stops it. -/
def Task.paths (output : FilePath) : Task → List FilePath
  | .emit tree => packagePaths output tree
  | .clean => []
  | .module _ name => [output.join (name ++ ".py")]

/-- A workspace after some tasks, whether they succeed or not. -/
def after (settings : EmissionSettings) (workspace : Workspace) (tasks : List Task) : Workspace :=
  tasks.foldl (fun workspace task => (outcome (task.run settings) workspace).2) workspace

section Replacement

variable {tree : ApiTree} {texts : List (String × String)}

theorem className_ne_marker {entry : ApiNode × String} (something : entry.1.metadata.identifier ≠ "")
    (letters : ∀ c ∈ entry.1.metadata.identifier.toList, c.isAlpha = true) :
    className entry ++ ".py" ≠ "__init__.py" := by
  intro same
  obtain ⟨c, rest, chars, letter⟩ := versionClass_start ⟨something, letters⟩ entry.2
  have heads := congrArg (fun s : String => s.toList.head?) same
  obtain rfl : c = '_' := by simpa [className, chars] using heads
  cases letter

end Replacement

/-! ### A package that takes the place of another one, and one that does not -/

/-- A directory with an earlier package, beside another file. -/
def earlierFiles : FileTree where
  entries := [(["out"], .directory), (["out", "apis"], .directory), (["out", "apis", "Old_v1.py"], .file []),
    (["out", "__init__.py"], .file []), (["out", "notes.txt"], .file [33])]

def outSettings : EmissionSettings := { output := .ofText "out" }

end Emission
end Bindery
