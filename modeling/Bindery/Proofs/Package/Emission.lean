import Bindery.Package.Emission
import Bindery.Proofs.Files.Directories
import Bindery.Proofs.Package.LegalModules
import Bindery.Proofs.Source.Printing

/-!
# Writing packages

A package is written if its modules are programs and the system refuses nothing.
-/
namespace Bindery

open Bindery.Files (FileAction FilePath FileTree Refusal IsSegment)
open Bindery.Source (Gives Stmt areLegalAll areShallowAll printModule)

/-- Does the writing stop because the system refuses an operation? -/
def EmissionFault.isRefusal : EmissionFault → Bool
  | .refused _ _ => true
  | .unusablePath _ | .nullCharacter | .illegal _ | .unprintable _ => false

/-- What a module needs to be written: a text, and to be legal. -/
structure IsProgram (statements : List Stmt) : Prop where
  printed : Gives NullFree (printModule statements)
  legal : areLegalAll statements = true

theorem isProgram_iff {statements : List Stmt} (shallow : areLegalAll statements = true → areShallowAll statements = true) :
    IsProgram statements ↔ areLegalAll statements = true :=
  ⟨IsProgram.legal, fun legal => ⟨Source.printModule_of_legal legal (shallow legal), legal⟩⟩

/-- The modules of a package, the root module last. -/
def packageModules (tree : ApiTree) : List (String × List Stmt) :=
  Emission.versionModules tree ++ [("__init__", indexModule tree)]

namespace Emission

variable {settings : EmissionSettings}

/-! ### Modules -/

section Modules

variable {name : String} {statements : List Stmt}

theorem check_eq_ok {source : String} : check statements name source = .ok () ↔
    NullFree name ∧ NullFree source ∧ areLegalAll statements = true := by
  unfold check
  split
  next null =>
    refine ⟨nofun, fun ⟨named, free, _⟩ => ?_⟩
    -- The null character is in the name or in the source.
    rcases Bool.or_eq_true_iff.mp null with null | null
    · exact absurd (by simpa using null) named
    · exact absurd (by simpa using null) free
  next free =>
    have both : NullFree name ∧ NullFree source := by
      simpa [NullFree, not_or] using free
    split
    next legal => exact ⟨fun _ => ⟨both.1, both.2, legal⟩, fun _ => rfl⟩
    next illegal =>
      constructor
      · intro passed
        cases passed
      · intro sound
        exact absurd sound.2.2 illegal

/-- A program is written as it is. -/
theorem writeModule_of_isProgram (free : NullFree name) (program : IsProgram statements) :
    ∃ content, writeModule settings statements name = writeFile settings (name ++ ".py") content := by
  obtain ⟨source, printed, sourceFree⟩ := program.printed
  have passed := check_eq_ok.mpr ⟨free, sourceFree, program.legal⟩
  refine ⟨header settings.year ++ source ++ "\n", ?_⟩
  rw [writeModule, printed]
  simp only [passed]
  split <;> rfl

theorem check_eq_error {source : String} {fault : EmissionFault} (failed : check statements name source = .error fault) :
    fault.isRefusal = false := by
  unfold check at failed
  split at failed
  · cases failed
    rfl
  · split at failed
    · cases failed
    · cases failed
      rfl

end Modules

/-! ### Refusals -/

section Refusals

theorem refusalFault_isRefusal {path : FilePath} {refusal : Refusal} (known : refusal.IsOfSystem) :
    (refusalFault path refusal).isRefusal = true := by
  rw [refusalFault, if_neg known]
  rfl

theorem onFiles_refusals (path : FilePath) {action : FileAction Unit} (systematic : action.IsSystematic) :
    Meets (fun _ => True) (fun fault => fault.isRefusal = true) (onFiles path action) := by
  refine Meets.of_get.bind fun workspace => ?_
  have known := systematic.ends workspace.files trivial
  unfold outcome at known
  split
  next result files ended =>
    rw [ended] at known
    refine (Meets.of_modify fun _ _ => trivial).bind fun _ => ?_
    cases result with
    | ok _ => exact Meets.of_pure _
    | error refusal => exact Meets.of_throw (refusalFault_isRefusal known)

variable (free : NullFree settings.output.text)
include free

theorem removeWith_refusals {action : FilePath → FileAction Unit} {name : String} (segment : IsSegment name)
    (named : NullFree name)
    (systematic : ∀ path : FilePath, NullFree path.text → (action path).IsSystematic) :
    Meets (fun _ => True) (fun fault => fault.isRefusal = true) (removeWith settings action name) := by
  refine Meets.of_get.bind fun workspace => ?_
  have pathFree : NullFree (settings.output.join name).text := by
    rw [Files.join_segment _ segment]
    exact Files.nullFree_below free (List.forall_mem_singleton.mpr named)
  split
  next refusal failed => exact Meets.of_throw (refusalFault_isRefusal (Files.pathExists_eq_error failed))
  · exact Meets.ite (fun _ => onFiles_refusals _ (systematic _ pathFree)) fun _ => Meets.of_pure _

theorem clean_refusals : Meets (fun _ => True) (fun fault => fault.isRefusal = true) (clean settings) :=
  (removeWith_refusals free (by decide) (by decide) fun _ => Files.removeDirectory_isSystematic).bind fun _ =>
    removeWith_refusals free (by decide) (by decide) fun _ => Files.removeFile_isSystematic

theorem writeFile_refusals {name : String} {names : List String}
    (path : settings.output.join name = settings.output.below names) (named : ∀ name ∈ names, NullFree name)
    (content : String) :
    Meets (fun _ => True) (fun fault => fault.isRefusal = true) (writeFile settings name content) := by
  have systematic := Files.placeFile_isSystematic (path ▸ Files.nullFree_below free named)
    (Text.encodeUtf8 content)
  refine (onFiles_refusals _ systematic).bind fun _ => ?_
  exact (Meets.of_modify fun _ _ => trivial).bind fun _ => Meets.of_pure _

end Refusals

/-! ### Names of files -/

/-- The file of a module is a segment of a path, and leads down. -/
theorem file_isSegment {name : String} (plain : IsPlain name) :
    IsSegment (name ++ ".py") ∧ NullFree (name ++ ".py") ∧ name ++ ".py" ≠ ".." := by
  -- A word character is no slash and no null, and neither is in the suffix.
  have noChar : ∀ c, Text.isWordChar c = false → c ∉ ".py".toList → c ∉ (name ++ ".py").toList := by
    intro c other outside member
    rw [String.toList_append, List.mem_append] at member
    rcases member with inside | inside
    · exact Bool.false_ne_true (other.symm.trans (plain.word c inside))
    · exact outside inside
  have longer : ∀ other : String, other.toList.length < 3 → name ++ ".py" ≠ other := by
    rintro other short rfl
    simp at short
  exact ⟨⟨noChar '/' (by decide) (by decide), longer "" (by decide), longer "." (by decide)⟩,
    noChar '\x00' (by decide) (by decide), longer ".." (by decide)⟩

theorem join_root (path : FilePath) {name : String} (plain : IsPlain name) :
    path.join (name ++ ".py") = path.below [name ++ ".py"] :=
  Files.join_segment path (file_isSegment plain).1

theorem join_version (path : FilePath) {name : String} (plain : IsPlain name) :
    path.join ("apis/" ++ name ++ ".py") = path.below ["apis", name ++ ".py"] := by
  have same : "apis/" ++ name ++ ".py" = "apis" ++ "/" ++ (name ++ ".py") := String.append_assoc ..
  rw [same]
  exact Files.join_two path (by decide) (file_isSegment plain).1

theorem join_package (path : FilePath) : path.join "apis/__init__.py" = path.below ["apis", "__init__.py"] :=
  join_version path (by decide : IsPlain "__init__")

theorem join_index (path : FilePath) : path.join "__init__.py" = path.below ["__init__.py"] :=
  join_root path (by decide : IsPlain "__init__")

section Writing

variable {workspace : Workspace}

/-- A change that is not refused leaves the rest of a workspace alone. -/
theorem outcome_onFiles {path : FilePath} {action : FileAction Unit} {files : FileTree}
    (done : outcome action workspace.files = (.ok (), files)) :
    outcome (onFiles path action) workspace = (.ok (), { workspace with files }) := by
  rw [onFiles, outcome_bind_ok outcome_get]
  unfold outcome at done
  rw [done]
  rfl

/-- What is written is put into the files, and its path is kept. -/
theorem outcome_writeFile {name content : String} {files : FileTree}
    (placed : outcome (FileAction.placeFile (settings.output.join name) (Text.encodeUtf8 content)) workspace.files =
      (.ok (), files)) :
    outcome (writeFile settings name content) workspace = (.ok (settings.output.join name).text,
      { files, written := workspace.written ++ [(settings.output.join name).text] }) := by
  rw [writeFile, outcome_bind_ok (outcome_onFiles placed)]
  rfl

end Writing

/-! ### Whole packages -/

def writeVersions (settings : EmissionSettings) (tree : ApiTree) : Emission PUnit :=
  forIn (versionModules tree) PUnit.unit fun module _ => do
    let _ ← writeModule settings module.2 module.1
    pure (ForInStep.yield PUnit.unit)

theorem emit_eq (settings : EmissionSettings) (tree : ApiTree) :
    emit settings tree = (do
      clean settings
      let _ ← writeFile settings "apis/__init__.py" ""
      writeVersions settings tree
      let _ ← writeModule settings (indexModule tree) "__init__"
      return (← get).written) := rfl

/-- Are version modules named like identifiers? -/
def NamedModules (tree : ApiTree) : Prop :=
  ∀ module ∈ versionModules tree, ∃ name, IsPlain name ∧ module.1 = "apis/" ++ name

def packagePaths (output : FilePath) (tree : ApiTree) : List FilePath :=
  output.join "apis/__init__.py" :: (packageModules tree).map fun module => output.join (module.1 ++ ".py")

section Packages

variable {tree : ApiTree}

theorem writeVersions_refusals (free : NullFree settings.output.text) (named : NamedModules tree)
    (programs : ∀ module ∈ versionModules tree, IsProgram module.2) :
    Meets (fun _ => True) (fun fault => fault.isRefusal = true) (writeVersions settings tree) := by
  refine Meets.forEach fun module member => ?_
  obtain ⟨name, plain, same⟩ := named module member
  have file := file_isSegment plain
  have moduleFree : NullFree ("apis/" ++ name) :=
    NullFree.append (by decide) fun null => absurd (plain.word _ null) (by decide)
  -- A program passes its check, so only the writing of its file is left.
  obtain ⟨content, written⟩ := @writeModule_of_isProgram settings _ _ (same ▸ moduleFree) (programs module member)
  rw [written, same]
  refine writeFile_refusals free (join_version _ plain) ?_ content
  exact List.forall_mem_cons.mpr ⟨by decide, List.forall_mem_singleton.mpr file.2.1⟩

/-- If all modules are programs, only the system can stop the writing. -/
theorem emit_refusals (free : NullFree settings.output.text) (named : NamedModules tree)
    (programs : ∀ module ∈ packageModules tree, IsProgram module.2) :
    Meets (fun _ => True) (fun fault => fault.isRefusal = true) (emit settings tree) := by
  obtain ⟨versions, root⟩ := List.forall_mem_append.mp programs
  have index : IsProgram (indexModule tree) := root ("__init__", indexModule tree) (List.mem_singleton_self _)
  obtain ⟨content, written⟩ := @writeModule_of_isProgram settings _ _ (by decide : NullFree "__init__") index
  rw [emit_eq, written]
  refine (clean_refusals free).bind fun _ => ?_
  refine (writeFile_refusals free (join_package _) (by decide) "").bind fun _ => ?_
  refine (writeVersions_refusals free named versions).bind fun _ => ?_
  refine Meets.bind ?_ fun _ => Meets.of_get.bind fun _ => Meets.of_pure _
  exact writeFile_refusals free (join_root _ (by decide : IsPlain "__init__")) (by decide) content

end Packages

end Emission
end Bindery
