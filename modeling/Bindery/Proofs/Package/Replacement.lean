import Bindery.Proofs.Files.Making
import Bindery.Proofs.Package.Emission

/-!
# Replacing packages

A package takes the place of what an earlier run left there, whatever that was, and all else stays as it is. If a
module cannot be written, the modules before it are there, and the root module is not.
-/
namespace Bindery

open Bindery.Files (Entry FileAction FilePath FileTree Grows IsEmptyDirectory IsOrdinary Keeps Place)
open Bindery.Source (Gives Stmt areLegalAll printModule)

/-! ### Texts of modules -/

/-- The text of a module as it is written, if it has one and is a program. -/
def moduleText (settings : EmissionSettings) (name : String) (statements : List Stmt) : Except EmissionFault String :=
  match printModule statements with
  | .error fault => .error (.unprintable fault)
  | .ok source =>
    match if settings.validate then Emission.check statements name source else .ok () with
    | .error fault => .error fault
    | .ok () => .ok (Emission.header settings.year ++ source ++ "\n")

theorem moduleText_isRefusal {settings : EmissionSettings} {name : String} {statements : List Stmt} {fault : EmissionFault}
    (failed : moduleText settings name statements = .error fault) : fault.isRefusal = false := by
  unfold moduleText at failed
  -- A text may be missing, or the check of it may fail; the system has no part in either.
  split at failed
  · cases failed
    rfl
  split at failed
  next other stopped =>
    cases failed
    split at stopped
    · exact Emission.check_eq_error stopped
    · cases stopped
  · cases failed

/-- The versions that a tree has methods for, with their APIs, in the order in which they are written. -/
def generated (tree : ApiTree) : List (ApiNode × String) :=
  tree.flatMap fun (_, api) => api.generatedVersions.map fun version => (api, version)

/-- The class of a version, which is also the name of its module. -/
def className (entry : ApiNode × String) : String := Name.versionClass entry.1.metadata.identifier entry.2

/-- The file of a version, and its text. -/
def versionFile (settings : EmissionSettings) (entry : ApiNode × String) : Except EmissionFault (String × String) :=
  (moduleText settings ("apis/" ++ className entry) (versionModule entry.1 entry.2)).map fun text =>
    (className entry ++ ".py", text)

theorem versionFile_eq_ok {settings : EmissionSettings} {entry : ApiNode × String} {file : String × String}
    (built : versionFile settings entry = .ok file) :
    ∃ text, moduleText settings ("apis/" ++ className entry) (versionModule entry.1 entry.2) = .ok text ∧
      file = (className entry ++ ".py", text) := by
  unfold versionFile at built
  cases text : moduleText settings ("apis/" ++ className entry) (versionModule entry.1 entry.2) with
  | error fault =>
    rw [text] at built
    cases built
  | ok text' =>
    rw [text] at built
    cases built
    exact ⟨text', rfl, rfl⟩

theorem versionFile_eq_error {settings : EmissionSettings} {entry : ApiNode × String} {fault : EmissionFault}
    (failed : versionFile settings entry = .error fault) :
    moduleText settings ("apis/" ++ className entry) (versionModule entry.1 entry.2) = .error fault := by
  unfold versionFile at failed
  cases text : moduleText settings ("apis/" ++ className entry) (versionModule entry.1 entry.2) with
  | error other =>
    rw [text] at failed
    cases failed
    rfl
  | ok _ =>
    rw [text] at failed
    cases failed

def rootText (settings : EmissionSettings) (tree : ApiTree) : Except EmissionFault String :=
  moduleText settings "__init__" (indexModule tree)

/-! ### Places of a package -/

/-- Is this a place of a package: in the directory of its versions, or that of its root module? -/
def isPackagePlace (place other : Place) : Bool :=
  (place ++ ["apis"]).isPrefixOf other || decide (other = place ++ ["__init__.py"])

/-- What a package has: the files of its versions, of which the last one of a name counts, and a root module. -/
structure IsPackage (place : Place) (texts : List (String × String)) (root : Option String) (files : FileTree) :
    Prop where
  directory : files.entryAt? (place ++ ["apis"]) = some .directory
  versions : ∀ file, files.entryAt? (place ++ ["apis", file]) =
    ((("__init__.py", "") :: texts).reverse.lookup file).map fun text => .file (Text.encodeUtf8 text)
  deeper : ∀ first second rest, files.entryAt? (place ++ "apis" :: first :: second :: rest) = none
  root : files.entryAt? (place ++ ["__init__.py"]) = root.map fun text => .file (Text.encodeUtf8 text)

/-- Does all beside a package stay as it is? Directories may be made on the way to it. -/
def IsLeftBeside (place : Place) (before after : FileTree) : Prop :=
  ∀ other, isPackagePlace place other = false → after.entryAt? other = before.entryAt? other ∨
    before.entryAt? other = none ∧ after.entryAt? other = some .directory

/-- Nothing is in the way of a package. The last tree is what is there when the writing begins. -/
inductive IsReady (output : FilePath) (place : Place) (files : FileTree) : FileTree → Prop
  /-- The output is there, and the path to it does not lead through the package itself. -/
  | there (found : (files.drop (isPackagePlace place)).find output = .ok place)
      (directory : files.entryAt? place = some .directory)
      (versions : files.entryAt? (place ++ ["apis"]) = some .directory ∨
        ∀ rest, files.entryAt? (place ++ "apis" :: rest) = none)
      (root : files.entryAt? (place ++ ["__init__.py"]) ≠ some .directory) :
      IsReady output place files (files.drop (isPackagePlace place))
  /-- The output can be made, and no package turns up behind it. -/
  | fresh {made : FileTree} (opened : outcome (FileAction.makeDirectories output) files = (.ok (), made))
      (found : made.find output = .ok place)
      (clear : ∀ other, isPackagePlace place other = true → made.entryAt? other = none) :
      IsReady output place files made

theorem isPackagePlace_iff {place other : Place} : isPackagePlace place other = true ↔
    (∃ rest, other = place ++ "apis" :: rest) ∨ other = place ++ ["__init__.py"] := by
  rw [isPackagePlace, Bool.or_eq_true_iff, decide_eq_true_iff, List.isPrefixOf_iff_prefix]
  refine or_congr ⟨fun ⟨rest, same⟩ => ⟨rest, ?_⟩, fun ⟨rest, same⟩ => ⟨rest, ?_⟩⟩ Iff.rfl
  · rw [← same, List.append_assoc]
    rfl
  · rw [same, List.append_assoc]
    rfl

theorem isPackagePlace_versions (place : Place) (rest : List String) :
    isPackagePlace place (place ++ "apis" :: rest) = true := isPackagePlace_iff.mpr (.inl ⟨rest, rfl⟩)

theorem isPackagePlace_root (place : Place) : isPackagePlace place (place ++ ["__init__.py"]) = true :=
  isPackagePlace_iff.mpr (.inr rfl)

/-- The places of a package are below the one that holds it. -/
theorem length_of_isPackagePlace {place other : Place} (inside : isPackagePlace place other = true) :
    place.length < other.length := by
  rcases isPackagePlace_iff.mp inside with ⟨rest, rfl⟩ | rfl <;> simp

theorem isPackagePlace_self (place : Place) : isPackagePlace place place = false :=
  Bool.eq_false_iff.mpr fun inside => Nat.lt_irrefl _ (length_of_isPackagePlace inside)

theorem isGiven_of_isPackagePlace {place other : Place} (inside : isPackagePlace place other = true) :
    other.isGiven = false := by
  rcases isPackagePlace_iff.mp inside with ⟨rest, rfl⟩ | rfl
  · exact Files.isGiven_append (by decide) (by decide) rest
  · exact Files.isGiven_append (by decide) (by decide) []

/-- Away from a package nothing changes without it. -/
theorem entryAt?_drop_beside {place other : Place} (files : FileTree) (beside : isPackagePlace place other = false) :
    (files.drop (isPackagePlace place)).entryAt? other = files.entryAt? other := by
  rw [Files.entryAt?_drop, beside]
  split
  next given => exact (Files.entryAt?_of_isGiven given files).symm
  · rfl

theorem entryAt?_drop_inside {place other : Place} (files : FileTree) (inside : isPackagePlace place other = true) :
    (files.drop (isPackagePlace place)).entryAt? other = none := by
  rw [Files.entryAt?_drop, isGiven_of_isPackagePlace inside, inside]
  rfl

/-- Two packages with the same texts are the same. -/
theorem IsPackage.unique {place : Place} {texts : List (String × String)} {root : Option String}
    {first second : FileTree} (here : IsPackage place texts root first) (there : IsPackage place texts root second)
    {other : Place} (inside : isPackagePlace place other = true) : first.entryAt? other = second.entryAt? other := by
  rcases isPackagePlace_iff.mp inside with ⟨rest, rfl⟩ | rfl
  -- A place of the package is its directory, a file in it, something deeper, or the root module.
  · match rest with
    | [] => rw [here.directory, there.directory]
    | [file] => rw [here.versions, there.versions]
    | name :: name' :: rest => rw [here.deeper, there.deeper]
  · rw [here.root, there.root]

/-! ### The start -/

section Start

variable {output : FilePath} {place : Place} {files made : FileTree}

/-- Where no package turns up there is none to be removed. -/
theorem drop_of_clear (opened : outcome (FileAction.makeDirectories output) files = (.ok (), made))
    (clear : ∀ other, isPackagePlace place other = true → made.entryAt? other = none) :
    files.drop (isPackagePlace place) = files := by
  refine Files.drop_eq_self fun other inside => ⟨isGiven_of_isPackagePlace inside, ?_⟩
  obtain ⟨grown, -⟩ := Files.isMade_of_makeDirectories opened
  rcases grown other with same | ⟨absent, -⟩
  · exact same ▸ clear other inside
  · exact absent

/-- A package begins where its directory can be followed and has nothing of it. -/
structure Begins (output : FilePath) (place : Place) (made : FileTree) : Prop where
  found : made.find output = .ok place
  directory : made.entryAt? place = some .directory
  clear : ∀ other, isPackagePlace place other = true → made.entryAt? other = none

/-- The writing begins without what an earlier run left. -/
theorem IsReady.begins (ready : IsReady output place files made) :
    outcome (FileAction.makeDirectories output) (files.drop (isPackagePlace place)) = (.ok (), made) ∧
      Begins output place made := by
  cases ready with
  | there found directory versions root =>
    -- With the package dropped, the output is there already and nothing is made.
    have kept := (entryAt?_drop_beside files (isPackagePlace_self place)).trans directory
    exact ⟨Files.makeDirectories_present found kept, found, kept, fun other => entryAt?_drop_inside files⟩
  | fresh opened found clear =>
    obtain ⟨-, other, leads, directory⟩ := Files.isMade_of_makeDirectories opened
    cases found.symm.trans leads
    exact ⟨(drop_of_clear opened clear).symm ▸ opened, found, directory, clear⟩

/-- What stays beside a package that began stays beside what was there before. -/
theorem IsReady.leaves (ready : IsReady output place files made) {after : FileTree}
    (beside : ∀ other, isPackagePlace place other = false → after.entryAt? other = made.entryAt? other) :
    IsLeftBeside place files after := by
  intro other outside
  rw [beside other outside]
  cases ready with
  | there found directory versions root => exact .inl (entryAt?_drop_beside files outside)
  | fresh opened found clear => exact (Files.isMade_of_makeDirectories opened).1 other

/-- In an empty directory nothing is in the way. -/
theorem isReady_of_isEmptyDirectory (empty : IsEmptyDirectory files output place) :
    IsReady output place files (files.drop (isPackagePlace place)) := by
  have versions (rest : List String) := empty.empty "apis" rest (by decide) (by decide)
  have root := empty.empty "__init__.py" [] (by decide) (by decide)
  refine .there ?_ empty.directory (.inr versions) (by simp [root])
  -- There is nothing to drop.
  rw [Files.drop_eq_self fun other inside => ⟨isGiven_of_isPackagePlace inside, ?_⟩]
  · exact empty.found
  · rcases isPackagePlace_iff.mp inside with ⟨rest, rfl⟩ | rfl
    · exact versions rest
    · exact root

end Start

namespace Emission

variable {settings : EmissionSettings} {workspace : Workspace} {place : Place} {made : FileTree}

/-! ### Removal -/

section Removal

variable {name : String} {action : FilePath → FileAction Unit}

theorem removeWith_absent (absent : workspace.files.pathExists (settings.output.join name) = .ok false) :
    outcome (removeWith settings action name) workspace = (.ok (), workspace) := by
  rw [removeWith, outcome_bind_ok outcome_get, absent]
  rfl

theorem removeWith_present {files : FileTree}
    (present : workspace.files.pathExists (settings.output.join name) = .ok true)
    (removed : outcome (action (settings.output.join name)) workspace.files = (.ok (), files)) :
    outcome (removeWith settings action name) workspace = (.ok (), { workspace with files }) := by
  rw [removeWith, outcome_bind_ok outcome_get, present]
  exact outcome_onFiles removed

variable (found : workspace.files.find settings.output = .ok place)
  (directory : workspace.files.entryAt? place = some .directory)
include found directory

/-- The versions are removed with their directory, if there is one. -/
theorem removeVersions (short : (settings.output.below ["apis"]).text.utf8ByteSize ≤ FileTree.pathLimit)
    (versions : workspace.files.entryAt? (place ++ ["apis"]) = some .directory ∨
      ∀ rest, workspace.files.entryAt? (place ++ "apis" :: rest) = none) :
    outcome (removeWith settings FileAction.removeDirectory "apis") workspace =
      (.ok (), { workspace with files := workspace.files.drop fun other => (place ++ ["apis"]).isPrefixOf other }) := by
  have path : settings.output.join "apis" = settings.output.below ["apis"] := Files.join_segment _ (by decide)
  have leads := Files.find_below found directory (by decide : IsOrdinary "apis") short
  have exists' := Files.pathExists_of_find leads
  rw [← path] at leads exists'
  -- If there are no versions, nothing is removed, and nothing would be dropped.
  rcases versions with present | absent
  · exact removeWith_present (exists'.trans (by rw [present]; rfl)) (Files.outcome_removeDirectory leads present)
  · rw [Files.drop_eq_self fun other inside => ?_]
    · exact removeWith_absent (exists'.trans (by rw [absent []]; rfl))
    · obtain ⟨rest, rfl⟩ := List.isPrefixOf_iff_prefix.mp inside
      rw [List.append_assoc]
      exact ⟨Files.isGiven_append (by decide) (by decide) rest, absent rest⟩

theorem removeRoot (short : (settings.output.below ["__init__.py"]).text.utf8ByteSize ≤ FileTree.pathLimit)
    (root : workspace.files.entryAt? (place ++ ["__init__.py"]) ≠ some .directory) :
    outcome (removeWith settings FileAction.removeFile "__init__.py") workspace =
      (.ok (), { workspace with files := workspace.files.drop fun other => decide (other = place ++ ["__init__.py"]) }) := by
  have path : settings.output.join "__init__.py" = settings.output.below ["__init__.py"] :=
    Files.join_segment _ (by decide)
  have leads := Files.find_below found directory (by decide : IsOrdinary "__init__.py") short
  have exists' := Files.pathExists_of_find leads
  rw [← path] at leads exists'
  -- A directory in the place of the root module was excluded.
  cases entry : workspace.files.entryAt? (place ++ ["__init__.py"]) with
  | none =>
    rw [Files.drop_eq_self fun other inside => ?_]
    · exact removeWith_absent (exists'.trans (by rw [entry]; rfl))
    · rw [of_decide_eq_true inside]
      exact ⟨Files.isGiven_append (by decide) (by decide) [], entry⟩
  | some entry' =>
    cases entry' with
    | directory => exact absurd entry root
    | file content =>
      exact removeWith_present (exists'.trans (by rw [entry]; rfl)) (Files.outcome_removeFile leads entry)

end Removal

/-- What an earlier run left is removed, and nothing else. -/
theorem clean_ready (ready : IsReady settings.output place workspace.files made)
    (package : (settings.output.join "apis/__init__.py").Fits) (root : (settings.output.join "__init__.py").Fits) :
    outcome (clean settings) workspace =
      (.ok (), { workspace with files := workspace.files.drop (isPackagePlace place) }) := by
  have inner : (settings.output.below ["apis"]).text.utf8ByteSize ≤ FileTree.pathLimit := by
    rw [join_package] at package
    exact Nat.le_trans (Files.size_text_below (by decide) _) package.whole
  have index : (settings.output.below ["__init__.py"]).text.utf8ByteSize ≤ FileTree.pathLimit := by
    rw [join_index] at root
    exact root.whole
  cases ready with
  | there found directory versions free =>
    -- The two removals are one, that of all places of the package.
    have both := Files.drop_drop workspace.files (fun other => (place ++ ["apis"]).isPrefixOf other)
      fun other => decide (other = place ++ ["__init__.py"])
    have keeps := Files.keeps_drop (workspace.files.drop fun other => (place ++ ["apis"]).isPrefixOf other)
      fun other => decide (other = place ++ ["__init__.py"])
    rw [both] at keeps
    have kept := (entryAt?_drop_beside workspace.files (isPackagePlace_self place)).trans directory
    have first := removeVersions (Files.find_keeps (Files.keeps_drop _ _) found) directory inner versions
    rw [clean, outcome_bind_ok first]
    refine (removeRoot (Files.find_keeps keeps found) (keeps place kept) index ?_).trans (by rw [both]; rfl)
    -- The root module does not go with the versions.
    intro there
    exact free (Files.keeps_drop _ _ _ there)
  | fresh opened found clear =>
    have apis : settings.output.join "apis" = settings.output.below ["apis"] := Files.join_segment _ (by decide)
    -- Behind an output that is yet to be made neither of the two is seen.
    have first := Files.pathExists_below opened found (clear _ (isPackagePlace_versions place [])) (by decide) inner
    have second := Files.pathExists_below opened found (clear _ (isPackagePlace_root place)) (by decide) index
    rw [← apis] at first
    rw [← join_index] at second
    rw [clean, outcome_bind_ok (removeWith_absent first), drop_of_clear opened clear]
    exact removeWith_absent second

/-! ### Writing one file after another -/

/-- A package under way in a tree that began as another one. -/
structure Stands (place : Place) (made : FileTree) (texts : List (String × String)) (root : Option String)
    (files : FileTree) : Prop where
  package : IsPackage place texts root files
  beside : ∀ other, isPackagePlace place other = false → files.entryAt? other = made.entryAt? other

section Steps

variable {texts : List (String × String)} {root : Option String} {files : FileTree}

/-- A package leads where its directory led before it was written. -/
theorem Stands.leads {output : FilePath} (begins : Begins output place made) (stands : Stands place made texts root files) :
    files.find output = .ok place ∧ files.entryAt? place = some .directory := by
  -- No directory the path led through was a place of the package.
  have keeps : Keeps made files := by
    intro other there
    cases inside : isPackagePlace place other with
    | true => cases there.symm.trans (begins.clear other inside)
    | false => exact (stands.beside other inside).trans there
  exact ⟨Files.find_keeps keeps begins.found, keeps place begins.directory⟩

theorem beside_put {other : Place} {entry : Entry} (inside : isPackagePlace place other = true)
    (beside : ∀ other, isPackagePlace place other = false → files.entryAt? other = made.entryAt? other) :
    ∀ other', isPackagePlace place other' = false → (files.put other entry).entryAt? other' = made.entryAt? other' := by
  intro other' outside
  have apart : other' ≠ other := fun same => Bool.false_ne_true (outside.symm.trans (same ▸ inside))
  rw [Files.entryAt?_put, if_neg apart, ← beside other' outside]
  split
  next given => exact (Files.entryAt?_of_isGiven given files).symm
  · rfl

/-- What is put at a place of a package is found there, and the rest of the package stays. -/
theorem entryAt?_put_inside {other other' : Place} {entry : Entry} (inside : isPackagePlace place other' = true) :
    (files.put other entry).entryAt? other' = if other' = other then some entry else files.entryAt? other' := by
  rw [Files.entryAt?_put, isGiven_of_isPackagePlace inside]
  simp

/-- The directory of the versions, with a file that makes it a package. -/
theorem stands_begin {output : FilePath} (begins : Begins output place made) :
    Stands place made [] none
      ((made.put (place ++ ["apis"]) .directory).put (place ++ ["apis", "__init__.py"]) (.file (Text.encodeUtf8 ""))) where
  package :=
    { directory := by
        rw [entryAt?_put_inside (isPackagePlace_versions place []), if_neg (by simp),
          entryAt?_put_inside (isPackagePlace_versions place []), if_pos rfl]
      versions := fun file => by
        have inside := isPackagePlace_versions place [file]
        rw [entryAt?_put_inside inside, entryAt?_put_inside inside, begins.clear _ inside]
        by_cases same : file = "__init__.py"
        · simp [same]
        · simp [same, beq_false_of_ne same, List.lookup_cons]
      deeper := fun first second rest => by
        have inside := isPackagePlace_versions place (first :: second :: rest)
        rw [entryAt?_put_inside inside, entryAt?_put_inside inside, begins.clear _ inside]
        simp
      root := by
        have inside := isPackagePlace_root place
        rw [entryAt?_put_inside inside, entryAt?_put_inside inside, begins.clear _ inside]
        simp }
  beside := beside_put (isPackagePlace_versions place _)
    (beside_put (isPackagePlace_versions place []) fun _ _ => rfl)

/-- A version takes the place of an earlier one of its name. -/
theorem Stands.put_version (stands : Stands place made texts none files) (file text : String) :
    Stands place made (texts ++ [(file, text)]) none
      (files.put (place ++ ["apis", file]) (.file (Text.encodeUtf8 text))) where
  package :=
    { directory := by
        rw [entryAt?_put_inside (isPackagePlace_versions place []), if_neg (by simp)]
        exact stands.package.directory
      versions := fun other => by
        -- The file written last is looked at first.
        have newest : (("__init__.py", "") :: (texts ++ [(file, text)])).reverse =
            (file, text) :: (("__init__.py", "") :: texts).reverse := by simp
        rw [entryAt?_put_inside (isPackagePlace_versions place [other]), newest, List.lookup_cons]
        by_cases same : other = file
        · simp [same]
        · simp [same, beq_false_of_ne same, stands.package.versions other]
      deeper := fun first second rest => by
        rw [entryAt?_put_inside (isPackagePlace_versions place _), if_neg (by simp)]
        exact stands.package.deeper first second rest
      root := by
        rw [entryAt?_put_inside (isPackagePlace_root place), if_neg (by simp)]
        exact stands.package.root }
  beside := beside_put (isPackagePlace_versions place _) stands.beside

theorem Stands.put_root (stands : Stands place made texts root files) (text : String) :
    Stands place made texts (some text) (files.put (place ++ ["__init__.py"]) (.file (Text.encodeUtf8 text))) where
  package :=
    { directory := by
        rw [entryAt?_put_inside (isPackagePlace_versions place []), if_neg (by simp)]
        exact stands.package.directory
      versions := fun file => by
        rw [entryAt?_put_inside (isPackagePlace_versions place _), if_neg (by simp)]
        exact stands.package.versions file
      deeper := fun first second rest => by
        rw [entryAt?_put_inside (isPackagePlace_versions place _), if_neg (by simp)]
        exact stands.package.deeper first second rest
      root := by
        rw [entryAt?_put_inside (isPackagePlace_root place), if_pos rfl]
        rfl }
  beside := beside_put (isPackagePlace_root place) stands.beside

/-- No directory is where a version goes. -/
theorem IsPackage.no_directory (package : IsPackage place texts root files) (file : String) :
    files.entryAt? (place ++ ["apis", file]) ≠ some .directory := by
  rw [package.versions]
  cases (("__init__.py", "") :: texts).reverse.lookup file <;> simp

end Steps

/-! ### Whole packages -/

theorem writeModule_eq (name : String) (statements : List Stmt) : writeModule settings statements name =
    match moduleText settings name statements with
    | .error fault => throw fault
    | .ok text => writeFile settings (name ++ ".py") text := by
  unfold writeModule moduleText
  cases printModule statements with
  | error fault => rfl
  | ok source =>
    cases settings.validate with
    | false => rfl
    | true =>
      simp only [if_true]
      cases check statements name source <;> rfl

/-- A module that cannot be written changes nothing. -/
theorem writeModule_error {name : String} {statements : List Stmt} {fault : EmissionFault}
    (failed : moduleText settings name statements = .error fault) (workspace : Workspace) :
    outcome (writeModule settings statements name) workspace = (.error fault, workspace) := by
  rw [writeModule_eq, failed]
  rfl

def versionPath (output : FilePath) (entry : ApiNode × String) : FilePath :=
  output.join ("apis/" ++ className entry ++ ".py")

/-- The module of a version with its name. -/
def namedModule (entry : ApiNode × String) : String × List Stmt :=
  ("apis/" ++ className entry, versionModule entry.1 entry.2)

theorem versionModules_eq (tree : ApiTree) : versionModules tree = (generated tree).map namedModule := by
  simp only [versionModules, generated, List.map_flatMap, List.map_map]
  rfl

/-- A step that leaves a package with some texts in place of a workspace, and tells of these paths. -/
structure Reaches {α : Type} (place : Place) (made : FileTree) (texts : List (String × String)) (root : Option String)
    (paths : List FilePath) (step : Emission α) (result : Except EmissionFault α) (before after : Workspace) : Prop where
  ended : outcome step before = (result, after)
  stands : Stands place made texts root after.files
  written : after.written = before.written ++ paths.map FilePath.text

section Writing

variable {texts : List (String × String)}

/-- The first file opens a package. -/
theorem writeFile_begin (opened : outcome (FileAction.makeDirectories settings.output) workspace.files = (.ok (), made))
    (begins : Begins settings.output place made) (fits : (settings.output.join "apis/__init__.py").Fits) :
    ∃ path after, Reaches place made [] none [settings.output.join "apis/__init__.py"]
      (writeFile settings "apis/__init__.py" "") (.ok path) workspace after := by
  have path := join_package settings.output
  have nothing := begins.clear _ (isPackagePlace_versions place [])
  have stands := stands_begin begins
  rw [path] at fits
  have inner := Nat.le_trans (Files.size_text_below (by decide) "__init__.py") fits.whole
  have directories := Files.makeDirectories_below opened begins.found nothing (by decide) inner
  obtain ⟨-, other, leads, directory⟩ := Files.isMade_of_makeDirectories directories
  have keeps : Keeps made (made.put (place ++ ["apis"]) .directory) := Files.keeps_put (by simp [nothing])
  have here := Files.find_below (Files.find_keeps keeps begins.found) (keeps place begins.directory)
    (by decide : IsOrdinary "apis") inner
  cases here.symm.trans leads
  -- The directory is new, so no directory is in the place of the marker.
  have free : (made.put (place ++ ["apis"]) .directory).entryAt? (place ++ ["apis"] ++ ["__init__.py"]) ≠
      some .directory := by
    have inside := isPackagePlace_versions place ["__init__.py"]
    rw [List.append_assoc, List.singleton_append, entryAt?_put_inside inside, if_neg (by simp), begins.clear _ inside]
    simp
  -- Place the marker there: directory and path are known from here on.
  have placed := Files.placeFile_made directories here directory (by decide : IsOrdinary "__init__.py")
    (by rw [Files.below_below]; exact fits.whole) free (Text.encodeUtf8 "")
  rw [Files.below_below, List.singleton_append, ← path, List.append_assoc, List.singleton_append] at placed
  exact ⟨_, _, outcome_writeFile placed, stands, rfl⟩

theorem writeFile_version (begins : Begins settings.output place made)
    (stands : Stands place made texts none workspace.files) {name : String} (plain : IsPlain name)
    (fits : (settings.output.join ("apis/" ++ name ++ ".py")).Fits) (text : String) :
    ∃ path after, Reaches place made (texts ++ [(name ++ ".py", text)]) none
      [settings.output.join ("apis/" ++ name ++ ".py")] (writeFile settings ("apis/" ++ name ++ ".py") text)
      (.ok path) workspace after := by
  have path := join_version settings.output plain
  rw [path] at fits
  obtain ⟨-, nullFree, down⟩ := file_isSegment plain
  have ordinary : IsOrdinary (name ++ ".py") := ⟨nullFree, down, fits.names _ (by simp [FilePath.below])⟩
  obtain ⟨found, directory⟩ := stands.leads begins
  have inner := Files.find_below found directory (by decide : IsOrdinary "apis")
    (Nat.le_trans (Files.size_text_below (by decide) _) fits.whole)
  have free : workspace.files.entryAt? (place ++ ["apis"] ++ [name ++ ".py"]) ≠ some .directory := by
    rw [List.append_assoc]
    exact IsPackage.no_directory stands.package _
  -- The directory of versions stands already, so only the file is added.
  have placed := Files.placeFile_made (Files.makeDirectories_present inner stands.package.directory) inner
    stands.package.directory ordinary (by rw [Files.below_below]; exact fits.whole) free (Text.encodeUtf8 text)
  rw [Files.below_below, List.singleton_append, ← path, List.append_assoc, List.singleton_append] at placed
  exact ⟨_, _, outcome_writeFile placed, stands.put_version _ text, rfl⟩

theorem writeFile_root (begins : Begins settings.output place made)
    (stands : Stands place made texts none workspace.files) (fits : (settings.output.join "__init__.py").Fits)
    (text : String) :
    ∃ path after, Reaches place made texts (some text) [settings.output.join "__init__.py"]
      (writeFile settings "__init__.py" text) (.ok path) workspace after := by
  have path := join_index settings.output
  rw [path] at fits
  obtain ⟨found, directory⟩ := stands.leads begins
  have free : workspace.files.entryAt? (place ++ ["__init__.py"]) ≠ some .directory := by
    rw [stands.package.root]
    simp
  have placed := Files.placeFile_made (Files.makeDirectories_present found directory) found directory
    (by decide : IsOrdinary "__init__.py") fits.whole free (Text.encodeUtf8 text)
  rw [← path] at placed
  exact ⟨_, _, outcome_writeFile placed, stands.put_root text, rfl⟩

end Writing

section Packages

variable {texts : List (String × String)} {tree : ApiTree}

theorem Reaches.bind {α β : Type} {first : Emission α} {next : α → Emission β} {a : α} {result : Except EmissionFault β}
    {texts' : List (String × String)} {root root' : Option String} {paths paths' : List FilePath}
    {before between after : Workspace} (here : Reaches place made texts root paths first (.ok a) before between)
    (there : Reaches place made texts' root' paths' (next a) result between after) :
    Reaches place made texts' root' (paths ++ paths') (first >>= next) result before after where
  ended := (outcome_bind_ok here.ended).trans there.ended
  stands := there.stands
  written := by rw [there.written, here.written, List.map_append, List.append_assoc]

/-- What comes after a failure is not done. -/
theorem Reaches.bind_error {α β : Type} {first : Emission α} {next : α → Emission β} {fault : EmissionFault}
    {root : Option String} {paths : List FilePath} {before after : Workspace}
    (failed : Reaches place made texts root paths first (.error fault) before after) :
    Reaches place made texts root paths (first >>= next) (.error fault) before after :=
  ⟨outcome_bind_error failed.ended, failed.stands, failed.written⟩

/-- Nothing is written by a step that changes nothing. -/
theorem Reaches.of_unchanged {α : Type} {step : Emission α} {result : Except EmissionFault α} {root : Option String}
    (ended : outcome step workspace = (result, workspace)) (stands : Stands place made texts root workspace.files) :
    Reaches place made texts root [] step result workspace workspace :=
  ⟨ended, stands, by simp⟩

def writeModules (settings : EmissionSettings) (modules : List (String × List Stmt)) : Emission PUnit :=
  forIn modules PUnit.unit fun module _ => do
    let _ ← writeModule settings module.2 module.1
    pure (ForInStep.yield PUnit.unit)

theorem writeModules_cons (module : String × List Stmt) (rest : List (String × List Stmt)) :
    writeModules settings (module :: rest) = (do
      let _ ← writeModule settings module.2 module.1
      writeModules settings rest) := by
  rw [writeModules, List.forIn_cons, bind_assoc]
  simp only [pure_bind]
  rfl

/-- A version that has a text is written. -/
theorem writeModule_version (begins : Begins settings.output place made) {entry : ApiNode × String} {file : String × String}
    (built : versionFile settings entry = .ok file) (plain : IsPlain (className entry))
    (fits : (versionPath settings.output entry).Fits) (stands : Stands place made texts none workspace.files) :
    ∃ path after, Reaches place made (texts ++ [file]) none [versionPath settings.output entry]
      (writeModule settings (namedModule entry).2 (namedModule entry).1) (.ok path) workspace after := by
  obtain ⟨text, given, rfl⟩ := versionFile_eq_ok built
  rw [namedModule, writeModule_eq, given]
  exact writeFile_version begins stands plain fits text

/-- Versions that have texts are written one after another. -/
theorem writeModules_versions (begins : Begins settings.output place made) {entries : List (ApiNode × String)}
    {more : List (String × String)} (built : entries.mapM (versionFile settings) = .ok more)
    (plain : ∀ entry ∈ entries, IsPlain (className entry))
    (fits : ∀ entry ∈ entries, (versionPath settings.output entry).Fits)
    (stands : Stands place made texts none workspace.files) :
    ∃ after, Reaches place made (texts ++ more) none (entries.map (versionPath settings.output))
      (writeModules settings (entries.map namedModule)) (.ok ⟨⟩) workspace after := by
  induction entries generalizing texts more workspace with
  | nil =>
    cases built
    exact ⟨workspace, .of_unchanged rfl ((List.append_nil texts).symm ▸ stands)⟩
  | cons entry rest ih =>
    rw [List.forall_mem_cons] at plain fits
    obtain ⟨file, files, first, others, rfl⟩ := mapM_cons_eq_ok built
    -- The package stands after each module with one text more.
    obtain ⟨path, between, here⟩ := writeModule_version begins first plain.1 fits.1 stands
    obtain ⟨after, there⟩ := ih others plain.2 fits.2 here.stands
    rw [List.append_assoc] at there
    exact ⟨after, (writeModules_cons (namedModule entry) _) ▸ here.bind there⟩

/-- The writing stops at the first version that has no text. -/
theorem writeModules_error (begins : Begins settings.output place made) {done : List (ApiNode × String)}
    {entry : ApiNode × String} (rest : List (ApiNode × String)) {more : List (String × String)} {fault : EmissionFault}
    (built : done.mapM (versionFile settings) = .ok more) (failed : versionFile settings entry = .error fault)
    (plain : ∀ entry ∈ done, IsPlain (className entry))
    (fits : ∀ entry ∈ done, (versionPath settings.output entry).Fits)
    (stands : Stands place made texts none workspace.files) :
    ∃ after, Reaches place made (texts ++ more) none (done.map (versionPath settings.output))
      (writeModules settings ((done ++ entry :: rest).map namedModule)) (.error fault) workspace after := by
  obtain ⟨after, here⟩ := writeModules_versions begins built plain fits stands
  refine ⟨after, ?_, here.stands, here.written⟩
  rw [List.map_append, List.map_cons]
  refine (outcome_forEach_append here.ended).trans ?_
  exact (congrArg (outcome · after) (writeModules_cons (namedModule entry) _)).trans
    (outcome_bind_error (writeModule_error (versionFile_eq_error failed) after))

variable (letters : ∀ entry ∈ tree, ∀ c ∈ entry.2.metadata.identifier.toList, c.isAlpha = true)
  (ready : IsReady settings.output place workspace.files made)
  (fits : ∀ path ∈ packagePaths settings.output tree, path.Fits)

include letters in
theorem className_isPlain : ∀ entry ∈ generated tree, IsPlain (className entry) := by
  intro entry member
  obtain ⟨api, among, inside⟩ := List.mem_flatMap.mp member
  obtain ⟨version, -, rfl⟩ := List.mem_map.mp inside
  by_cases nothing : api.2.metadata.identifier = ""
  · have under : IsPlain "_" := by decide
    rw [className, nothing]
    exact under.append (versionSuffix_word version)
  · exact versionClass_isPlain (IsLetters.isPlain ⟨nothing, letters api among⟩) version

theorem packagePaths_eq (output : FilePath) (tree : ApiTree) : packagePaths output tree =
    output.join "apis/__init__.py" :: ((generated tree).map (versionPath output) ++ [output.join "__init__.py"]) := by
  rw [packagePaths, packageModules, versionModules_eq, List.map_append, List.map_map]
  rfl

include ready fits

/-- A package begins with the file that makes a package of its versions. -/
theorem emit_begin : ∃ path after, Reaches place made [] none [settings.output.join "apis/__init__.py"] (do
      clean settings
      writeFile settings "apis/__init__.py" "") (.ok path) workspace after := by
  rw [packagePaths_eq, List.forall_mem_cons, List.forall_mem_append, List.forall_mem_singleton] at fits
  obtain ⟨package, -, root⟩ := fits
  obtain ⟨opened, begins⟩ := ready.begins
  obtain ⟨path, after, here⟩ := @writeFile_begin settings
    { workspace with files := workspace.files.drop (isPackagePlace place) } _ _ opened begins package
  exact ⟨path, after, (outcome_bind_ok (clean_ready ready package root)).trans here.ended, here.stands, here.written⟩

omit ready fits in
/-- A package begins, its versions are written, and last its root module. -/
theorem emit_parts (settings : EmissionSettings) (tree : ApiTree) : emit settings tree =
    ((do clean settings; writeFile settings "apis/__init__.py" "") >>= fun _ =>
      writeModules settings ((generated tree).map namedModule) >>= fun _ =>
        writeModule settings (indexModule tree) "__init__" >>= fun _ =>
          get >>= fun workspace => pure workspace.written) := by
  rw [emit_eq, bind_assoc, ← versionModules_eq]
  rfl

include letters

/-- A package is written if all of its modules have texts. -/
theorem emit_built {root : String} (built : (generated tree).mapM (versionFile settings) = .ok texts)
    (index : rootText settings tree = .ok root) :
    ∃ after, Reaches place made texts (some root) (packagePaths settings.output tree) (emit settings tree)
      (.ok after.written) workspace after := by
  obtain ⟨path, begun, start⟩ := emit_begin ready fits
  obtain ⟨-, begins⟩ := ready.begins
  rw [packagePaths_eq] at fits ⊢
  rw [List.forall_mem_cons, List.forall_mem_append, List.forall_mem_map, List.forall_mem_singleton] at fits
  obtain ⟨between, versions⟩ := writeModules_versions begins built (className_isPlain letters) fits.2.1 start.stands
  obtain ⟨path', after, last⟩ := writeFile_root begins versions.stands fits.2.2 root
  have module := @writeModule_eq settings "__init__" (indexModule tree)
  rw [rootText] at index
  rw [index] at module
  have told : Reaches place made ([] ++ texts) (some root) []
      (get >>= fun workspace : Workspace => (pure workspace.written : Emission (List String)))
      (.ok after.written) after after := .of_unchanged rfl last.stands
  rw [emit_parts, module]
  exact ⟨after, start.bind (versions.bind (last.bind told))⟩

/-- The writing stops at a version that has no text, after those before it. -/
theorem emit_version_error {done rest : List (ApiNode × String)} {entry : ApiNode × String} {fault : EmissionFault}
    (order : generated tree = done ++ entry :: rest) (built : done.mapM (versionFile settings) = .ok texts)
    (failed : versionFile settings entry = .error fault) :
    ∃ after, Reaches place made texts none
      (settings.output.join "apis/__init__.py" :: done.map (versionPath settings.output)) (emit settings tree)
      (.error fault) workspace after := by
  obtain ⟨path, begun, start⟩ := emit_begin ready fits
  obtain ⟨-, begins⟩ := ready.begins
  have plain := className_isPlain letters
  rw [packagePaths_eq, List.forall_mem_cons, List.forall_mem_append, List.forall_mem_map] at fits
  rw [order] at plain fits
  obtain ⟨after, versions⟩ := writeModules_error begins rest built failed
    (fun entry member => plain entry (List.mem_append_left _ member))
    (fun entry member => fits.2.1 entry (List.mem_append_left _ member)) start.stands
  rw [emit_parts, order]
  exact ⟨after, start.bind versions.bind_error⟩

/-- The writing stops at a root module that has no text, after all versions. -/
theorem emit_root_error {fault : EmissionFault} (built : (generated tree).mapM (versionFile settings) = .ok texts)
    (failed : rootText settings tree = .error fault) :
    ∃ after, Reaches place made texts none
      (settings.output.join "apis/__init__.py" :: (generated tree).map (versionPath settings.output))
      (emit settings tree) (.error fault) workspace after := by
  obtain ⟨path, begun, start⟩ := emit_begin ready fits
  obtain ⟨-, begins⟩ := ready.begins
  rw [packagePaths_eq, List.forall_mem_cons, List.forall_mem_append, List.forall_mem_map] at fits
  obtain ⟨after, versions⟩ := writeModules_versions begins built (className_isPlain letters) fits.2.1 start.stands
  -- The root module is not written, and all versions stay.
  have stopped := Reaches.of_unchanged (writeModule_error failed after) versions.stands
  refine ⟨after, ?_⟩
  rw [emit_parts, ← List.append_nil ((generated tree).map _)]
  exact start.bind (versions.bind stopped.bind_error)

/-- Where nothing is in the way, a package is written as a whole, or its modules are at fault. -/
theorem emit_cases :
    (∃ texts root after, (generated tree).mapM (versionFile settings) = .ok texts ∧
      rootText settings tree = .ok root ∧ Reaches place made texts (some root) (packagePaths settings.output tree)
        (emit settings tree) (.ok after.written) workspace after) ∨
    ∃ fault after, outcome (emit settings tree) workspace = (.error fault, after) ∧ fault.isRefusal = false := by
  -- The first text that is missing decides: one of a version, or else that of the root module.
  cases built : (generated tree).mapM (versionFile settings) with
  | error fault =>
    obtain ⟨done, entry, rest, texts, order, before, stuck⟩ := mapM_eq_error built
    obtain ⟨after, reached⟩ := emit_version_error letters ready fits order before stuck
    exact .inr ⟨fault, after, reached.ended, moduleText_isRefusal (versionFile_eq_error stuck)⟩
  | ok texts =>
    cases index : rootText settings tree with
    | error fault =>
      obtain ⟨after, reached⟩ := emit_root_error letters ready fits built index
      exact .inr ⟨fault, after, reached.ended, moduleText_isRefusal index⟩
    | ok root =>
      obtain ⟨after, reached⟩ := emit_built letters ready fits built index
      exact .inl ⟨texts, root, after, rfl, rfl, reached⟩

/-- Then the system refuses nothing. -/
theorem emit_faults {fault : EmissionFault} {after : Workspace}
    (failed : outcome (emit settings tree) workspace = (.error fault, after)) : fault.isRefusal = false := by
  rcases emit_cases letters ready fits with ⟨_, _, _, -, -, reached⟩ | ⟨other, _, ended, known⟩
  · cases failed.symm.trans reached.ended
  · cases failed.symm.trans ended
    exact known

/-- If besides its modules are programs, the package is written. -/
theorem emit_written (free : NullFree settings.output.text) (named : NamedModules tree)
    (programs : ∀ module ∈ packageModules tree, IsProgram module.2) :
    ∃ paths after, outcome (emit settings tree) workspace = (.ok paths, after) := by
  cases ended : outcome (emit settings tree) workspace with
  | mk result after =>
    cases result with
    | ok paths => exact ⟨paths, after, rfl⟩
    | error fault =>
      have refused := (emit_refusals free named programs).error trivial ended
      exact absurd ((emit_faults letters ready fits ended).symm.trans refused) (by decide)

end Packages

end Emission
end Bindery
