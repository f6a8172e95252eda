import Bindery.Proofs.Files.Reading
import Bindery.Proofs.Name.Versions
import Bindery.Proofs.Package.WrittenFiles

/-!
# Versions that are apart

Versions of different APIs never meet. Two versions of one API get the same class, and so the same module, just if
they are alike, and then the later one takes the place of the earlier one. Each version keeps its module if no two
of an API are alike.
-/
namespace Bindery

open Bindery.Data (Datum)
open Bindery.Files (FileAction FilePath FileTree)
open Bindery.Network (Web)
open Bindery.Schema (Metadata)
open Bindery.Source (Stmt)

/-- Is no version that an API has methods for like another one of it? -/
def HasApartVersions (tree : ApiTree) : Prop :=
  ∀ entry ∈ tree, entry.2.generatedVersions.Pairwise fun first second => ¬ IsAlike first second

/-! ### Versions and their classes -/

theorem ApiNode.nodup_generatedVersions {api : ApiNode} (apart : (api.versions.map Prod.fst).Nodup) :
    api.generatedVersions.Nodup :=
  (List.mergeSort_perm ..).nodup_iff.mpr (apart.sublist (List.filter_sublist.map _))

section Built

variable {tree : ApiTree} (built : IsBuilt tree)
include built

theorem IsBuilt.owner {entry : ApiNode × String} (member : entry ∈ generated tree) :
    ∃ api ∈ tree, entry.1 = api.2 ∧ entry.2 ∈ api.2.generatedVersions ∧ entry.1.metadata.identifier = api.1 ∧
      IsLetters entry.1.metadata.identifier := by
  obtain ⟨api, among, inside⟩ := List.mem_flatMap.mp member
  obtain ⟨version, known, rfl⟩ := List.mem_map.mp inside
  exact ⟨api, among, rfl, known, built.identifier among, (built.identifier among).symm ▸ built.letters among⟩

/-- What tells the API of a version tells versions apart if it does so within each API. -/
theorem IsBuilt.nodup_map_iff {β : Type} {f : ApiNode × String → β}
    (tells : ∀ first ∈ generated tree, ∀ second ∈ generated tree, f first = f second →
      first.1.metadata.identifier = second.1.metadata.identifier) :
    ((generated tree).map f).Nodup ↔
      ∀ entry ∈ tree, (entry.2.generatedVersions.map fun version => f (entry.2, version)).Nodup := by
  have parts : (generated tree).map f =
      tree.flatMap fun entry => entry.2.generatedVersions.map fun version => f (entry.2, version) := by
    simp [generated, List.map_flatMap, Function.comp_def]
  have among {entry : String × ApiNode} (member : entry ∈ tree) {version : String}
      (known : version ∈ entry.2.generatedVersions) : (entry.2, version) ∈ generated tree :=
    List.mem_flatMap.mpr ⟨entry, member, List.mem_map_of_mem known⟩
  -- APIs of a built tree have names of their own, so what two of them share would be told apart.
  have distinct : tree.Pairwise fun first second => first.1 ≠ second.1 := by
    have keys := built.catalogue.distinct
    rw [List.map_map] at keys
    exact List.pairwise_map.mp keys
  rw [parts, List.nodup_flatMap]
  refine and_iff_left (distinct.imp_of_mem fun {first second} here there other => ?_)
  refine List.disjoint_left.mpr fun b left right => other ?_
  obtain ⟨version, known, rfl⟩ := List.mem_map.mp left
  obtain ⟨version', known', same⟩ := List.mem_map.mp right
  rw [← built.identifier here, ← built.identifier there]
  exact (tells _ (among there known') _ (among here known) same).symm

theorem IsBuilt.className_eq_iff {first second : ApiNode × String} (here : first ∈ generated tree)
    (there : second ∈ generated tree) : className first = className second ↔
      first.1.metadata.identifier = second.1.metadata.identifier ∧ IsAlike first.2 second.2 := by
  obtain ⟨-, -, -, -, -, letters⟩ := built.owner here
  obtain ⟨-, -, -, -, -, letters'⟩ := built.owner there
  exact versionClass_eq_iff letters.noUnderscore letters'.noUnderscore

/-- Each version of each API is generated once. -/
theorem IsBuilt.nodup_generated :
    ((generated tree).map fun entry => (entry.1.metadata.identifier, entry.2)).Nodup := by
  refine (built.nodup_map_iff fun first _ second _ same => (Prod.mk.inj same).1).mpr fun entry member => ?_
  refine (ApiNode.nodup_generatedVersions (built.versioned entry member)).map_on fun _ _ _ _ same => ?_
  exact (Prod.mk.inj same).2

theorem IsBuilt.nodup_classes_iff : ((generated tree).map className).Nodup ↔ HasApartVersions tree := by
  rw [built.nodup_map_iff fun first here second there same => ((built.className_eq_iff here there).mp same).1]
  refine forall₂_congr fun entry member => ?_
  have letters : IsLetters entry.2.metadata.identifier := (built.identifier member).symm ▸ built.letters member
  rw [List.Nodup, List.pairwise_map]
  simp only [className, ne_eq, versionClass_eq_iff letters.noUnderscore letters.noUnderscore,
    true_and]

omit built in
/-- Versions that are apart have keys of their own. -/
theorem HasApartVersions.nodup_keys (apart : HasApartVersions tree) {entry : String × ApiNode} (member : entry ∈ tree) :
    ((versionEntries entry.1 entry.2).map Prod.fst).Nodup := by
  rw [versionEntries, List.map_map, List.Nodup, List.pairwise_map]
  exact (apart entry member).imp fun other same => other (isAlike_of_versionKey same)

end Built

/-! ### Paths -/

namespace Files

/-- What the text of a path has before what is below it. -/
def FilePath.lead (path : FilePath) : String :=
  (if path.absolute then "/" else "") ++ if path.segments = [] then "" else String.intercalate "/" path.segments ++ "/"

theorem text_below {path : FilePath} {names : List String} (something : names ≠ [])
    (text : String.intercalate "/" names ≠ "") :
    (path.below names).text = path.lead ++ String.intercalate "/" names := by
  -- The text of an empty path is written differently, so it is a case of its own.
  by_cases top : path.segments = []
  · by_cases absolute : path.absolute = true <;>
      simp [FilePath.text, FilePath.below, FilePath.lead, top, absolute, text]
  · have joined := @String.intercalate_append_of_ne_nil _ _ "/" top something
    by_cases absolute : path.absolute = true <;>
      simp [FilePath.text, FilePath.below, FilePath.lead, top, absolute, joined, String.append_assoc]

end Files

namespace Emission

/-- The files of a package as their paths end. -/
def packageFiles (tree : ApiTree) : List String :=
  "apis/__init__.py" :: ((generated tree).map fun entry => "apis/" ++ (className entry ++ ".py")) ++ ["__init__.py"]

theorem text_packagePaths {tree : ApiTree}
    (letters : ∀ entry ∈ tree, ∀ c ∈ entry.2.metadata.identifier.toList, c.isAlpha = true) (output : FilePath) :
    (packagePaths output tree).map FilePath.text = (packageFiles tree).map (output.lead ++ ·) := by
  -- Every file of the package has the same lead, whatever the output path looks like.
  have version : ∀ entry ∈ generated tree,
      (versionPath output entry).text = output.lead ++ ("apis/" ++ (className entry ++ ".py")) := by
    intro entry member
    rw [versionPath, join_version output (className_isPlain letters entry member),
      Files.text_below (by simp) (by simp [String.intercalate_cons_cons])]
    simp [String.intercalate_cons_cons]
  have package : (output.join "apis/__init__.py").text = output.lead ++ "apis/__init__.py" := by
    rw [join_package, Files.text_below (by simp) (by decide)]
    rfl
  have index : (output.join "__init__.py").text = output.lead ++ "__init__.py" := by
    rw [join_index, Files.text_below (by simp) (by decide)]
    rfl
  rw [packagePaths_eq, packageFiles]
  simp only [List.map_cons, List.map_append, List.map_map, List.map_nil, List.cons_append, package, index]
  congr 2
  exact List.map_congr_left version

/-- The files are as far apart as the classes. -/
theorem nodup_packageFiles_iff {tree : ApiTree}
    (marked : ∀ entry ∈ generated tree, className entry ++ ".py" ≠ "__init__.py") :
    (packageFiles tree).Nodup ↔ ((generated tree).map className).Nodup := by
  have inner : Function.Injective fun name : String => "apis/" ++ (name ++ ".py") := fun first second same =>
    (String.append_left_inj _).mp ((String.append_right_inj _).mp same)
  have files : ((generated tree).map fun entry => "apis/" ++ (className entry ++ ".py")) =
      ((generated tree).map className).map fun name => "apis/" ++ (name ++ ".py") := by
    rw [List.map_map]
    rfl
  -- The root module lies beside the directory of versions, and no class is called like the marker.
  have outer (name : String) : "apis/" ++ name ≠ "__init__.py" := fun same => by
    have heads := congrArg (fun s : String => s.toList.head?) same
    simp at heads
  rw [packageFiles, files, List.nodup_append, List.nodup_cons, List.nodup_map_iff inner]
  refine ⟨fun ⟨⟨_, apart⟩, _⟩ => apart, fun apart => ⟨⟨fun marker => ?_, apart⟩, List.nodup_singleton _, ?_⟩⟩
  · obtain ⟨name, known, same⟩ := List.mem_map.mp marker
    obtain ⟨entry, member, rfl⟩ := List.mem_map.mp known
    exact marked entry member ((String.append_right_inj "apis/").mp same)
  · refine List.forall_mem_cons.mpr ⟨List.forall_mem_singleton.mpr (by decide), fun file member => ?_⟩
    obtain ⟨name, -, rfl⟩ := List.mem_map.mp member
    exact List.forall_mem_singleton.mpr (outer _)

/-! ### What is read back -/

section Reading

variable {settings : EmissionSettings} {before after : Workspace}

theorem writeFile_eq_ok {name content path : String} (done : outcome (writeFile settings name content) before = (.ok path, after)) :
    outcome (FileAction.placeFile (settings.output.join name) (Text.encodeUtf8 content)) before.files =
      (.ok (), after.files) := by
  -- A refused change would have ended the step.
  cases ended : outcome (FileAction.placeFile (settings.output.join name) (Text.encodeUtf8 content)) before.files with
  | mk result files =>
    cases result with
    | ok _ =>
      cases (outcome_writeFile ended).symm.trans done
      rfl
    | error refusal =>
      rw [writeFile, outcome_bind_error (onFiles_refused ended)] at done
      cases done

theorem writeModule_eq_ok {statements : List Stmt} {name path : String}
    (done : outcome (writeModule settings statements name) before = (.ok path, after)) :
    ∃ text, moduleText settings name statements = .ok text ∧
      outcome (FileAction.placeFile (settings.output.join (name ++ ".py")) (Text.encodeUtf8 text)) before.files =
        (.ok (), after.files) := by
  rw [writeModule_eq] at done
  cases text : moduleText settings name statements with
  | error fault =>
    rw [text] at done
    cases done
  | ok text' =>
    rw [text] at done
    exact ⟨text', rfl, writeFile_eq_ok done⟩

/-- The files of versions are in one directory, under the names of their classes. -/
theorem versionPath_eq {output : FilePath} {entry : ApiNode × String} (plain : IsPlain (className entry)) :
    versionPath output entry = (output.below ["apis"]).below [className entry ++ ".py"] := by
  rw [versionPath, join_version _ plain, Files.below_below, List.singleton_append]

variable {entries : List (ApiNode × String)} {u : PUnit} (plain : ∀ entry ∈ entries, IsPlain (className entry))
include plain

/-- The file of a version stays when versions with other classes are written. -/
theorem writeModules_keeps {entry : ApiNode × String} (own : IsPlain (className entry))
    (others : ∀ other ∈ entries, className other ≠ className entry) {content : List UInt8}
    (read : before.files.readFile (versionPath settings.output entry) = .ok content)
    (done : outcome (writeModules settings (entries.map namedModule)) before = (.ok u, after)) :
    after.files.readFile (versionPath settings.output entry) = .ok content := by
  induction entries generalizing before with
  | nil =>
    cases done
    exact read
  | cons other rest ih =>
    rw [List.forall_mem_cons] at plain others
    rw [List.map_cons, writeModules_cons] at done
    obtain ⟨path, between, here, later⟩ := outcome_bind_eq_ok done
    refine ih plain.2 others.2 ?_ later
    obtain ⟨text, -, placed⟩ := writeModule_eq_ok here
    rw [namedModule, ← versionPath, versionPath_eq plain.1] at placed
    rw [versionPath_eq own] at read ⊢
    -- Files in one directory are different because classes are.
    refine Files.readFile_placeFile_other (file_isSegment own).2.2 (file_isSegment plain.1).2.2 (fun same => ?_) read placed
    exact others.1 ((String.append_left_inj ".py").mp same).symm

/-- The last version of a class is read back. -/
theorem writeModules_reads {first rest : List (ApiNode × String)} {entry : ApiNode × String}
    (order : entries = first ++ entry :: rest) (last : ∀ other ∈ rest, className other ≠ className entry)
    (done : outcome (writeModules settings (entries.map namedModule)) before = (.ok u, after)) :
    ∃ text, moduleText settings ("apis/" ++ className entry) (versionModule entry.1 entry.2) = .ok text ∧
      after.files.readFile (versionPath settings.output entry) = .ok (Text.encodeUtf8 text) := by
  subst order
  induction first generalizing before with
  | nil =>
    rw [List.nil_append, List.forall_mem_cons] at plain
    rw [List.nil_append, List.map_cons, writeModules_cons] at done
    obtain ⟨path, between, here, later⟩ := outcome_bind_eq_ok done
    obtain ⟨text, given, placed⟩ := writeModule_eq_ok here
    -- The module is written here, and those written later have other classes.
    exact ⟨text, given, writeModules_keeps plain.2 plain.1 last (Files.readFile_placeFile placed) later⟩
  | cons other first ih =>
    rw [List.cons_append, List.forall_mem_cons] at plain
    rw [List.cons_append, List.map_cons, writeModules_cons] at done
    obtain ⟨path, between, -, later⟩ := outcome_bind_eq_ok done
    exact ih plain.2 later

end Reading

/-- Is the module of a version read back from its file? -/
def HoldsModule (settings : EmissionSettings) (files : FileTree) (entry : ApiNode × String) : Prop :=
  ∃ text, moduleText settings ("apis/" ++ className entry) (versionModule entry.1 entry.2) = .ok text ∧
    files.readFile (versionPath settings.output entry) = .ok (Text.encodeUtf8 text)

/-- Wherever a package is written, the last version of each class is read back. -/
theorem emit_reads {settings : EmissionSettings} {tree : ApiTree} {before after : Workspace} {paths : List String}
    (plain : ∀ entry ∈ generated tree, IsPlain (className entry))
    (marked : ∀ entry ∈ generated tree, className entry ++ ".py" ≠ "__init__.py")
    (done : outcome (emit settings tree) before = (.ok paths, after)) {first rest : List (ApiNode × String)}
    {entry : ApiNode × String} (order : generated tree = first ++ entry :: rest)
    (last : ∀ other ∈ rest, className other ≠ className entry) :
    HoldsModule settings after.files entry := by
  rw [emit_parts] at done
  obtain ⟨_, _, -, done⟩ := outcome_bind_eq_ok done
  obtain ⟨_, versions, written, done⟩ := outcome_bind_eq_ok done
  obtain ⟨_, rooted, index, done⟩ := outcome_bind_eq_ok done
  cases done
  obtain ⟨text, given, read⟩ := writeModules_reads plain order last written
  -- The root module is written last, and does not touch the file of a version.
  obtain ⟨root, -, placed⟩ := writeModule_eq_ok index
  have member : entry ∈ generated tree := order ▸ List.mem_append_right _ (List.mem_cons_self ..)
  have own := plain entry member
  refine ⟨text, given, ?_⟩
  rw [versionPath_eq own] at read ⊢
  rw [show "__init__" ++ ".py" = "__init__.py" from rfl, join_index] at placed
  exact Files.readFile_placeFile_other (file_isSegment own).2.2 (by decide) (marked entry member) read placed

theorem emit_tells {settings : EmissionSettings} {tree : ApiTree} {before after : Workspace} {paths : List String}
    (done : outcome (emit settings tree) before = (.ok paths, after)) :
    paths = before.written ++ (packagePaths settings.output tree).map FilePath.text := by
  obtain ⟨kept, -, whole, -, written⟩ := (emit_logs tree).each before
  rw [done] at written
  rw [← whole paths after done, ← written]
  rw [emit_parts] at done
  obtain ⟨_, _, -, done⟩ := outcome_bind_eq_ok done
  obtain ⟨_, _, -, done⟩ := outcome_bind_eq_ok done
  obtain ⟨_, _, -, done⟩ := outcome_bind_eq_ok done
  cases done
  rfl

end Emission

theorem IsBuilt.className_ne_marker {tree : ApiTree} (built : IsBuilt tree) :
    ∀ entry ∈ generated tree, className entry ++ ".py" ≠ "__init__.py" := by
  intro entry member
  obtain ⟨-, -, -, -, -, letters⟩ := built.owner member
  exact Emission.className_ne_marker letters.something letters.letters

theorem IsBuilt.holdsModule {tree : ApiTree} (built : IsBuilt tree) {settings : EmissionSettings}
    {before after : Workspace} {paths : List String}
    (done : outcome (Emission.emit settings tree) before = (.ok paths, after)) {first rest : List (ApiNode × String)}
    {entry : ApiNode × String} (order : generated tree = first ++ entry :: rest)
    (last : ∀ other ∈ rest, className other ≠ className entry) : Emission.HoldsModule settings after.files entry :=
  Emission.emit_reads (Emission.className_isPlain built.lettered) built.className_ne_marker done order last

/-- Whatever the web answers, two versions of a tree that comes out of a run have the same class just if they are of one
API and alike. So all classes, the files of the package and the keys of the client are apart if no API has versions
that are alike; and then every version that has methods is read back from its own module. Of the versions with one
class it is the last one that is read back. -/
theorem build_classes_apart {web : Web} {settings : Settings} {track built : Track} {tree : ApiTree}
    (done : outcome (Tracked.build web settings) track = (.ok tree, built)) :
    ((generated tree).map fun entry => (entry.1.metadata.identifier, entry.2)).Nodup ∧
      (∀ first ∈ generated tree, ∀ second ∈ generated tree, className first = className second ↔
        first.1.metadata.identifier = second.1.metadata.identifier ∧ IsAlike first.2 second.2) ∧
      (((generated tree).map className).Nodup ↔ HasApartVersions tree) ∧
      (HasApartVersions tree → ∀ entry ∈ tree, ((versionEntries entry.1 entry.2).map Prod.fst).Nodup) ∧
      ∀ emission start paths after, outcome (Emission.emit emission tree) start = (.ok paths, after) →
        paths = start.written ++ (Emission.packagePaths emission.output tree).map FilePath.text ∧
        (((Emission.packagePaths emission.output tree).map FilePath.text).Nodup ↔ HasApartVersions tree) ∧
        (∀ first entry rest, generated tree = first ++ entry :: rest →
          (∀ other ∈ rest, className other ≠ className entry) → Emission.HoldsModule emission after.files entry) ∧
        (HasApartVersions tree → ∀ entry ∈ generated tree, Emission.HoldsModule emission after.files entry) := by
  have sound := build_isBuilt done
  refine ⟨sound.nodup_generated, fun first here second there => sound.className_eq_iff here there,
    sound.nodup_classes_iff, fun apart entry member => apart.nodup_keys member,
    fun emission start paths after written => ?_⟩
  refine ⟨Emission.emit_tells written, ?_, fun first entry rest => sound.holdsModule written,
    fun apart entry member => ?_⟩
  · have lead : Function.Injective (emission.output.lead ++ ·) := fun _ _ => (String.append_right_inj _).mp
    rw [Emission.text_packagePaths sound.lettered, List.nodup_map_iff lead, Emission.nodup_packageFiles_iff
      sound.className_ne_marker, sound.nodup_classes_iff]
  · obtain ⟨first, rest, order⟩ := List.append_of_mem member
    have classes := sound.nodup_classes_iff.mpr apart
    rw [order, List.map_append, List.map_cons, List.nodup_append, List.nodup_cons] at classes
    exact sound.holdsModule written order fun other among same => classes.2.1.1 (same ▸ List.mem_map_of_mem among)

/-! ### Two versions of an API -/

end Bindery
