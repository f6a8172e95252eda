import Bindery.Proofs.Package.ApartVersions
import Bindery.Proofs.Package.RootModule

/-!
# Agreement of the modules of a package

The root module and the version modules are made from a tree one by one. They agree: what the root module imports
from beside it are the classes of the version modules, its client holds them under the keys of their versions, and
it looks up who is signed in just if its client has a method for that.
-/
namespace Bindery

open Bindery.Files (FilePath FileTree)
open Bindery.Source (Expr Stmt builtinTypes bindsIn classesIn importedIn outerIn)

/-- Does a root module agree with the version modules of a tree? -/
structure AgreesWith (tree : ApiTree) (modules : List (String × List Stmt)) (index : List Stmt) : Prop where
  /-- Each class is imported once, from its own module. -/
  imports : ∃ names : List String, names.Nodup ∧ (∀ name, name ∈ names ↔ "apis/" ++ name ∈ modules.map Prod.fst) ∧
    index.filter Stmt.isRelative = names.map fun name => .importFrom (some ("apis." ++ name)) 1 [name]
  /-- A module defines one class, which has its name and is all that it offers. -/
  classes : ∀ module ∈ modules, ∃ name members, module.1 = "apis/" ++ name ∧
    classesIn module.2 = [(name, members)] ∧ offeredIn module.2 = [name]
  /-- The client has the APIs in the order of the tree. -/
  apis : (clientGives index).map Prod.fst = ["direct", "user_id", "user_name"] ++ tree.map Prod.fst
  /-- For each API it has the classes of the versions with methods, under the keys of these, ascending. -/
  versions : ∀ entry ∈ tree, ∃ entries, ∃ versions : List String, clientDict? index entry.1 = some entries ∧
    versions.Pairwise (· < ·) ∧ (∀ version, version ∈ versions ↔ entry.2.methods version ≠ []) ∧
    entries.map Prod.fst = versions.map Name.versionKey ∧
    ∀ version ∈ versions,
      keyedClass? entries (Name.versionKey version) = some (Name.versionClass entry.1 version) ∧
      ("apis/" ++ Name.versionClass entry.1 version, versionModule entry.2 version) ∈ modules
  /-- What it takes from around its functions is imported, defined or built in. -/
  closed : ∀ name ∈ outerIn index, name ∈ importedIn index ∨ name ∈ definedIn index ∨ name ∈ builtinTypes
  /-- If all APIs have a capital letter first, no name has two meanings, and nothing is imported in vain. -/
  apart : (∀ entry ∈ tree, ∃ c ∈ entry.1.toList.head?, c.isUpper = true) →
    (bindsIn index).Nodup ∧ ∀ name ∈ importedIn index, name ∈ outerIn index
  fault : "ApiError" ∈ importedIn index ↔ AsksIdentity index
  /-- It asks who is signed in just if there is a method for that, the keys of the API in question being apart. -/
  identity : (∀ users, tree.lookup "Users" = some users → (users.generatedVersions.map Name.versionKey).Nodup) →
    (AsksIdentity index ↔ ∃ entries name module members, clientDict? index "Users" = some entries ∧
      keyedClass? entries "v1" = some name ∧ modules.reverse.lookup ("apis/" ++ name) = some module ∧
      classesIn module = [(name, members)] ∧ "Authenticated" ∈ (functionsIn members).map Prod.fst)

/-- Does a tree list each API once, under its own name, which has no underscore, and each version of it once? -/
structure IsKeyedTree (tree : ApiTree) : Prop where
  distinct : (tree.map Prod.fst).Nodup
  own : ∀ entry ∈ tree, entry.2.metadata.identifier = entry.1
  noUnderscore : ∀ entry ∈ tree, '_' ∉ entry.1.toList
  versioned : ∀ entry ∈ tree, (entry.2.versions.map Prod.fst).Nodup

/-! ### Versions with methods -/

section Versions

variable {api : ApiNode} (versioned : (api.versions.map Prod.fst).Nodup)
include versioned

/-- The versions that are generated are those with methods. -/
theorem mem_generatedVersions_iff {version : String} : version ∈ api.generatedVersions ↔ api.methods version ≠ [] := by
  rw [ApiNode.generatedVersions, List.mem_mergeSort, List.mem_map, ApiNode.methods]
  constructor
  · rintro ⟨⟨version, methods⟩, inside, rfl⟩
    obtain ⟨member, filled⟩ := List.mem_filter.mp inside
    rw [(Source.lookup_eq_some_iff versioned).mpr member]
    simpa using filled
  -- A version is listed once, so that looking it up finds its methods.
  · intro filled
    cases looked : api.versions.lookup version with
    | none => simp [looked] at filled
    | some methods =>
      rw [looked] at filled
      exact ⟨(version, methods), List.mem_filter.mpr ⟨Source.mem_of_lookup looked, by simpa using filled⟩, rfl⟩

theorem generatedVersions_ascend : api.generatedVersions.Pairwise (· < ·) := by
  -- Sorting keeps the order, and versions that are not repeated ascend strictly.
  have sorted := @List.pairwise_mergeSort String (fun a b => decide (a ≤ b))
    (fun a b c first second => decide_eq_true (le_trans (of_decide_eq_true first) (of_decide_eq_true second)))
    (fun a b => by simpa using le_total a b) ((api.versions.filter fun version => !version.2.isEmpty).map Prod.fst)
  have distinct := ApiNode.nodup_generatedVersions versioned
  exact (sorted.and distinct).imp fun ⟨before, apart⟩ => lt_of_le_of_ne (of_decide_eq_true before) apart

end Versions

/-! ### Trees with keys -/

section Tree

variable {tree : ApiTree}

section Keyed

variable (keyed : IsKeyedTree tree)
include keyed

theorem IsKeyedTree.versionModules_eq : Emission.versionModules tree = tree.flatMap fun entry =>
    entry.2.generatedVersions.map fun version => ("apis/" ++ Name.versionClass entry.1 version, versionModule entry.2 version) := by
  refine List.flatMap_congr fun entry member => ?_
  rw [← keyed.own entry member]

theorem IsKeyedTree.mem_versionModules {module : String × List Stmt} : module ∈ Emission.versionModules tree ↔
    ∃ entry ∈ tree, ∃ version ∈ entry.2.generatedVersions,
      module = ("apis/" ++ Name.versionClass entry.1 version, versionModule entry.2 version) := by
  rw [keyed.versionModules_eq]
  simp only [List.mem_flatMap, List.mem_map, eq_comm]

/-- Who is signed in can be asked of the version with the right key, if it has the method for that. -/
theorem IsKeyedTree.hasIdentityLookup_iff
    (apart : ∀ users, tree.lookup "Users" = some users → (users.generatedVersions.map Name.versionKey).Nodup) :
    hasIdentityLookup tree = true ↔ ∃ users, ("Users", users) ∈ tree ∧ ∃ version ∈ users.generatedVersions,
      Name.versionKey version = "v1" ∧ ∃ method ∈ users.methods version, method.name = "Authenticated" := by
  unfold hasIdentityLookup
  cases listed : tree.lookup identityApi with
  | none =>
    -- There is no such API in the tree.
    have absent : ∀ users, ("Users", users) ∉ tree := fun users member => by
      simpa [identityApi] using (List.lookup_eq_none_iff.mp listed) _ member
    simp [absent]
  | some users =>
    have member := Source.mem_of_lookup listed
    -- There is one such API, so that the versions are those of this one.
    have only : ∀ other, ("Users", other) ∈ tree → other = users := fun other there =>
      Option.some.inj (((Source.lookup_eq_some_iff keyed.distinct).mpr there).symm.trans listed)
    dsimp only
    cases found : users.generatedVersions.find? fun version => Name.versionKey version = identityVersion with
    | none =>
      -- No version has the key.
      refine iff_of_false Bool.false_ne_true ?_
      rintro ⟨other, there, version, known, keyed, -⟩
      rw [only other there] at known
      exact List.find?_eq_none.mp found version known (decide_eq_true keyed)
    | some version =>
      have key := List.find?_some found
      rw [decide_eq_true_iff, identityVersion] at key
      have known := List.mem_of_find?_eq_some found
      simp only [List.any_eq_true, decide_eq_true_iff]
      constructor
      · exact fun asked => ⟨users, member, version, known, key, asked⟩
      -- Only one version has the key, and it is the one that was found.
      · rintro ⟨other, there, version', known', key', asked⟩
        rw [only other there] at known' asked
        rwa [List.inj_on_of_nodup_map (apart users listed) known known' (key.trans key'.symm)]

/-- The last module of a class is that of the version with its key, if that has no fillers and no other version has it. -/
theorem IsKeyedTree.lookup_module {entry : String × ApiNode} (member : entry ∈ tree) {version : String}
    (known : version ∈ entry.2.generatedVersions) (apart : (entry.2.generatedVersions.map Name.versionKey).Nodup)
    (plain : ∀ c ∈ (Name.versionKey version).toList, isFiller c = false) :
    (Emission.versionModules tree).reverse.lookup ("apis/" ++ Name.versionClass entry.1 version) =
      some (versionModule entry.2 version) := by
  refine Source.lookup_of_unique ?_ fun other among => ?_
  · exact List.mem_reverse.mpr (keyed.mem_versionModules.mpr ⟨entry, member, version, known, rfl⟩)
  -- A module of the same name is that of an API with the same name, and of a version that is spelled alike.
  · obtain ⟨entry', there, version', known', same⟩ := keyed.mem_versionModules.mp (List.mem_reverse.mp among)
    obtain ⟨name, rfl⟩ := Prod.mk.inj same
    obtain ⟨apis, alike⟩ := (versionClass_eq_iff (keyed.noUnderscore entry member) (keyed.noUnderscore entry' there)).mp
      ((String.append_right_inj "apis/").mp name)
    obtain rfl := List.inj_on_of_nodup_map keyed.distinct member there apis
    rw [List.inj_on_of_nodup_map apart known known' (versionKey_of_isAlike alike plain)]

theorem IsKeyedTree.identity
    (apart : ∀ users, tree.lookup "Users" = some users → (users.generatedVersions.map Name.versionKey).Nodup) :
    AsksIdentity (indexModule tree) ↔ ∃ entries name module members,
      clientDict? (indexModule tree) "Users" = some entries ∧ keyedClass? entries "v1" = some name ∧
        (Emission.versionModules tree).reverse.lookup ("apis/" ++ name) = some module ∧
        classesIn module = [(name, members)] ∧ "Authenticated" ∈ (functionsIn members).map Prod.fst := by
  have plain : ∀ c ∈ "v1".toList, isFiller c = false := by simp [isFiller, Text.isWordChar]
  rw [asksIdentity_iff, keyed.hasIdentityLookup_iff apart]
  constructor
  -- From the tree to the modules: the class under the key is that of the version with the method.
  · rintro ⟨users, member, version, known, key, method, own, named⟩
    have listed := (Source.lookup_eq_some_iff keyed.distinct).mpr member
    have module := keyed.lookup_module member known (apart users listed) (key ▸ plain)
    have classes := (versionModule_parts users version).2.1
    rw [keyed.own _ member] at classes
    refine ⟨_, _, _, _, clientDict?_indexModule keyed.distinct member,
      keyedClass?_versionEntries.mpr ⟨version, known, key, rfl⟩, module, classes, ?_⟩
    rw [functionsIn_class]
    exact List.mem_cons_of_mem _ (List.mem_map.mpr ⟨method, own, named⟩)
  -- Back again: the class under the key is that of a version, whose module and methods are thereby known.
  · rintro ⟨entries, name, module, members, held, class', written, classes, asked⟩
    obtain ⟨users, member⟩ := mem_of_clientDict? held (by decide)
    have listed := (Source.lookup_eq_some_iff keyed.distinct).mpr member
    obtain rfl := Option.some.inj (held.symm.trans (clientDict?_indexModule keyed.distinct member))
    obtain ⟨version, known, key, rfl⟩ := keyedClass?_versionEntries.mp class'
    have last := keyed.lookup_module member known (apart users listed) (key ▸ plain)
    obtain rfl := Option.some.inj (written.symm.trans last)
    have own := (versionModule_parts users version).2.1
    rw [keyed.own _ member] at own
    obtain rfl := (Prod.mk.inj (List.singleton_inj.mp (classes.symm.trans own))).2
    rw [functionsIn_class] at asked
    obtain ⟨method, among, named⟩ := List.mem_map.mp (List.mem_of_ne_of_mem (by decide) asked)
    exact ⟨users, member, version, known, key, method, among, named⟩

theorem IsKeyedTree.agrees : AgreesWith tree (Emission.versionModules tree) (indexModule tree) where
  imports := by
    refine ⟨importedClasses tree, nodup_importedClasses, fun name => ?_, indexModule_isRelative⟩
    rw [mem_importedClasses, List.mem_map]
    constructor
    · intro known
      obtain ⟨entry, member, inside⟩ := List.mem_flatMap.mp known
      obtain ⟨version, generated, rfl⟩ := List.mem_map.mp inside
      exact ⟨_, keyed.mem_versionModules.mpr ⟨entry, member, version, generated, rfl⟩, rfl⟩
    · rintro ⟨module, written, named⟩
      obtain ⟨entry, member, version, generated, rfl⟩ := keyed.mem_versionModules.mp written
      obtain rfl := (String.append_right_inj "apis/").mp named
      exact List.mem_flatMap.mpr ⟨entry, member, List.mem_map_of_mem generated⟩
  classes := by
    intro module written
    obtain ⟨entry, member, version, -, rfl⟩ := keyed.mem_versionModules.mp written
    refine ⟨_, _, rfl, keyed.own entry member ▸ (versionModule_parts entry.2 version).2.1, ?_⟩
    rw [offeredIn_versionModule, keyed.own entry member]
  apis := by
    rw [clientGives_indexModule, List.map_append, List.map_map]
    rfl
  versions := by
    intro entry member
    refine ⟨versionEntries entry.1 entry.2, entry.2.generatedVersions, clientDict?_indexModule keyed.distinct member,
      generatedVersions_ascend (keyed.versioned entry member),
      fun _ => mem_generatedVersions_iff (keyed.versioned entry member), ?_, fun version known => ⟨?_, ?_⟩⟩
    · rw [versionEntries, List.map_map]
      rfl
    · exact keyedClass?_versionEntries.mpr ⟨version, known, rfl, rfl⟩
    · exact keyed.mem_versionModules.mpr ⟨entry, member, version, known, rfl⟩
  closed := indexModule_closed
  apart := indexModule_apart
  fault := fault_iff
  identity := keyed.identity

end Keyed

theorem IsBuilt.isKeyedTree (built : IsBuilt tree) : IsKeyedTree tree where
  distinct := by
    have keys := built.catalogue.distinct
    rwa [List.map_map] at keys
  own _ := built.identifier
  noUnderscore _ member := (built.letters member).noUnderscore
  versioned := built.versioned

end Tree

/-! ### What is read back -/

namespace Emission

/-- Is the text of a module read back from its file? -/
def HoldsText (settings : EmissionSettings) (files : FileTree) (module : String × List Stmt) : Prop :=
  ∃ text, moduleText settings module.1 module.2 = .ok text ∧
    files.readFile (settings.output.join (module.1 ++ ".py")) = .ok (Text.encodeUtf8 text)

section Reading

variable {settings : EmissionSettings} {tree : ApiTree} {before after : Workspace} {paths : List String}
  (done : outcome (emit settings tree) before = (.ok paths, after))
include done

theorem emit_reads_root : HoldsText settings after.files ("__init__", indexModule tree) := by
  rw [emit_parts] at done
  obtain ⟨_, _, -, done⟩ := outcome_bind_eq_ok done
  obtain ⟨_, _, -, done⟩ := outcome_bind_eq_ok done
  obtain ⟨_, rooted, index, done⟩ := outcome_bind_eq_ok done
  cases done
  obtain ⟨text, given, placed⟩ := writeModule_eq_ok index
  exact ⟨text, given, Files.readFile_placeFile placed⟩

/-- Of all modules with one name, the last one is read back. -/
theorem emit_reads_last (plain : ∀ entry ∈ generated tree, IsPlain (className entry))
    (marked : ∀ entry ∈ generated tree, className entry ++ ".py" ≠ "__init__.py") {name : String} {module : List Stmt}
    (last : (packageModules tree).reverse.lookup name = some module) : HoldsText settings after.files (name, module) := by
  obtain ⟨later, earlier, order, apart⟩ := List.lookup_eq_some_iff.mp last
  rw [packageModules, List.reverse_append, List.reverse_singleton, List.singleton_append] at order
  -- The root module is written last. A module of a version is read back if no later one has its name.
  cases later with
  | nil =>
    obtain ⟨rfl, rfl⟩ := Prod.mk.inj (List.cons.inj order).1
    exact emit_reads_root done
  | cons root later =>
    have modules : (generated tree).map namedModule = earlier.reverse ++ (name, module) :: later.reverse := by
      rw [← versionModules_eq, ← List.reverse_inj, (List.cons.inj order).2]
      simp
    obtain ⟨first, others, entries, -, others_eq⟩ := List.map_eq_append_iff.mp modules
    obtain ⟨entry, rest, rfl, own, rest_eq⟩ := List.map_eq_cons_iff.mp others_eq
    rw [← own]
    refine emit_reads plain marked done entries fun other member same => ?_
    have among : namedModule other ∈ root :: later :=
      List.mem_cons_of_mem _ (List.mem_reverse.mp (rest_eq ▸ List.mem_map_of_mem member))
    have unlike := apart _ among
    rw [← (Prod.mk.inj own).1] at unlike
    simp [namedModule, same] at unlike

end Reading

end Emission

/-- Of a tree that lists each API once under its own name, the root module agrees with the modules of the versions.
Wherever the package of a tree is written whose APIs are named by letters, the last module of each name is read back
from its file, and no other modules are written. -/
theorem indexModule_agrees {tree : ApiTree} (keyed : IsKeyedTree tree) :
    AgreesWith tree (Emission.versionModules tree) (indexModule tree) ∧
      ((∀ entry ∈ tree, IsLetters entry.1) → ∀ settings start paths after,
        outcome (Emission.emit settings tree) start = (.ok paths, after) →
          paths = start.written ++ (Emission.packagePaths settings.output tree).map FilePath.text ∧
          ∀ name module, (packageModules tree).reverse.lookup name = some module →
            Emission.HoldsText settings after.files (name, module)) := by
  refine ⟨keyed.agrees, fun letters settings start paths after done => ⟨Emission.emit_tells done, fun name module => ?_⟩⟩
  have lettered : ∀ entry ∈ tree, ∀ c ∈ entry.2.metadata.identifier.toList, c.isAlpha = true := fun entry member =>
    keyed.own entry member ▸ (letters entry member).letters
  -- Modules of versions are named plainly, and unlike the marker of their folder.
  refine Emission.emit_reads_last done (Emission.className_isPlain lettered) fun entry member => ?_
  obtain ⟨api, among, inside⟩ := List.mem_flatMap.mp member
  obtain ⟨version, -, rfl⟩ := List.mem_map.mp inside
  have own : IsLetters api.2.metadata.identifier := keyed.own api among ▸ letters api among
  exact Emission.className_ne_marker own.something own.letters

/-! ### A tree with a session -/

def plainMethod (name : String) : Method :=
  { name, documentation := "", arguments := [], request := { verb := "get", url := [.text "https://users.net"] } }

def usersApi : ApiNode where
  metadata := { identifier := "Users", url := "https://users.net" }
  versions := [("v2.0", [plainMethod "Friends"]), ("v1", [plainMethod "Items", plainMethod "Authenticated"]), ("v3", [])]

/-- A tree with an API that tells who is signed in, and one without methods. -/
def sessionTree : ApiTree := [("Users", usersApi), ("Empty", { metadata := { identifier := "Empty", url := "" } })]

theorem sessionTree_isKeyedTree : IsKeyedTree sessionTree :=
  ⟨by decide, by decide, by simp [sessionTree], by decide⟩

theorem generatedVersions_users : usersApi.generatedVersions = ["v1", "v2.0"] := by
  have perm : usersApi.generatedVersions.Perm ["v1", "v2.0"] :=
    (List.mergeSort_perm ..).trans (.swap "v1" "v2.0" [])
  exact perm.eq_of_pairwise (fun a b _ _ before after => absurd after (lt_asymm before))
    (generatedVersions_ascend (by decide)) (by decide)

theorem generated_sessionTree : generated sessionTree = [(usersApi, "v1"), (usersApi, "v2.0")] := by
  have empty : ApiNode.generatedVersions { metadata := { identifier := "Empty", url := "" } } = [] := by
    simp [ApiNode.generatedVersions]
  simp [generated, sessionTree, generatedVersions_users, empty]

theorem sessionTree_isLetters : ∀ entry ∈ sessionTree, IsLetters entry.1 :=
  List.forall_mem_cons.mpr ⟨⟨by decide, by simp⟩, List.forall_mem_singleton.mpr ⟨by decide, by simp⟩⟩

theorem plainMethod_isNamed {name : String} (plain : IsPlain name) (legal : name ∉ Name.keywords) :
    (plainMethod name).IsNamed where
  sound := ⟨List.nodup_nil, List.forall_mem_nil _, List.forall_mem_singleton.mpr legal, List.forall_mem_nil _⟩
  plain := List.forall_mem_singleton.mpr plain

/-- All its modules are programs. -/
theorem sessionTree_programs : ∀ module ∈ packageModules sessionTree, IsProgram module.2 := by
  -- A module of a version whose methods are plain is a program.
  have version (version : String) (methods : ∀ method ∈ usersApi.methods version,
      method.name ∈ ["Friends", "Items", "Authenticated"] ∧ method = plainMethod method.name) :
      IsProgram (versionModule usersApi version) := by
    have named : ∀ method ∈ usersApi.methods version, method.IsNamed := fun method own => by
      have names : ∀ name ∈ ["Friends", "Items", "Authenticated"], IsPlain name ∧ name ∉ Name.keywords := by decide
      obtain ⟨plain, legal⟩ := names _ (methods method own).1
      exact (methods method own).2 ▸ plainMethod_isNamed plain legal
    have emittable : ∀ method ∈ usersApi.methods version, method.IsEmittable := fun method own => by
      obtain ⟨known, same⟩ := methods method own
      refine Method.isEmittable_plain (fun debug => ?_) (congrArg Method.arguments same) (congrArg Method.request same)
      exact absurd (debug ▸ known) (by decide)
    have legal := (versionModule_isLegal (sessionTree_isLetters _ (List.mem_cons_self ..)) named).mpr emittable
    exact (isProgram_iff fun _ => versionModule_isShallow named emittable).mpr legal
  -- The root module is a program, as its APIs are named by letters.
  have root : IsProgram (indexModule sessionTree) :=
    (isProgram_iff fun _ => indexModule_isShallow sessionTree_isLetters).mpr
      ((indexModule_isLegal sessionTree_isLetters).mpr (by decide))
  rw [packageModules, Emission.versionModules_eq, generated_sessionTree]
  refine List.forall_mem_cons.mpr ⟨version "v1" ?_, List.forall_mem_cons.mpr ⟨version "v2.0" ?_,
    List.forall_mem_singleton.mpr root⟩⟩
  · decide
  · decide

theorem packagePaths_sessionTree : Emission.packagePaths hereSettings.output sessionTree =
    ["apis/__init__.py", "apis/Users_v1.py", "apis/Users_v2.py", "__init__.py"].map FilePath.ofText := by
  rw [Emission.packagePaths_eq, generated_sessionTree]
  decide

theorem sessionTree_written : ∃ paths after,
    outcome (Emission.emit hereSettings sessionTree) {} = (.ok paths, after) := by
  have lettered : ∀ entry ∈ sessionTree, ∀ c ∈ entry.2.metadata.identifier.toList, c.isAlpha = true :=
    fun entry member => sessionTree_isKeyedTree.own entry member ▸ (sessionTree_isLetters entry member).letters
  have named : Emission.NamedModules sessionTree := by
    rw [Emission.NamedModules, Emission.versionModules_eq]
    exact List.forall_mem_map.mpr fun entry member => ⟨_, Emission.className_isPlain lettered entry member, rfl⟩
  have fits : ∀ path ∈ Emission.packagePaths hereSettings.output sessionTree, path.Fits := by
    rw [packagePaths_sessionTree]
    simp only [List.map_cons, List.map_nil, List.forall_mem_cons]
    exact ⟨⟨by decide, by decide⟩, ⟨by decide, by decide⟩, ⟨by decide, by decide⟩, ⟨by decide, by decide⟩, nofun⟩
  exact Emission.emit_written lettered (isReady_of_isEmptyDirectory here_isEmptyDirectory) fits (by decide) named
    sessionTree_programs

/-- The package of a tree is written, with a root module that asks who is signed in. -/
theorem session_package_agrees :
    IsKeyedTree sessionTree ∧ AgreesWith sessionTree (Emission.versionModules sessionTree) (indexModule sessionTree) ∧
      AsksIdentity (indexModule sessionTree) ∧
      ∃ paths after, outcome (Emission.emit hereSettings sessionTree) {} = (.ok paths, after) ∧
        paths = ["apis/__init__.py", "apis/Users_v1.py", "apis/Users_v2.py", "__init__.py"] ∧
        Emission.HoldsText hereSettings after.files ("__init__", indexModule sessionTree) ∧
        Emission.HoldsText hereSettings after.files ("apis/Users_v1", versionModule usersApi "v1") := by
  obtain ⟨agrees, emitted⟩ := indexModule_agrees sessionTree_isKeyedTree
  have asks : hasIdentityLookup sessionTree = true := by
    have looked : sessionTree.lookup identityApi = some usersApi := rfl
    simp only [hasIdentityLookup, looked, generatedVersions_users]
    decide
  obtain ⟨paths, after, written⟩ := sessionTree_written
  obtain ⟨told, held⟩ := emitted sessionTree_isLetters hereSettings {} paths after written
  have first : Emission.namedModule (usersApi, "v1") = ("apis/Users_v1", versionModule usersApi "v1") :=
    congrArg (·, _) (by decide)
  have modules : (packageModules sessionTree).reverse = [("__init__", indexModule sessionTree),
      Emission.namedModule (usersApi, "v2.0"), ("apis/Users_v1", versionModule usersApi "v1")] := by
    rw [packageModules, Emission.versionModules_eq, generated_sessionTree, ← first]
    rfl
  refine ⟨sessionTree_isKeyedTree, agrees, asksIdentity_iff.mpr asks, paths, after, written, ?_, held _ _ ?_,
    held _ _ ?_⟩
  · rw [told, packagePaths_sessionTree]
    decide
  · rw [modules]
    rfl
  · rw [modules]
    rfl

end Bindery