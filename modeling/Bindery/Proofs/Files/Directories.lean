import Bindery.Files.Tree
import Bindery.Proofs.Name.Identifiers
import Bindery.Proofs.Steps
import Bindery.Proofs.Text.NullFree

/-!
# Files in directories

What an operation on files does where nothing stands in its way: directories that are there stay, and a
file is found where it was written.
-/
namespace Bindery.Files

/-! ### Entries -/

theorem lookup_filter (entries : List (Place × Entry)) (keep : Place → Bool) (place : Place) :
    (entries.filter fun e => keep e.1).lookup place = if keep place then entries.lookup place else none := by
  induction entries with
  | nil => simp
  | cons entry rest ih =>
    obtain ⟨p, e⟩ := entry
    by_cases kept : keep p = true
    · rw [List.filter_cons_of_pos (by simpa using kept), List.lookup_cons, List.lookup_cons, ih]
      by_cases same : place = p
      · simp [same, kept]
      · rw [beq_false_of_ne same]
    · rw [List.filter_cons_of_neg (by simpa using kept), ih, List.lookup_cons]
      by_cases same : place = p
      · simp [same, kept]
      · rw [beq_false_of_ne same]

/-- Where a place is given, there is a directory whatever the entries are. -/
theorem entryAt?_of_isGiven {place : Place} (given : place.isGiven = true) (tree : FileTree) :
    tree.entryAt? place = some .directory := by
  rw [FileTree.entryAt?, if_pos given]

/-- An entry that is put somewhere is found there, and nothing else changes. -/
theorem entryAt?_put (tree : FileTree) (place other : Place) (entry : Entry) :
    (tree.put place entry).entryAt? other =
      if other.isGiven then some .directory else if other = place then some entry else tree.entryAt? other := by
  unfold FileTree.entryAt?
  by_cases given : other.isGiven = true
  · rw [if_pos given, if_pos given]
  · rw [if_neg given, if_neg given, FileTree.put, List.lookup_append,
      lookup_filter tree.entries (fun p => decide (p ≠ place))]
    by_cases same : other = place
    · simp [same]
    · simp [same, given, List.lookup_cons, beq_false_of_ne same]

theorem isGiven_append {place : Place} {name : String} (root : name ≠ "/") (above : name ≠ "..")
    (names : List String) : Place.isGiven (place ++ name :: names) = false := by
  simp only [Place.isGiven, Bool.or_eq_false_iff, decide_eq_false_iff_not]
  constructor
  · intro same
    have member : name ∈ (["/"] : List String) := same ▸ List.mem_append_right place (List.mem_cons_self ..)
    exact root (List.mem_singleton.mp member)
  · rw [List.all_append, List.all_cons]
    simp [above]

/-! ### Paths -/

/-- Directories of one tree are directories of another one. -/
def Keeps (before after : FileTree) : Prop :=
  ∀ place, before.entryAt? place = some .directory → after.entryAt? place = some .directory

theorem keeps_put {tree : FileTree} {place : Place} {entry : Entry} (free : tree.entryAt? place ≠ some .directory) :
    Keeps tree (tree.put place entry) := by
  intro other found
  rw [entryAt?_put]
  split
  · rfl
  split
  next same => exact absurd (same ▸ found) free
  · exact found

theorem step_eq_ok {tree : FileTree} {place next : Place} {segment : String}
    (done : tree.step place segment = .ok next) :
    tree.entryAt? place = some .directory ∧
      if segment = ".." then next = place.above
      else segment.utf8ByteSize ≤ FileTree.nameLimit ∧ next = place ++ [segment] := by
  unfold FileTree.step at done
  -- There is no step from a place without a directory.
  split at done
  · cases done
  · cases done
  next here =>
    refine ⟨here, ?_⟩
    split at done
    next up =>
      rw [if_pos up]
      exact (Except.ok.inj done).symm
    next down =>
      rw [if_neg down]
      split at done
      · cases done
      next short => exact ⟨Nat.le_of_not_lt short, (Except.ok.inj done).symm⟩

theorem step_down {tree : FileTree} {place : Place} {segment : String} (here : tree.entryAt? place = some .directory)
    (down : segment ≠ "..") (short : segment.utf8ByteSize ≤ FileTree.nameLimit) :
    tree.step place segment = .ok (place ++ [segment]) := by
  rw [FileTree.step, here]
  simp only [if_neg down, if_neg (Nat.not_lt.mpr short)]

theorem step_keeps {before after : FileTree} (keeps : Keeps before after) {place next : Place} {segment : String}
    (done : before.step place segment = .ok next) : after.step place segment = .ok next := by
  obtain ⟨here, -⟩ := step_eq_ok done
  unfold FileTree.step at done ⊢
  rw [here] at done
  rw [keeps place here]
  exact done

theorem foldlM_keeps {before after : FileTree} (keeps : Keeps before after) {segments : List String} {place next : Place}
    (done : segments.foldlM before.step place = .ok next) : segments.foldlM after.step place = .ok next := by
  induction segments generalizing place with
  | nil => exact done
  | cons segment rest ih =>
    rw [List.foldlM_cons] at done ⊢
    obtain ⟨between, first, others⟩ := bind_eq_ok done
    rw [step_keeps keeps first]
    exact ih others

theorem find_eq_ok {tree : FileTree} {path : FilePath} {place : Place} (found : tree.find path = .ok place) :
    NullFree path.text ∧ path.text.utf8ByteSize ≤ FileTree.pathLimit ∧
      path.segments.foldlM tree.step (if path.absolute then ["/"] else []) = .ok place := by
  unfold FileTree.find at found
  split at found
  · cases found
  next free =>
    split at found
    · cases found
    next short => exact ⟨by simpa [NullFree] using free, Nat.le_of_not_lt short, found⟩

theorem find_of {tree : FileTree} {path : FilePath} {place : Place} (free : NullFree path.text)
    (short : path.text.utf8ByteSize ≤ FileTree.pathLimit)
    (follows : path.segments.foldlM tree.step (if path.absolute then ["/"] else []) = .ok place) :
    tree.find path = .ok place := by
  rw [FileTree.find, if_neg (by simpa [NullFree] using free), if_neg (Nat.not_lt.mpr short)]
  exact follows

/-- A path leads to the same place as long as directories are kept. -/
theorem find_keeps {before after : FileTree} (keeps : Keeps before after) {path : FilePath} {place : Place}
    (found : before.find path = .ok place) : after.find path = .ok place := by
  obtain ⟨free, short, follows⟩ := find_eq_ok found
  exact find_of free short (foldlM_keeps keeps follows)

/-! ### Below a directory -/

def FilePath.below (path : FilePath) (names : List String) : FilePath :=
  { path with segments := path.segments ++ names }

theorem nullFree_text_iff {path : FilePath} : NullFree path.text ↔ ∀ segment ∈ path.segments, NullFree segment := by
  -- The slash in front and the dot of an empty path hold no null character.
  have joined : NullFree (String.intercalate "/" path.segments) ↔ ∀ segment ∈ path.segments, NullFree segment :=
    ⟨nullFree_of_intercalate, nullFree_intercalate (by decide)⟩
  rw [← joined]
  simp only [FilePath.text]
  split
  · refine ⟨fun free member => free ?_, fun free => NullFree.append (by decide) free⟩
    rw [String.toList_append]
    exact List.mem_append_right _ member
  split
  next empty =>
    have nothing : String.intercalate "/" path.segments = "" := by simpa using empty
    rw [nothing]
    exact ⟨fun _ => by decide, fun _ => by decide⟩
  · exact Iff.rfl

theorem nullFree_below {path : FilePath} (free : NullFree path.text) {names : List String}
    (named : ∀ name ∈ names, NullFree name) : NullFree (path.below names).text := by
  rw [nullFree_text_iff] at free ⊢
  exact List.forall_mem_append.mpr ⟨free, named⟩

/-- Ordinary names, which lead from a directory to what is in it. -/
structure IsOrdinary (name : String) : Prop where
  free : NullFree name
  down : name ≠ ".."
  short : name.utf8ByteSize ≤ FileTree.nameLimit

instance (name : String) : Decidable (IsOrdinary name) :=
  decidable_of_iff (NullFree name ∧ name ≠ ".." ∧ name.utf8ByteSize ≤ FileTree.nameLimit)
    ⟨fun ⟨free, down, short⟩ => ⟨free, down, short⟩, fun ⟨free, down, short⟩ => ⟨free, down, short⟩⟩

/-- A directory leads to what it holds. -/
theorem find_below {tree : FileTree} {path : FilePath} {place : Place} {name : String}
    (found : tree.find path = .ok place) (directory : tree.entryAt? place = some .directory)
    (ordinary : IsOrdinary name) (short : (path.below [name]).text.utf8ByteSize ≤ FileTree.pathLimit) :
    tree.find (path.below [name]) = .ok (place ++ [name]) := by
  obtain ⟨free, -, follows⟩ := find_eq_ok found
  refine find_of (nullFree_below free (List.forall_mem_singleton.mpr ordinary.free)) short ?_
  rw [FilePath.below, List.foldlM_append, follows]
  exact (congrArg (· >>= pure) (step_down directory ordinary.down ordinary.short)).trans rfl

theorem parent_below (path : FilePath) (name : String) : (path.below [name]).parent = path := by
  simp [FilePath.parent, FilePath.below]

theorem below_below (path : FilePath) (first second : List String) :
    (path.below first).below second = path.below (first ++ second) := by
  simp [FilePath.below]

/-- Names that are one segment of a path. -/
structure IsSegment (name : String) : Prop where
  whole : '/' ∉ name.toList
  something : name ≠ ""
  moves : name ≠ "."

instance (name : String) : Decidable (IsSegment name) :=
  decidable_of_iff ('/' ∉ name.toList ∧ name ≠ "" ∧ name ≠ ".")
    ⟨fun ⟨whole, something, moves⟩ => ⟨whole, something, moves⟩,
      fun ⟨whole, something, moves⟩ => ⟨whole, something, moves⟩⟩

theorem IsSegment.noSlash {name : String} (segment : IsSegment name) : ∀ c ∈ name.toList, decide (c = '/') = false :=
  fun _ member => decide_eq_false fun same => segment.whole (same ▸ member)

/-- A text of segments is the path of these. -/
theorem join_of_split (path : FilePath) {text : String} {names : List String} (segments : ∀ name ∈ names, IsSegment name)
    (relative : text.toList.head? ≠ some '/')
    (pieces : Name.splitOnAny (· = '/') text.toList = names.map String.toList) : path.join text = path.below names := by
  have kept : names.filter (fun name => name != "" && name != ".") = names :=
    List.filter_eq_self.mpr fun name member => by
      simp [(segments name member).something, (segments name member).moves]
  have parsed : FilePath.ofText text = ⟨false, names⟩ := by
    simp [FilePath.ofText, relative, pieces, Function.comp_def, kept]
  simp [FilePath.join, parsed, FilePath.below]

theorem join_segment (path : FilePath) {name : String} (segment : IsSegment name) :
    path.join name = path.below [name] := by
  refine join_of_split path (List.forall_mem_singleton.mpr segment) (fun slash => ?_) ?_
  · exact segment.whole (List.mem_of_mem_head? (Option.mem_def.mpr slash))
  · exact splitOnAny_of_none segment.noSlash

theorem join_two (path : FilePath) {first second : String} (outer : IsSegment first) (inner : IsSegment second) :
    path.join (first ++ "/" ++ second) = path.below [first, second] := by
  have chars : (first ++ "/" ++ second).toList = first.toList ++ '/' :: second.toList := by
    simp [String.toList_append]
  refine join_of_split path (List.forall_mem_cons.mpr ⟨outer, List.forall_mem_singleton.mpr inner⟩) ?_ ?_
  · rw [chars, List.head?_append_of_ne_nil _ (by simpa using outer.something)]
    exact fun slash => outer.whole (List.mem_of_mem_head? (Option.mem_def.mpr slash))
  · rw [chars, splitOnAny_append_cons outer.noSlash (by decide), splitOnAny_of_none inner.noSlash]
    rfl

theorem intercalate_snoc_ne_empty (segments : List String) {last : String} (something : last ≠ "") :
    String.intercalate "/" (segments ++ [last]) ≠ "" := by
  cases segments with
  | nil => simpa using something
  | cons first rest =>
    rw [String.intercalate_append_of_ne_nil (by simp) (by simp), String.intercalate_singleton]
    simp [something]

/-- The path of what holds the end of a longer path is no longer than that. -/
theorem size_text_below {path : FilePath} {first : String} (something : first ≠ "") (second : String) :
    (path.below [first]).text.utf8ByteSize ≤ (path.below [first, second]).text.utf8ByteSize := by
  have longer : (path.below [first, second]).segments = (path.segments ++ [first]) ++ [second] := by
    simp [FilePath.below]
  have inner := intercalate_snoc_ne_empty path.segments something
  -- The longer text is the shorter one with a slash and the last name.
  have outer : String.intercalate "/" (path.segments ++ [first] ++ [second]) =
      String.intercalate "/" (path.segments ++ [first]) ++ "/" ++ second := by
    rw [String.intercalate_append_of_ne_nil (by simp) (by simp), String.intercalate_singleton]
  simp only [FilePath.text, longer, outer]
  simp only [FilePath.below, String.isEmpty_iff, inner, String.append_eq_empty_iff, if_false, false_and]
  split <;> simp only [String.utf8ByteSize_append] <;> omega

/-- Are the names of a path, and the path itself, short enough for the system? -/
structure FilePath.Fits (path : FilePath) : Prop where
  names : ∀ name ∈ path.segments, name.utf8ByteSize ≤ FileTree.nameLimit
  whole : path.text.utf8ByteSize ≤ FileTree.pathLimit

/-- A path leads to a directory that is there, with nothing in it. -/
structure IsEmptyDirectory (tree : FileTree) (path : FilePath) (place : Place) : Prop where
  found : tree.find path = .ok place
  directory : tree.entryAt? place = some .directory
  empty : ∀ name rest, name ≠ "/" → name ≠ ".." → tree.entryAt? (place ++ name :: rest) = none

/-! ### Operations -/

section Operations

variable {α β : Type} {tree after : FileTree} {path : FilePath} {place : Place}

theorem outcome_refuse (kind : RefusalKind) :
    outcome (FileAction.refuse path kind : FileAction α) tree = (.error ⟨kind, path.text⟩, tree) := rfl

theorem outcome_locate (found : tree.find path = .ok place) :
    outcome (FileAction.locate path) tree = (.ok place, tree) := by
  rw [FileAction.locate, outcome_bind_ok outcome_get, found]
  rfl

theorem outcome_locate_error {kind : RefusalKind} (failed : tree.find path = .error kind) :
    outcome (FileAction.locate path) tree = (.error ⟨kind, path.text⟩, tree) := by
  rw [FileAction.locate, outcome_bind_ok outcome_get, failed]
  rfl

theorem outcome_lookAt (place : Place) : outcome (FileAction.lookAt place) tree = (.ok (tree.entryAt? place), tree) := rfl

/-- What is there cannot be created again. -/
theorem makeDirectory_present (found : tree.find path = .ok place) (present : (tree.entryAt? place).isSome = true) :
    outcome (FileAction.makeDirectory path) tree = (.error ⟨.exists, path.text⟩, tree) := by
  rw [FileAction.makeDirectory, outcome_bind_ok (outcome_locate found), outcome_bind_ok (outcome_lookAt place),
    if_pos present]
  exact outcome_bind_error (outcome_refuse _)

theorem makeDirectory_absent (found : tree.find path = .ok place) (absent : tree.entryAt? place = none) :
    outcome (FileAction.makeDirectory path) tree = (.ok (), tree.put place .directory) := by
  rw [FileAction.makeDirectory, outcome_bind_ok (outcome_locate found), outcome_bind_ok (outcome_lookAt place),
    if_neg (by simp [absent])]
  exact outcome_modify _

/-- A directory that is there is left as it is. -/
theorem ensureDirectory_present (found : tree.find path = .ok place)
    (directory : tree.entryAt? place = some .directory) :
    outcome (FileAction.ensureDirectory path) tree = (.ok (), tree) := by
  have refused := makeDirectory_present found (by rw [directory]; rfl)
  have look : tree.look? path = .ok (some .directory) := by rw [FileTree.look?, found, ← directory]
  rw [FileAction.ensureDirectory, outcome_bind_ok outcome_get]
  rw [outcome_catch_error refused, look]
  rfl

theorem ensureDirectory_absent (found : tree.find path = .ok place) (absent : tree.entryAt? place = none) :
    outcome (FileAction.ensureDirectory path) tree = (.ok (), tree.put place .directory) := by
  have made := makeDirectory_absent found absent
  rw [FileAction.ensureDirectory, outcome_bind_ok outcome_get]
  exact outcome_catch_ok made

theorem makeDirectories_of_ensure (done : outcome (FileAction.ensureDirectory path) tree = (.ok (), after)) :
    outcome (FileAction.makeDirectories path) tree = (.ok (), after) := by
  unfold FileAction.makeDirectories
  cases path.segments.length with
  | zero => exact done
  | succ steps => exact outcome_catch_ok done

/-- A file is written where there is no directory. -/
theorem writeFile_free (found : tree.find path = .ok place) (free : tree.entryAt? place ≠ some .directory)
    (content : List UInt8) :
    outcome (FileAction.writeFile path content) tree = (.ok (), tree.put place (.file content)) := by
  rw [FileAction.writeFile, outcome_bind_ok (outcome_locate found), outcome_bind_ok (outcome_lookAt place),
    if_neg free]
  exact outcome_modify _

end Operations

/-! ### Refusals -/

/-- Is it the system that refuses? It is not asked about a path that holds a null character. -/
def Refusal.IsOfSystem (refusal : Refusal) : Prop := refusal.kind ≠ .nullCharacter

theorem step_eq_error {tree : FileTree} {place : Place} {segment : String} {kind : RefusalKind}
    (failed : tree.step place segment = .error kind) : kind ≠ .nullCharacter := by
  unfold FileTree.step at failed
  split at failed
  · cases failed
    decide
  · cases failed
    decide
  · split at failed
    · cases failed
    split at failed
    · cases failed
      decide
    · cases failed

theorem foldlM_eq_error {tree : FileTree} {segments : List String} {place : Place} {kind : RefusalKind}
    (failed : segments.foldlM tree.step place = .error kind) : kind ≠ .nullCharacter := by
  induction segments generalizing place with
  | nil => cases failed
  | cons segment rest ih =>
    rw [List.foldlM_cons] at failed
    cases first : tree.step place segment with
    | error other =>
      rw [first] at failed
      cases failed
      exact step_eq_error first
    | ok next =>
      rw [first] at failed
      exact ih failed

theorem find_eq_error {tree : FileTree} {path : FilePath} (free : NullFree path.text) {kind : RefusalKind}
    (failed : tree.find path = .error kind) : kind ≠ .nullCharacter := by
  unfold FileTree.find at failed
  rw [if_neg (by simpa [NullFree] using free)] at failed
  split at failed
  · cases failed
    decide
  · exact foldlM_eq_error failed

theorem pathExists_eq_error {tree : FileTree} {path : FilePath} {refusal : Refusal}
    (failed : tree.pathExists path = .error refusal) : refusal.IsOfSystem := by
  unfold FileTree.pathExists FileTree.look? at failed
  split at failed
  · cases failed
  next kind _ =>
    split at failed
    next long =>
      cases failed
      simp [Refusal.IsOfSystem, long]
    · cases failed

/-- Does the system alone refuse an operation? -/
def FileAction.IsSystematic {α : Type} (action : FileAction α) : Prop :=
  Meets (fun _ => True) Refusal.IsOfSystem action

theorem refuse_isSystematic {α : Type} (path : FilePath) {kind : RefusalKind} (known : kind ≠ .nullCharacter) :
    (FileAction.refuse path kind : FileAction α).IsSystematic := Meets.of_throw known

theorem modify_isSystematic (change : FileTree → FileTree) : (modify change : FileAction Unit).IsSystematic :=
  Meets.of_modify fun _ _ => trivial

section Refusals

variable {path : FilePath} (free : NullFree path.text)
include free

theorem locate_isSystematic : (FileAction.locate path).IsSystematic := by
  refine Meets.of_get.bind fun tree => ?_
  cases found : tree.find path with
  | ok place => exact Meets.of_pure place
  | error kind => exact refuse_isSystematic path (find_eq_error free found)

/-- An operation first looks at what its path leads to. -/
theorem look_isSystematic {next : Place → Option Entry → FileAction Unit}
    (each : ∀ place entry, (next place entry).IsSystematic) :
    (do
      let place ← FileAction.locate path
      let entry ← FileAction.lookAt place
      next place entry).IsSystematic := by
  refine (locate_isSystematic free).bind fun place => Meets.bind ?_ (each place)
  exact Meets.of_get.bind fun _ => Meets.of_pure _

theorem makeDirectory_isSystematic : (FileAction.makeDirectory path).IsSystematic := by
  refine look_isSystematic free fun place entry => Meets.ite (fun _ => ?_) fun _ => modify_isSystematic _
  exact Meets.bind (refuse_isSystematic path (by decide)) fun _ => modify_isSystematic _

theorem ensureDirectory_isSystematic : (FileAction.ensureDirectory path).IsSystematic := by
  refine Meets.of_get.bind fun before => (makeDirectory_isSystematic free).catch fun refusal known => ?_
  split
  · exact Meets.of_pure _
  · exact Meets.of_throw known

theorem writeFile_isSystematic (content : List UInt8) : (FileAction.writeFile path content).IsSystematic := by
  refine look_isSystematic free fun place entry => Meets.ite (fun _ => ?_) fun _ => modify_isSystematic _
  exact Meets.bind (refuse_isSystematic path (by decide)) fun _ => modify_isSystematic _

theorem removeDirectory_isSystematic : (FileAction.removeDirectory path).IsSystematic := by
  refine look_isSystematic free fun place entry => ?_
  match entry with
  | some .directory => exact modify_isSystematic _
  | some (.file _) => exact refuse_isSystematic path (by decide)
  | none => exact refuse_isSystematic path (by decide)

theorem removeFile_isSystematic : (FileAction.removeFile path).IsSystematic := by
  refine look_isSystematic free fun place entry => ?_
  match entry with
  | some .directory => exact refuse_isSystematic path (by decide)
  | some (.file _) => exact modify_isSystematic _
  | none => exact refuse_isSystematic path (by decide)

end Refusals

theorem nullFree_parent {path : FilePath} (free : NullFree path.text) : NullFree path.parent.text := by
  rw [nullFree_text_iff] at free ⊢
  exact fun segment member => free segment ((List.dropLast_sublist _).subset member)

theorem makeDirectoriesFor_isSystematic {path : FilePath} (free : NullFree path.text) (steps : Nat) :
    (FileAction.makeDirectoriesFor path steps).IsSystematic := by
  induction steps generalizing path with
  | zero => exact ensureDirectory_isSystematic free
  | succ steps ih =>
    refine (ensureDirectory_isSystematic free).catch fun refusal known => ?_
    have onTheWay : Meets (fun _ => True) Refusal.IsOfSystem (do
        FileAction.makeDirectoriesFor path.parent steps
        FileAction.ensureDirectory path) :=
      (ih (nullFree_parent free)).bind fun _ => ensureDirectory_isSystematic free
    exact Meets.ite (fun _ => (Meets.of_throw known).bind fun _ => onTheWay) fun _ => onTheWay

theorem placeFile_isSystematic {path : FilePath} (free : NullFree path.text) (content : List UInt8) :
    (FileAction.placeFile path content).IsSystematic :=
  (makeDirectoriesFor_isSystematic (nullFree_parent free) _).bind fun _ => writeFile_isSystematic free content

end Bindery.Files
