import Bindery.Proofs.Files.Directories

/-!
# Making and removing directories

A directory that is made with all that is missing on the way adds directories and nothing else. What is removed
takes nothing else with it.
-/
namespace Bindery.Files

/-! ### Trees without some places -/

/-- A tree without what is at some places. -/
def FileTree.drop (tree : FileTree) (gone : Place → Bool) : FileTree := ⟨tree.entries.filter fun e => !gone e.1⟩

theorem entryAt?_drop (tree : FileTree) (gone : Place → Bool) (place : Place) :
    (tree.drop gone).entryAt? place =
      if place.isGiven then some .directory else if gone place then none else tree.entryAt? place := by
  unfold FileTree.entryAt? FileTree.drop
  rw [lookup_filter tree.entries fun p => !gone p]
  by_cases given : place.isGiven = true
  · simp only [if_pos given]
  · cases out : gone place <;> simp [given]

theorem drop_drop (tree : FileTree) (first second : Place → Bool) :
    (tree.drop first).drop second = tree.drop fun place => first place || second place := by
  simp only [FileTree.drop, List.filter_filter]
  congr 1
  refine List.filter_congr fun entry _ => ?_
  rw [Bool.not_or, Bool.and_comm]

theorem keeps_drop (tree : FileTree) (gone : Place → Bool) : Keeps (tree.drop gone) tree := by
  intro place found
  rw [entryAt?_drop] at found
  split at found
  next given => exact entryAt?_of_isGiven given tree
  split at found
  · cases found
  · exact found

/-- Where nothing is, nothing can be taken away. -/
theorem drop_eq_self {tree : FileTree} {gone : Place → Bool}
    (nothing : ∀ place, gone place = true → place.isGiven = false ∧ tree.entryAt? place = none) :
    tree.drop gone = tree := by
  unfold FileTree.drop
  congr 1
  refine List.filter_eq_self.mpr fun entry member => ?_
  -- An entry that went would be found at its place, where nothing is.
  by_contra out
  obtain ⟨elsewhere, absent⟩ := nothing entry.1 (by simpa using out)
  rw [FileTree.entryAt?, if_neg (by simp [elsewhere]), List.lookup_eq_none_iff] at absent
  simpa using absent entry member

/-! ### Removing -/

section Removal

variable {tree : FileTree} {path : FilePath} {place : Place}

theorem pathExists_of_find (found : tree.find path = .ok place) :
    tree.pathExists path = .ok (tree.entryAt? place).isSome := by
  rw [FileTree.pathExists, FileTree.look?, found]
  rfl

theorem outcome_removeDirectory (found : tree.find path = .ok place)
    (directory : tree.entryAt? place = some .directory) :
    outcome (FileAction.removeDirectory path) tree = (.ok (), tree.drop fun other => place.isPrefixOf other) := by
  rw [FileAction.removeDirectory, outcome_bind_ok (outcome_locate found), outcome_bind_ok (outcome_lookAt place),
    directory]
  exact outcome_modify _

theorem outcome_removeFile (found : tree.find path = .ok place) {content : List UInt8}
    (file : tree.entryAt? place = some (.file content)) :
    outcome (FileAction.removeFile path) tree = (.ok (), tree.drop fun other => decide (other = place)) := by
  rw [FileAction.removeFile, outcome_bind_ok (outcome_locate found), outcome_bind_ok (outcome_lookAt place), file]
  refine (outcome_modify _).trans ?_
  simp only [FileTree.drop, decide_not]

end Removal

/-! ### Making -/

/-- Does one tree have what another one has, and beyond that directories only? -/
def Grows (before after : FileTree) : Prop := ∀ place, after.entryAt? place = before.entryAt? place ∨
  before.entryAt? place = none ∧ after.entryAt? place = some .directory

theorem Grows.refl (tree : FileTree) : Grows tree tree := fun _ => .inl rfl

theorem Grows.trans {first second third : FileTree} (here : Grows first second) (there : Grows second third) :
    Grows first third := by
  intro place
  -- What is made in the first step is there in the second one.
  rcases here place with same | ⟨absent, made⟩ <;> rcases there place with same' | ⟨absent', made'⟩
  · exact .inl (same'.trans same)
  · exact .inr ⟨same ▸ absent', made'⟩
  · exact .inr ⟨absent, same'.trans made⟩
  · exact .inr ⟨absent, made'⟩

theorem grows_put {tree : FileTree} {place : Place} (absent : tree.entryAt? place = none) :
    Grows tree (tree.put place .directory) := by
  intro other
  rw [entryAt?_put]
  split
  next given => exact .inl (entryAt?_of_isGiven given tree).symm
  split
  next same => exact .inr ⟨same ▸ absent, rfl⟩
  · exact .inl rfl

section Making

variable {tree after : FileTree} {path : FilePath}

/-- What has been made can be followed. -/
def IsMade (tree after : FileTree) (path : FilePath) : Prop :=
  Grows tree after ∧ ∃ place, after.find path = .ok place ∧ after.entryAt? place = some .directory

/-- The ways in which a directory comes to be there, or not. -/
theorem ensureDirectory_cases (tree : FileTree) (path : FilePath) :
    (∃ place, tree.find path = .ok place ∧ tree.entryAt? place = some .directory ∧
      outcome (FileAction.ensureDirectory path) tree = (.ok (), tree)) ∨
    (∃ place, tree.find path = .ok place ∧ tree.entryAt? place = none ∧
      outcome (FileAction.ensureDirectory path) tree = (.ok (), tree.put place .directory)) ∨
    (∃ place content, tree.find path = .ok place ∧ tree.entryAt? place = some (.file content) ∧
      outcome (FileAction.ensureDirectory path) tree = (.error ⟨.exists, path.text⟩, tree)) ∨
    ∃ kind, tree.find path = .error kind ∧
      outcome (FileAction.ensureDirectory path) tree = (.error ⟨kind, path.text⟩, tree) := by
  cases found : tree.find path with
  | error kind =>
    refine .inr (.inr (.inr ⟨kind, rfl, ?_⟩))
    have refused : outcome (FileAction.makeDirectory path) tree = (.error ⟨kind, path.text⟩, tree) :=
      outcome_bind_error (outcome_locate_error found)
    -- A directory that exists is no fault, but a path that cannot be followed shows none.
    have unseen : tree.look? path ≠ .ok (some .directory) := by
      rw [FileTree.look?, found]
      dsimp only
      split <;> simp
    rw [FileAction.ensureDirectory, outcome_bind_ok outcome_get, outcome_catch_error refused]
    split
    next seen => exact absurd seen unseen
    · rfl
  | ok place =>
    cases entry : tree.entryAt? place with
    | none => exact .inr (.inl ⟨place, rfl, entry, ensureDirectory_absent found entry⟩)
    | some entry' =>
      cases entry' with
      | directory => exact .inl ⟨place, rfl, entry, ensureDirectory_present found entry⟩
      | file content =>
        refine .inr (.inr (.inl ⟨place, content, rfl, entry, ?_⟩))
        have refused := makeDirectory_present found (by rw [entry]; rfl)
        have look : tree.look? path = .ok (some (.file content)) := by rw [FileTree.look?, found, ← entry]
        rw [FileAction.ensureDirectory, outcome_bind_ok outcome_get, outcome_catch_error refused, look]
        rfl

theorem isMade_of_ensureDirectory (done : outcome (FileAction.ensureDirectory path) tree = (.ok (), after)) :
    IsMade tree after path := by
  rcases ensureDirectory_cases tree path with ⟨place, found, there, same⟩ | ⟨place, found, absent, made⟩ |
    ⟨_, _, _, _, failed⟩ | ⟨_, _, failed⟩
  · cases done.symm.trans same
    exact ⟨Grows.refl tree, place, found, there⟩
  · cases done.symm.trans made
    have free : tree.entryAt? place ≠ some .directory := by simp [absent]
    exact ⟨grows_put absent, place, find_keeps (keeps_put free) found, by simp [entryAt?_put]⟩
  · cases done.symm.trans failed
  · cases done.symm.trans failed

/-- A directory that could not be made leaves everything as it was. -/
theorem ensureDirectory_unchanged {refusal : Refusal}
    (failed : outcome (FileAction.ensureDirectory path) tree = (.error refusal, after)) : after = tree := by
  rcases ensureDirectory_cases tree path with ⟨_, _, _, ended⟩ | ⟨_, _, _, ended⟩ | ⟨_, _, _, _, ended⟩ |
    ⟨_, _, ended⟩ <;> cases failed.symm.trans ended
  · rfl
  · rfl

/-- One round of making what is missing: the directory before first, if it is that which is missing. -/
theorem makeDirectoriesFor_succ (path : FilePath) (steps : Nat) (tree : FileTree) :
    outcome (FileAction.makeDirectoriesFor path (steps + 1)) tree =
      match outcome (FileAction.ensureDirectory path) tree with
      | (.error refusal, between) =>
        if refusal.kind = .notFound then
          outcome (do
            FileAction.makeDirectoriesFor path.parent steps
            FileAction.ensureDirectory path) between
        else (.error refusal, between)
      | done => done := by
  rw [FileAction.makeDirectoriesFor]
  cases ended : outcome (FileAction.ensureDirectory path) tree with
  | mk result between =>
    cases result with
    | ok u => exact outcome_catch_ok ended
    | error refusal =>
      rw [outcome_catch_error ended]
      dsimp only
      -- Any other refusal is raised again.
      by_cases missing : refusal.kind = .notFound
      · rw [if_pos missing, if_neg (by simpa using missing)]
      · rw [if_neg missing, if_pos missing]
        exact outcome_bind_error (outcome_throw refusal)

theorem isMade_of_makeDirectoriesFor {steps : Nat}
    (done : outcome (FileAction.makeDirectoriesFor path steps) tree = (.ok (), after)) : IsMade tree after path := by
  induction steps generalizing tree after path with
  | zero => exact isMade_of_ensureDirectory done
  | succ steps ih =>
    rw [makeDirectoriesFor_succ] at done
    cases ended : outcome (FileAction.ensureDirectory path) tree with
    | mk result between =>
      rw [ended] at done
      cases result with
      | ok _ => exact isMade_of_ensureDirectory (done ▸ ended)
      | error refusal =>
        dsimp only at done
        -- The parents are made first, and then the directory is tried again.
        split at done
        · obtain ⟨_, middle, before, last⟩ := outcome_bind_eq_ok done
          obtain ⟨grown, -⟩ := ih before
          obtain ⟨more, found⟩ := isMade_of_ensureDirectory last
          exact ⟨(ensureDirectory_unchanged ended ▸ grown).trans more, found⟩
        · cases done

/-- A directory that was made with all that was missing can be followed, and nothing but directories was added. -/
theorem isMade_of_makeDirectories (done : outcome (FileAction.makeDirectories path) tree = (.ok (), after)) :
    IsMade tree after path := isMade_of_makeDirectoriesFor done

theorem makeDirectories_present {place : Place} (found : tree.find path = .ok place)
    (directory : tree.entryAt? place = some .directory) :
    outcome (FileAction.makeDirectories path) tree = (.ok (), tree) :=
  makeDirectories_of_ensure (ensureDirectory_present found directory)

/-- What is refused for another reason than that something is missing is not tried again. -/
theorem makeDirectories_refused {refusal : Refusal}
    (failed : outcome (FileAction.ensureDirectory path) tree = (.error refusal, after)) (other : refusal.kind ≠ .notFound) :
    outcome (FileAction.makeDirectories path) tree = (.error refusal, after) := by
  unfold FileAction.makeDirectories
  cases path.segments.length with
  | zero => exact failed
  | succ steps =>
    rw [makeDirectoriesFor_succ, failed]
    exact if_neg other

end Making

section Below

variable {tree after : FileTree} {path : FilePath} {name : String}

theorem find_below_error {kind : RefusalKind} (free : NullFree path.text) (named : NullFree name)
    (short : (path.below [name]).text.utf8ByteSize ≤ FileTree.pathLimit)
    (stuck : (path.segments.foldlM tree.step (if path.absolute then ["/"] else []) >>= (tree.step · name)) = .error kind) :
    tree.find (path.below [name]) = .error kind := by
  have below := nullFree_below free (List.forall_mem_singleton.mpr named)
  rw [FileTree.find, if_neg (by simpa [NullFree] using below), if_neg (Nat.not_lt.mpr short)]
  simp only [FilePath.below, List.foldlM_append, List.foldlM_cons, List.foldlM_nil, bind_pure]
  exact stuck

/-- Behind what is missing nothing is found. -/
theorem find_below_missing (ordinary : IsOrdinary name)
    (short : (path.below [name]).text.utf8ByteSize ≤ FileTree.pathLimit)
    (missing : tree.find path = .error .notFound ∨ ∃ place, tree.find path = .ok place ∧ tree.entryAt? place = none) :
    tree.find (path.below [name]) = .error .notFound := by
  rcases missing with stuck | ⟨place, found, absent⟩
  · unfold FileTree.find at stuck
    split at stuck
    · cases stuck
    next free =>
      split at stuck
      · cases stuck
      · exact find_below_error (by simpa [NullFree] using free) ordinary.free short (by rw [stuck]; rfl)
  · obtain ⟨free, -, follows⟩ := find_eq_ok found
    refine find_below_error free ordinary.free short ?_
    rw [follows]
    change tree.step place name = _
    rw [FileTree.step, absent]

theorem ensureDirectory_missing (missing : tree.find path = .error .notFound) :
    outcome (FileAction.ensureDirectory path) tree = (.error ⟨.notFound, path.text⟩, tree) := by
  rcases ensureDirectory_cases tree path with ⟨_, found, _⟩ | ⟨_, found, _⟩ | ⟨_, _, found, _⟩ | ⟨kind, stuck, failed⟩
  · cases missing.symm.trans found
  · cases missing.symm.trans found
  · cases missing.symm.trans found
  · cases missing.symm.trans stuck
    exact failed

/-- A directory that can be made is there, or nothing is found in it yet. -/
theorem makeDirectories_cases (made : outcome (FileAction.makeDirectories path) tree = (.ok (), after))
    (ordinary : IsOrdinary name) (short : (path.below [name]).text.utf8ByteSize ≤ FileTree.pathLimit) :
    after = tree ∨ tree.find (path.below [name]) = .error .notFound := by
  rcases ensureDirectory_cases tree path with ⟨_, leads, directory, _⟩ | ⟨other, leads, nothing, _⟩ |
    ⟨_, _, _, _, failed⟩ | ⟨kind, stuck, failed⟩
  · cases made.symm.trans (makeDirectories_present leads directory)
    exact .inl rfl
  · exact .inr (find_below_missing ordinary short (.inr ⟨other, leads, nothing⟩))
  · cases made.symm.trans (makeDirectories_refused failed (by simp))
  · by_cases missing : kind = .notFound
    · exact .inr (find_below_missing ordinary short (.inl (missing ▸ stuck)))
    · cases made.symm.trans (makeDirectories_refused failed missing)

section Made

variable {place : Place} (made : outcome (FileAction.makeDirectories path) tree = (.ok (), after))
  (found : after.find path = .ok place) (absent : after.entryAt? (place ++ [name]) = none) (ordinary : IsOrdinary name)
  (short : (path.below [name]).text.utf8ByteSize ≤ FileTree.pathLimit)
include made found absent ordinary short

omit absent in
/-- What is made in a directory is found there. -/
theorem find_below_made : after.find (path.below [name]) = .ok (place ++ [name]) := by
  obtain ⟨-, other, leads, directory⟩ := isMade_of_makeDirectories made
  cases found.symm.trans leads
  exact find_below found directory ordinary short

/-- A directory is made in one that has been made. -/
theorem makeDirectories_below : outcome (FileAction.makeDirectories (path.below [name])) tree =
    (.ok (), after.put (place ++ [name]) .directory) := by
  have last := ensureDirectory_absent (find_below_made made found ordinary short) absent
  rcases makeDirectories_cases made ordinary short with rfl | missing
  · exact makeDirectories_of_ensure last
  · -- The directory before is missing, and it is made on a second round.
    have steps : (path.below [name]).segments.length = path.segments.length + 1 := by simp [FilePath.below]
    rw [FileAction.makeDirectories, steps, makeDirectoriesFor_succ, ensureDirectory_missing missing]
    simp only [if_true, parent_below]
    exact (outcome_bind_ok made).trans last

/-- What is not there once its directory has been made was not there before. -/
theorem pathExists_below : tree.pathExists (path.below [name]) = .ok false := by
  rcases makeDirectories_cases made ordinary short with rfl | missing
  · rw [pathExists_of_find (find_below_made made found ordinary short), absent]
    rfl
  · rw [FileTree.pathExists, FileTree.look?, missing]
    rfl

end Made

/-- A file is written into a directory that has been made. -/
theorem placeFile_made {place : Place} (made : outcome (FileAction.makeDirectories path) tree = (.ok (), after))
    (found : after.find path = .ok place) (directory : after.entryAt? place = some .directory)
    (ordinary : IsOrdinary name) (short : (path.below [name]).text.utf8ByteSize ≤ FileTree.pathLimit)
    (free : after.entryAt? (place ++ [name]) ≠ some .directory) (content : List UInt8) :
    outcome (FileAction.placeFile (path.below [name]) content) tree =
      (.ok (), after.put (place ++ [name]) (.file content)) := by
  rw [FileAction.placeFile, parent_below, outcome_bind_ok made]
  exact writeFile_free (find_below found directory ordinary short) free content

end Below

end Bindery.Files
