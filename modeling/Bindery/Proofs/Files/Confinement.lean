import Bindery.Proofs.Files.Making

/-!
# Confined changes

Where a path leads, if it leads anywhere, can be told from its segments. An operation on files, whether it is refused
or not, adds at most the file that it is for, and directories on the way to it.
-/
namespace Bindery.Files

/-! ### Where paths lead -/

/-- One segment further from a place, if there is a directory. -/
def Place.move (place : Place) (segment : String) : Place := if segment = ".." then place.above else place ++ [segment]

/-- Where a path leads, if all that is on the way is there. -/
def FilePath.goal (path : FilePath) : Place := path.segments.foldl Place.move (if path.absolute then ["/"] else [])

theorem foldlM_eq_goal {tree : FileTree} {segments : List String} {start place : Place}
    (follows : segments.foldlM tree.step start = .ok place) : place = segments.foldl Place.move start := by
  induction segments generalizing start with
  | nil => exact (Except.ok.inj follows).symm
  | cons segment rest ih =>
    rw [List.foldlM_cons] at follows
    obtain ⟨next, first, others⟩ := bind_eq_ok follows
    -- A step that is done moves as it would without any files.
    have moved : next = start.move segment := by
      obtain ⟨-, moved⟩ := step_eq_ok first
      split at moved
      next up => rw [moved, Place.move, if_pos up]
      next down => rw [moved.2, Place.move, if_neg down]
    rw [List.foldl_cons, ← moved]
    exact ih others

/-- What is there decides whether a path can be followed, and not where it leads. -/
theorem find_eq_goal {tree : FileTree} {path : FilePath} {place : Place} (found : tree.find path = .ok place) :
    place = path.goal := foldlM_eq_goal (find_eq_ok found).2.2

theorem goal_below (path : FilePath) {names : List String} (down : ∀ name ∈ names, name ≠ "..") :
    (path.below names).goal = path.goal ++ names := by
  rw [FilePath.goal, FilePath.below, List.foldl_append]
  change names.foldl _ path.goal = path.goal ++ names
  generalize path.goal = place
  -- Each name is one segment further down, so the place moves along with the induction.
  induction names generalizing place with
  | nil => exact (List.append_nil place).symm
  | cons name rest ih =>
    rw [List.forall_mem_cons] at down
    rw [List.foldl_cons, Place.move, if_neg down.1, ih down.2, List.append_assoc]
    rfl

/-! ### What changes -/

/-- Are no files added but certain ones, and does all stay that is outside certain places? -/
structure IsConfined (inside : Place → Bool) (allowed : Place → List UInt8 → Prop) (before after : FileTree) : Prop where
  added : ∀ place content, after.entryAt? place = some (.file content) →
    before.entryAt? place = some (.file content) ∨ allowed place content
  kept : ∀ place entry, inside place = false → before.entryAt? place = some entry → after.entryAt? place = some entry

section Confined

variable {inside : Place → Bool} {allowed : Place → List UInt8 → Prop} {first second third : FileTree}

theorem IsConfined.refl (tree : FileTree) : IsConfined inside allowed tree tree :=
  ⟨fun _ _ => .inl, fun _ _ _ => id⟩

theorem IsConfined.trans (here : IsConfined inside allowed first second) (there : IsConfined inside allowed second third) :
    IsConfined inside allowed first third := by
  constructor
  · intro place content found
    rcases there.added place content found with old | new
    · exact here.added place content old
    · exact .inr new
  · intro place entry outside found
    exact there.kept place entry outside (here.kept place entry outside found)

theorem Grows.isConfined (grown : Grows first second) : IsConfined inside allowed first second := by
  constructor
  · intro place content found
    rcases grown place with same | ⟨-, directory⟩
    · exact .inl (same ▸ found)
    · cases directory.symm.trans found
  · -- What is there is not made again.
    intro place entry _ found
    rcases grown place with same | ⟨absent, -⟩
    · exact same.trans found
    · cases absent.symm.trans found

theorem isConfined_put {tree : FileTree} {place : Place} {content : List UInt8} (within : inside place = true)
    (fine : allowed place content) : IsConfined inside allowed tree (tree.put place (.file content)) := by
  constructor
  · intro other content' found
    rw [entryAt?_put] at found
    split at found
    · cases found
    split at found
    next same =>
      cases found
      exact .inr (same ▸ fine)
    · exact .inl found
  · intro other entry outside found
    -- The place is inside, so what is outside is elsewhere.
    have apart : other ≠ place := by
      rintro rfl
      exact Bool.false_ne_true (outside.symm.trans within)
    rw [entryAt?_put, if_neg apart]
    split
    next given => exact (entryAt?_of_isGiven given tree).symm.trans found
    · exact found

theorem isConfined_drop {tree : FileTree} {gone : Place → Bool} (within : ∀ place, gone place = true → inside place = true) :
    IsConfined inside allowed tree (tree.drop gone) := by
  constructor
  · intro place content found
    rw [entryAt?_drop] at found
    split at found
    · cases found
    split at found
    · cases found
    · exact .inl found
  · intro place entry outside found
    have stays : gone place = false := Bool.eq_false_iff.mpr fun leaves =>
      Bool.false_ne_true (outside.symm.trans (within place leaves))
    rw [entryAt?_drop, stays]
    split
    next given => exact (entryAt?_of_isGiven given tree).symm.trans found
    · exact found

/-! ### Operations -/

variable (tree : FileTree) (path : FilePath)

theorem grows_makeDirectoriesFor (steps : Nat) : Grows tree (outcome (FileAction.makeDirectoriesFor path steps) tree).2 := by
  have ensured (path : FilePath) (tree : FileTree) : Grows tree (outcome (FileAction.ensureDirectory path) tree).2 := by
    rcases ensureDirectory_cases tree path with ⟨_, _, _, ended⟩ | ⟨_, _, absent, ended⟩ | ⟨_, _, _, _, ended⟩ |
      ⟨_, _, ended⟩ <;> rw [ended]
    · exact .refl tree
    · exact grows_put absent
    · exact .refl tree
    · exact .refl tree
  -- A failure may come before the parents are made, among them or after them; what was made till then stays.
  induction steps generalizing path tree with
  | zero => exact ensured path tree
  | succ steps ih =>
    have early := ensured path tree
    rw [makeDirectoriesFor_succ]
    cases ended : outcome (FileAction.ensureDirectory path) tree with
    | mk result between =>
      rw [ended] at early
      cases result with
      | ok _ => exact early
      | error refusal =>
        dsimp only
        split
        · have parents := ih between path.parent
          cases made : outcome (FileAction.makeDirectoriesFor path.parent steps) between with
          | mk result' middle =>
            rw [made] at parents
            cases result' with
            | error refusal' =>
              rw [outcome_bind_error made]
              exact early.trans parents
            | ok _ =>
              rw [outcome_bind_ok made]
              exact (early.trans parents).trans (ensured path middle)
        · exact early

theorem outcome_locate_cases : (∃ refusal, outcome (FileAction.locate path) tree = (.error refusal, tree)) ∨
    outcome (FileAction.locate path) tree = (.ok path.goal, tree) := by
  cases found : tree.find path with
  | ok place =>
    obtain rfl := find_eq_goal found
    exact .inr (outcome_locate found)
  | error kind => exact .inl ⟨_, outcome_locate_error found⟩

/-- A file is placed where its path leads, or not at all. -/
theorem placeFile_isConfined {content : List UInt8} (within : inside path.goal = true) (fine : allowed path.goal content) :
    IsConfined inside allowed tree (outcome (FileAction.placeFile path content) tree).2 := by
  -- Making the parents adds directories only, however far it comes.
  have grown : IsConfined inside allowed tree (outcome (FileAction.makeDirectories path.parent) tree).2 :=
    (grows_makeDirectoriesFor tree path.parent _).isConfined
  cases made : outcome (FileAction.makeDirectories path.parent) tree with
  | mk result between =>
    rw [made] at grown
    cases result with
    | error refusal =>
      rw [FileAction.placeFile, outcome_bind_error made]
      exact grown
    | ok _ =>
      rw [FileAction.placeFile, outcome_bind_ok made, FileAction.writeFile]
      obtain ⟨refusal, lost⟩ | located := outcome_locate_cases between path
      · rw [outcome_bind_error lost]
        exact grown
      · rw [outcome_bind_ok located, outcome_bind_ok (outcome_lookAt path.goal)]
        by_cases directory : between.entryAt? path.goal = some .directory
        · -- The parents that were made stay, though there is no file.
          rw [if_pos directory, outcome_bind_error (outcome_refuse _)]
          exact grown
        · rw [if_neg directory]
          exact grown.trans (isConfined_put within fine)

theorem removeDirectory_isConfined (within : ∀ rest, inside (path.goal ++ rest) = true) :
    IsConfined inside allowed tree (outcome (FileAction.removeDirectory path) tree).2 := by
  rw [FileAction.removeDirectory]
  obtain ⟨refusal, lost⟩ | located := outcome_locate_cases tree path
  · rw [outcome_bind_error lost]
    exact .refl tree
  · rw [outcome_bind_ok located, outcome_bind_ok (outcome_lookAt path.goal)]
    cases tree.entryAt? path.goal with
    | none => exact .refl tree
    | some entry =>
      cases entry with
      | file content => exact .refl tree
      | directory =>
        have dropped : IsConfined inside allowed tree (tree.drop fun other => path.goal.isPrefixOf other) := by
          refine isConfined_drop fun other below => ?_
          obtain ⟨rest, rfl⟩ := List.isPrefixOf_iff_prefix.mp below
          exact within rest
        exact dropped

theorem removeFile_isConfined (within : inside path.goal = true) :
    IsConfined inside allowed tree (outcome (FileAction.removeFile path) tree).2 := by
  rw [FileAction.removeFile]
  obtain ⟨refusal, lost⟩ | located := outcome_locate_cases tree path
  · rw [outcome_bind_error lost]
    exact .refl tree
  · rw [outcome_bind_ok located, outcome_bind_ok (outcome_lookAt path.goal)]
    cases tree.entryAt? path.goal with
    | none => exact .refl tree
    | some entry =>
      cases entry with
      | directory => exact .refl tree
      | file content =>
        have dropped : IsConfined inside allowed tree (tree.drop fun other => decide (other = path.goal)) :=
          isConfined_drop fun other same => of_decide_eq_true same ▸ within
        simp only [FileTree.drop, ← decide_not] at dropped
        exact dropped

end Confined

end Bindery.Files
