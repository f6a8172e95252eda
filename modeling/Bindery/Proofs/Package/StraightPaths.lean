import Bindery.Proofs.Package.Replacement

/-!
# Straight paths

A path that never turns back leads through the directories that it names and no others. A package can be written at
the end of such a path unless something other than a package is in its way.
-/
namespace Bindery

namespace Files

/-! ### Paths that never turn back -/

/-- A path without two dots. -/
def FilePath.IsStraight (path : FilePath) : Prop := ∀ name ∈ path.segments, name ≠ ".."

def FilePath.start (path : FilePath) : Place := if path.absolute then ["/"] else []

/-- Where a straight path leads, if anywhere. -/
def FilePath.place (path : FilePath) : Place := path.start ++ path.segments

/-- Every entry is held by a directory. -/
def FileTree.IsClosed (tree : FileTree) : Prop :=
  ∀ place name, tree.entryAt? (place ++ [name]) ≠ none → tree.entryAt? place = some .directory

theorem step_straight {tree : FileTree} {place next : Place} {segment : String} (down : segment ≠ "..")
    (done : tree.step place segment = .ok next) : next = place ++ [segment] := by
  have led := (step_eq_ok done).2
  rw [if_neg down] at led
  exact led.2

theorem foldlM_straight {tree : FileTree} {segments : List String} {place next : Place}
    (straight : ∀ name ∈ segments, name ≠ "..") (done : segments.foldlM tree.step place = .ok next) :
    next = place ++ segments := by
  induction segments generalizing place with
  | nil =>
    cases done
    exact (List.append_nil _).symm
  | cons segment rest ih =>
    rw [List.forall_mem_cons] at straight
    rw [List.foldlM_cons] at done
    obtain ⟨between, first, others⟩ := bind_eq_ok done
    rw [ih straight.2 others, step_straight straight.1 first, List.append_assoc]
    rfl

theorem find_straight {tree : FileTree} {path : FilePath} {place : Place} (straight : path.IsStraight)
    (found : tree.find path = .ok place) : place = path.place :=
  foldlM_straight straight (find_eq_ok found).2.2

/-- A straight path asks for nothing but the places that it leads through. -/
theorem foldlM_congr {tree other : FileTree} {segments : List String} {place : Place}
    (straight : ∀ name ∈ segments, name ≠ "..")
    (same : ∀ passed, passed <+: segments → passed ≠ segments →
      other.entryAt? (place ++ passed) = tree.entryAt? (place ++ passed)) :
    segments.foldlM other.step place = segments.foldlM tree.step place := by
  induction segments generalizing place with
  | nil => rfl
  | cons segment rest ih =>
    rw [List.forall_mem_cons] at straight
    -- A step only asks for the entry of the place it starts from.
    have here := same [] List.nil_prefix (List.cons_ne_nil _ _).symm
    rw [List.append_nil] at here
    have first : other.step place segment = tree.step place segment := by
      unfold FileTree.step
      rw [here]
    rw [List.foldlM_cons, List.foldlM_cons, first]
    cases stepped : tree.step place segment with
    | error kind => rfl
    | ok next =>
      obtain rfl := step_straight straight.1 stepped
      refine ih straight.2 fun passed early further => ?_
      rw [List.append_assoc]
      exact same (segment :: passed) (List.cons_prefix_cons.mpr ⟨rfl, early⟩) fun whole =>
        further (List.cons.inj whole).2

/-- Nothing is held by what is no directory. -/
theorem FileTree.IsClosed.nothing_below {tree : FileTree} (closed : tree.IsClosed) {place : Place}
    (other : tree.entryAt? place ≠ some .directory) (name : String) (rest : List String) :
    tree.entryAt? (place ++ name :: rest) = none := by
  induction rest using List.reverseRecOn with
  | nil =>
    by_contra there
    exact other (closed place name there)
  | append_singleton rest last ih =>
    by_contra there
    -- An entry further down would be held by a directory, but there is nothing by induction.
    have held := closed (place ++ name :: rest) last (by rwa [List.append_assoc, List.cons_append])
    rw [ih] at held
    cases held

theorem find_congr {tree other : FileTree} {path : FilePath} (straight : path.IsStraight)
    (same : ∀ passed, passed <+: path.segments → passed ≠ path.segments →
      other.entryAt? (path.start ++ passed) = tree.entryAt? (path.start ++ passed)) :
    other.find path = tree.find path := by
  have follows := foldlM_congr straight same
  simp only [FilePath.start] at follows
  rw [FileTree.find, FileTree.find, follows]

/-- What holds a directory is one. -/
theorem FileTree.IsClosed.directory_above {tree : FileTree} (closed : tree.IsClosed) {place : Place} {rest : List String}
    (directory : tree.entryAt? (place ++ rest) = some .directory) : tree.entryAt? place = some .directory := by
  cases rest with
  | nil => rwa [List.append_nil] at directory
  | cons name rest =>
    by_contra other
    rw [closed.nothing_below other] at directory
    cases directory

/-! ### What is made on a straight path -/

theorem place_parent (path : FilePath) : path.parent.place <+: path.place :=
  (List.prefix_append_right_inj path.start).mpr (List.dropLast_prefix path.segments)

theorem straight_parent {path : FilePath} (straight : path.IsStraight) : path.parent.IsStraight :=
  fun name member => straight name ((List.dropLast_sublist _).subset member)

section Made

variable {tree after : FileTree} {path : FilePath}

theorem ensureDirectory_straight (straight : path.IsStraight)
    (done : outcome (FileAction.ensureDirectory path) tree = (.ok (), after)) {other : Place}
    (apart : ¬ other <+: path.place) : after.entryAt? other = tree.entryAt? other := by
  -- A directory that is there stays, and one that is made is at the end of the path.
  rcases ensureDirectory_cases tree path with ⟨_, _, _, ended⟩ | ⟨place, found, _, ended⟩ | ⟨_, _, _, _, ended⟩ |
    ⟨_, _, ended⟩
  · cases done.symm.trans ended
    rfl
  · cases done.symm.trans ended
    have elsewhere : other ≠ place := fun same => apart (same ▸ find_straight straight found ▸ List.prefix_rfl)
    rw [entryAt?_put, if_neg elsewhere]
    split
    next given => exact (entryAt?_of_isGiven given tree).symm
    · rfl
  · cases done.symm.trans ended
  · cases done.symm.trans ended

/-- On a straight path nothing is made but the directories on the way. -/
theorem makeDirectoriesFor_straight {steps : Nat} (straight : path.IsStraight)
    (done : outcome (FileAction.makeDirectoriesFor path steps) tree = (.ok (), after)) {other : Place}
    (apart : ¬ other <+: path.place) : after.entryAt? other = tree.entryAt? other := by
  induction steps generalizing tree after path with
  | zero => exact ensureDirectory_straight straight done apart
  | succ steps ih =>
    rw [makeDirectoriesFor_succ] at done
    cases ended : outcome (FileAction.ensureDirectory path) tree with
    | mk result between =>
      rw [ended] at done
      cases result with
      | ok _ => exact ensureDirectory_straight straight (done ▸ ended) apart
      | error refusal =>
        dsimp only at done
        -- The directories above are made first, which are on the way as well, and then the path is tried again.
        split at done
        · obtain ⟨_, middle, before, last⟩ := outcome_bind_eq_ok done
          rw [ensureDirectory_straight straight last apart,
            ih (straight_parent straight) before fun early => apart (early.trans (place_parent path)),
            ensureDirectory_unchanged ended]
        · cases done

end Made

end Files

open Bindery.Files (FileAction FilePath FileTree)

/-- A package can be written at the end of a straight path unless the path is blocked, or something that is no part of
a package is in its place. -/
theorem isReady_of_isStraight {files made : FileTree} {output : FilePath} (straight : output.IsStraight)
    (closed : files.IsClosed) (opened : outcome (FileAction.makeDirectories output) files = (.ok (), made))
    (versions : files.entryAt? (output.place ++ ["apis"]) = some .directory ∨
      files.entryAt? (output.place ++ ["apis"]) = none)
    (root : files.entryAt? (output.place ++ ["__init__.py"]) ≠ some .directory) :
    ∃ begun, IsReady output output.place files begun := by
  obtain ⟨grown, place, found, -⟩ := Files.isMade_of_makeDirectories opened
  obtain rfl := Files.find_straight straight found
  by_cases directory : files.entryAt? output.place = some .directory
  · -- The directories on the way are there, and none of them is part of a package at the end of it.
    have onTheWay (passed : List String) (early : passed <+: output.segments) :
        files.entryAt? (output.start ++ passed) = some .directory := by
      obtain ⟨rest, whole⟩ := early
      rw [FilePath.place, ← whole, ← List.append_assoc] at directory
      exact closed.directory_above directory
    have kept (passed : List String) (early : passed <+: output.segments) :
        (files.drop (isPackagePlace output.place)).entryAt? (output.start ++ passed) = some .directory := by
      refine (entryAt?_drop_beside files (Bool.eq_false_iff.mpr fun inside => ?_)).trans (onTheWay passed early)
      have short : (output.start ++ passed).length ≤ output.place.length := by
        simpa [FilePath.place] using early.length_le
      exact absurd (length_of_isPackagePlace inside) (Nat.not_lt.mpr short)
    have same : (files.drop (isPackagePlace output.place)).find output = made.find output := by
      refine Files.find_congr straight fun passed early _ => (kept passed early).trans ?_
      rcases grown (output.start ++ passed) with same | ⟨absent, -⟩
      · exact (same.trans (onTheWay passed early)).symm
      · cases absent.symm.trans (onTheWay passed early)
    refine ⟨_, .there (same.trans found) directory (versions.imp_right fun absent rest => ?_) root⟩
    cases rest with
    | nil => exact absent
    | cons name rest =>
      have free : files.entryAt? (output.place ++ ["apis"]) ≠ some .directory := by simp [absent]
      have below := closed.nothing_below free name rest
      rwa [List.append_assoc] at below
  -- The directory is new, so there was nothing in the places of the package.
  · refine ⟨made, .fresh opened found fun other inside => ?_⟩
    have longer : ¬ other <+: output.place := fun early =>
      absurd (length_of_isPackagePlace inside) (Nat.not_lt.mpr early.length_le)
    rw [Files.makeDirectoriesFor_straight straight opened longer]
    rcases isPackagePlace_iff.mp inside with ⟨rest, rfl⟩ | rfl
    · exact closed.nothing_below directory _ rest
    · exact closed.nothing_below directory _ []

end Bindery
