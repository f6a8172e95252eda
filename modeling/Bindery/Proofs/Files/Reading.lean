import Bindery.Proofs.Files.Making

/-!
# Reading back

A file that was written can be read, and it stays as it is while files with other names are written, wherever
these are.
-/
namespace Bindery.Files

section Reading

variable {tree after : FileTree} {path other : FilePath} {content content' : List UInt8}

theorem readFile_eq_ok_iff : tree.readFile path = .ok content ↔
    ∃ place, tree.find path = .ok place ∧ tree.entryAt? place = some (.file content) := by
  unfold FileTree.readFile
  cases found : tree.find path with
  | error kind => simp
  | ok place =>
    cases entry : tree.entryAt? place with
    | none => simp [entry]
    | some entry' => cases entry' <;> simp [entry]

/-- A file is put where its path leads once the directories for it are made. -/
theorem placeFile_eq_ok (done : outcome (FileAction.placeFile path content) tree = (.ok (), after)) :
    ∃ made place, Grows tree made ∧ made.find path = .ok place ∧ made.entryAt? place ≠ some .directory ∧
      after = made.put place (.file content) := by
  rw [FileAction.placeFile] at done
  obtain ⟨_, made, opened, done⟩ := outcome_bind_eq_ok done
  rw [FileAction.writeFile] at done
  obtain ⟨place, between, located, done⟩ := outcome_bind_eq_ok done
  -- A path that leads nowhere, and a directory in the place of the file, are refused.
  cases found : made.find path with
  | error kind => cases located.symm.trans (outcome_locate_error found)
  | ok place' =>
    cases located.symm.trans (outcome_locate found)
    rw [outcome_bind_ok (outcome_lookAt place)] at done
    split at done
    · cases (outcome_bind_error (outcome_refuse _)).symm.trans done
    next free =>
      cases (outcome_modify _).symm.trans done
      exact ⟨made, place, (isMade_of_makeDirectories opened).1, found, free, rfl⟩

theorem Grows.keeps {before after : FileTree} (grows : Grows before after) : Keeps before after := by
  intro place there
  rcases grows place with same | ⟨absent, -⟩
  · exact same.trans there
  · cases there.symm.trans absent

/-- What was written is read. -/
theorem readFile_placeFile (done : outcome (FileAction.placeFile path content) tree = (.ok (), after)) :
    after.readFile path = .ok content := by
  obtain ⟨made, place, -, found, free, rfl⟩ := placeFile_eq_ok done
  refine readFile_eq_ok_iff.mpr ⟨place, find_keeps (keeps_put free) found, ?_⟩
  rw [entryAt?_put]
  split
  next given => exact absurd (entryAt?_of_isGiven given made) free
  · rw [if_pos rfl]

/-- A path leads to a place of its last name. -/
theorem find_below_eq_ok {name : String} {place : Place} (down : name ≠ "..")
    (found : tree.find (path.below [name]) = .ok place) : ∃ holder, place = holder ++ [name] := by
  obtain ⟨-, -, follows⟩ := find_eq_ok found
  rw [FilePath.below, List.foldlM_append] at follows
  obtain ⟨holder, -, last⟩ := bind_eq_ok follows
  rw [List.foldlM_cons] at last
  obtain ⟨place', stepped, done⟩ := bind_eq_ok last
  cases done
  obtain ⟨-, next⟩ := step_eq_ok stepped
  rw [if_neg down] at next
  exact ⟨holder, next.2⟩

/-- A file stays when one with another name is written. -/
theorem readFile_placeFile_other {name name' : String} (down : name ≠ "..") (down' : name' ≠ "..") (apart : name ≠ name')
    (read : tree.readFile (path.below [name]) = .ok content)
    (done : outcome (FileAction.placeFile (other.below [name']) content') tree = (.ok (), after)) :
    after.readFile (path.below [name]) = .ok content := by
  obtain ⟨place, found, file⟩ := readFile_eq_ok_iff.mp read
  obtain ⟨made, place', grows, found', free, rfl⟩ := placeFile_eq_ok done
  obtain ⟨holder, rfl⟩ := find_below_eq_ok down found
  obtain ⟨holder', rfl⟩ := find_below_eq_ok down' found'
  -- The last names differ, so the places do.
  have elsewhere : holder ++ [name] ≠ holder' ++ [name'] := fun same =>
    apart (List.cons.inj (List.append_inj' same rfl).2).1
  refine readFile_eq_ok_iff.mpr ⟨_, find_keeps (keeps_put free) (find_keeps grows.keeps found), ?_⟩
  have kept : made.entryAt? (holder ++ [name]) = some (.file content) := by
    rcases grows (holder ++ [name]) with same | ⟨absent, -⟩
    · exact same.trans file
    · cases file.symm.trans absent
  rw [entryAt?_put, if_neg elsewhere, kept]
  split
  next given => exact (entryAt?_of_isGiven given made).symm.trans kept
  · rfl

end Reading

end Bindery.Files
