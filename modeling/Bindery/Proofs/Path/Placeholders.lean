import Bindery.Proofs.Data.Members
import Bindery.Proofs.Path.Scan
import Mathlib.Data.List.Induction

/-!
# The placeholders of a path by name

A name has the text of the last placeholder with that name.
-/
namespace Bindery.Path

def Placeholder.isNamed (name : String) (p : Placeholder) : Bool := String.ofList p.name = name

def lastNamed? (path name : String) : Option Placeholder :=
  ((scan path.toList).filter (Placeholder.isNamed name)).getLast?

private theorem lookup_collected (found : List Placeholder) (name : String) :
    (found.foldl (fun members p => Data.insertMember members (String.ofList p.name) (String.ofList p.text))
      []).lookup name =
      ((found.filter (Placeholder.isNamed name)).getLast?).map fun p => String.ofList p.text := by
  -- The last placeholder is put in last, and takes the place of an earlier text of its name.
  induction found using List.reverseRecOn with
  | nil => rfl
  | append_singleton found p ih =>
    rw [List.foldl_append, List.foldl_cons, List.foldl_nil, Data.lookup_insertMember, ih,
      List.filter_append, List.getLast?_append]
    by_cases here : String.ofList p.name = name
    · have named : p.isNamed name = true := by simpa [Placeholder.isNamed] using here
      simp [here, named]
    · have other : p.isNamed name = false := by simpa [Placeholder.isNamed] using here
      simp [Ne.symm here, other]

theorem lookup_placeholders (path name : String) :
    (placeholders path).lookup name = (lastNamed? path name).map fun p => String.ofList p.text :=
  lookup_collected (scan path.toList) name

theorem lastNamed?_eq_some {path name : String} {p : Placeholder} (last : lastNamed? path name = some p) :
    p ∈ scan path.toList ∧ String.ofList p.name = name := by
  have member := List.mem_of_getLast? last
  rw [List.mem_filter] at member
  exact ⟨member.1, by simpa [Placeholder.isNamed] using member.2⟩

/-- A name has a text if a placeholder has the name. -/
theorem lookup_isSome_iff (path name : String) : ((placeholders path).lookup name).isSome = true ↔
    ∃ p ∈ scan path.toList, String.ofList p.name = name := by
  rw [lookup_placeholders, Option.isSome_map, lastNamed?, List.getLast?_isSome, ne_eq,
    List.filter_eq_nil_iff]
  simp [Placeholder.isNamed]

/-- The text of a name is the text of a placeholder of that name. -/
theorem isToken_of_lookup {path name text : String} (found : (placeholders path).lookup name = some text) :
    IsToken text.toList := by
  rw [lookup_placeholders, Option.map_eq_some_iff] at found
  obtain ⟨p, last, rfl⟩ := found
  rw [String.toList_ofList]
  exact (isSound_of_mem_scan (lastNamed?_eq_some last).1).token

end Bindery.Path
