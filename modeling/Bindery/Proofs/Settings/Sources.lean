import Bindery.Proofs.Data.Members
import Bindery.Proofs.Steps
import Bindery.Settings.Sources

/-!
# Sources without options

Where no member of a document is an option, and no variable is named like those for settings, nothing but the members has
a say, and no source can be at fault.
-/
namespace Bindery.Settings

open Bindery.Data (Datum insertMember)

/-- Has no variable a name that begins like those for settings? Capital letters make no difference. -/
def IsUnset (environment : List (String × String)) : Prop :=
  ∀ entry ∈ environment, ¬ (Text.lower usualStart).toList <+: (Text.lower entry.1).toList

/-- Is no member an option? -/
def HasNoOptions (members : List (String × Datum)) : Prop := ∀ member ∈ members, member.1 ∉ optionNames

/-! ### Variables -/

theorem usualStart_isPrefix :
    ∀ field ∈ fields, (Text.lower usualStart).toList <+: (Text.lower (usualStart ++ field)).toList := by
  decide +kernel

/-- Variables are found under the names that were given, as they are compared. -/
theorem lookup_namedValues {naming : Naming} {given : List (String × Option String)} {name : String}
    (other : ∀ entry ∈ given, naming.fold entry.1 ≠ name) : (naming.namedValues given).lookup name = none := by
  unfold Naming.namedValues
  refine List.foldlRecOn (motive := fun found : Variables => found.lookup name = none) _ _ rfl
    fun found absent entry member => ?_
  dsimp only
  -- A variable is left out, or set under a name that is another one.
  split
  · exact absent
  · rw [Data.lookup_insertMember, if_neg (Ne.symm (other entry member)), absent]

/-- Where no name is that of a field, nothing is set. -/
theorem fromVariables_eq_nil {given : Variables}
    (unset : ∀ field ∈ fields, given.lookup (Text.lower (usualStart ++ field)) = none) :
    ({} : Naming).fromVariables given = .ok [] := by
  -- No field has a value, for whatever it is asked.
  have each : ∀ field ∈ fields, ({} : Naming).fieldValue? given field = .ok none := by
    intro field member
    have named : ({} : Naming).nameFor? field = .ok (Text.lower (usualStart ++ field)) := rfl
    simp only [Naming.fieldValue?, named, Except.mapError, bind, Except.bind, unset field member]
    split <;> rfl
  have found : fields.mapM (fun field => do
      return (← ({} : Naming).fieldValue? given field).map fun value => (field, value)) = .ok (fields.map fun _ => none) :=
    mapM_eq_ok fun field member => by rw [each field member]; rfl
  rw [Naming.fromVariables, found]
  simp [bind, Except.bind, pure, Except.pure]

/-- Without options the sources are never at fault. -/
theorem gather_eq_ok {surroundings : Surroundings} (unset : IsUnset surroundings.environment)
    {members : List (String × Datum)} (plain : HasNoOptions members) :
    gather surroundings members = .ok (merge [] members) := by
  -- All members are settings, and there is no option among them.
  have split : Options.split members = (⟨[]⟩, members) := by
    have others : members.filter (fun member => optionNames.contains member.1) = [] := by simpa [HasNoOptions] using plain
    have all : members.filter (not ∘ fun member => optionNames.contains member.1) = members := by
      simpa [HasNoOptions] using plain
    rw [Options.split, List.partition_eq_filter_filter, others, all]
  have naming : Options.naming ⟨[]⟩ = .ok {} := rfl
  have files : fileVariables surroundings ⟨[]⟩ {} = .ok [] := rfl
  -- In the environment no name can be that of a field, and the other sources are empty.
  have ambient : ({} : Naming).fromVariables (({} : Naming).namedValues
      (surroundings.environment.map fun entry => (entry.1, some entry.2))) = .ok [] := by
    refine fromVariables_eq_nil fun field member => lookup_namedValues (List.forall_mem_map.mpr fun entry among same => ?_)
    refine unset entry among ?_
    have same : Text.lower entry.1 = Text.lower (usualStart ++ field) := same
    rw [same]
    exact usualStart_isPrefix field member
  have fromFiles : ({} : Naming).fromVariables [] = .ok [] := fromVariables_eq_nil fun _ _ => rfl
  have secrets : fromSecrets surroundings ⟨[]⟩ {} = .ok [] := rfl
  unfold gather
  simp only [split, naming, files, ambient, fromFiles, secrets, Except.mapError, bind, Except.bind, pure, Except.pure]
  rfl

end Bindery.Settings
