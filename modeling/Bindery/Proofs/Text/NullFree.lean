import Bindery.Proofs.Text.Joined
import Bindery.Proofs.Text.Quoted

/-!
# Texts without null characters

The null character ends a text for the system and for the target language, so names, paths and modules
have to be free of it.
-/
namespace Bindery

def NullFree (s : String) : Prop := '\x00' ∉ s.toList

instance (s : String) : Decidable (NullFree s) := inferInstanceAs (Decidable ('\x00' ∉ s.toList))

theorem NullFree.append {first second : String} (left : NullFree first) (right : NullFree second) :
    NullFree (first ++ second) := by
  unfold NullFree
  rw [String.toList_append, List.mem_append]
  exact fun member => member.elim left right

theorem nullFree_ofList {chars : List Char} (free : '\x00' ∉ chars) : NullFree (String.ofList chars) := by
  rwa [NullFree, String.toList_ofList]

theorem nullFree_of_visible {s : String} (visible : ∀ c ∈ s.toList, Text.IsVisible c) : NullFree s :=
  fun member => (visible _ member).ne_null rfl

theorem nullFree_intercalate {separator : String} (between : NullFree separator) {items : List String}
    (free : ∀ item ∈ items, NullFree item) : NullFree (String.intercalate separator items) :=
  (notMem_joined_iff between).mpr free

theorem nullFree_of_intercalate {separator : String} {items : List String}
    (free : NullFree (String.intercalate separator items)) : ∀ item ∈ items, NullFree item :=
  notMem_of_joined free

end Bindery
