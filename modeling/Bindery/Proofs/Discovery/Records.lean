import Bindery.Discovery.Catalogue
import Bindery.Proofs.Data.Members
import Bindery.Proofs.Data.Repetitions
import Bindery.Proofs.Schema.Readings

/-!
# Records of APIs

The record of an API is read from its metadata, less the name and the address, which are set before it is read. Of
several records with one name the first one is listed.
-/
namespace Bindery

open Bindery.Data (Datum insertMember)
open Bindery.Discovery (Catalogue)
open Bindery.Schema (Checked Metadata fieldOr metadataFields optionalField readText)

/-! ### What is read of metadata -/

/-- What the members of a metadata document say of an API. Its name and its address are none of that. -/
structure IsRead (members : List (String × Datum)) (metadata : Metadata) : Prop where
  name : optionalField "name" readText members = .valid metadata.name
  description : optionalField "description" readText members = .valid metadata.description
  versions : fieldOr ["versions"] (.valid [])
    (fun value => (Schema.readList value).andThen (Schema.eachItem readText)) members = .valid metadata.versions
  extra : metadata.extra = members.filter fun member => !metadataFields.contains member.1

theorem fieldOr_insertMember {α : Type} {name key : String} (other : name ≠ key) (absent : Checked α)
    (read : Datum → Checked α) (members : List (String × Datum)) (value : Datum) :
    fieldOr [name] absent read (insertMember members key value) = fieldOr [name] absent read members := by
  simp [fieldOr, Schema.findField, Data.lookup_insertMember, other]

theorem filter_insertMember {α : Type} (keep : String → Bool) {key : String} (dropped : keep key = false)
    (members : List (String × α)) (value : α) :
    (insertMember members key value).filter (fun member => keep member.1) = members.filter fun member => keep member.1 := by
  induction members with
  | nil => simp [insertMember, dropped]
  | cons member rest ih =>
    obtain ⟨k, v⟩ := member
    by_cases here : k = key
    · subst here
      simp [insertMember, dropped]
    · simp only [insertMember, if_neg here, List.filter_cons, ih]

/-- A name and an address that are set in front of the validation are read back, whatever was served in their place. -/
theorem readMetadata_named (members : List (String × Datum)) (identifier url : String) (metadata : Metadata) :
    Schema.readMetadata (.object (insertMember (insertMember members "identifier" (.text identifier)) "url" (.text url))) =
        .valid metadata ↔
      metadata.identifier = identifier ∧ metadata.url = url ∧ IsRead members metadata := by
  -- Both keys are fields of a record, and neither of them is a field that is read from the document.
  have extra : (insertMember (insertMember members "identifier" (.text identifier)) "url" (.text url)).filter
        (fun member => !metadataFields.contains member.1) =
      members.filter fun member => !metadataFields.contains member.1 := by
    rw [filter_insertMember (fun key => !metadataFields.contains key) (by decide),
      filter_insertMember (fun key => !metadataFields.contains key) (by decide)]
  have own : Schema.required "identifier" readText
      (insertMember (insertMember members "identifier" (.text identifier)) "url" (.text url)) = .valid identifier := by
    simp [Schema.required, fieldOr, Schema.findField, Data.lookup_insertMember, readText, Checked.within]
  have address : Schema.required "url" readText
      (insertMember (insertMember members "identifier" (.text identifier)) "url" (.text url)) = .valid url := by
    simp [Schema.required, fieldOr, Schema.findField, Data.lookup_insertMember, readText, Checked.within]
  have others {α : Type} {name : String} (apart : name ≠ "identifier" ∧ name ≠ "url") (absent : Checked α)
      (read : Datum → Checked α) :
      fieldOr [name] absent read
          (insertMember (insertMember members "identifier" (.text identifier)) "url" (.text url)) =
        fieldOr [name] absent read members := by
    rw [fieldOr_insertMember apart.2, fieldOr_insertMember apart.1]
  have begun {α : Type} (value : List (String × Datum)) (next : List (String × Datum) → Checked α) :
      (Checked.valid value).andThen next = next value := rfl
  have names : ∀ name ∈ ["name", "description", "versions"], name ≠ "identifier" ∧ name ≠ "url" := by decide
  simp only [List.forall_mem_cons] at names
  obtain ⟨name, description, versions, -⟩ := names
  rw [Schema.readMetadata, Schema.readRecord, begun, own, address, extra, optionalField, optionalField, others name,
    others description, others versions]
  -- The fields are read one after the other, and all of them have to come through.
  constructor
  · intro read
    obtain ⟨_, _, first, listed, same⟩ := seq_eq_valid read
    obtain ⟨_, _, second, described, same'⟩ := seq_eq_valid first
    obtain ⟨_, _, third, titled, same''⟩ := seq_eq_valid second
    cases third
    subst same same' same''
    exact ⟨rfl, rfl, titled, described, listed, rfl⟩
  · rintro ⟨rfl, rfl, titled, described, listed, rest⟩
    unfold optionalField at titled described
    rw [titled, described, listed, ← rest]
    rfl

theorem identify?_eq_some_iff {url : String} {document : Datum} {metadata : Metadata} :
    Discovery.identify? url document = some metadata ↔
      ∃ members, document = .object members ∧ Name.api? url = some metadata.identifier ∧ metadata.url = url ∧
        IsRead members metadata := by
  unfold Discovery.identify?
  constructor
  -- A name is derived first, then the document has to be an object, then it is read.
  · intro found
    obtain ⟨identifier, derived, found⟩ := Option.bind_eq_some_iff.mp found
    obtain ⟨members, object, found⟩ := Option.bind_eq_some_iff.mp found
    obtain ⟨same, address, read⟩ := (readMetadata_named members identifier url metadata).mp (toOption_eq_some found)
    cases document <;> cases object
    exact ⟨members, rfl, same ▸ derived, address, read⟩
  · rintro ⟨members, rfl, derived, address, read⟩
    have valid := (readMetadata_named members metadata.identifier url metadata).mpr ⟨rfl, address, read⟩
    exact Option.bind_eq_some_iff.mpr ⟨_, derived, Option.bind_eq_some_iff.mpr ⟨members, rfl,
      congrArg Checked.toOption valid⟩⟩

/-! ### The first record of each name -/

/-- Do APIs give each name once, in the order of the first records of the names, with the first record? -/
structure HoldsFirst (records : List Metadata) (apis : List (String × Metadata)) : Prop where
  names : apis.map Prod.fst = (records.map Metadata.identifier).eraseDups
  first : ∀ entry ∈ apis, ∃ before after, records = before ++ entry.2 :: after ∧ entry.2.identifier = entry.1 ∧
    ∀ earlier ∈ before, earlier.identifier ≠ entry.1

theorem HoldsFirst.add {records : List Metadata} {apis : List (String × Metadata)} (holds : HoldsFirst records apis)
    (metadata : Metadata) :
    HoldsFirst (records ++ [metadata])
      (if (apis.lookup metadata.identifier).isSome then apis else apis ++ [(metadata.identifier, metadata)]) := by
  have known : (apis.lookup metadata.identifier).isSome = true ↔ metadata.identifier ∈ records.map Metadata.identifier := by
    rw [← List.mem_eraseDups, ← holds.names, ← not_iff_not, Bool.not_eq_true, Option.isSome_eq_false_iff,
      Option.isNone_iff_eq_none]
    exact Data.lookup_eq_none_iff
  have kept : ∀ entry ∈ apis, ∃ before after, records ++ [metadata] = before ++ entry.2 :: after ∧
      entry.2.identifier = entry.1 ∧ ∀ earlier ∈ before, earlier.identifier ≠ entry.1 := by
    intro entry member
    obtain ⟨before, after, split, own, none⟩ := holds.first entry member
    exact ⟨before, after ++ [metadata], by rw [split]; simp, own, none⟩
  by_cases listed : (apis.lookup metadata.identifier).isSome = true
  · -- An earlier record of this name stays the one that counts.
    rw [if_pos listed]
    refine ⟨?_, kept⟩
    rw [List.map_append, List.map_singleton, eraseDups_snoc, if_pos (known.mp listed), holds.names]
  · rw [if_neg listed]
    have new := fun member => listed (known.mpr member)
    refine ⟨?_, List.forall_mem_append.mpr ⟨kept, List.forall_mem_singleton.mpr ⟨records, [], rfl, rfl, ?_⟩⟩⟩
    · rw [List.map_append, List.map_append, List.map_singleton, List.map_singleton, eraseDups_snoc, if_neg new, holds.names]
    · exact fun earlier member same => new (List.mem_map.mpr ⟨earlier, member, same⟩)

/-- After all records, the first one of each name is listed. -/
theorem ofAnswers_holdsFirst (answers : List (Option Metadata)) :
    HoldsFirst (answers.filterMap id) (Catalogue.ofAnswers answers).apis := by
  unfold Catalogue.ofAnswers
  dsimp only
  generalize answers.filterMap id = records
  -- The fold goes on at the end of the list, and so does the induction.
  induction records using List.reverseRecOn with
  | nil => exact ⟨rfl, by simp⟩
  | append_singleton before metadata ih =>
    rw [List.foldl_append]
    exact ih.add metadata

end Bindery
