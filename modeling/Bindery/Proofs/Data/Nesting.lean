import Bindery.Data.JsonBytes

/-!
# Texts that are nested too deeply

The reader of JSON goes down into lists and objects only so far. Whatever follows, a text with one opening bracket more
than that is refused, and not as one that is malformed.
-/
namespace Bindery

open Bindery.Data (Datum)

namespace Data.Json

/-- A list in a list, and so on: the reader gives up before it finds an item. -/
theorem readValue_brackets {n room fuel : Nat} (deep : room < n) (enough : 2 * n ≤ fuel) (rest : List Text.CodePoint) :
    readValue room fuel (List.replicate n (.char '[') ++ rest) = .error .tooDeep := by
  -- Each bracket takes one level of room and two steps of fuel: one for the list, one for its first item.
  induction n generalizing room fuel with
  | zero => omega
  | succ n ih =>
    obtain ⟨fuel, rfl⟩ : ∃ less, fuel = less + 2 := ⟨fuel - 2, by omega⟩
    rw [List.replicate_succ, List.cons_append, readValue]
    by_cases full : room = 0
    · rw [if_pos full]
    · -- What follows the bracket is one more bracket, since there is room left for fewer lists than there are.
      obtain ⟨inner, rfl⟩ : ∃ inner, n = inner + 1 := ⟨n - 1, by omega⟩
      have start : skipSpace (List.replicate (inner + 1) (.char '[') ++ rest) =
          List.replicate (inner + 1) (.char '[') ++ rest := rfl
      have stuck := @ih (room - 1) fuel (by omega) (by omega)
      rw [if_neg full, start]
      change readItems (room - 1) (fuel + 1) [] (List.replicate (inner + 1) (.char '[') ++ rest) >>= _ = _
      rw [readItems, stuck]
      rfl

theorem readPoints_brackets {n : Nat} (deep : depthLimit < n) (rest : List Text.CodePoint) :
    readPoints depthLimit (List.replicate n (.char '[') ++ rest) = .error .tooDeep := by
  obtain ⟨inner, rfl⟩ : ∃ inner, n = inner + 1 := ⟨n - 1, by omega⟩
  have start : skipSpace (List.replicate (inner + 1) (.char '[') ++ rest) =
      List.replicate (inner + 1) (.char '[') ++ rest := rfl
  rw [readPoints, start, readValue_brackets deep (by simp; omega)]
  rfl

end Data.Json

/-- ASCII is UTF-8. -/
theorem decodeUtf8_ascii (surrogates : Bool) {bytes : List UInt8} (plain : ∀ byte ∈ bytes, byte.toNat < 128) :
    Text.decodeUtf8 surrogates bytes = bytes.map fun byte => some (.ofNat byte.toNat) := by
  unfold Text.decodeUtf8
  induction bytes with
  | nil => rfl
  | cons byte rest ih =>
    rw [List.forall_mem_cons] at plain
    -- A lead byte below 128 asks for no further bytes, so each byte is decoded by itself.
    have lead : Text.lead? surrogates byte.toNat = some ⟨byte.toNat, 0x80, 0xbf, 0⟩ := if_pos plain.1
    rw [Text.decodeUtf8From, Text.stepUtf8, Text.startUtf8, lead]
    simp [ih plain.2]

theorem readBytes_brackets {n : Nat} (deep : Data.Json.depthLimit < n) :
    Data.Json.readBytes (List.replicate n 0x5b) = .error (.unreadable .tooDeep) := by
  -- The first four bytes decide on the encoding, and there are more brackets than that.
  have encoding : Data.Json.encodingOf (List.replicate n 0x5b) = .utf8 := by
    obtain ⟨more, rfl⟩ : ∃ more, n = more + 4 := ⟨n - 4, by rw [Data.Json.depthLimit] at deep; omega⟩
    rfl
  have plain : ∀ byte ∈ List.replicate n (0x5b : UInt8), byte.toNat < 128 := by
    intro byte among
    rw [List.eq_of_mem_replicate among]
    decide
  have places : Text.UnicodeForm.utf8.decode true (List.replicate n 0x5b) =
      (List.replicate n (.char '[')).map some := by
    rw [Text.UnicodeForm.decode, decodeUtf8_ascii _ plain, List.map_replicate, List.map_replicate]
    rfl
  have decoded : List.mapM id (Text.UnicodeForm.utf8.decode true (List.replicate n 0x5b)) =
      some (List.replicate n (.char '[') ++ []) := by
    rw [places, List.mapM_map, List.append_nil]
    simpa using @List.mapM_pure Option _ _ _ _ (List.replicate n (Text.CodePoint.char '[')) id
  rw [Data.Json.readBytes, encoding, decoded]
  simp only [Data.Json.readPoints_brackets deep]
  rfl

end Bindery
