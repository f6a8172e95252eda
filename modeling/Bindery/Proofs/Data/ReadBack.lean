import Bindery.Data.JsonText
import Bindery.Proofs.Data.Members

/-!
# Values that are read back

Texts, truth values and nothing are read back from what is written for them, and so are lists and objects of such values
that are nested no deeper than the reader goes. Numbers are left out, since digits that follow one belong to it.
-/
namespace Bindery

open Bindery.Data (Datum)
open Bindery.Text (CodePoint)

/-! ### Texts -/

namespace Text

theorem textOfPoints?_pointsOf (text : String) : textOfPoints? (pointsOf text) = some text := by
  have chars : (pointsOf text).mapM CodePoint.char? = some text.toList := by
    rw [pointsOf, List.mapM_map]
    exact (@List.mapM_pure Option _ _ _ _ text.toList id).trans (congrArg some (List.map_id _))
  rw [textOfPoints?, chars, Option.map_some, String.ofList_toList]

theorem textOfPoints_pointsOf (text : String) : textOfPoints (pointsOf text) = text := by
  have chars : (pointsOf text).map CodePoint.standIn = text.toList := by
    rw [pointsOf, List.map_map]
    exact List.map_id _
  rw [textOfPoints, chars, String.ofList_toList]

end Text

namespace Data.Json

theorem readUnit_hexUnit {n : Nat} (small : n < 32) (rest : List CodePoint) :
    readUnit ((hexUnit n).map .char ++ rest) = some (n, rest) := by
  have digits : ∀ n < 32, (hexUnit n).all Text.isHexDigit = true ∧ Text.hexNumber (hexUnit n) = n := by decide
  obtain ⟨hex, value⟩ := digits n small
  rw [hexUnit] at hex value
  simp only [hexUnit, List.map_cons, List.map_nil, List.cons_append, List.nil_append, readUnit, hex, value, if_true]

theorem readEscape_control {c : Char} (control : c.toNat < 32) (rest : List CodePoint) :
    readEscape (.char 'u' :: ((hexUnit c.toNat).map .char ++ rest)) = some (.char c, rest) := by
  have point : CodePoint.ofNat c.toNat = .char c := by
    rw [CodePoint.ofNat, dif_neg (by omega), Char.ofNat_toNat]
  have noHalf : ¬ (0xd800 ≤ c.toNat ∧ c.toNat < 0xdc00) := by omega
  rw [readEscape, if_pos rfl, readUnicodeEscape, readUnit_hexUnit control]
  simp [noHalf, point]

/-- A character that is written in a text is the next one that is read. -/
theorem readString_writeChar (c : Char) (fuel : Nat) (done rest : List CodePoint) :
    readString (fuel + 1) done ((writeChar c).map .char ++ rest) = readString fuel (.char c :: done) rest := by
  by_cases short : c ∈ ['"', '\\', '\n', '\r', '\t']
  · simp only [List.mem_cons, List.not_mem_nil, or_false] at short
    rcases short with rfl | rfl | rfl | rfl | rfl <;> rfl
  · simp only [List.mem_cons, List.not_mem_nil, or_false, not_or] at short
    obtain ⟨noQuote, noBackslash, noNewline, noReturn, noTab⟩ := short
    rw [writeChar, if_neg noQuote, if_neg noBackslash, if_neg noNewline, if_neg noReturn, if_neg noTab]
    split
    next control =>
      change readString (fuel + 1) done (.char '\\' :: .char 'u' :: ((hexUnit c.toNat).map .char ++ rest)) = _
      rw [readString, if_neg (by decide), if_pos rfl, readEscape_control control]
    next printed =>
      rw [List.map_singleton, List.singleton_append, readString, if_neg noQuote, if_neg noBackslash, if_neg printed]

theorem readString_writeChars {chars : List Char} {fuel : Nat} (enough : chars.length < fuel)
    (done rest : List CodePoint) :
    readString fuel done ((chars.flatMap writeChar).map .char ++ .char '"' :: rest) =
      some (done.reverse ++ chars.map .char, rest) := by
  induction chars generalizing fuel done with
  | nil =>
    obtain ⟨less, rfl⟩ := Nat.exists_eq_succ_of_ne_zero (Nat.ne_of_gt enough)
    simp [readString]
  | cons c chars ih =>
    obtain ⟨less, rfl⟩ := Nat.exists_eq_succ_of_ne_zero (Nat.ne_of_gt (Nat.zero_lt_of_lt enough))
    rw [List.flatMap_cons, List.map_append, List.append_assoc, readString_writeChar,
      ih (Nat.lt_of_succ_lt_succ enough)]
    simp

theorem length_le_writeChars (chars : List Char) : chars.length ≤ (chars.flatMap writeChar).length := by
  induction chars with
  | nil => exact Nat.le_refl _
  | cons c chars ih =>
    have some : 0 < (writeChar c).length := by
      unfold writeChar
      repeat' split
      all_goals simp
    rw [List.flatMap_cons, List.length_append, List.length_cons]
    omega

/-- A text is read up to its closing quotation mark. -/
theorem readString_writeText (text : String) (rest : List CodePoint) :
    ∃ more, (writeText text).map .char ++ rest = .char '"' :: more ∧
      readString (more.length + 1) [] more = some (Text.pointsOf text, rest) := by
  refine ⟨(text.toList.flatMap writeChar).map .char ++ .char '"' :: rest, by simp [writeText], ?_⟩
  have enough := length_le_writeChars text.toList
  rw [readString_writeChars (by rw [List.length_append, List.length_map]; omega)]
  rfl

/-! ### Values -/

/-- Texts, truth values and nothing, in lists and objects nested no deeper than `room`. Objects have different keys. -/
inductive IsReadable : Nat → Datum → Prop where
  | null {room : Nat} : IsReadable room .null
  | bool {room : Nat} (value : Bool) : IsReadable room (.bool value)
  | text {room : Nat} (value : String) : IsReadable room (.text value)
  | list {room : Nat} {items : List Datum} (each : ∀ item ∈ items, IsReadable room item) :
      IsReadable (room + 1) (.list items)
  | object {room : Nat} {members : List (String × Datum)} (apart : (members.map Prod.fst).Nodup)
      (each : ∀ member ∈ members, IsReadable room member.2) : IsReadable (room + 1) (.object members)

attribute [simp] IsReadable.null IsReadable.bool IsReadable.text

@[simp] theorem isReadable_list_iff {room : Nat} {items : List Datum} :
    IsReadable (room + 1) (.list items) ↔ ∀ item ∈ items, IsReadable room item :=
  ⟨fun | .list each => each, .list⟩

@[simp] theorem isReadable_object_iff {room : Nat} {members : List (String × Datum)} :
    IsReadable (room + 1) (.object members) ↔
      (members.map Prod.fst).Nodup ∧ ∀ member ∈ members, IsReadable room member.2 :=
  ⟨fun | .object apart each => ⟨apart, each⟩, fun ⟨apart, each⟩ => .object apart each⟩

/-- Is a value read from what is written for it, whatever follows? Two steps for each character are enough. -/
def IsReadBack (room : Nat) (value : Datum) : Prop :=
  ∀ fuel, 2 * (write value).length ≤ fuel → ∀ rest,
    readValue room fuel ((write value).map .char ++ rest) = .ok (value, rest)

theorem skipSpace_cons {point : CodePoint} (shown : isSpace point = false) (rest : List CodePoint) :
    skipSpace (point :: rest) = point :: rest :=
  List.dropWhile_cons_of_neg (by simp [shown])

/-- Do characters begin neither with a blank nor with the end of a list? -/
def BeginsValue (chars : List Char) : Prop :=
  ∃ c rest, chars = c :: rest ∧ isSpace (.char c) = false ∧ c ≠ ']'

theorem BeginsValue.append {chars : List Char} (begins : BeginsValue chars) (more : List Char) :
    BeginsValue (chars ++ more) := by
  obtain ⟨c, rest, rfl, shown⟩ := begins
  exact ⟨c, rest ++ more, rfl, shown⟩

theorem BeginsValue.skipSpace {chars : List Char} (begins : BeginsValue chars) (rest : List CodePoint) :
    Json.skipSpace (chars.map .char ++ rest) = chars.map .char ++ rest := by
  obtain ⟨c, more, rfl, shown, -⟩ := begins
  exact skipSpace_cons shown _

theorem IsReadable.begins {room : Nat} {value : Datum} (readable : IsReadable room value) :
    BeginsValue (write value) := by
  cases readable with
  | null => exact ⟨_, _, rfl, rfl, by decide⟩
  | bool value => cases value <;> exact ⟨_, _, rfl, rfl, by decide⟩
  | text value => exact ⟨_, _, rfl, rfl, by decide⟩
  | list each => exact ⟨_, _, rfl, rfl, by decide⟩
  | object apart each => exact ⟨_, _, rfl, rfl, by decide⟩

/-! ### Lists and objects -/

theorem writeItems_cons (first second : Datum) (others : List Datum) :
    writeItems (first :: second :: others) = write first ++ ',' :: ' ' :: writeItems (second :: others) := by
  rw [writeItems]
  simp

theorem writeMembers_cons (key : String) (value : Datum) (second : String × Datum) (others : List (String × Datum)) :
    writeMembers ((key, value) :: second :: others) =
      writeText key ++ ':' :: ' ' :: write value ++ ',' :: ' ' :: writeMembers (second :: others) := by
  rw [writeMembers]
  simp

theorem begins_writeItems {room : Nat} {items : List Datum} (something : items ≠ [])
    (readable : ∀ item ∈ items, IsReadable room item) : BeginsValue (writeItems items) := by
  obtain ⟨first, others, rfl⟩ := List.exists_cons_of_ne_nil something
  have start := (readable first (List.mem_cons_self ..)).begins
  cases others with
  | nil => exact start
  | cons second others =>
    rw [writeItems_cons]
    exact start.append _

theorem readItems_writeItems {room : Nat} {items : List Datum} (something : items ≠ [])
    (readable : ∀ item ∈ items, IsReadable room item) (each : ∀ item ∈ items, IsReadBack room item) {fuel : Nat}
    (enough : 2 * (writeItems items).length < fuel) (done : List Datum) (rest : List CodePoint) :
    readItems room fuel done ((writeItems items).map .char ++ .char ']' :: rest) = .ok (done.reverse ++ items, rest) := by
  induction items generalizing fuel done with
  | nil => exact absurd rfl something
  | cons item items ih =>
    obtain ⟨less, rfl⟩ := Nat.exists_eq_succ_of_ne_zero (Nat.ne_of_gt (Nat.zero_lt_of_lt enough))
    rw [List.forall_mem_cons] at readable each
    cases items with
    | nil =>
      rw [writeItems] at enough ⊢
      rw [readItems, each.1 less (by omega)]
      change Except.ok ((item :: done).reverse, rest) = _
      rw [List.reverse_cons]
    | cons second others =>
      rw [writeItems_cons, List.length_append, List.length_cons, List.length_cons] at enough
      rw [writeItems_cons, List.map_append, List.append_assoc, readItems, each.1 less (by omega)]
      -- Behind the comma is a blank, and then the next item.
      change readItems room less (item :: done)
        (Json.skipSpace ((writeItems (second :: others)).map .char ++ .char ']' :: rest)) = _
      rw [(begins_writeItems (by simp) readable.2).skipSpace, ih (by simp) readable.2 each.2 (by omega)]
      simp

theorem writeMembers_start (first : String × Datum) (others : List (String × Datum)) :
    ∃ chars, writeMembers (first :: others) = '"' :: chars := by
  cases others with
  | nil => exact ⟨_, rfl⟩
  | cons second others =>
    rw [writeMembers_cons]
    exact ⟨_, rfl⟩

/-- A member is read up to the comma or the brace behind its value. -/
theorem readMembers_member {room fuel : Nat} {key : String} {value : Datum} (readable : IsReadable room value)
    (back : IsReadBack room value) (enough : 2 * (write value).length ≤ fuel) (done : List (String × Datum))
    (rest : List CodePoint) :
    readMembers room (fuel + 1) done ((writeText key ++ ':' :: ' ' :: write value).map .char ++ rest) =
      match Json.skipSpace rest with
      | .char ',' :: more => readMembers room fuel (Data.insertMember done key value) (Json.skipSpace more)
      | .char '\x7d' :: after => .ok (Data.insertMember done key value, after)
      | _ => .error .malformed := by
  obtain ⟨more, text, read⟩ := readString_writeText key
    (.char ':' :: .char ' ' :: ((write value).map .char ++ rest))
  have written : (writeText key ++ ':' :: ' ' :: write value).map CodePoint.char ++ rest = .char '"' :: more := by
    rw [← text]
    simp
  have colon (points : List CodePoint) :
      Json.skipSpace (.char ':' :: .char ' ' :: points) = .char ':' :: .char ' ' :: points := rfl
  have blank (points : List CodePoint) : Json.skipSpace (.char ' ' :: points) = Json.skipSpace points := rfl
  rw [written, readMembers]
  simp only [read, colon, blank, readable.begins.skipSpace, back fuel enough, Text.textOfPoints_pointsOf]
  rfl

theorem readMembers_writeMembers {room : Nat} {members : List (String × Datum)} (something : members ≠ [])
    (readable : ∀ member ∈ members, IsReadable room member.2) (each : ∀ member ∈ members, IsReadBack room member.2)
    {fuel : Nat} (enough : 2 * (writeMembers members).length < fuel) (done : List (String × Datum))
    (apart : ((done ++ members).map Prod.fst).Nodup) (rest : List CodePoint) :
    readMembers room fuel done ((writeMembers members).map .char ++ .char '\x7d' :: rest) =
      .ok (done ++ members, rest) := by
  induction members generalizing fuel done with
  | nil => exact absurd rfl something
  | cons member members ih =>
    obtain ⟨key, value⟩ := member
    obtain ⟨less, rfl⟩ := Nat.exists_eq_succ_of_ne_zero (Nat.ne_of_gt (Nat.zero_lt_of_lt enough))
    rw [List.forall_mem_cons] at readable each
    -- The key was not there before, so its member comes last.
    have absent : key ∉ done.map Prod.fst := fun among => by
      rw [List.map_append] at apart
      exact List.disjoint_of_nodup_append apart among (List.mem_cons_self ..)
    rw [List.append_cons] at apart
    have plain : IsReadable room value := readable.1
    have back : IsReadBack room value := each.1
    cases members with
    | nil =>
      rw [writeMembers] at enough ⊢
      simp only [List.length_append, List.length_cons] at enough
      rw [readMembers_member plain back (by omega), Data.insertMember_of_absent absent]
      rfl
    | cons second others =>
      rw [writeMembers_cons] at enough ⊢
      simp only [List.length_append, List.length_cons] at enough
      rw [List.map_append, List.append_assoc, readMembers_member plain back (by omega),
        Data.insertMember_of_absent absent]
      change readMembers room less (done ++ [(key, value)])
        (Json.skipSpace ((writeMembers (second :: others)).map .char ++ .char '\x7d' :: rest)) = _
      obtain ⟨chars, start⟩ := writeMembers_start second others
      have shown : Json.skipSpace ((writeMembers (second :: others)).map .char ++ .char '\x7d' :: rest) =
          (writeMembers (second :: others)).map .char ++ .char '\x7d' :: rest := by
        rw [start]
        exact skipSpace_cons rfl _
      rw [shown, ih (by simp) readable.2 each.2 (by omega) _ apart, List.append_assoc]
      rfl

/-- Words are read up to their ends. -/
theorem readPlain_word {word : List Char} {value : Datum} (found : ∀ more, readWord (word ++ more) = .ok (value, more))
    (rest : List CodePoint) : readPlain (word.map .char ++ rest) = .ok (value, rest) := by
  have chars : ∀ point ∈ word.map CodePoint.char, point.char?.isSome = true := by simp [CodePoint.char?]
  have taken : ((word.map CodePoint.char ++ rest).takeWhile (·.char?.isSome)).filterMap CodePoint.char? =
      word ++ (rest.takeWhile (·.char?.isSome)).filterMap CodePoint.char? := by
    rw [List.takeWhile_append_of_pos chars, List.filterMap_append, List.filterMap_map]
    exact congrArg (· ++ _) (List.filterMap_some)
  rw [readPlain, taken]
  simp only [found]
  change Except.ok (value, (word.map CodePoint.char ++ rest).drop (_ - _)) = _
  rw [List.length_append, Nat.add_sub_cancel, List.drop_left' (List.length_map ..)]

theorem readValue_list {room fuel : Nat} {c : Char} (shown : isSpace (.char c) = false) (noEnd : c ≠ ']')
    {start rest : List CodePoint} {items : List Datum}
    (read : readItems room fuel [] (.char c :: start) = .ok (items, rest)) :
    readValue (room + 1) (fuel + 1) (.char '[' :: .char c :: start) = .ok (.list items, rest) := by
  rw [readValue, if_neg (Nat.succ_ne_zero room), skipSpace_cons shown, Nat.add_sub_cancel]
  split
  next same => exact absurd (CodePoint.char.inj (List.cons.inj same).1) noEnd
  · rw [read]
    rfl

theorem readValue_object {room fuel : Nat} {start rest : List CodePoint} {members : List (String × Datum)}
    (read : readMembers room fuel [] (.char '"' :: start) = .ok (members, rest)) :
    readValue (room + 1) (fuel + 1) (.char '\x7b' :: .char '"' :: start) = .ok (.object members, rest) := by
  rw [readValue, if_neg (Nat.succ_ne_zero room), skipSpace_cons rfl, Nat.add_sub_cancel]
  change (readMembers room fuel [] (.char '"' :: start) >>= _) = _
  rw [read]
  rfl

/-- Something is written for every value, so the reader takes a step. -/
theorem IsReadable.of_step {room : Nat} {value : Datum} (readable : IsReadable room value)
    (back : ∀ fuel, 2 * (write value).length ≤ fuel + 1 → ∀ rest,
      readValue room (fuel + 1) ((write value).map .char ++ rest) = .ok (value, rest)) : IsReadBack room value := by
  intro fuel enough rest
  obtain ⟨c, chars, same, -⟩ := readable.begins
  obtain ⟨less, rfl⟩ : ∃ less, fuel = less + 1 := by
    rw [same, List.length_cons] at enough
    exact ⟨fuel - 1, by omega⟩
  exact back less enough rest

/-- A value of texts, truth values, lists and objects is read up to its end, whatever follows. -/
theorem IsReadable.isReadBack {room : Nat} {value : Datum} (readable : IsReadable room value) :
    IsReadBack room value := by
  induction readable with
  | null => exact IsReadable.null.of_step fun fuel _ rest => readPlain_word (fun more => rfl) rest
  | bool value =>
    refine (IsReadable.bool value).of_step fun fuel _ rest => ?_
    cases value <;> exact readPlain_word (fun more => rfl) rest
  | text value =>
    refine (IsReadable.text value).of_step fun fuel _ rest => ?_
    obtain ⟨more, start, read⟩ := readString_writeText value rest
    rw [write, start, readValue]
    simp only [read, textValue, Text.textOfPoints?_pointsOf]
  | @list room items each ih =>
    refine (IsReadable.list each).of_step fun fuel enough rest => ?_
    cases items with
    | nil => rfl
    | cons first others =>
      rw [write, List.length_append, List.length_cons, List.length_singleton] at enough
      have read := readItems_writeItems (List.cons_ne_nil _ _) each ih
        (by omega : 2 * (writeItems (first :: others)).length < fuel) [] rest
      obtain ⟨c, chars, start, shown, noEnd⟩ := begins_writeItems (List.cons_ne_nil _ _) each
      rw [start] at read
      have written : (write (.list (first :: others))).map CodePoint.char ++ rest =
          .char '[' :: .char c :: (chars.map .char ++ .char ']' :: rest) := by simp [write, start]
      rw [written]
      exact readValue_list shown noEnd read
  | @object room members apart each ih =>
    refine (IsReadable.object apart each).of_step fun fuel enough rest => ?_
    cases members with
    | nil => rfl
    | cons first others =>
      rw [write, List.length_append, List.length_cons, List.length_singleton] at enough
      have read := readMembers_writeMembers (List.cons_ne_nil _ _) each ih
        (by omega : 2 * (writeMembers (first :: others)).length < fuel) [] apart rest
      obtain ⟨chars, start⟩ := writeMembers_start first others
      rw [start] at read
      have written : (write (.object (first :: others))).map CodePoint.char ++ rest =
          .char '\x7b' :: .char '"' :: (chars.map .char ++ .char '\x7d' :: rest) := by simp [write, start]
      rw [written]
      exact readValue_object read

/-- Such a value is read back from its text. -/
theorem read_write {value : Datum} (readable : IsReadable depthLimit value) :
    read (String.ofList (write value)) = .ok value := by
  have points : Text.pointsOf (String.ofList (write value)) = (write value).map .char ++ [] := by
    rw [Text.pointsOf, String.toList_ofList, List.append_nil]
  rw [read, readWithin, readPoints, points, readable.begins.skipSpace, readable.isReadBack _ (by simp)]
  rfl

end Data.Json

end Bindery
