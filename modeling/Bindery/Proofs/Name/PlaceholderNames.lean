import Bindery.Name.Method
import Bindery.Proofs.Name.Identifiers
import Bindery.Proofs.Path.Scan

/-!
# Placeholders and the names of methods

A method is named after the segments of its path that are no placeholders, so that templates which differ in
placeholders only give one name. But the path is cut at hyphens before its placeholders are looked for, and each of
them is looked for on one line: a placeholder with a hyphen or a line break in it comes into the name.
-/
namespace Bindery

open Bindery.Name (dropApiSegment namingSegments splitOnAny)
open Bindery.Path (IsToken isPlaceholderSegment isVersionSegment)
open Bindery.Text (titleList)

/-- The segments of a path, between slashes. -/
def segments (path : String) : List (List Char) := splitOnAny (· = '/') path.toList

/-- Is a segment found to be one placeholder? -/
def IsPlaceholder (segment : List Char) : Prop := ∃ name, Path.scan segment = [⟨name, segment⟩]

/-- Do the segments of two templates differ in placeholders only? -/
def SameButPlaceholders (first second : String) : Prop :=
  List.Forall₂ (fun s t => s = t ∨ IsPlaceholder s ∧ IsPlaceholder t) (segments first) (segments second)

/-- A segment that hyphens and line breaks do not take apart. -/
def IsOnePiece (segment : List Char) : Prop := '-' ∉ segment ∧ '\n' ∉ segment

instance (segment : List Char) : Decidable (IsOnePiece segment) := inferInstanceAs (Decidable (_ ∧ _))

/-- Is each segment of a template that differs from its fellow in another template in one piece? -/
def OnePieceWhereApart (path other : String) : Prop :=
  List.Forall₂ (fun s t => s = t ∨ IsOnePiece s) (segments path) (segments other)

theorem IsPlaceholder.isToken {segment : List Char} (placeholder : IsPlaceholder segment) : IsToken segment := by
  obtain ⟨name, found⟩ := placeholder
  have member : (⟨name, segment⟩ : Path.Placeholder) ∈ Path.scan segment := by simp [found]
  exact (Path.isSound_of_mem_scan member).token

theorem isPlaceholder_of_isToken {segment : List Char} (token : IsToken segment) : IsPlaceholder segment := by
  obtain ⟨c, inner, rfl, isName, closed⟩ := token
  have named : (c :: inner).takeWhile Path.isNameChar = c :: inner.takeWhile Path.isNameChar := by simp [isName]
  refine ⟨c :: inner.takeWhile Path.isNameChar, ?_⟩
  simpa using @Path.scan_cons_found _ [] _ _ closed named

/-! ### Cutting a path -/

theorem splitOnAny_ne_nil (isBreak : Char → Bool) (s : List Char) : splitOnAny isBreak s ≠ [] := by
  rw [splitOnAny_eq_splitOnP]
  exact List.splitOnP_ne_nil isBreak s

theorem splitOnAny_refine {fine coarse : Char → Bool} (finer : ∀ c, coarse c = true → fine c = true)
    (s : List Char) : splitOnAny fine s = (splitOnAny coarse s).flatMap (splitOnAny fine) := by
  induction s with
  | nil => rfl
  | cons c rest ih =>
    by_cases isCoarse : coarse c = true
    · simp [splitOnAny, isCoarse, finer c isCoarse, ih]
    · -- The character goes to the first piece of the coarser cut, unless the finer one breaks there.
      obtain ⟨first, others, pieces⟩ := List.exists_cons_of_ne_nil (splitOnAny_ne_nil coarse rest)
      rw [pieces, List.flatMap_cons] at ih
      by_cases isFine : fine c = true
      · simp [splitOnAny, isCoarse, isFine, pieces, ih]
      · obtain ⟨start, more, cut⟩ := List.exists_cons_of_ne_nil (splitOnAny_ne_nil fine first)
        simp [splitOnAny, isCoarse, isFine, pieces, ih, cut]

/-- What a path names its method after is what its segments do. -/
theorem namingSegments_eq (path : String) :
    namingSegments path.toList = (segments path).flatMap namingSegments := by
  have finer : ∀ c : Char, decide (c = '/') = true → (decide (c = '-') || decide (c = '/')) = true := by
    intro c slash
    simp [of_decide_eq_true slash]
  unfold namingSegments segments
  rw [splitOnAny_refine finer, List.filter_flatMap]

theorem noSlash_of_mem_segments {path : String} {segment : List Char} (member : segment ∈ segments path) :
    '/' ∉ segment := by
  intro slash
  have apart := (mem_splitOnAny member _ slash).2
  simp at apart

/-! ### Placeholders in names -/

/-- What a segment adds to the name of a method. -/
def segmentTitles (segment : List Char) : List Char := (namingSegments segment).flatMap titleList

theorem titleList_brace (rest : List Char) : titleList ('\x7b' :: rest) ≠ [] := by
  simp [titleList, Text.upperChars]

theorem isPlaceholderSegment_line {inner : List Char} (oneLine : '\n' ∉ inner) :
    isPlaceholderSegment ('\x7b' :: (inner ++ ['\x7d'])) = true := by
  simp [isPlaceholderSegment, oneLine]

theorem isPlaceholderSegment_broken {inner : List Char} (broken : '\n' ∈ inner) :
    isPlaceholderSegment ('\x7b' :: (inner ++ ['\x7d'])) = false := by
  simp [isPlaceholderSegment, broken]

theorem isPlaceholderSegment_open {rest : List Char} (closed : '\x7d' ∉ rest) :
    isPlaceholderSegment ('\x7b' :: rest) = false := by
  have last : ∀ body : List Char, (∀ c ∈ body, c ∈ rest) → body.getLast? ≠ some '\x7d' := by
    intro body inside ends
    exact closed (inside _ (List.mem_of_getLast? ends))
  simp only [isPlaceholderSegment, Bool.and_eq_false_iff, decide_eq_false_iff_not]
  left
  split
  · exact last _ fun c member => (List.dropLast_sublist _).subset member
  · exact last _ fun c member => member

private theorem not_isCut {segment : List Char} (noSlash : '/' ∉ segment) (noHyphen : '-' ∉ segment) :
    ∀ c ∈ segment, (decide (c = '-') || decide (c = '/')) = false := by
  intro c member
  have hyphen : c ≠ '-' := fun same => noHyphen (same ▸ member)
  have slash : c ≠ '/' := fun same => noSlash (same ▸ member)
  simp [hyphen, slash]

theorem isVersionSegment_brace (rest : List Char) : isVersionSegment ('\x7b' :: rest) = false := by
  simp [isVersionSegment]

/-- A placeholder in one piece is left out of the name. -/
theorem namingSegments_onePiece {segment : List Char} (token : IsToken segment) (noSlash : '/' ∉ segment)
    (onePiece : IsOnePiece segment) : namingSegments segment = [] := by
  have whole := splitOnAny_of_none (not_isCut noSlash onePiece.1)
  obtain ⟨c, inner, rfl, -, -⟩ := token
  have oneLine : '\n' ∉ c :: inner := by
    intro member
    exact onePiece.2 (List.mem_append_left _ (List.mem_cons_of_mem _ member))
  unfold namingSegments
  rw [whole]
  simpa using fun _ => isPlaceholderSegment_line oneLine

/-- Any other one leaves its opening brace in it. -/
theorem segmentTitles_pieces {segment : List Char} (token : IsToken segment) (noSlash : '/' ∉ segment)
    (pieces : ¬ IsOnePiece segment) : segmentTitles segment ≠ [] := by
  obtain ⟨c, rest, rfl, -, closed⟩ := token
  generalize c :: rest = inner at noSlash pieces closed ⊢
  unfold segmentTitles namingSegments
  by_cases hyphen : '-' ∈ inner
  · -- What stands before the hyphen has lost the closing brace and is no placeholder any more.
    obtain ⟨start, more, rfl, before⟩ := List.eq_append_cons_of_mem hyphen
    have closed_start : '\x7d' ∉ start := fun member => closed (List.mem_append_left _ member)
    have noSlash_start : '/' ∉ '\x7b' :: start := by
      intro member
      apply noSlash
      simp only [List.mem_cons, List.mem_append] at member ⊢
      tauto
    have noHyphen_start : '-' ∉ '\x7b' :: start := by simpa using before
    have chars : '\x7b' :: (start ++ '-' :: more) ++ ['\x7d'] = ('\x7b' :: start) ++ '-' :: (more ++ ['\x7d']) := by
      simp
    rw [chars, splitOnAny_append_cons (not_isCut noSlash_start noHyphen_start) rfl]
    simp [isVersionSegment_brace, isPlaceholderSegment_open closed_start, titleList_brace]
  · have noHyphen : '-' ∉ '\x7b' :: inner ++ ['\x7d'] := by simpa using hyphen
    -- So it is a line break that keeps the segment from being taken for a placeholder.
    have broken : '\n' ∈ inner := by
      by_contra oneLine
      exact pieces ⟨noHyphen, by simpa using oneLine⟩
    rw [splitOnAny_of_none (not_isCut noSlash noHyphen)]
    simp [isVersionSegment_brace, isPlaceholderSegment_broken broken, titleList_brace]

/-! ### Names of methods -/

theorem startsWithIgnoringCase_length {text word : List Char}
    (starts : Text.startsWithIgnoringCase text word = true) : word.length ≤ text.length := by
  induction word generalizing text with
  | nil => simp
  | cons w word ih =>
    cases text with
    | nil => simp [Text.startsWithIgnoringCase] at starts
    | cons c text =>
      simp only [Text.startsWithIgnoringCase, Bool.and_eq_true] at starts
      simpa using ih starts.2

theorem containsIgnoringCase_length {text word : List Char}
    (occurs : Text.containsIgnoringCase text word = true) : word.length ≤ text.length := by
  induction text with
  | nil =>
    unfold Text.containsIgnoringCase at occurs
    apply startsWithIgnoringCase_length
    simpa using occurs
  | cons c text ih =>
    rw [Text.containsIgnoringCase, Bool.or_eq_true] at occurs
    rcases occurs with starts | later
    · exact startsWithIgnoringCase_length starts
    · exact Nat.le_trans (ih later) (by simp)

theorem dropApiSegment_long {api : List Char} {pieces : List (List Char)}
    (long : ∀ piece ∈ pieces, piece.length < api.length) : dropApiSegment api pieces = pieces := by
  unfold dropApiSegment
  split
  next first second others =>
    have differs : Text.containsIgnoringCase first api ≠ true := by
      intro occurs
      have short := long first (by simp)
      have bound := containsIgnoringCase_length occurs
      omega
    rw [if_neg differs]
  · rfl

/-- Some API leaves all segments of two paths in the names of their methods. -/
theorem exists_api_keeping (first second : String) : ∃ api, ∀ path ∈ [first, second],
    Name.method api path = String.ofList ((segments path).flatMap segmentTitles) := by
  -- A name that is as long as all pieces together, and one character more, occurs in none of them.
  let pieces := namingSegments first.toList ++ namingSegments second.toList
  refine ⟨String.ofList (List.replicate (pieces.flatten.length + 1) 'a'), fun path member => ?_⟩
  have long : ∀ piece ∈ namingSegments path.toList, piece.length < pieces.flatten.length + 1 := by
    intro piece among
    have inside : piece ∈ pieces := by
      rcases List.mem_pair.mp member with rfl | rfl
      · exact List.mem_append_left _ among
      · exact List.mem_append_right _ among
    exact Nat.lt_succ_of_le (List.sublist_flatten_of_mem inside).length_le
  unfold Name.method
  rw [dropApiSegment_long (by simpa using long), namingSegments_eq, List.flatMap_assoc]
  rfl

/-- Names that placeholders make longer differ. -/
theorem length_titles {first second : List (List Char)}
    (apart : List.Forall₂ (fun s t => s = t ∨ segmentTitles t = [] ∧ (¬ IsOnePiece s → segmentTitles s ≠ []))
      first second) :
    (second.flatMap segmentTitles).length ≤ (first.flatMap segmentTitles).length ∧
      ((first.flatMap segmentTitles).length ≤ (second.flatMap segmentTitles).length →
        List.Forall₂ (fun s t => s = t ∨ IsOnePiece s) first second) := by
  induction apart with
  | nil => simp
  | @cons s t first second pair _ ih =>
    -- The second names are no longer than the first from here on, so a first one that is longer is not made up for.
    obtain ⟨longer, equal⟩ := ih
    simp only [List.flatMap_cons, List.length_append]
    rcases pair with rfl | ⟨nothing, something⟩
    · refine ⟨by omega, fun short => .cons (.inl rfl) (equal (by omega))⟩
    · rw [nothing, List.length_nil]
      refine ⟨by omega, fun short => .cons (.inr ?_) (equal (by omega))⟩
      by_contra pieces
      have more := List.length_pos_of_ne_nil (something pieces)
      omega

theorem SameButPlaceholders.pair {first second : String} (same : SameButPlaceholders first second)
    {s t : List Char} (member : (s, t) ∈ (segments first).zip (segments second)) :
    s = t ∨ (IsToken s ∧ '/' ∉ s) ∧ (IsToken t ∧ '/' ∉ t) := by
  obtain ⟨left, right⟩ := List.of_mem_zip member
  refine ((List.forall₂_iff_zip.mp same).2 member).imp_right fun ⟨one, other⟩ => ?_
  exact ⟨⟨one.isToken, noSlash_of_mem_segments left⟩, ⟨other.isToken, noSlash_of_mem_segments right⟩⟩

/-- Two templates that differ in placeholders only, those of the second in one piece, name the methods of every API
alike exactly if those of the first are in one piece, too. -/
theorem method_sameButPlaceholders_iff (first second : String) (same : SameButPlaceholders first second)
    (plain : OnePieceWhereApart second first) :
    (∀ api, Name.method api first = Name.method api second) ↔ OnePieceWhereApart first second := by
  obtain ⟨lengths, plains⟩ := List.forall₂_iff_zip.mp (List.Forall₂.flip plain)
  constructor
  · intro alike
    -- An API that no segment names shows all that the placeholders add.
    obtain ⟨api, kept⟩ := exists_api_keeping first second
    have titles : (segments first).flatMap segmentTitles = (segments second).flatMap segmentTitles := by
      have names := alike api
      rw [kept first (by simp), kept second (by simp)] at names
      exact String.ofList_inj.mp names
    refine (length_titles (List.forall₂_iff_zip.mpr ⟨lengths, fun member => ?_⟩)).2 (titles ▸ Nat.le_refl _)
    rcases same.pair member with equal | ⟨⟨token, noSlash⟩, ⟨token', noSlash'⟩⟩
    · exact .inl equal
    rcases plains member with equal | onePiece
    · exact .inl equal.symm
    · right
      refine ⟨?_, segmentTitles_pieces token noSlash⟩
      simp [segmentTitles, namingSegments_onePiece token' noSlash' onePiece]
  · -- What differs is left out before the API is looked at.
    intro onePieces api
    obtain ⟨-, others⟩ := List.forall₂_iff_zip.mp onePieces
    have left_out : List.Forall₂ (fun s t => namingSegments s = namingSegments t)
        (segments first) (segments second) := by
      refine List.forall₂_iff_zip.mpr ⟨lengths, fun {s t} member => ?_⟩
      rcases same.pair member with rfl | ⟨⟨token, noSlash⟩, ⟨token', noSlash'⟩⟩
      · rfl
      rcases others member with rfl | onePiece
      · rfl
      rcases plains member with rfl | onePiece'
      · rfl
      rw [namingSegments_onePiece token noSlash onePiece, namingSegments_onePiece token' noSlash' onePiece']
    have pieces : namingSegments first.toList = namingSegments second.toList := by
      rw [namingSegments_eq, namingSegments_eq, List.flatMap_def, List.flatMap_def]
      congr 1
      exact List.forall₂_eq_eq_eq ▸ List.forall₂_map_left_iff.mpr (List.forall₂_map_right_iff.mpr left_out)
    unfold Name.method
    rw [pieces]

/-- One placeholder for another, neither of them with a hyphen or a line break. -/
theorem friends_named_alike :
    SameButPlaceholders "/v1/\x7buserId:int\x7d/friends" "/v1/\x7bid\x7d/friends" ∧
      OnePieceWhereApart "/v1/\x7bid\x7d/friends" "/v1/\x7buserId:int\x7d/friends" ∧
      ∀ api, Name.method api "/v1/\x7buserId:int\x7d/friends" = Name.method api "/v1/\x7bid\x7d/friends" := by
  have typed : IsToken "\x7buserId:int\x7d".toList :=
    ⟨'u', "serId:int".toList, by decide +kernel, by decide, by decide +kernel⟩
  have short : IsToken "\x7bid\x7d".toList := ⟨'i', ['d'], by decide +kernel, by decide, by decide⟩
  have first : segments "/v1/\x7buserId:int\x7d/friends" =
      [[], ['v', '1'], "\x7buserId:int\x7d".toList, "friends".toList] := by decide +kernel
  have second : segments "/v1/\x7bid\x7d/friends" = [[], ['v', '1'], "\x7bid\x7d".toList, "friends".toList] := by
    decide +kernel
  have same : SameButPlaceholders "/v1/\x7buserId:int\x7d/friends" "/v1/\x7bid\x7d/friends" := by
    unfold SameButPlaceholders
    rw [first, second]
    exact .cons (.inl rfl) (.cons (.inl rfl) (.cons (.inr ⟨isPlaceholder_of_isToken typed,
      isPlaceholder_of_isToken short⟩) (.cons (.inl rfl) .nil)))
  have plain : OnePieceWhereApart "/v1/\x7bid\x7d/friends" "/v1/\x7buserId:int\x7d/friends" := by
    unfold OnePieceWhereApart
    rw [first, second]
    decide +kernel
  refine ⟨same, plain, (method_sameButPlaceholders_iff _ _ same plain).mpr ?_⟩
  unfold OnePieceWhereApart
  rw [first, second]
  decide +kernel

/-- A hyphen in a placeholder brings it into the name. -/
theorem user_id_in_name :
    SameButPlaceholders "/v1/users/\x7buser-id\x7d" "/v1/users/\x7bid\x7d" ∧
      Name.method "Accounts" "/v1/users/\x7buser-id\x7d" = "Users\x7buserId\x7d" ∧
      Name.method "Accounts" "/v1/users/\x7bid\x7d" = "Users" := by
  have hyphened : IsToken "\x7buser-id\x7d".toList :=
    ⟨'u', "ser-id".toList, by decide +kernel, by decide, by decide +kernel⟩
  have short : IsToken "\x7bid\x7d".toList := ⟨'i', ['d'], by decide +kernel, by decide, by decide⟩
  have first : segments "/v1/users/\x7buser-id\x7d" = [[], ['v', '1'], "users".toList, "\x7buser-id\x7d".toList] := by
    decide +kernel
  have second : segments "/v1/users/\x7bid\x7d" = [[], ['v', '1'], "users".toList, "\x7bid\x7d".toList] := by
    decide +kernel
  have apart : namingSegments "/v1/users/\x7buser-id\x7d".toList =
      ["users".toList, "\x7buser".toList, "id\x7d".toList] := by decide +kernel
  have whole : namingSegments "/v1/users/\x7bid\x7d".toList = ["users".toList] := by decide +kernel
  refine ⟨?_, ?_, ?_⟩
  · unfold SameButPlaceholders
    rw [first, second]
    exact .cons (.inl rfl) (.cons (.inl rfl) (.cons (.inl rfl) (.cons (.inr ⟨isPlaceholder_of_isToken hyphened,
      isPlaceholder_of_isToken short⟩) .nil)))
  · -- The name of the API is too long for a segment, so there is no need to look for it.
    rw [Name.method, apart, dropApiSegment_long (by decide +kernel)]
    decide +kernel
  · rw [Name.method, whole]
    decide +kernel

end Bindery
