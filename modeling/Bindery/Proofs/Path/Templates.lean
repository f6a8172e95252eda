import Bindery.Proofs.Data.Repetitions
import Bindery.Proofs.Path.Layout
import Bindery.Proofs.Path.Placeholders

/-!
# Templates as they are written

A template is written with literal texts and placeholders by turns. Reading it gives back the names that were
written, in the order in which they come first, each with the text that was written for it last. Whatever a
template is, the text of a name stands in it, starts with the name and ends at the first closing brace.
-/
namespace Bindery.Path

/-- A text between placeholders. Closing braces may stand in it. -/
structure Literal where
  text : List Char
  plain : '\x7b' ∉ text

/-- How a placeholder is written: its name, and a constraint that does not go on with the name. -/
structure Spelling where
  name : List Char
  constraint : List Char
  named : name ≠ []
  letters : ∀ c ∈ name, isNameChar c = true
  closed : '\x7d' ∉ constraint
  apart : ∀ c ∈ constraint.head?, isNameChar c = false

def Spelling.text (spelling : Spelling) : List Char :=
  '\x7b' :: (spelling.name ++ spelling.constraint) ++ ['\x7d']

def Spelling.placeholder (spelling : Spelling) : Placeholder := ⟨spelling.name, spelling.text⟩

/-- Literal texts with a placeholder behind each, and a last literal text. -/
structure Template where
  pieces : List (Literal × Spelling)
  tail : Literal

namespace Template

def chars (template : Template) : List Char :=
  template.pieces.flatMap (fun piece => piece.1.text ++ piece.2.text) ++ template.tail.text

/-- The path that a template is written as. -/
def path (template : Template) : String := String.ofList template.chars

/-- The names of the placeholders, as often as they are written. -/
def names (template : Template) : List String :=
  template.pieces.map fun piece => String.ofList piece.2.name

end Template

/-! ### Reading what was written -/

theorem Spelling.scanned (spelling : Spelling) (rest : List Char) :
    scan (spelling.text ++ rest) = spelling.placeholder :: scan rest := by
  obtain ⟨name, constraint, named, letters, closed, apart⟩ := spelling
  have inside : '\x7d' ∉ name ++ constraint := by
    intro member
    rcases List.mem_append.mp member with early | late
    · have closing := letters _ early
      rw [closing_not_nameChar] at closing
      cases closing
    · exact closed late
  -- The name goes as far as its characters do, and the constraint starts with none of them.
  have taken : (name ++ constraint).takeWhile isNameChar = name := by
    rw [List.takeWhile_append_of_pos letters]
    cases constraint with
    | nil => simp
    | cons c others =>
      have other := apart c (by simp)
      simp [other]
  cases name with
  | nil => exact absurd rfl named
  | cons c name =>
    have found := @scan_cons_found _ rest _ _ inside taken
    simpa [Spelling.text, Spelling.placeholder] using found

theorem Template.scan_chars (template : Template) :
    scan template.chars = template.pieces.map (·.2.placeholder) := by
  obtain ⟨pieces, tail⟩ := template
  induction pieces with
  | nil =>
    have silent := scan_plain_append tail.plain []
    simpa [chars] using silent
  | cons piece pieces ih =>
    simp only [chars] at ih
    simp only [chars, List.flatMap_cons, List.append_assoc, List.map_cons]
    -- A literal holds no opening brace, and a spelling is found as a whole.
    rw [scan_plain_append piece.1.plain, piece.2.scanned, ih]

/-! ### Names and texts -/

private theorem keys_insertMember (members : List (String × String)) (key value : String) :
    (Data.insertMember members key value).map Prod.fst =
      if key ∈ members.map Prod.fst then members.map Prod.fst else members.map Prod.fst ++ [key] := by
  split
  next present => exact Data.keys_insertMember_of_mem present value
  next absent => simp [Data.insertMember_of_absent absent]

/-- The names of a path are those of its placeholders, without the repetitions. -/
theorem placeholders_keys (path : String) :
    (placeholders path).map Prod.fst =
      ((scan path.toList).map fun p => String.ofList p.name).eraseDups := by
  unfold placeholders
  generalize scan path.toList = found
  induction found using List.reverseRecOn with
  | nil => rfl
  | append_singleton found p ih =>
    -- The last placeholder adds its name at the end, unless the name is there already.
    rw [List.foldl_append, List.foldl_cons, List.foldl_nil, keys_insertMember, ih, List.map_append,
      List.map_singleton, eraseDups_snoc]
    simp only [List.mem_eraseDups]

/-- What a name has for a text is the text of a placeholder of that name. -/
theorem mem_placeholders {path : String} {entry : String × String} (member : entry ∈ placeholders path) :
    ∃ p ∈ scan path.toList, entry = (String.ofList p.name, String.ofList p.text) := by
  refine List.foldlRecOn (motive := fun members => ∀ entry ∈ members,
    ∃ p ∈ scan path.toList, entry = (String.ofList p.name, String.ofList p.text)) _ _ (List.forall_mem_nil _)
    (fun members known p among entry member => ?_) entry member
  exact (Data.mem_insertMember member).elim (fun new => ⟨p, among, new⟩) (known entry)

theorem Placeholder.IsSound.braced {p : Placeholder} (sound : p.IsSound) :
    ∃ inner, p.text = '\x7b' :: inner ++ ['\x7d'] ∧ '\x7d' ∉ inner ∧ p.name <+: inner ∧ p.name ≠ [] := by
  obtain ⟨c, inner, text, isName, closed⟩ := sound.token
  have named := sound.named
  rw [text, List.cons_append, List.tail_cons, takeWhile_name_append _ _ closed] at named
  refine ⟨c :: inner, text, closed, ?_, ?_⟩
  · rw [named]
    exact List.takeWhile_prefix _
  · simp [named, isName]

/-- A name has the text of the last placeholder that is written with it. -/
theorem Template.lookup_last {template : Template} {before after : List (Literal × Spelling)}
    {piece : Literal × Spelling} (split : template.pieces = before ++ piece :: after)
    (last : ∀ later ∈ after, later.2.name ≠ piece.2.name) :
    (placeholders template.path).lookup (String.ofList piece.2.name) =
      some (String.ofList piece.2.text) := by
  have none_later : (after.map (·.2.placeholder)).filter
      (Placeholder.isNamed (String.ofList piece.2.name)) = [] := by
    rw [List.filter_eq_nil_iff]
    intro p member named
    obtain ⟨later, among, rfl⟩ := List.mem_map.mp member
    rw [Placeholder.isNamed, decide_eq_true_eq] at named
    exact last later among (String.ofList_inj.mp named)
  have own : piece.2.placeholder.isNamed (String.ofList piece.2.name) = true := by
    simp [Placeholder.isNamed, Spelling.placeholder]
  rw [lookup_placeholders, lastNamed?, Template.path, String.toList_ofList, Template.scan_chars, split,
    List.map_append, List.map_cons, List.filter_append, List.filter_cons_of_pos own, none_later]
  simp [Spelling.placeholder]

/-- Reading a template gives back what was written: its names in the order in which they come first, each with
the text of its last placeholder. In every path, the text of a name stands somewhere; it is an opening brace, the
name, and what follows up to the only closing brace. -/
theorem placeholders_written (template : Template) (path : String) :
    ((placeholders template.path).map Prod.fst = template.names.eraseDups ∧
      ∀ before piece after, template.pieces = before ++ piece :: after →
        (∀ later ∈ after, later.2.name ≠ piece.2.name) →
          (placeholders template.path).lookup (String.ofList piece.2.name) =
            some (String.ofList piece.2.text)) ∧
      ∀ entry ∈ placeholders path, entry.2.toList <:+: path.toList ∧
        ∃ inner, entry.2.toList = '\x7b' :: inner ++ ['\x7d'] ∧ '\x7d' ∉ inner ∧
          entry.1.toList <+: inner ∧ entry.1 ≠ "" := by
  refine ⟨⟨?_, ?_⟩, ?_⟩
  -- Both parts of the first half go through the scan, which gives back the spellings.
  · rw [placeholders_keys, Template.path, String.toList_ofList, Template.scan_chars, List.map_map]
    rfl
  · intro before piece after split last
    exact Template.lookup_last split last
  · intro entry member
    obtain ⟨p, found, rfl⟩ := mem_placeholders member
    obtain ⟨inner, text, closed, named, something⟩ := (isSound_of_mem_scan found).braced
    simp only [String.toList_ofList]
    refine ⟨infix_of_mem_scan found, inner, text, closed, named, ?_⟩
    simpa using something

/-- A constraint with an opening brace, and a name that is written twice. -/
example : placeholders "/\x7da/\x7bid:\x7b0\x7d/\x7bkey\x7d/\x7bid\x7d" = [("id", "\x7bid\x7d"), ("key", "\x7bkey\x7d")] := by
  decide +kernel

end Bindery.Path
