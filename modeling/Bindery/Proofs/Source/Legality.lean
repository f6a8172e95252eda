import Bindery.Proofs.Source.Collected
import Bindery.Proofs.Source.Printing

/-!
# What makes source legal

A plain name is legal unless it is a keyword, or the one constant that is no keyword. Source is legal if
its parts are, and if its brackets do not lie too deep in one another.
-/
namespace Bindery.Source

open Bindery.Text (isWordChar)

/-! ### Names -/

theorem isGap_of_isWordChar {c : Char} (word : isWordChar c = true) : isGap c = false :=
  @forall_ascii (fun c => isWordChar c = true → isGap c = false) (by decide) c (ascii_of_isWordChar word) word

theorem dropWhile_isGap {s : List Char} (word : ∀ c ∈ s, isWordChar c = true) : s.dropWhile isGap = s := by
  cases s with
  | nil => rfl
  | cons c rest => rw [List.dropWhile_cons_of_neg (by simp [isGap_of_isWordChar (word c (List.mem_cons_self ..))])]

/-- There are no blanks around a plain name. -/
theorem bareName_of_isPlain {name : String} (plain : IsPlain name) : bareName name = name := by
  rw [bareName, dropWhile_isGap plain.word, dropWhile_isGap fun c member => plain.word c (List.mem_reverse.mp member),
    List.reverse_reverse, String.ofList_toList]

theorem isLegalName_iff {name : String} (plain : IsPlain name) :
    isLegalName name = true ↔ name ∉ Name.keywords ∧ name ≠ "__debug__" := by
  simp [isLegalName, bareName_of_isPlain plain, plain.identifier, Name.isKeyword]

/-- A plain name can be loaded unless it is a keyword. -/
theorem isValueName_of_isPlain {name : String} (plain : IsPlain name) (free : name ∉ Name.keywords) :
    isValueName name = true := by
  rw [isValueName, Bool.or_eq_true, isLegalName_iff plain, bareName_of_isPlain plain, List.contains_iff_mem]
  by_cases constant : name = "__debug__"
  · exact .inr (by simp [constant, constantNames])
  · exact .inl ⟨free, constant⟩

/-! ### Expressions -/

theorem allSound_membersOf {items : List Expr} : AllSound (membersOf items) ↔ ∀ item ∈ items, item.IsSound := by
  induction items with
  | nil => simp [membersOf, AllSound]
  | cons item rest ih =>
    rw [membersOf, allSound_append, ih, List.forall_mem_cons]
    rfl

theorem allSound_membersOfNamed {entries : List (String × Expr)} :
    AllSound (membersOfNamed entries) ↔ ∀ entry ∈ entries, entry.2.IsSound := by
  induction entries with
  | nil => simp [membersOfNamed, AllSound]
  | cons entry rest ih =>
    rw [membersOfNamed, allSound_append, ih, List.forall_mem_cons]
    rfl

theorem allSound_membersOfPieces {pieces : List (String ⊕ Expr)} :
    AllSound (membersOfPieces pieces) ↔ ∀ value, .inr value ∈ pieces → value.IsSound := by
  induction pieces with
  | nil => simp [membersOfPieces, AllSound]
  | cons piece rest ih =>
    cases piece with
    | inl literal => simp [membersOfPieces, ih]
    | inr value =>
      rw [membersOfPieces, allSound_append, ih]
      simp only [List.mem_cons, Sum.inr.injEq, forall_eq_or_imp]
      rfl

theorem isSound_await {operand : Expr} : operand.await.IsSound ↔ operand.IsSound :=
  Expr.isSound_iff.trans (and_iff_right rfl)

theorem isSound_call {function : Expr} {arguments : List Expr} {named : List (String × Expr)} :
    (function.call arguments named).IsSound ↔ (∀ entry ∈ named, isLegalName entry.1 = true) ∧ function.IsSound ∧
      (∀ value ∈ arguments, value.IsSound) ∧ ∀ entry ∈ named, entry.2.IsSound := by
  have inside : (function.call arguments named).inside =
      function.parts ++ membersOf arguments ++ membersOfNamed named := rfl
  rw [Expr.isSound_iff, inside, allSound_append, allSound_append, allSound_membersOf, allSound_membersOfNamed,
    and_assoc, Expr.isLegalPart, List.all_eq_true]
  rfl

theorem isSound_dict {entries : List (String × Expr)} :
    (Expr.dict entries).IsSound ↔ ∀ entry ∈ entries, entry.2.IsSound :=
  Expr.isSound_iff.trans ((and_iff_right rfl).trans allSound_membersOfNamed)

section Nesting

variable {counted : Expr → Bool} {n : Nat}

theorem nestingOfNamed_le_iff {entries : List (String × Expr)} :
    nestingOfNamed counted entries ≤ n ↔ ∀ entry ∈ entries, entry.2.nesting counted ≤ n := by
  induction entries with
  | nil => simp [nestingOfNamed]
  | cons entry rest ih => rw [nestingOfNamed, Nat.max_le, ih, List.forall_mem_cons]

theorem nestingOfPieces_le_iff {pieces : List (String ⊕ Expr)} :
    nestingOfPieces counted pieces ≤ n ↔ ∀ value, .inr value ∈ pieces → value.nesting counted ≤ n := by
  induction pieces with
  | nil => simp [nestingOfPieces]
  | cons piece rest ih =>
    cases piece with
    | inl literal => simp [nestingOfPieces, ih]
    | inr value =>
      rw [nestingOfPieces, Nat.max_le, ih]
      simp only [List.mem_cons, Sum.inr.injEq, forall_eq_or_imp]

end Nesting

mutual

/-- Expressions of a kind lie no deeper in one another than all expressions do. -/
theorem nesting_le_depth (counted : Expr → Bool) : ∀ e : Expr, e.nesting counted ≤ e.nesting fun _ => true
  | .name _ | .text _ | .number _ | .none => by
    simp only [Expr.nesting]
    split <;> simp
  | .attribute base _ | .await base => by
    have inner := nesting_le_depth counted base
    simp only [Expr.nesting]
    split <;> simp only [if_true] <;> omega
  | .item base indices => by
    have first := nesting_le_depth counted base
    have others := nestingOf_le_depth counted indices
    simp only [Expr.nesting]
    split <;> simp only [if_true] <;> omega
  | .call function arguments named => by
    have first := nesting_le_depth counted function
    have values := nestingOf_le_depth counted arguments
    have others := nestingOfNamed_le_depth counted named
    simp only [Expr.nesting]
    split <;> simp only [if_true] <;> omega
  | .dict entries => by
    have inner := nestingOfNamed_le_depth counted entries
    simp only [Expr.nesting]
    split <;> simp only [if_true] <;> omega
  | .list items | .tuple items => by
    have inner := nestingOf_le_depth counted items
    simp only [Expr.nesting]
    split <;> simp only [if_true] <;> omega
  | .union left right | .same left right | .differs left right => by
    have first := nesting_le_depth counted left
    have second := nesting_le_depth counted right
    simp only [Expr.nesting]
    split <;> simp only [if_true] <;> omega
  | .formatted pieces => by
    have inner := nestingOfPieces_le_depth counted pieces
    simp only [Expr.nesting]
    split <;> simp only [if_true] <;> omega

theorem nestingOf_le_depth (counted : Expr → Bool) : ∀ items : List Expr,
    nestingOf counted items ≤ nestingOf (fun _ => true) items
  | [] => Nat.le_refl _
  | item :: rest => by
    have first := nesting_le_depth counted item
    have others := nestingOf_le_depth counted rest
    simp only [nestingOf]
    omega

theorem nestingOfNamed_le_depth (counted : Expr → Bool) : ∀ entries : List (String × Expr),
    nestingOfNamed counted entries ≤ nestingOfNamed (fun _ => true) entries
  | [] => Nat.le_refl _
  | (_, value) :: rest => by
    have first := nesting_le_depth counted value
    have others := nestingOfNamed_le_depth counted rest
    simp only [nestingOfNamed]
    omega

theorem nestingOfPieces_le_depth (counted : Expr → Bool) : ∀ pieces : List (String ⊕ Expr),
    nestingOfPieces counted pieces ≤ nestingOfPieces (fun _ => true) pieces
  | [] => Nat.le_refl _
  | .inl _ :: rest => nestingOfPieces_le_depth counted rest
  | .inr value :: rest => by
    have first := nesting_le_depth counted value
    have others := nestingOfPieces_le_depth counted rest
    simp only [nestingOfPieces]
    omega

end

/-- A sound expression with few levels is legal. -/
theorem isLegalIn_iff_of_depth {brackets : Nat} {e : Expr} (shallow : brackets + e.depth ≤ bracketLimit) :
    e.isLegalIn brackets = true ↔ e.IsSound := by
  -- Brackets are expressions, and lie no deeper in one another than these.
  have bound : e.nesting Expr.isBracketed ≤ e.depth := nesting_le_depth Expr.isBracketed e
  rw [Expr.isLegalIn_iff]
  exact ⟨fun both => both.1, fun sound => ⟨sound, by omega⟩⟩

/-! ### Statements -/

theorem areLegalAll_iff {statements : List Stmt} :
    areLegalAll statements = true ↔ ∀ statement ∈ statements, statement.isLegal = true := by
  induction statements with
  | nil => simp [areLegalAll]
  | cons statement rest ih => rw [areLegalAll, Bool.and_eq_true, ih, List.forall_mem_cons]

theorem areShallowAll_iff {statements : List Stmt} :
    areShallowAll statements = true ↔ ∀ statement ∈ statements, statement.isShallow = true := by
  induction statements with
  | nil => simp [areShallowAll]
  | cons statement rest ih => rw [areShallowAll, Bool.and_eq_true, ih, List.forall_mem_cons]

/-! ### Imports -/

/-- May names be imported from the module? -/
def isImportable (module : String) : Bool := (Imports.statement (module, [])).isLegal

theorem isLegal_statement (entry : String × List String) :
    (Imports.statement entry).isLegal = (isImportable entry.1 && entry.2.all isLegalName) := by
  simp only [isImportable, Imports.statement]
  split <;> simp [Stmt.isLegal]

theorem isShallow_statement (entry : String × List String) : (Imports.statement entry).isShallow = true := by
  simp only [Imports.statement]
  split <;> rfl

def Imports.IsLegal (imports : Imports) : Prop :=
  ∀ entry ∈ imports.entries, isImportable entry.1 = true ∧ ∀ name ∈ entry.2, isLegalName name = true

theorem Imports.isLegal_empty : ({} : Imports).IsLegal := by simp [Imports.IsLegal]

theorem Imports.IsLegal.add {imports : Imports} (legal : imports.IsLegal) {module : String} {names : List String}
    (importable : isImportable module = true) (all : ∀ name ∈ names, isLegalName name = true) :
    (imports.add module names).IsLegal := by
  intro entry member
  rcases Imports.mem_entries_add member with old | ⟨found, before, rfl⟩
  · exact legal entry old
  · refine ⟨importable, fun name among => ?_⟩
    -- The names of the entry are new, or were wanted from the module before.
    rcases mem_foldl_insertName.mp among with new | old
    · exact all name new
    · rcases before with rfl | there
      · cases old
      · exact (legal _ there).2 name old

theorem Imports.isLegal_single {module : String} {names : List String} (importable : isImportable module = true)
    (all : ∀ name ∈ names, isLegalName name = true) : (Imports.single module names).IsLegal :=
  Imports.isLegal_empty.add importable all

theorem Imports.IsLegal.merge {first second : Imports} (left : first.IsLegal) (right : second.IsLegal) :
    (first.merge second).IsLegal :=
  List.foldlRecOn (motive := Imports.IsLegal) _ _ left fun _ legal entry member =>
    legal.add (right entry member).1 (right entry member).2

theorem Imports.IsLegal.foldl_merge {α : Type} {start : Imports} (legal : start.IsLegal) {of : α → Imports}
    {items : List α} (each : ∀ item ∈ items, (of item).IsLegal) :
    (items.foldl (fun found item => found.merge (of item)) start).IsLegal :=
  List.foldlRecOn (motive := Imports.IsLegal) _ _ legal fun _ legal item member => legal.merge (each item member)

/-- The statements are legal if all that is wanted may be imported. -/
theorem Imports.IsLegal.statements {imports : Imports} (legal : imports.IsLegal) :
    areLegalAll imports.statements = true := by
  refine areLegalAll_iff.mpr fun statement member => ?_
  obtain ⟨entry, among, rfl⟩ := List.mem_map.mp member
  obtain ⟨importable, names⟩ := legal entry ((inGroup_perm imports).mem_iff.mp among)
  rw [isLegal_statement, importable, Bool.true_and, List.all_eq_true]
  exact names

theorem areShallowAll_statements (imports : Imports) : areShallowAll imports.statements = true := by
  refine areShallowAll_iff.mpr fun statement member => ?_
  obtain ⟨entry, -, rfl⟩ := List.mem_map.mp member
  exact isShallow_statement entry

end Bindery.Source
