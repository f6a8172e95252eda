import Bindery.Proofs.Source.Names
import Mathlib.Data.List.Nodup
import Mathlib.Data.String.Basic

/-!
# Collected imports

A collection is kept in order: the modules ascend, and so do the names wanted from each. So a name that
comes from one module only is imported once. The imports from beside a module come last.
-/
namespace Bindery.Source

/-- Modules ascend, and so do the names of each. -/
structure Imports.IsSorted (imports : Imports) : Prop where
  modules : (imports.entries.map Prod.fst).Pairwise (· < ·)
  names : ∀ entry ∈ imports.entries, entry.2.Pairwise (· < ·)

theorem insertName_sorted {names : List String} (sorted : names.Pairwise (· < ·)) (name : String) :
    (insertName name names).Pairwise (· < ·) := by
  induction names with
  | nil => exact List.pairwise_singleton ..
  | cons first rest ih =>
    have tail := List.pairwise_cons.mp sorted
    unfold insertName
    -- The name comes before the first one, or is the first one, or goes into the rest.
    split
    next before =>
      refine List.pairwise_cons.mpr ⟨fun other member => ?_, sorted⟩
      rcases List.mem_cons.mp member with rfl | later
      · exact before
      · exact lt_trans before (tail.1 other later)
    split
    · exact sorted
    next notBefore differs =>
      refine List.pairwise_cons.mpr ⟨fun other member => ?_, ih tail.2⟩
      rcases mem_insertName.mp member with rfl | later
      · exact lt_of_le_of_ne (not_lt.mp notBefore) (Ne.symm differs)
      · exact tail.1 other later

theorem foldl_insertName_sorted {found : List String} (sorted : found.Pairwise (· < ·)) (names : List String) :
    (names.foldl (fun found name => insertName name found) found).Pairwise (· < ·) :=
  List.foldlRecOn (motive := List.Pairwise (· < ·)) _ _ sorted fun _ sorted name _ => insertName_sorted sorted name

/-- Adding to a module leaves the modules before it where they are. -/
theorem mem_modules_addTo {module other : String} {names : List String}
    {entries : List (String × List String)} :
    other ∈ (Imports.addTo module names entries).map Prod.fst ↔
      other = module ∨ other ∈ entries.map Prod.fst := by
  induction entries with
  | nil => simp [Imports.addTo]
  | cons entry rest ih =>
    obtain ⟨m, found⟩ := entry
    unfold Imports.addTo
    split
    · simp
    split
    next same => simp [same]
    · rw [List.map_cons, List.mem_cons, ih, List.map_cons, List.mem_cons]
      exact or_left_comm

theorem Imports.IsSorted.add {imports : Imports} (sorted : imports.IsSorted) (module : String)
    (names : List String) : (imports.add module names).IsSorted := by
  obtain ⟨entries⟩ := imports
  obtain ⟨modules, ascending⟩ := sorted
  have fresh := foldl_insertName_sorted (List.Pairwise.nil (R := (· < ·))) names
  unfold Imports.add
  simp only at modules ascending ⊢
  induction entries with
  | nil => exact ⟨by simp [addTo], by simpa [addTo] using fresh⟩
  | cons entry rest ih =>
    obtain ⟨m, found⟩ := entry
    rw [List.map_cons, List.pairwise_cons] at modules
    rw [List.forall_mem_cons] at ascending
    unfold addTo
    -- The same three places as in the collection itself: before the first module, at it, or among the rest.
    split
    next before =>
      refine ⟨List.pairwise_cons.mpr ⟨fun other member => ?_, List.pairwise_cons.mpr modules⟩,
        List.forall_mem_cons.mpr ⟨fresh, List.forall_mem_cons.mpr ascending⟩⟩
      rcases List.mem_cons.mp member with rfl | later
      · exact before
      · exact lt_trans before (modules.1 other later)
    split
    · exact ⟨List.pairwise_cons.mpr modules,
        List.forall_mem_cons.mpr ⟨foldl_insertName_sorted ascending.1 names, ascending.2⟩⟩
    next notBefore differs =>
      obtain ⟨laterModules, laterNames⟩ := ih modules.2 ascending.2
      refine ⟨List.pairwise_cons.mpr ⟨fun other member => ?_, laterModules⟩,
        List.forall_mem_cons.mpr ⟨ascending.1, laterNames⟩⟩
      rcases mem_modules_addTo.mp member with rfl | later
      · exact lt_of_le_of_ne (not_lt.mp notBefore) (Ne.symm differs)
      · exact modules.1 other later

theorem Imports.isSorted_empty : ({} : Imports).IsSorted := ⟨.nil, by simp⟩

theorem Imports.isSorted_single (module : String) (names : List String) :
    (Imports.single module names).IsSorted := Imports.isSorted_empty.add module names

theorem Imports.IsSorted.merge {first : Imports} (sorted : first.IsSorted) (second : Imports) :
    (first.merge second).IsSorted :=
  List.foldlRecOn (motive := Imports.IsSorted) _ _ sorted fun _ sorted entry _ => sorted.add entry.1 entry.2

theorem Imports.IsSorted.foldl_merge {α : Type} {start : Imports} (sorted : start.IsSorted)
    (of : α → Imports) (items : List α) :
    (items.foldl (fun found item => found.merge (of item)) start).IsSorted :=
  List.foldlRecOn (motive := Imports.IsSorted) _ _ sorted fun _ sorted item _ => sorted.merge (of item)

/-! ### Import statements -/

theorem importedIn_statement (entry : String × List String) :
    importedIn [Imports.statement entry] = entry.2 := by
  simp only [Imports.statement]
  split <;> simp [importedIn]

/-- All statements are imports. -/
theorem Imports.mem_statements {imports : Imports} {statement : Stmt} (member : statement ∈ imports.statements) :
    ∃ module level names, statement = .importFrom module level names := by
  obtain ⟨entry, -, rfl⟩ := List.mem_map.mp member
  simp only [Imports.statement]
  split <;> exact ⟨_, _, _, rfl⟩

/-- Every wanted module stands in one of the groups. -/
theorem inGroup_perm (imports : Imports) :
    (imports.inGroup .standard ++ imports.inGroup .other ++ imports.inGroup .relative).Perm
      imports.entries := by
  obtain ⟨entries⟩ := imports
  simp only [Imports.inGroup]
  induction entries with
  | nil => exact .nil
  | cons entry rest ih =>
    simp only [List.filter_cons, List.append_assoc] at ih ⊢
    -- Each entry is in one of the groups, in front of those of the rest.
    cases importGroup entry.1 with
    | standard => simpa using ih
    | other => simpa using List.perm_middle.trans (ih.cons entry)
    | relative =>
      rw [← List.append_assoc] at ih ⊢
      simpa using List.perm_middle.trans (ih.cons entry)

/-- The statements import what is wanted, module by module. -/
theorem importedIn_statements (imports : Imports) :
    (importedIn imports.statements).Perm (imports.entries.flatMap Prod.snd) := by
  -- The order of the groups does not matter for what is imported.
  have each : ∀ entries : List (String × List String),
      importedIn (entries.map Imports.statement) = entries.flatMap Prod.snd := by
    intro entries
    induction entries with
    | nil => rfl
    | cons entry rest ih =>
      have first := importedIn_append [Imports.statement entry] (rest.map Imports.statement)
      rw [List.singleton_append, importedIn_statement, ih] at first
      exact first
  rw [Imports.statements, each]
  exact (inGroup_perm imports).flatMap_right Prod.snd

theorem Imports.mem_importedIn {imports : Imports} {name : String} :
    name ∈ importedIn imports.statements ↔ ∃ module, imports.Wants module name := by
  rw [(importedIn_statements imports).mem_iff, List.mem_flatMap]
  constructor
  · rintro ⟨⟨module, names⟩, member, wanted⟩
    exact ⟨module, names, member, wanted⟩
  · rintro ⟨module, names, member, wanted⟩
    exact ⟨(module, names), member, wanted⟩

/-- Names that come from one module each are imported once. -/
theorem Imports.IsSorted.importedIn_nodup {imports : Imports} (sorted : imports.IsSorted)
    (home : ∀ name first second, imports.Wants first name → imports.Wants second name → first = second) :
    (importedIn imports.statements).Nodup := by
  rw [(importedIn_statements imports).nodup_iff, List.nodup_flatMap]
  refine ⟨fun entry member => (sorted.names entry member).imp fun before => ne_of_lt before, ?_⟩
  have modules := List.pairwise_map.mp sorted.modules
  -- A name in two entries would be wanted from two modules, and modules are different from each other.
  refine modules.imp_of_mem fun here there before => ?_
  intro name first second
  exact ne_of_lt before (home name _ _ ⟨_, here, first⟩ ⟨_, there, second⟩)

/-! ### Entries -/

/-- What is added to a module stands beside the other entries, or comes to what was wanted from it. -/
theorem Imports.mem_entries_add {imports : Imports} {module : String} {names : List String}
    {entry : String × List String} (member : entry ∈ (imports.add module names).entries) :
    entry ∈ imports.entries ∨ ∃ found, (found = [] ∨ (module, found) ∈ imports.entries) ∧
      entry = (module, names.foldl (fun found name => insertName name found) found) := by
  obtain ⟨entries⟩ := imports
  unfold Imports.add at member
  simp only at member ⊢
  induction entries with
  | nil => exact .inr ⟨[], .inl rfl, List.mem_singleton.mp member⟩
  | cons first rest ih =>
    obtain ⟨m, found⟩ := first
    unfold addTo at member
    -- The three ways in which a module finds its place: before an entry, at it, or in the rest.
    split at member
    · rcases List.mem_cons.mp member with rfl | later
      · exact .inr ⟨[], .inl rfl, rfl⟩
      · exact .inl later
    split at member
    next same =>
      subst same
      rcases List.mem_cons.mp member with rfl | later
      · exact .inr ⟨found, .inr (List.mem_cons_self ..), rfl⟩
      · exact .inl (List.mem_cons_of_mem _ later)
    · rcases List.mem_cons.mp member with rfl | later
      · exact .inl (List.mem_cons_self ..)
      · rcases ih later with old | ⟨found', known, same⟩
        · exact .inl (List.mem_cons_of_mem _ old)
        · exact .inr ⟨found', known.imp_right (List.mem_cons_of_mem _), same⟩

/-! ### Imports from beside a module -/

/-- Does a statement import from beside its own module? -/
def Stmt.isRelative : Stmt → Bool
  | .importFrom _ level _ => 0 < level
  | _ => false

theorem importGroup_eq_relative_iff {module : String} :
    importGroup module = .relative ↔ module.toList.head? = some '.' := by
  unfold importGroup
  split
  next dotted => simp [dotted]
  next plain => split <;> simp [plain]

theorem isRelative_statement (entry : String × List String) :
    (Imports.statement entry).isRelative = decide (importGroup entry.1 = .relative) := by
  simp only [Imports.statement, importGroup_eq_relative_iff]
  split
  next dotted =>
    obtain ⟨rest, chars⟩ := List.head?_eq_some_iff.mp dotted
    -- The level counts the dots in front, of which there is at least one.
    have shorter : (entry.1.toList.dropWhile (· = '.')).length < entry.1.toList.length := by
      rw [chars, List.dropWhile_cons_of_pos (by decide), List.length_cons]
      exact Nat.lt_succ_of_le (List.dropWhile_sublist _).length_le
    rw [decide_eq_true dotted]
    exact decide_eq_true (Nat.sub_pos_of_lt shorter)
  next plain => simp [Stmt.isRelative, plain]

/-- The statements that import from beside a module are those of the last group. -/
theorem filter_isRelative_statements (imports : Imports) :
    imports.statements.filter Stmt.isRelative = (imports.inGroup .relative).map Imports.statement := by
  -- Other groups have no relative statements, and the last group has nothing else.
  have apart {group : ImportGroup} (other : group ≠ .relative) :
      ((imports.inGroup group).map Imports.statement).filter Stmt.isRelative = [] := by
    refine List.filter_eq_nil_iff.mpr (List.forall_mem_map.mpr fun entry member => ?_)
    have grouped : importGroup entry.1 = group := of_decide_eq_true (List.mem_filter.mp member).2
    rw [isRelative_statement, grouped, decide_eq_false other]
    exact Bool.false_ne_true
  have whole : ((imports.inGroup .relative).map Imports.statement).filter Stmt.isRelative =
      (imports.inGroup .relative).map Imports.statement := by
    refine List.filter_eq_self.mpr (List.forall_mem_map.mpr fun entry member => ?_)
    exact (isRelative_statement entry).trans (List.mem_filter.mp member).2
  rw [Imports.statements, List.map_append, List.map_append, List.filter_append, List.filter_append,
    apart (by decide), apart (by decide), whole]
  rfl

end Bindery.Source
