import Bindery.Proofs.Source.Collected
import Mathlib.Data.List.Sort
import Mathlib.Data.List.TakeWhile

/-!
# Imports in any order

A collection of imports grows by calls, each of which mentions modules and names wanted from them. The order of the
calls, their grouping and their repetitions leave no trace: calls that mention the same lead to the same statements.
There is one statement for each module, and no two of them import from the same place.
-/
namespace Bindery.Source

/-! ### Calls -/

/-- What a collection is asked for in one call: a name from a module, or all that another collection wants. -/
inductive ImportCall where
  | one (module name : String)
  | all (wanted : Imports)

def ImportCall.apply (imports : Imports) : ImportCall → Imports
  | one module name => imports.add module [name]
  | all wanted => imports.merge wanted

/-- The collection that calls lead to, one after the other. -/
def Imports.collect (calls : List ImportCall) : Imports := calls.foldl ImportCall.apply {}

/-- Does a call mention a module? It may do so without any names. -/
def ImportCall.Mentions : ImportCall → String → Prop
  | one module _, other => other = module
  | all wanted, other => other ∈ wanted.entries.map Prod.fst

def ImportCall.Wants : ImportCall → String → String → Prop
  | one module name, other, found => other = module ∧ found = name
  | all wanted, other, found => wanted.Wants other found

def Mentioned (calls : List ImportCall) (module : String) : Prop := ∃ call ∈ calls, call.Mentions module

def Wanted (calls : List ImportCall) (module name : String) : Prop := ∃ call ∈ calls, call.Wants module name

theorem mem_modules_merge {first second : Imports} {other : String} :
    other ∈ (first.merge second).entries.map Prod.fst ↔
      other ∈ second.entries.map Prod.fst ∨ other ∈ first.entries.map Prod.fst := by
  have entries : other ∈ (first.merge second).entries.map Prod.fst ↔
      (∃ entry ∈ second.entries, other = entry.1) ∨ other ∈ first.entries.map Prod.fst :=
    foldl_adds (P := fun imports : Imports => other ∈ imports.entries.map Prod.fst)
      (Q := fun entry : String × List String => other = entry.1) (fun _ _ => mem_modules_addTo) _ _
  rw [entries, List.mem_map, List.mem_map]
  simp only [eq_comm]

/-! One call adds what it mentions, and keeps the order. -/

namespace ImportCall

variable (imports : Imports) (call : ImportCall)

theorem mem_modules_apply {other : String} :
    other ∈ (apply imports call).entries.map Prod.fst ↔
      call.Mentions other ∨ other ∈ imports.entries.map Prod.fst := by
  cases call with
  | one module name => exact mem_modules_addTo
  | all wanted => exact mem_modules_merge

theorem wants_apply {other name : String} :
    (apply imports call).Wants other name ↔ call.Wants other name ∨ imports.Wants other name := by
  cases call with
  | one module name => simp [apply, Wants, Imports.wants_add]
  | all wanted => exact Imports.wants_merge.trans or_comm

theorem isSorted_apply (sorted : imports.IsSorted) : (apply imports call).IsSorted := by
  cases call with
  | one module name => exact sorted.add module [name]
  | all wanted => exact sorted.merge wanted

end ImportCall

/-! Hence any number of calls add what they mention. -/

theorem mem_modules_calls (start : Imports) (calls : List ImportCall) {other : String} :
    other ∈ (calls.foldl ImportCall.apply start).entries.map Prod.fst ↔
      Mentioned calls other ∨ other ∈ start.entries.map Prod.fst :=
  foldl_adds (P := fun imports : Imports => other ∈ imports.entries.map Prod.fst)
    (fun imports call => ImportCall.mem_modules_apply imports call) start calls

theorem wants_calls (start : Imports) (calls : List ImportCall) {other name : String} :
    (calls.foldl ImportCall.apply start).Wants other name ↔ Wanted calls other name ∨ start.Wants other name :=
  foldl_adds (P := fun imports : Imports => imports.Wants other name)
    (fun imports call => ImportCall.wants_apply imports call) start calls

theorem isSorted_calls {start : Imports} (sorted : start.IsSorted) (calls : List ImportCall) :
    (calls.foldl ImportCall.apply start).IsSorted :=
  List.foldlRecOn (motive := Imports.IsSorted) _ _ sorted fun imports sorted call _ =>
    ImportCall.isSorted_apply imports call sorted

section Collect

variable (calls : List ImportCall)

theorem mem_modules_collect {module : String} :
    module ∈ (Imports.collect calls).entries.map Prod.fst ↔ Mentioned calls module := by
  rw [Imports.collect, mem_modules_calls]
  simp

theorem wants_collect {module name : String} :
    (Imports.collect calls).Wants module name ↔ Wanted calls module name := by
  rw [Imports.collect, wants_calls]
  simp [Imports.Wants]

theorem isSorted_collect : (Imports.collect calls).IsSorted :=
  isSorted_calls Imports.isSorted_empty calls

end Collect

/-! ### Collections in order -/

namespace Imports.IsSorted

variable {imports : Imports} (sorted : imports.IsSorted)
include sorted

theorem nodup_modules : (imports.entries.map Prod.fst).Nodup :=
  sorted.modules.imp fun before => ne_of_lt before

theorem names_unique {module : String} {names others : List String} (here : (module, names) ∈ imports.entries)
    (there : (module, others) ∈ imports.entries) : names = others :=
  congrArg Prod.snd (List.inj_on_of_nodup_map sorted.nodup_modules here there rfl)

theorem mem_names_iff {module name : String} {names : List String} (member : (module, names) ∈ imports.entries) :
    name ∈ names ↔ imports.Wants module name := by
  constructor
  · intro wanted
    exact ⟨names, member, wanted⟩
  · -- A module has no other entry with more names.
    rintro ⟨others, there, wanted⟩
    exact sorted.names_unique there member ▸ wanted

/-- What is wanted decides a collection. -/
theorem ext {other : Imports} (ordered : other.IsSorted)
    (modules : ∀ module, module ∈ imports.entries.map Prod.fst ↔ module ∈ other.entries.map Prod.fst)
    (wants : ∀ module name, imports.Wants module name ↔ other.Wants module name) : imports = other := by
  -- An entry of one collection is one of the other: its module is there, with the same ascending names.
  have passes {first second : Imports} (left : first.IsSorted) (right : second.IsSorted)
      (known : ∀ module, module ∈ first.entries.map Prod.fst → module ∈ second.entries.map Prod.fst)
      (same : ∀ module name, first.Wants module name ↔ second.Wants module name) :
      ∀ entry ∈ first.entries, entry ∈ second.entries := by
    rintro ⟨module, names⟩ member
    obtain ⟨⟨_, others⟩, there, rfl⟩ := List.mem_map.mp (known module (List.mem_map_of_mem member))
    -- Ascending names are decided by their members, and so are the entries below.
    have equal : names = others := by
      apply List.Pairwise.eq_of_mem_iff (left.names _ member) (right.names _ there)
      intro name
      rw [left.mem_names_iff member, right.mem_names_iff there]
      exact same _ name
    exact equal ▸ there
  have entries : imports.entries = other.entries := by
    apply List.Pairwise.eq_of_mem_iff (r := fun before after => before.1 < after.1)
      (List.pairwise_map.mp sorted.modules) (List.pairwise_map.mp ordered.modules)
    intro entry
    constructor
    · exact passes sorted ordered (fun module => (modules module).mp) wants entry
    · exact passes ordered sorted (fun module => (modules module).mpr) (fun _ _ => (wants _ _).symm) entry
  cases imports
  exact congrArg Imports.mk entries

end Imports.IsSorted

/-! ### Places -/

/-- The module that a place stands for: as many dots as are counted, and what follows them. -/
def moduleAt (place : Option String × Nat) : String :=
  String.ofList (List.replicate place.2 '.') ++ place.1.getD ""

/-- A module as it is imported: all dots before it are counted, and what is left is its name, if anything is left. -/
structure IsPlaceOf (module : String) (place : Option String × Nat) : Prop where
  spelled : moduleAt place = module
  counted : ∀ rest ∈ place.1, rest.toList.head? ≠ some '.'
  bare : place.1 = none ↔ module ≠ "" ∧ ∀ c ∈ module.toList, c = '.'

def Stmt.place? : Stmt → Option (Option String × Nat)
  | .importFrom module level _ => some (module, level)
  | _ => none

def Stmt.module? (statement : Stmt) : Option String := statement.place?.map moduleAt

/-- A text is the dots that it starts with and what follows them. -/
theorem leading_dots (chars : List Char) :
    List.replicate (chars.length - (chars.dropWhile (· = '.')).length) '.' ++ chars.dropWhile (· = '.') = chars := by
  have parts := List.takeWhile_append_dropWhile (p := fun c => decide (c = '.')) (l := chars)
  have dots : chars.takeWhile (· = '.') = List.replicate (chars.takeWhile (· = '.')).length '.' := by
    apply List.eq_replicate_of_mem
    intro c member
    simpa using List.mem_takeWhile_imp member
  have count : chars.length - (chars.dropWhile (· = '.')).length = (chars.takeWhile (· = '.')).length := by
    have lengths := congrArg List.length parts
    rw [List.length_append] at lengths
    omega
  rw [count, ← dots]
  exact parts

/-- An entry becomes an import of its names from the place of its module. -/
theorem statement_place (entry : String × List String) :
    ∃ place, IsPlaceOf entry.1 place ∧ Imports.statement entry = .importFrom place.1 place.2 entry.2 := by
  obtain ⟨module, names⟩ := entry
  simp only [Imports.statement]
  split
  next dotted =>
    -- The dots are counted; nothing follows them just if the module is all dots.
    have parts := leading_dots module.toList
    have counted := List.head?_dropWhile_not (· = '.') module.toList
    have allDots := @List.dropWhile_eq_nil_iff _ (fun c => decide (c = '.')) module.toList
    have filled : module ≠ "" := by
      rintro rfl
      cases dotted
    cases rest : module.toList.dropWhile (· = '.') with
    | nil =>
      rw [rest] at parts allDots
      refine ⟨(none, module.toList.length), ⟨String.toList_injective ?_, by simp, ?_⟩, rfl⟩
      · simpa [moduleAt] using parts
      · simpa [filled] using allDots
    | cons c others =>
      rw [rest] at parts counted allDots
      refine ⟨(some (String.ofList (c :: others)), _), ⟨String.toList_injective ?_, ?_, ?_⟩, rfl⟩
      · simpa [moduleAt] using parts
      · simpa using counted
      · simpa [filled] using allDots
  next plain =>
    refine ⟨(some module, 0), ⟨by simp [moduleAt], by simpa using plain, ?_⟩, rfl⟩
    constructor
    · intro absent
      cases absent
    · -- Only a module that starts with a dot is all dots.
      rintro ⟨filled, dots⟩
      cases chars : module.toList with
      | nil => exact absurd (String.toList_eq_nil_iff.mp chars) filled
      | cons c rest =>
        have first := dots c (chars ▸ List.mem_cons_self ..)
        simp [chars, first] at plain

theorem statement_module? (entry : String × List String) : (Imports.statement entry).module? = some entry.1 := by
  obtain ⟨place, here, written⟩ := statement_place entry
  rw [written, Stmt.module?, Stmt.place?, Option.map_some, here.spelled]

/-- Modules that are imported from one place are the same. -/
theorem module_of_place {first second : String × List String}
    (same : (Imports.statement first).place? = (Imports.statement second).place?) : first.1 = second.1 := by
  have modules := congrArg (Option.map moduleAt) same
  have left := statement_module? first
  have right := statement_module? second
  unfold Stmt.module? at left right
  rw [left, right] at modules
  exact Option.some.inj modules

/-! ### The order of the statements -/

/-- The part of a dotted path before its first dot, or all of it. -/
structure IsTopOf (top module : String) : Prop where
  undotted : '.' ∉ top.toList
  starts : module = top ∨ ∃ inner, module = top ++ "." ++ inner

/-- Every module stands in one of three groups. A dot in front names one beside the importing module. -/
inductive StandsIn (module : String) : ImportGroup → Prop
  | standard (absolute : module.toList.head? ≠ some '.') (known : ∃ top ∈ standardModules, IsTopOf top module) :
      StandsIn module .standard
  | other (absolute : module.toList.head? ≠ some '.') (unknown : ¬ ∃ top ∈ standardModules, IsTopOf top module) :
      StandsIn module .other
  | relative (dotted : module.toList.head? = some '.') : StandsIn module .relative

theorem isTopOf_iff {top module : String} : IsTopOf top module ↔ top = topLevel module := by
  unfold topLevel
  constructor
  · rintro ⟨undotted, starts⟩
    have all : ∀ c ∈ top.toList, decide (c ≠ '.') = true := fun c member => by
      simpa using fun same : c = '.' => undotted (same ▸ member)
    rcases starts with rfl | ⟨inner, rfl⟩
    · rw [List.takeWhile_eq_self_iff.mpr all, String.ofList_toList]
    · have chars : (top ++ "." ++ inner).toList = top.toList ++ '.' :: inner.toList := by simp
      rw [chars, List.takeWhile_append_of_pos all, List.takeWhile_cons_of_neg (by simp), List.append_nil,
        String.ofList_toList]
  · rintro rfl
    constructor
    case undotted =>
      rw [String.toList_ofList]
      intro member
      simpa using List.mem_takeWhile_imp member
    case starts =>
      have parts := List.takeWhile_append_dropWhile (p := fun c => decide (c ≠ '.')) (l := module.toList)
      have stop := List.head?_dropWhile_not (fun c => decide (c ≠ '.')) module.toList
      -- What follows the first part is nothing, or begins with a dot.
      cases rest : module.toList.dropWhile (· ≠ '.') with
      | nil =>
        left
        rw [rest, List.append_nil] at parts
        rw [parts, String.ofList_toList]
      | cons c inner =>
        right
        rw [rest] at parts stop
        obtain rfl : c = '.' := by simpa using stop
        refine ⟨String.ofList inner, String.toList_injective ?_⟩
        simpa using parts.symm

theorem standsIn_iff {module : String} {group : ImportGroup} : StandsIn module group ↔ importGroup module = group := by
  have known : (∃ top ∈ standardModules, IsTopOf top module) ↔ standardModules.contains (topLevel module) = true := by
    simp [isTopOf_iff]
  unfold importGroup
  constructor
  · intro stands
    cases stands with
    | standard absolute found => rw [if_neg absolute, if_pos (known.mp found)]
    | other absolute missing => rw [if_neg absolute, if_neg fun found => missing (known.mpr found)]
    | relative dotted => rw [if_pos dotted]
  · rintro rfl
    split
    next dotted => exact .relative dotted
    next absolute =>
      split
      next found => exact .standard absolute (known.mpr found)
      next missing => exact .other absolute fun found => missing (known.mp found)

def ImportGroup.rank : ImportGroup → Nat
  | standard => 0
  | other => 1
  | relative => 2

/-- Modules come group by group, and in ascending order within a group. -/
def ModulePrecedes (before after : String) : Prop :=
  ∃ earlier later, StandsIn before earlier ∧ StandsIn after later ∧
    (earlier.rank < later.rank ∨ earlier = later ∧ before < after)

def Imports.grouped (imports : Imports) : List (String × List String) :=
  imports.inGroup .standard ++ imports.inGroup .other ++ imports.inGroup .relative

theorem Imports.IsSorted.precedes {imports : Imports} (sorted : imports.IsSorted) :
    imports.grouped.Pairwise fun before after => ModulePrecedes before.1 after.1 := by
  have stands {group : ImportGroup} {entry : String × List String} (member : entry ∈ imports.inGroup group) :
      StandsIn entry.1 group := standsIn_iff.mpr (of_decide_eq_true (List.mem_filter.mp member).2)
  have within (group : ImportGroup) :
      (imports.inGroup group).Pairwise fun before after => ModulePrecedes before.1 after.1 := by
    have ascending := (List.pairwise_map.mp sorted.modules).filter fun entry => importGroup entry.1 = group
    exact ascending.imp_of_mem fun left right before => ⟨group, group, stands left, stands right, .inr ⟨rfl, before⟩⟩
  -- Between the groups only their order matters, whatever the modules are.
  have across {group later : ImportGroup} (earlier : group.rank < later.rank) :
      ∀ before ∈ imports.inGroup group, ∀ after ∈ imports.inGroup later, ModulePrecedes before.1 after.1 :=
    fun _ left _ right => ⟨group, later, stands left, stands right, .inl earlier⟩
  refine List.pairwise_append.mpr ⟨List.pairwise_append.mpr ⟨within _, within _, across (by decide)⟩, within _, ?_⟩
  intro before left
  rcases List.mem_append.mp left with first | second
  · exact across (by decide) before first
  · exact across (by decide) before second

/-- With keys that are apart, an entry is the only one of its key. -/
theorem filter_key {α : Type} {entries : List (String × α)} (apart : (entries.map Prod.fst).Nodup) {key : String}
    {value : α} (member : (key, value) ∈ entries) : entries.filter (·.1 = key) = [(key, value)] := by
  induction entries with
  | nil => cases member
  | cons first rest ih =>
    rw [List.map_cons, List.nodup_cons] at apart
    rcases List.mem_cons.mp member with rfl | later
    · have others : rest.filter (·.1 = key) = [] := by
        refine List.filter_eq_nil_iff.mpr fun entry here same => apart.1 ?_
        exact List.mem_map.mpr ⟨entry, here, of_decide_eq_true same⟩
      rw [List.filter_cons_of_pos (by simp), others]
    · have differs : first.1 ≠ key := fun same => apart.1 (same ▸ List.mem_map_of_mem later)
      rw [List.filter_cons_of_neg (by simpa using differs), ih apart.2 later]

/-- The statements that calls on a collection lead to: one for each mentioned module, from the place of the module and
with all names wanted from it in ascending order; the modules in order, and all places different. -/
structure WritesImports (calls : List ImportCall) (statements : List Stmt) : Prop where
  one : ∀ module, Mentioned calls module → ∃ place names,
    statements.filter (·.module? = some module) = [.importFrom place.1 place.2 names] ∧ IsPlaceOf module place ∧
      names.Pairwise (· < ·) ∧ ∀ name, name ∈ names ↔ Wanted calls module name
  only : ∀ statement ∈ statements, ∃ module, Mentioned calls module ∧ statement.module? = some module
  ordered : (statements.filterMap Stmt.module?).Pairwise ModulePrecedes
  apart : (statements.map Stmt.place?).Nodup

theorem collect_writesImports (calls : List ImportCall) :
    WritesImports calls (Imports.collect calls).statements := by
  have sorted := isSorted_collect calls
  -- The groups have the entries between them, each in one group only.
  have perm : (Imports.collect calls).grouped.Perm (Imports.collect calls).entries := inGroup_perm _
  have modules : ((Imports.collect calls).grouped.map Prod.fst).Nodup :=
    (perm.map Prod.fst).nodup_iff.mpr sorted.nodup_modules
  have written : (Imports.collect calls).statements = (Imports.collect calls).grouped.map Imports.statement := rfl
  rw [written]
  constructor
  case one =>
    intro module mentioned
    obtain ⟨⟨_, names⟩, member, rfl⟩ := List.mem_map.mp ((mem_modules_collect calls).mpr mentioned)
    obtain ⟨place, here, imported⟩ := statement_place (_, names)
    have alone := filter_key modules (perm.mem_iff.mpr member)
    refine ⟨place, names, ?_, here, sorted.names _ member, fun name => ?_⟩
    · simp only [List.filter_map, Function.comp_def, statement_module?, Option.some.injEq, alone, List.map_cons,
        List.map_nil, imported]
    · exact (sorted.mem_names_iff member).trans (wants_collect calls)
  case only =>
    intro statement member
    obtain ⟨entry, inside, rfl⟩ := List.mem_map.mp member
    have mentioned := (mem_modules_collect calls).mp (List.mem_map_of_mem (perm.mem_iff.mp inside))
    exact ⟨entry.1, mentioned, statement_module? entry⟩
  case ordered =>
    have read : Stmt.module? ∘ Imports.statement = some ∘ Prod.fst := funext statement_module?
    rw [List.filterMap_map, read, List.filterMap_eq_map]
    exact List.pairwise_map.mpr sorted.precedes
  case apart =>
    -- Two statements from one place would have the same module.
    rw [List.map_map]
    apply List.pairwise_map.mpr
    apply (List.pairwise_map.mp modules).imp
    intro first second differs same
    exact differs (module_of_place same)

/-- Imports depend on nothing but what is mentioned. Calls that mention the same modules, and want the same names from
each, lead to the same statements; and a place of import belongs to a single module. -/
theorem collect_anyOrder {calls others : List ImportCall}
    (modules : ∀ module, Mentioned calls module ↔ Mentioned others module)
    (names : ∀ module name, Wanted calls module name ↔ Wanted others module name) :
    (Imports.collect calls).statements = (Imports.collect others).statements ∧
      WritesImports calls (Imports.collect calls).statements ∧
      ∀ first second : String × List String,
        (Imports.statement first).place? = (Imports.statement second).place? → first.1 = second.1 := by
  refine ⟨congrArg Imports.statements ?_, collect_writesImports calls, fun _ _ => module_of_place⟩
  apply (isSorted_collect calls).ext (isSorted_collect others)
  · intro module
    rw [mem_modules_collect, mem_modules_collect]
    exact modules module
  · intro module name
    rw [wants_collect, wants_collect]
    exact names module name

/-- Calls for four modules, one of them without a name and one mentioned twice. -/
def scatteredCalls : List ImportCall :=
  [.one "typing" "Any", .all ⟨[(".apis.Users_v1", ["Users_v1", "Other"]), ("...", [])]⟩, .one "rbxapi" "b",
    .one "typing" "Any"]

/-- The same wishes in another order and other groups. -/
def gatheredCalls : List ImportCall :=
  [.all ⟨[("...", []), (".apis.Users_v1", ["Other"]), ("rbxapi", ["b", "b"])]⟩, .one ".apis.Users_v1" "Users_v1",
    .all ⟨[("typing", ["Any"])]⟩]

theorem scattered_calls_meet :
    (∀ module, Mentioned scatteredCalls module ↔ Mentioned gatheredCalls module) ∧
      (∀ module name, Wanted scatteredCalls module name ↔ Wanted gatheredCalls module name) ∧
      (Imports.collect scatteredCalls).statements = (Imports.collect gatheredCalls).statements ∧
      WritesImports scatteredCalls (Imports.collect scatteredCalls).statements := by
  have modules : ∀ module, Mentioned scatteredCalls module ↔ Mentioned gatheredCalls module := by
    intro module
    simp only [Mentioned, scatteredCalls, gatheredCalls, ImportCall.Mentions, List.mem_cons, List.not_mem_nil, or_false]
    grind
  have names : ∀ module name, Wanted scatteredCalls module name ↔ Wanted gatheredCalls module name := by
    intro module name
    simp only [Wanted, scatteredCalls, gatheredCalls, ImportCall.Wants, Imports.Wants, List.mem_cons, List.not_mem_nil,
      or_false]
    grind
  have met := collect_anyOrder modules names
  exact ⟨modules, names, met.1, met.2.1⟩

end Bindery.Source
