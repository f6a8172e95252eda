import Bindery.Proofs.Source.Evaluation
import Bindery.Source.Imports
import Mathlib.Data.List.Nodup

/-!
# What imported names stand for

A name that a module wants stands for what it is offered as, whatever else is wanted beside it.
-/
namespace Bindery.Source

/-! ### Wanted names -/

/-- If each step adds what its item has, a fold adds what some item has. -/
theorem foldl_adds {α β : Type} {f : β → α → β} {P : β → Prop} {Q : α → Prop}
    (step : ∀ found item, P (f found item) ↔ Q item ∨ P found) (start : β) (items : List α) :
    P (items.foldl f start) ↔ (∃ item ∈ items, Q item) ∨ P start := by
  induction items generalizing start with
  | nil => simp
  | cons item rest ih =>
    rw [List.foldl_cons, ih, step, List.exists_mem_cons_iff]
    exact or_left_comm.trans or_assoc.symm

/-- Is a name wanted from a module? -/
def Imports.Wants (imports : Imports) (module name : String) : Prop :=
  ∃ names, (module, names) ∈ imports.entries ∧ name ∈ names

theorem mem_insertName {name other : String} {names : List String} :
    other ∈ insertName name names ↔ other = name ∨ other ∈ names := by
  induction names with
  | nil => simp [insertName]
  | cons first rest ih =>
    unfold insertName
    split
    · exact List.mem_cons
    split
    next same => simp [same]
    · rw [List.mem_cons, ih, List.mem_cons]
      exact or_left_comm

theorem mem_foldl_insertName {names found : List String} {other : String} :
    other ∈ names.foldl (fun found name => insertName name found) found ↔
      other ∈ names ∨ other ∈ found := by
  rw [foldl_adds (P := fun found => other ∈ found) (Q := fun name => other = name) fun _ _ => mem_insertName]
  simp

/-- Adding names to a collection adds just those names. -/
theorem Imports.wants_add {imports : Imports} {module : String} {names : List String}
    {other name : String} :
    (imports.add module names).Wants other name ↔
      (other = module ∧ name ∈ names) ∨ imports.Wants other name := by
  obtain ⟨entries⟩ := imports
  unfold Imports.Wants Imports.add
  induction entries with
  | nil => simp [addTo, and_assoc, mem_foldl_insertName]
  | cons entry rest ih =>
    obtain ⟨m, found⟩ := entry
    simp only at ih ⊢
    unfold addTo
    -- A module before all others, the same module, or one that goes into the rest.
    split
    · simp [or_and_right, exists_or, mem_foldl_insertName, and_assoc]
    split
    next same =>
      subst same
      simp only [List.mem_cons, Prod.mk.injEq, or_and_right, exists_or, mem_foldl_insertName, and_assoc,
        exists_and_left, exists_eq_left, and_or_left, or_assoc]
    · simp only [List.mem_cons, or_and_right, exists_or, ih]
      exact or_left_comm

theorem Imports.wants_merge {first second : Imports} {module name : String} :
    (first.merge second).Wants module name ↔ first.Wants module name ∨ second.Wants module name := by
  have entries : (first.merge second).Wants module name ↔
      (∃ entry ∈ second.entries, module = entry.1 ∧ name ∈ entry.2) ∨ first.Wants module name :=
    foldl_adds (P := fun imports : Imports => imports.Wants module name)
      (Q := fun entry : String × List String => module = entry.1 ∧ name ∈ entry.2) (fun _ _ => Imports.wants_add) _ _
  rw [entries, or_comm]
  refine or_congr_right ⟨?_, ?_⟩
  · rintro ⟨entry, member, rfl, wanted⟩
    exact ⟨entry.2, member, wanted⟩
  · rintro ⟨names, member, wanted⟩
    exact ⟨(module, names), member, rfl, wanted⟩

theorem Imports.wants_foldl_merge {α : Type} {start : Imports} {of : α → Imports} {items : List α}
    {module name : String} :
    (items.foldl (fun found item => found.merge (of item)) start).Wants module name ↔
      start.Wants module name ∨ ∃ item ∈ items, (of item).Wants module name := by
  rw [or_comm]
  exact foldl_adds (P := fun imports : Imports => imports.Wants module name)
    (Q := fun item => (of item).Wants module name) (fun _ _ => Imports.wants_merge.trans or_comm) start items

/-! ### Modules -/

variable {V : Type}

/-- Types that are known in every module. -/
def builtinTypes : List String := ["str", "int", "float", "bool", "dict", "list"]

def offered? (module name : String) : Option (Object V) :=
  match module, name with
  | "typing", "Any" => some .hint
  | "rbxapi.runtime", "REQUIRED" => some .marker
  | "rbxapi.runtime", "required" => some .guard
  | "rbxapi.client", "AuthenticatedClient" => some (.builtin "AuthenticatedClient")
  | _, _ => Option.none

def Imports.found (imports : Imports) : Scope V :=
  imports.entries.flatMap fun entry =>
    entry.2.filterMap fun name => (offered? entry.1 name).map fun value => (name, value)

/-- What the names of a module with some imports stand for. -/
def Imports.scope (imports : Imports) : Scope V :=
  imports.found ++ builtinTypes.map fun name => (name, .builtin name)

theorem Imports.mem_found {imports : Imports} {name : String} {value : Object V} :
    (name, value) ∈ imports.found ↔
      ∃ module, imports.Wants module name ∧ offered? module name = some value := by
  simp only [Imports.found, List.mem_flatMap, List.mem_filterMap, Option.map_eq_some_iff, Prod.mk.injEq]
  constructor
  · rintro ⟨⟨module, names⟩, member, other, wanted, found, offered, rfl, rfl⟩
    exact ⟨module, ⟨names, member, wanted⟩, offered⟩
  · rintro ⟨module, ⟨names, member, wanted⟩, offered⟩
    exact ⟨(module, names), member, name, wanted, value, offered, rfl, rfl⟩

/-- What is offered depends on the name alone. -/
theorem offered?_cases {module name : String} {value : Object V}
    (offered : offered? module name = some value) :
    name = "Any" ∧ value = .hint ∨ name = "REQUIRED" ∧ value = .marker ∨
      name = "required" ∧ value = .guard ∨
      name = "AuthenticatedClient" ∧ value = .builtin "AuthenticatedClient" := by
  unfold offered? at offered
  split at offered <;> cases offered <;> simp

theorem offered?_unique {first second name : String} {value other : Object V}
    (here : offered? first name = some value) (there : offered? second name = some other) :
    other = value := by
  rcases offered?_cases here with ⟨rfl, rfl⟩ | ⟨rfl, rfl⟩ | ⟨rfl, rfl⟩ | ⟨rfl, rfl⟩ <;>
    simpa using offered?_cases there

theorem offered?_not_builtin {module name : String} {value : Object V}
    (offered : offered? module name = some value) : name ∉ builtinTypes := by
  rcases offered?_cases offered with ⟨rfl, -⟩ | ⟨rfl, -⟩ | ⟨rfl, -⟩ | ⟨rfl, -⟩ <;> decide

theorem mem_of_lookup {α : Type} {entries : List (String × α)} {name : String} {value : α}
    (found : entries.lookup name = some value) : (name, value) ∈ entries := by
  obtain ⟨before, after, rfl, -⟩ := List.lookup_eq_some_iff.mp found
  simp

theorem lookup_of_unique {α : Type} {entries : List (String × α)} {name : String} {value : α}
    (member : (name, value) ∈ entries) (only : ∀ other, (name, other) ∈ entries → other = value) :
    entries.lookup name = some value := by
  induction entries with
  | nil => cases member
  | cons entry rest ih =>
    obtain ⟨key, first⟩ := entry
    rw [List.lookup_cons]
    -- The first entry of the key decides, and there is only one value it can have.
    by_cases same : name = key
    · subst same
      simp [only first (List.mem_cons_self ..)]
    · have later : (name, value) ∈ rest := by simpa [same] using member
      rw [beq_eq_false_iff_ne.mpr same]
      exact ih later fun other among => only other (List.mem_cons_of_mem _ among)

/-- Where keys are apart, an entry is what its key stands for. -/
theorem lookup_eq_some_iff {α : Type} {entries : List (String × α)} {name : String} {value : α}
    (distinct : (entries.map Prod.fst).Nodup) : entries.lookup name = some value ↔ (name, value) ∈ entries := by
  refine ⟨mem_of_lookup, fun member => lookup_of_unique member fun other there => ?_⟩
  exact (Prod.mk.inj (List.inj_on_of_nodup_map distinct there member rfl)).2

private theorem lookup_eq_none {α : Type} {entries : List (String × α)} {name : String}
    (absent : ∀ value, (name, value) ∉ entries) : entries.lookup name = none := by
  rw [List.lookup_eq_none_iff]
  rintro ⟨key, value⟩ member
  have other : name ≠ key := fun same => absent value (same ▸ member)
  simpa using other

theorem Imports.lookup_wanted {imports : Imports} {module name : String} {value : Object V}
    (wanted : imports.Wants module name) (offered : offered? module name = some value) :
    imports.scope.lookup name = some value := by
  -- Another module may offer the same name, but then it offers the same value.
  have found : imports.found.lookup name = some value := by
    refine lookup_of_unique (mem_found.mpr ⟨module, wanted, offered⟩) fun other member => ?_
    obtain ⟨from_, -, there⟩ := mem_found.mp member
    exact offered?_unique offered there
  rw [Imports.scope, List.lookup_append, found, Option.some_or]

theorem Imports.lookup_builtin (imports : Imports) {name : String} (known : name ∈ builtinTypes) :
    imports.scope.lookup name = some (.builtin name : Object V) := by
  -- Nothing that is offered is called like a builtin type, so the lookup goes past the imports.
  have absent : (imports.found : Scope V).lookup name = none := by
    refine lookup_eq_none fun value member => ?_
    obtain ⟨module, -, offered⟩ := mem_found.mp member
    exact offered?_not_builtin offered known
  rw [Imports.scope, List.lookup_append, absent, Option.none_or]
  refine lookup_of_unique (List.mem_map_of_mem known) fun other member => ?_
  obtain ⟨_, -, same⟩ := List.mem_map.mp member
  cases same
  rfl

end Bindery.Source
