import Bindery.Data.Datum
import Bindery.Proofs.Data.Members
import Bindery.Source.Basic
import Mathlib.Data.List.Induction
import Mathlib.Data.List.Nodup

/-!
# Classes

What is found on an instance of a class. The body of a class is run from top to bottom, so a function
takes the place of an earlier one of the same name, and the attributes that the constructor gives to an
instance hide the functions of its class.
-/
namespace Bindery.Source

open Bindery.Data (insertMember)

/-! ### Names in a class -/

/-- Is a name private to the class it stands in? Such a name starts with two underscores and does not end
in two. -/
def isPrivate (name : String) : Bool :=
  ['_', '_'].isPrefixOf name.toList && !(['_', '_'].isSuffixOf name.toList)

/-- The name under which a class keeps what its body calls `name`. A private one is marked with the class. -/
def keptName (className name : String) : String :=
  let owner := className.toList.dropWhile (· = '_')
  if isPrivate name ∧ owner ≠ [] then String.ofList ('_' :: owner ++ name.toList) else name

theorem keptName_eq_self_iff {className name : String} (owned : className.toList.dropWhile (· = '_') ≠ []) :
    keptName className name = name ↔ isPrivate name = false := by
  unfold keptName
  by_cases hidden : isPrivate name = true
  · rw [if_pos ⟨hidden, owned⟩]
    constructor
    · intro same
      -- A marked name is longer than the name itself.
      have lengths := congrArg (fun s => s.toList.length) same
      simp only [String.toList_ofList, List.cons_append, List.length_cons, List.length_append] at lengths
      omega
    · exact fun shown => absurd hidden (by simp [shown])
  · rw [if_neg fun both => hidden both.1]
    simpa using hidden

/-- A name that is kept under another one gets one underscore in front, and then the class. -/
theorem keptName_cases (className name : String) :
    keptName className name = name ∨
      ∃ c rest, (keptName className name).toList = '_' :: c :: rest ∧ c ≠ '_' := by
  simp only [keptName]
  split
  next marked =>
    obtain ⟨c, rest, owner⟩ := List.exists_cons_of_ne_nil marked.2
    -- The underscores at the start of the class are dropped, so its first character is none.
    have first := List.head?_dropWhile_not (fun d => decide (d = '_')) className.toList
    refine .inr ⟨c, rest ++ name.toList, ?_, ?_⟩
    · rw [String.toList_ofList, owner]
      rfl
    · simpa [owner] using first
  · exact .inl rfl

/-- A name that is no private one, and not like a marked one, is kept for itself only. -/
theorem keptName_eq_iff {className name other : String} (shown : isPrivate other = false)
    (unmarked : ∀ c rest, other.toList = '_' :: c :: rest → c = '_') :
    keptName className name = other ↔ name = other := by
  constructor
  · intro same
    -- A name that another one is marked to has a single underscore in front, which this one has not.
    rcases keptName_cases className name with own | ⟨c, rest, chars, second⟩
    · exact own ▸ same
    · exact absurd (unmarked c rest (same ▸ chars)) second
  · rintro rfl
    rw [keptName, if_neg fun both => by simp [shown] at both]

/-! ### The functions of a class -/

def Stmt.defines? : Stmt → Option String
  | .function _ name .. => some name
  | _ => Option.none

/-- The name of the function at a place of a class body. -/
def definedAt (members : List Stmt) (place : Nat) : Option String := members[place]?.bind Stmt.defines?

/-- The names that the functions of a class are kept under, in the order of its body. -/
def keptNames (className : String) (members : List Stmt) : List String :=
  (members.filterMap Stmt.defines?).map (keptName className)

/-- Run the body of a class: the places of the functions that are left, by the names they are kept under. -/
def keptFunctions (className : String) (members : List Stmt) : List (String × Nat) :=
  members.zipIdx.foldl (fun kept entry =>
    match entry.1.defines? with
    | some name => insertMember kept (keptName className name) entry.2
    | none => kept) []

/-- The attributes that the constructor gives to an instance. -/
def instanceAttributes (className : String) (members : List Stmt) : List String :=
  match ((keptFunctions className members).lookup "__init__").bind fun place => members[place]? with
  | some (.function _ _ (own :: _) _ _ _ body) => body.filterMap fun
    | .assign (.attribute (.name base) member) _ =>
      if base = own.name then some (keptName className member) else Option.none
    | _ => Option.none
  | _ => []

/-- The place of the function that an instance answers a name with. -/
def reachedFunction? (className : String) (members : List Stmt) (name : String) : Option Nat :=
  if name ∈ instanceAttributes className members then none else (keptFunctions className members).lookup name

/-- No function of a class is replaced by a later one, and none is hidden by an attribute. -/
def LosesNothing (className : String) (members : List Stmt) : Prop :=
  ∀ place name, definedAt members place = some name →
    reachedFunction? className members (keptName className name) = some place

/-- Every function of a class is what an instance answers its name with. -/
def ReachesAll (className : String) (members : List Stmt) : Prop :=
  ∀ place name, definedAt members place = some name → reachedFunction? className members name = some place

section Classes

variable {className : String} {members : List Stmt}

theorem mem_defined_iff {name : String} :
    name ∈ members.filterMap Stmt.defines? ↔ ∃ place, definedAt members place = some name := by
  rw [List.mem_filterMap]
  constructor
  · rintro ⟨statement, inside, defined⟩
    obtain ⟨place, here⟩ := List.mem_iff_getElem?.mp inside
    exact ⟨place, Option.bind_eq_some_iff.mpr ⟨statement, here, defined⟩⟩
  · rintro ⟨place, here⟩
    obtain ⟨statement, inside, defined⟩ := Option.bind_eq_some_iff.mp here
    exact ⟨statement, List.mem_of_getElem? inside, defined⟩

/-- The last function that is kept under a name is left. -/
theorem lookup_keptFunctions {key : String} {place : Nat} :
    (keptFunctions className members).lookup key = some place ↔
      (definedAt members place).map (keptName className) = some key ∧
        ∀ later, place < later → (definedAt members later).map (keptName className) ≠ some key := by
  induction members using List.reverseRecOn with
  | nil => simp [keptFunctions, definedAt]
  | append_singleton members last ih =>
    -- The last member is run last, and takes the place of an earlier function of the same kept name.
    have step : (keptFunctions className (members ++ [last])).lookup key =
        if last.defines?.map (keptName className) = some key then some members.length
        else (keptFunctions className members).lookup key := by
      simp only [keptFunctions, List.zipIdx_append, List.foldl_append, List.zipIdx_cons, List.zipIdx_nil,
        List.foldl_cons, List.foldl_nil, Nat.zero_add]
      cases last.defines? with
      | none => simp
      | some name => simp [Data.lookup_insertMember, eq_comm]
    have before : ∀ i, i < members.length → definedAt (members ++ [last]) i = definedAt members i := by
      intro i bound
      rw [definedAt, List.getElem?_append_left bound, definedAt]
    have here : definedAt (members ++ [last]) members.length = last.defines? := by simp [definedAt]
    have beyond : ∀ i, members.length < i → definedAt (members ++ [last]) i = Option.none := by
      intro i bound
      rw [definedAt, List.getElem?_eq_none (by simp; omega)]
      rfl
    have outside : ∀ i, members.length ≤ i → definedAt members i = Option.none := by
      intro i bound
      rw [definedAt, List.getElem?_eq_none bound]
      rfl
    rw [step]
    by_cases same : last.defines?.map (keptName className) = some key
    · rw [if_pos same]
      -- The last member is kept under the key, so its place is the only one without a later one.
      constructor
      · rintro ⟨⟩
        exact ⟨here ▸ same, fun later bound => by simp [beyond later bound]⟩
      · rintro ⟨found, final⟩
        rcases Nat.lt_trichotomy place members.length with bound | rfl | bound
        · exact absurd (here ▸ same) (final _ bound)
        · rfl
        · simp [beyond place bound] at found
    -- The last member is kept under another name, if at all, so nothing changes for the key.
    · have agree : ∀ i, (definedAt (members ++ [last]) i).map (keptName className) = some key ↔
          (definedAt members i).map (keptName className) = some key := by
        intro i
        rcases Nat.lt_trichotomy i members.length with bound | rfl | bound
        · rw [before i bound]
        · simp [here, same, outside _ (Nat.le_refl _)]
        · simp [beyond i bound, outside i (Nat.le_of_lt bound)]
      simp only [if_neg same, ih, ne_eq, agree]

/-- All functions of a class are left if and only if they are kept under different names. -/
theorem lookup_all_iff :
    (∀ place name, definedAt members place = some name →
        (keptFunctions className members).lookup (keptName className name) = some place) ↔
      (keptNames className members).Nodup := by
  rw [keptNames, List.Nodup, List.pairwise_map, List.pairwise_filterMap, List.pairwise_iff_getElem]
  constructor
  · intro left i j here there before name defined name' defined' same
    -- Two places that are kept under one name would both be what is left of it.
    have first := left i name (by rw [definedAt, List.getElem?_eq_getElem here]; exact defined)
    have second := left j name' (by rw [definedAt, List.getElem?_eq_getElem there]; exact defined')
    rw [same, second] at first
    cases first
    omega
  · intro apart place name defined
    -- Kept names are different in order, so no later function takes the place of this one.
    refine lookup_keptFunctions.mpr ⟨by rw [defined]; rfl, fun later after found => ?_⟩
    obtain ⟨name', defined', same⟩ := Option.map_eq_some_iff.mp found
    obtain ⟨first, at_place, here⟩ := Option.bind_eq_some_iff.mp defined
    obtain ⟨second, at_later, there⟩ := Option.bind_eq_some_iff.mp defined'
    obtain ⟨bound, rfl⟩ := List.getElem?_eq_some_iff.mp at_place
    obtain ⟨bound', rfl⟩ := List.getElem?_eq_some_iff.mp at_later
    exact apart place later bound bound' after name here name' there same.symm

theorem losesNothing_iff :
    LosesNothing className members ↔ (keptNames className members).Nodup ∧
      ∀ name ∈ keptNames className members, name ∉ instanceAttributes className members := by
  rw [← lookup_all_iff]
  constructor
  · intro loses
    refine ⟨fun place name defined => ?_, fun name member hidden => ?_⟩
    -- What is reached is not hidden, and so it is what is left of the class.
    · have reached := loses place name defined
      unfold reachedFunction? at reached
      split at reached
      · cases reached
      · exact reached
    · obtain ⟨plain, among, rfl⟩ := List.mem_map.mp member
      obtain ⟨place, defined⟩ := mem_defined_iff.mp among
      have reached := loses place plain defined
      rw [reachedFunction?, if_pos hidden] at reached
      cases reached
  · rintro ⟨left, shown⟩ place name defined
    have member : keptName className name ∈ keptNames className members :=
      List.mem_map_of_mem (mem_defined_iff.mpr ⟨place, defined⟩)
    rw [reachedFunction?, if_neg (shown _ member)]
    exact left place name defined

/-- Every function answers to its own name if none is lost and none is kept under another name. -/
theorem reachesAll_iff :
    ReachesAll className members ↔ LosesNothing className members ∧
      ∀ name ∈ members.filterMap Stmt.defines?, keptName className name = name := by
  constructor
  · intro reaches
    -- A function that is reached under its own name is kept under it.
    have own : ∀ place name, definedAt members place = some name → keptName className name = name := by
      intro place name defined
      have reached := reaches place name defined
      unfold reachedFunction? at reached
      split at reached
      · cases reached
      · have found := (lookup_keptFunctions.mp reached).1
        rw [defined] at found
        exact Option.some.inj found
    refine ⟨fun place name defined => ?_, fun name member => ?_⟩
    · rw [own place name defined]
      exact reaches place name defined
    · obtain ⟨place, defined⟩ := mem_defined_iff.mp member
      exact own place name defined
  · rintro ⟨loses, own⟩ place name defined
    have reached := loses place name defined
    rwa [own name (mem_defined_iff.mpr ⟨place, defined⟩)] at reached

end Classes

end Bindery.Source
