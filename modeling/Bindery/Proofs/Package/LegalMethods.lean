import Bindery.Package.MethodSource
import Bindery.Proofs.Method.Compilation
import Bindery.Proofs.Source.Legality

/-!
# When the functions of methods are legal

The names of a method are identifiers already. What is left are names that stand for constants, type hints
with too many levels, and URLs whose pieces cannot stand in one literal.
-/
namespace Bindery

open Bindery.Source (AllSound Expr Imports Parameter Stmt areLegalAll areShallowAll bracketLimit depthLimit
  isLegalIn_iff_of_depth isLegalName isReadBack isValueName nestingOfNamed_le_iff)

/-! ### Type hints -/

/-- How many lists lie in one another. -/
def TypeHint.levels : TypeHint → Nat
  | .builtin _ | .any => 0
  | .listOf element => element.levels + 1

theorem TypeHint.nesting_toExpr (hint : TypeHint) : hint.toExpr.nesting Expr.isBracketed = hint.levels := by
  induction hint with
  | builtin name => rfl
  | any => rfl
  | listOf element ih =>
    simp only [toExpr, Expr.nesting, Source.nestingOf, ih, levels, Expr.isBracketed]
    simp
    omega

theorem TypeHint.depth_toExpr (hint : TypeHint) : hint.toExpr.depth = hint.levels + 1 := by
  unfold Expr.depth
  induction hint with
  | builtin name => rfl
  | any => rfl
  | listOf element ih =>
    simp only [toExpr, Expr.nesting, Source.nestingOf, ih, levels]
    simp
    omega

theorem builtinTypes_isValueName : ∀ name ∈ Source.builtinTypes, isValueName name = true := by decide

theorem TypeHint.isSound_toExpr {hint : TypeHint} (known : hint.IsKnown) : hint.toExpr.IsSound := by
  induction hint with
  | builtin name => exact Expr.isSound_iff.mpr ⟨builtinTypes_isValueName name known, nofun⟩
  | any => exact Expr.isSound_iff.mpr ⟨by decide, nofun⟩
  | listOf element ih =>
    have element_sound : AllSound (Source.membersOf [element.toExpr]) :=
      Source.allSound_membersOf.mpr (List.forall_mem_singleton.mpr (ih known))
    -- The container is a builtin type, and the element is sound by induction.
    refine Expr.isSound_iff.mpr ⟨rfl, List.forall_mem_cons.mpr ⟨by decide, ?_⟩⟩
    exact List.forall_mem_append.mpr ⟨nofun, element_sound⟩

/-- A parameter is legal if its name is, and its type hint does not have too many levels. -/
theorem Argument.isLegal_parameter (argument : Argument) :
    argument.parameter.isLegal = true ↔ isLegalName argument.name = true ∧
      ∀ hint ∈ TypeHint.ofLabel? argument.type, hint.levels < bracketLimit := by
  have default : (if argument.required then requiredMarker else Expr.none).isLegalIn 1 = true := by
    cases argument.required <;> decide
  simp only [Parameter.isLegal, Argument.parameter, Option.all_some, default, Bool.and_true, Bool.and_eq_true]
  refine and_congr_right fun _ => ?_
  cases typed : TypeHint.ofLabel? argument.type with
  | none => simp
  | some hint =>
    obtain ⟨label, -, read⟩ := Option.bind_eq_some_iff.mp typed
    have sound := TypeHint.isSound_toExpr (TypeHint.ofChars?_known _ hint read)
    -- An optional argument has a union for its hint, which brackets nothing.
    have either : (hint.toExpr.union .none).IsSound :=
      Expr.isSound_iff.mpr ⟨rfl, List.forall_mem_append.mpr ⟨sound, by decide⟩⟩
    simp only [Option.map_some, Option.all_some, Option.mem_some_iff, forall_eq']
    cases argument.required with
    | true =>
      rw [if_pos rfl, Expr.isLegalIn_iff, hint.nesting_toExpr]
      exact ⟨fun both => by omega, fun few => ⟨sound, by omega⟩⟩
    | false =>
      rw [if_neg Bool.false_ne_true, Expr.isLegalIn_iff]
      simp only [Expr.nesting, hint.nesting_toExpr, Expr.isBracketed]
      simp only [Bool.false_eq_true, if_false, Nat.zero_add, Nat.max_zero, Nat.add_zero]
      exact ⟨fun both => by omega, fun few => ⟨either, by omega⟩⟩

/-- A parameter with few levels in its type hint is not too deep. -/
theorem Argument.isShallow_parameter {argument : Argument}
    (few : ∀ hint ∈ TypeHint.ofLabel? argument.type, hint.levels < bracketLimit) :
    argument.parameter.isShallow = true := by
  -- The limit on brackets is below the limit on depth by more than a parameter adds.
  have limits : bracketLimit + 2 ≤ depthLimit := by decide
  have default : (if argument.required then requiredMarker else Expr.none).isShallow = true := by
    cases argument.required <;> decide
  simp only [Parameter.isShallow, Argument.parameter, Option.all_some, default, Bool.and_true]
  cases typed : TypeHint.ofLabel? argument.type with
  | none => rfl
  | some hint =>
    have small := few hint typed
    have depth := hint.depth_toExpr
    simp only [Option.map_some, Option.all_some]
    refine decide_eq_true ?_
    cases argument.required with
    | true =>
      rw [if_pos rfl]
      omega
    | false =>
      rw [if_neg Bool.false_ne_true]
      unfold Expr.depth at depth ⊢
      simp only [Expr.nesting, depth, if_true]
      omega

/-! ### Requests -/

section Requests

variable {names : List String}

/-- Values that are named by legal names are sound. -/
theorem Value.isSound_toExpr {value : Value} (legal : ∀ name ∈ value.names, isValueName name = true) :
    value.toExpr.IsSound := by
  cases value with
  | argument name => exact Expr.isSound_iff.mpr ⟨legal name (List.mem_singleton_self _), nofun⟩
  | group fields =>
    refine Source.isSound_dict.mpr fun entry member => ?_
    obtain ⟨field, among, rfl⟩ := List.mem_map.mp member
    exact Expr.isSound_iff.mpr ⟨legal field.2 (List.mem_map_of_mem among), nofun⟩

theorem Value.depth_toExpr (value : Value) : value.toExpr.depth ≤ 2 := by
  cases value with
  | argument name => exact Nat.le_succ _
  | group fields =>
    have each : Source.nestingOfNamed (fun _ => true) (fields.map fun field => (field.1, Expr.name field.2)) ≤ 1 := by
      refine nestingOfNamed_le_iff.mpr fun entry member => ?_
      obtain ⟨field, -, rfl⟩ := List.mem_map.mp member
      exact Nat.le_refl _
    simp only [Value.toExpr, Expr.depth, Expr.nesting, if_true]
    omega

theorem mem_urlValues {parts : List UrlPart} {value : Value} : value ∈ urlValues parts ↔ .value value ∈ parts := by
  induction parts with
  | nil => simp [urlValues]
  | cons part rest ih => cases part <;> simp [urlValues, ih]

theorem mem_pieces {parts : List UrlPart} {e : Expr} :
    .inr e ∈ parts.map UrlPart.piece ↔ ∃ value ∈ urlValues parts, value.toExpr = e := by
  simp only [List.mem_map, mem_urlValues]
  constructor
  · rintro ⟨part, member, same⟩
    cases part with
    | text literal => cases same
    | value value => exact ⟨value, member, Sum.inr.inj same⟩
  · rintro ⟨value, member, rfl⟩
    exact ⟨.value value, member, rfl⟩

/-- Can a URL be written as a literal? One that interpolates values has to be read back as it is meant. -/
def isWritable (url : List UrlPart) : Bool := (literalUrl? url).isSome || isReadBack (url.map UrlPart.piece)

theorem isSound_urlExpr {url : List UrlPart}
    (legal : ∀ value ∈ urlValues url, ∀ name ∈ value.names, isValueName name = true) :
    (urlExpr url).IsSound ↔ isWritable url = true := by
  unfold urlExpr isWritable
  cases literalUrl? url with
  | some literal => exact ⟨fun _ => rfl, fun _ => Expr.isSound_iff.mpr ⟨rfl, nofun⟩⟩
  | none =>
    -- The values in a URL are sound as they are, so only reading it back is in question.
    have pieces : AllSound (Source.membersOfPieces (url.map UrlPart.piece)) := by
      refine Source.allSound_membersOfPieces.mpr fun e member => ?_
      obtain ⟨value, sent, rfl⟩ := mem_pieces.mp member
      exact Value.isSound_toExpr (legal value sent)
    rw [Expr.isSound_iff, Option.isSome_none, Bool.false_or]
    exact ⟨fun both => both.1, fun read => ⟨read, pieces⟩⟩

theorem depth_urlExpr (url : List UrlPart) : (urlExpr url).depth ≤ 3 := by
  unfold urlExpr
  split
  · exact Nat.le_add_left 1 2
  -- A value has two levels at most: a group, and its names.
  · have each : Source.nestingOfPieces (fun _ => true) (url.map UrlPart.piece) ≤ 2 := by
      refine Source.nestingOfPieces_le_iff.mpr fun e member => ?_
      obtain ⟨value, -, rfl⟩ := mem_pieces.mp member
      exact value.depth_toExpr
    simp only [Expr.depth, Expr.nesting, if_true]
    omega

/-- A keyword argument of a request: it has a legal name, and its value is sound and has few levels. -/
structure IsLegalKeyword (entry : String × Expr) : Prop where
  name : isLegalName entry.1 = true
  sound : entry.2.IsSound
  shallow : entry.2.depth ≤ 3

theorem isLegalKeyword_entries {keyword : String} (named : isLegalName keyword = true)
    {entries : List (String × Value)}
    (legal : ∀ value ∈ entries.map Prod.snd, ∀ name ∈ value.names, isValueName name = true) :
    ∀ entry ∈ entriesKeyword keyword entries, IsLegalKeyword entry := by
  unfold entriesKeyword
  split
  · simp
  · refine List.forall_mem_singleton.mpr ⟨named, ?_, ?_⟩
    · refine Source.isSound_dict.mpr fun entry member => ?_
      obtain ⟨given, among, rfl⟩ := List.mem_map.mp member
      exact Value.isSound_toExpr (legal given.2 (List.mem_map_of_mem among))
    -- The dictionary adds one level to its values.
    · have each : Source.nestingOfNamed (fun _ => true) (entries.map fun entry => (entry.1, entry.2.toExpr)) ≤ 2 := by
        refine nestingOfNamed_le_iff.mpr fun entry member => ?_
        obtain ⟨given, -, rfl⟩ := List.mem_map.mp member
        exact given.2.depth_toExpr
      simp only [Expr.depth, Expr.nesting, if_true]
      omega

theorem isLegalKeyword_value {keyword : String} (named : isLegalName keyword = true) {value : Option Value}
    (legal : ∀ v ∈ value.toList, ∀ name ∈ v.names, isValueName name = true) :
    ∀ entry ∈ valueKeyword keyword value, IsLegalKeyword entry := by
  cases value with
  | none => simp [valueKeyword]
  | some v =>
    have few := v.depth_toExpr
    exact List.forall_mem_singleton.mpr
      ⟨named, Value.isSound_toExpr (legal v (List.mem_singleton_self _)), Nat.le_succ_of_le few⟩

theorem Request.isLegalKeyword {request : Request}
    (legal : ∀ value ∈ request.values, ∀ name ∈ value.names, isValueName name = true) :
    ∀ entry ∈ request.keywords, IsLegalKeyword entry := by
  simp only [Request.values, List.forall_mem_append] at legal
  obtain ⟨⟨⟨⟨⟨-, query⟩, headers⟩, json⟩, form⟩, files⟩ := legal
  simp only [Request.keywords, List.forall_mem_append]
  exact ⟨⟨⟨⟨isLegalKeyword_entries (by decide) query, isLegalKeyword_entries (by decide) headers⟩,
    isLegalKeyword_value (by decide) json⟩, isLegalKeyword_value (by decide) form⟩,
      isLegalKeyword_value (by decide) files⟩

theorem Request.depth_call {request : Request}
    (legal : ∀ value ∈ request.values, ∀ name ∈ value.names, isValueName name = true) :
    request.call.depth ≤ 5 := by
  have url := depth_urlExpr request.url
  have keywords : Source.nestingOfNamed (fun _ => true) request.keywords ≤ 3 :=
    nestingOfNamed_le_iff.mpr fun entry member => (Request.isLegalKeyword legal entry member).shallow
  unfold Expr.depth at url ⊢
  simp only [Request.call, Expr.nesting, Source.nestingOf, Source.selfAttribute, if_true]
  omega

/-- The call of a request is legal if its URL can be written. -/
theorem Request.isLegal_call {request : Request}
    (legal : ∀ value ∈ request.values, ∀ name ∈ value.names, isValueName name = true) :
    request.call.isLegal = true ↔ isWritable request.url = true := by
  have keywords := Request.isLegalKeyword legal
  have depth := Request.depth_call legal
  have inUrl : ∀ value ∈ urlValues request.url, ∀ name ∈ value.names, isValueName name = true := by
    simp only [Request.values, List.forall_mem_append] at legal
    exact legal.1.1.1.1.1
  rw [← isSound_urlExpr inUrl, Expr.isLegal, isLegalIn_iff_of_depth (Nat.le_trans (Nat.add_le_add_left depth 0)
    (by decide))]
  -- All parts of the call but its URL are sound anyway.
  have callee : Expr.IsSound (.attribute (Source.selfAttribute "client") "request") := by decide
  have verb : Expr.IsSound (.text request.verb) := Expr.isSound_iff.mpr ⟨rfl, List.forall_mem_nil _⟩
  rw [Request.call, Source.isSound_await, Source.isSound_call, List.forall_mem_cons, List.forall_mem_singleton]
  constructor
  · rintro ⟨-, -, ⟨-, url⟩, -⟩
    exact url
  · intro url
    exact ⟨fun entry member => (keywords entry member).name, callee, ⟨verb, url⟩,
      fun entry member => (keywords entry member).sound⟩

end Requests

/-! ### Methods -/

/-- What is left to ask of a method whose names are identifiers and apart. -/
structure Method.IsEmittable (method : Method) : Prop where
  /-- No name stands for a constant that is no keyword. -/
  names : "__debug__" ∉ method.name :: method.argumentNames
  /-- The lists of a type hint fit into one another. -/
  types : ∀ argument ∈ method.arguments, ∀ hint ∈ TypeHint.ofLabel? argument.type, hint.levels < bracketLimit
  /-- The URL can be written as a literal. -/
  url : isWritable method.request.url = true

section Scoped

variable {method : Method} (sound : method.IsScoped)
  (plain : ∀ name ∈ method.name :: method.argumentNames, IsPlain name)
include sound plain

theorem Method.IsScoped.isLegalName_iff {name : String} (own : name ∈ method.name :: method.argumentNames) :
    isLegalName name = true ↔ name ≠ "__debug__" :=
  (Source.isLegalName_iff (plain name own)).trans (and_iff_right (sound.noKeyword name own))

theorem Method.IsScoped.isValueName {name : String} (own : name ∈ method.argumentNames) : isValueName name = true :=
  Source.isValueName_of_isPlain (plain name (List.mem_cons_of_mem _ own))
    (sound.noKeyword name (List.mem_cons_of_mem _ own))

theorem Method.IsScoped.areLegalParameters_iff :
    Source.areLegalParameters ([{ name := "self" }] ++ method.arguments.map Argument.parameter) = true ↔
      "__debug__" ∉ method.argumentNames ∧ ∀ argument ∈ method.arguments,
        ∀ hint ∈ TypeHint.ofLabel? argument.type, hint.levels < bracketLimit := by
  -- Names of parameters are compared without blanks around them, of which they have none.
  have bare : (([{ name := "self" }] ++ method.arguments.map Argument.parameter : List Parameter).map
      fun p => Source.bareName p.name) = "self" :: method.argumentNames := by
    have own : ∀ name ∈ "self" :: method.argumentNames, Source.bareName name = name :=
      List.forall_mem_cons.mpr ⟨by decide, fun name member =>
        Source.bareName_of_isPlain (plain name (List.mem_cons_of_mem _ member))⟩
    rw [← Function.comp_def Source.bareName, ← List.map_map, List.singleton_append, method.parameterNames_eq,
      List.map_congr_left own, List.map_id']
  have self_legal : Parameter.isLegal { name := "self" } = true := by decide
  rw [Source.areLegalParameters, bare, Source.areDistinct_iff.mpr sound.parameters_distinct, Bool.and_true,
    List.all_append, List.all_cons, self_legal, Bool.true_and, List.all_nil, Bool.true_and, List.all_map,
    List.all_eq_true]
  simp only [Function.comp, Argument.isLegal_parameter]
  constructor
  · intro each
    refine ⟨fun reserved => ?_, fun argument member => (each argument member).2⟩
    obtain ⟨argument, member, named⟩ := List.mem_map.mp reserved
    have own : argument.name ∈ method.name :: method.argumentNames :=
      List.mem_cons_of_mem _ (List.mem_map_of_mem member)
    exact (sound.isLegalName_iff plain own).mp (each argument member).1 named
  · rintro ⟨free, types⟩ argument member
    have own : argument.name ∈ method.argumentNames := List.mem_map_of_mem member
    refine ⟨(sound.isLegalName_iff plain (List.mem_cons_of_mem _ own)).mpr fun same => ?_, types argument member⟩
    exact free (same ▸ own)

theorem Method.IsScoped.isLegal_guard {argument : Argument} (own : argument ∈ method.arguments) :
    (argument.guard method.name).isLegal = true := by
  have named := sound.isValueName plain (List.mem_map_of_mem own)
  have test : (Expr.same (.name argument.name) requiredMarker).isLegal = true := by
    refine (isLegalIn_iff_of_depth (by decide : 2 ≤ bracketLimit)).mpr (Expr.isSound_iff.mpr ⟨rfl, ?_⟩)
    exact List.forall_mem_cons.mpr ⟨named, List.forall_mem_singleton.mpr (by decide)⟩
  have call : (Expr.call (.name "required") [.text argument.name, .text method.name] []).isLegal = true := by
    refine (isLegalIn_iff_of_depth (by decide : 2 ≤ bracketLimit)).mpr
      (Source.isSound_call.mpr ⟨by simp, by decide, ?_, by simp⟩)
    exact List.forall_mem_cons.mpr ⟨Expr.isSound_iff.mpr ⟨rfl, nofun⟩,
      List.forall_mem_singleton.mpr (Expr.isSound_iff.mpr ⟨rfl, nofun⟩)⟩
  simp [Argument.guard, Stmt.isLegal, test, areLegalAll, call]

theorem Method.IsScoped.request_names :
    ∀ value ∈ method.request.values, ∀ name ∈ value.names, Source.isValueName name = true :=
  fun value sent name carried => sound.isValueName plain (sound.known value sent name carried)

/-- The function of a method is legal just if nothing is left to ask. -/
theorem Method.IsScoped.isLegal_function : method.function.isLegal = true ↔ method.IsEmittable := by
  have guards : ∀ argument ∈ method.requiredArguments, (argument.guard method.name).isLegal = true :=
    fun argument member => sound.isLegal_guard plain (List.mem_of_mem_filter member)
  have body : areLegalAll (method.requiredArguments.map (·.guard method.name) ++ [.return method.request.call]) =
      true ↔ isWritable method.request.url = true := by
    rw [← Request.isLegal_call (sound.request_names plain), Source.areLegalAll_iff, List.forall_mem_append,
      List.forall_mem_map, List.forall_mem_singleton, Stmt.isLegal]
    exact and_iff_right guards
  have result : (Expr.name "Any").isLegal = true := by decide
  have named := sound.isLegalName_iff plain (List.mem_cons_self ..)
  simp only [Method.function, Stmt.isLegal, result, Bool.and_true, Bool.and_eq_true, body, named,
    sound.areLegalParameters_iff plain]
  constructor
  · rintro ⟨⟨apart, free, types⟩, url⟩
    exact ⟨List.not_mem_cons_of_ne_of_not_mem (Ne.symm apart) free, types, url⟩
  · rintro ⟨names, types, url⟩
    exact ⟨⟨fun same => names (same ▸ List.mem_cons_self ..), fun own => names (List.mem_cons_of_mem _ own), types⟩,
      url⟩

theorem Method.IsScoped.isShallow_function (emittable : method.IsEmittable) : method.function.isShallow = true := by
  have call : method.request.call.isShallow = true :=
    decide_eq_true (Nat.le_trans (Request.depth_call (sound.request_names plain)) (by decide))
  have parameters : ([{ name := "self" }] ++ method.arguments.map Argument.parameter : List Parameter).all
      Parameter.isShallow = true := by
    refine List.all_eq_true.mpr (List.forall_mem_cons.mpr ⟨rfl, fun parameter member => ?_⟩)
    obtain ⟨argument, own, rfl⟩ := List.mem_map.mp member
    exact Argument.isShallow_parameter (emittable.types argument own)
  have body : areShallowAll (method.requiredArguments.map (·.guard method.name) ++
      [.return method.request.call]) = true := by
    refine Source.areShallowAll_iff.mpr (List.forall_mem_append.mpr
      ⟨fun statement member => ?_, List.forall_mem_singleton.mpr call⟩)
    obtain ⟨argument, -, rfl⟩ := List.mem_map.mp member
    rfl
  have result : (Expr.name "Any").isShallow = true := rfl
  rw [Method.function, Stmt.isShallow, parameters, body, result]
  rfl

end Scoped

end Bindery
