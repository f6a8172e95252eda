import Bindery.Proofs.Method.Calls

/-!
# What the source of a method does

The source of a method is executed against the description of its calls. Every name in it stands for
what it is meant to: an argument for its value, all else for what is imported.
-/
namespace Bindery

open Bindery.Source (Execution Expr Fault Function Host Imports Object Scope Sent Stmt evaluate
  evaluateAll evaluateNamed evaluatePieces execute executeAll)

variable {V E : Type}

/-! ### Type hints -/

def TypeHint.object : TypeHint → Object V
  | .builtin name => .builtin name
  | .any | .listOf _ => .hint

/-- A type hint that mentions only builtin types that there are. -/
def TypeHint.IsKnown : TypeHint → Prop
  | .builtin name => name ∈ Source.builtinTypes
  | .any => True
  | .listOf element => element.IsKnown

theorem TypeHint.primitive?_known {label : List Char} {name : String}
    (found : TypeHint.primitive? label = some name) : name ∈ Source.builtinTypes := by
  unfold TypeHint.primitive? at found
  split at found <;> cases found <;> decide

theorem TypeHint.ofChars?_known (label : List Char) :
    ∀ hint, TypeHint.ofChars? label = some hint → hint.IsKnown := by
  fun_induction TypeHint.ofChars? label with
  | case1 label element _ ih =>
    rintro _ ⟨⟩
    -- The element is a list of a known hint, or of anything.
    cases inner : TypeHint.ofChars? element with
    | none => trivial
    | some hint => exact ih hint inner
  | case2 =>
    rintro _ ⟨⟩
    trivial
  | case3 label =>
    intro hint found
    obtain ⟨name, primitive, rfl⟩ := Option.map_eq_some_iff.mp found
    exact TypeHint.primitive?_known primitive

theorem TypeHint.evaluate_toExpr (host : Host V E) {scope : Scope V}
    (any : scope.read? "Any" = some .hint)
    (builtin : ∀ name ∈ Source.builtinTypes, scope.read? name = some (.builtin name))
    {hint : TypeHint} (known : hint.IsKnown) :
    evaluate host scope hint.toExpr = pure hint.object := by
  induction hint with
  | builtin name => exact Source.evaluate_name host scope (builtin name known)
  | any => exact Source.evaluate_name host scope any
  | listOf element ih =>
    -- The subscript of a list is evaluated to a hint whatever its element.
    have container := builtin "list" (by decide)
    simp only [TypeHint.toExpr, evaluate, evaluateAll, container, ih known, pure_bind]
    rfl

/-! ### What names stand for -/

theorem Method.imports_wants_any (method : Method) : method.imports.Wants "typing" "Any" := by
  have hinted : (method.arguments.foldl (fun (found : Imports) argument => found.merge argument.imports)
      (Imports.single "typing" ["Any"])).Wants "typing" "Any" :=
    Imports.wants_foldl_merge.mpr (.inl (Imports.wants_add.mpr (.inl ⟨rfl, List.mem_singleton_self _⟩)))
  unfold Method.imports
  split
  · exact hinted
  · exact Imports.wants_add.mpr (.inr hinted)

theorem Method.imports_wants_guard {method : Method} (some : method.requiredArguments ≠ []) {name : String}
    (member : name ∈ [requiredName, "required"]) : method.imports.Wants "rbxapi.runtime" name := by
  unfold Method.imports
  rw [if_neg (by simpa using some)]
  exact Imports.wants_add.mpr (.inl ⟨rfl, member⟩)

/-- The names of constants are keywords, all but one. -/
theorem constant?_eq_none {name : String} (noKeyword : name ∉ Name.keywords) (bindable : name ≠ "__debug__") :
    (Source.constant? name : Option (Object V)) = none := by
  unfold Source.constant?
  split
  case h_4 => exact absurd rfl bindable
  case h_5 => rfl
  all_goals exact absurd (by decide) noKeyword

theorem read?_of_lookup {scope : Scope V} {name : String} {value : Object V}
    (free : (Source.constant? name : Option (Object V)) = none)
    (found : scope.lookup name = some value) : scope.read? name = some value := by
  rw [Scope.read?, free, Option.none_or, found]

section Scope

variable {method : Method} (sound : method.IsScoped) (bindable : "__debug__" ∉ method.argumentNames)
  (given : List (String × Object V))
include sound

include bindable in
theorem Method.IsScoped.read?_argument {argument : Argument} (member : argument ∈ method.arguments) :
    (method.bodyScope given).read? argument.name = some (argument.bound given) := by
  have named : argument.name ∈ method.argumentNames := List.mem_map_of_mem member
  have noSelf : argument.name ≠ "self" := fun same => sound.apart _ named (same ▸ by decide)
  -- Arguments have names of their own, so the first entry found is that of the argument.
  have bound : (method.arguments.map fun argument => (argument.name, argument.bound given)).lookup
      argument.name = some (argument.bound given) := by
    refine Source.lookup_of_unique (List.mem_map_of_mem member) fun other among => ?_
    obtain ⟨twin, here, same⟩ := List.mem_map.mp among
    cases List.inj_on_of_nodup_map sound.distinct here member (congrArg Prod.fst same)
    exact (congrArg Prod.snd same).symm
  -- The instance comes first in the scope, and the imports after the arguments.
  refine read?_of_lookup ?_ ?_
  · exact constant?_eq_none (sound.noKeyword _ (List.mem_cons_of_mem _ named))
      fun same => bindable (same ▸ named)
  · rw [Method.bodyScope, List.lookup_cons, beq_eq_false_iff_ne.mpr noSelf]
    simp only [List.lookup_append, bound, Option.some_or]

/-- A bound name other than that of the instance is read as in the module. -/
theorem Method.IsScoped.read?_bound {name : String} (member : name ∈ [requiredName, "required"])
    {value : Object V} (found : method.imports.scope.lookup name = some value) :
    (method.bodyScope given).read? name = some value := by
  have reserved : name ∈ boundNames ∧ name ≠ "self" ∧ (Source.constant? name : Option (Object V)) = none := by
    rcases List.mem_pair.mp member with rfl | rfl
    · exact ⟨by decide, by decide, rfl⟩
    · exact ⟨by decide, by decide, rfl⟩
  -- No argument has such a name, so the lookup goes on to the imports.
  have absent : (method.arguments.map fun argument => (argument.name, argument.bound given)).lookup
      name = none := by
    rw [List.lookup_eq_none_iff]
    intro entry among
    obtain ⟨argument, here, rfl⟩ := List.mem_map.mp among
    have other : name ≠ argument.name := fun same =>
      sound.apart _ (List.mem_map_of_mem here) (same ▸ reserved.1)
    simpa using other
  refine read?_of_lookup reserved.2.2 ?_
  rw [Method.bodyScope, List.lookup_cons, beq_eq_false_iff_ne.mpr reserved.2.1]
  simp only [List.lookup_append, absent, Option.none_or, found]

end Scope

/-! ### Requests -/

/-- Are names read as some objects? -/
def Reads (scope : Scope V) (read : String → Object V) (names : List String) : Prop :=
  ∀ name ∈ names, scope.read? name = some (read name)

section Request

variable (host : Host V E) {scope : Scope V} {read : String → Object V}

theorem Value.evaluate_toExpr {value : Value} (reads : Reads scope read value.names) :
    evaluate host scope value.toExpr = pure (value.object read) := by
  cases value with
  | argument name => exact Source.evaluate_name host scope (reads name (List.mem_singleton_self _))
  | group fields =>
    -- A group reads its names one by one.
    have each : ∀ field ∈ fields, evaluate host scope (.name field.2) = pure (read field.2) :=
      fun field member => Source.evaluate_name host scope (reads _ (List.mem_map_of_mem member))
    simp only [Value.toExpr, evaluate, Source.evaluateNamed_map host scope Prod.fst each, pure_bind,
      Value.object]

theorem literalUrl?_eq_some {parts : List UrlPart} {literal : String} (found : literalUrl? parts = some literal) :
    String.join (parts.map (·.written host read)) = literal := by
  induction parts generalizing literal with
  | nil => simpa [literalUrl?] using found
  | cons part rest ih =>
    cases part with
    | text first =>
      obtain ⟨others, here, rfl⟩ := Option.map_eq_some_iff.mp found
      rw [List.map_cons, String.join_cons, ih here]
      rfl
    | value v => cases found

theorem evaluatePieces_eq {parts : List UrlPart}
    (reads : ∀ value ∈ urlValues parts, Reads scope read value.names) :
    evaluatePieces host scope (parts.map UrlPart.piece) = pure (parts.map (·.written host read)) := by
  induction parts with
  | nil => rfl
  | cons part rest ih =>
    -- Literals are pieces as they stand; only values are read.
    cases part with
    | text literal =>
      have others := ih reads
      simp only [List.map_cons, UrlPart.piece, evaluatePieces, others, pure_bind]
      rfl
    | value v =>
      have first := Value.evaluate_toExpr host (reads v (List.mem_cons_self ..))
      have others := ih fun value member => reads value (List.mem_cons_of_mem _ member)
      simp only [List.map_cons, UrlPart.piece, evaluatePieces, first, others, pure_bind]
      rfl

/-- A URL evaluates to its pieces one after another, whether it is written as one literal or not. -/
theorem evaluate_urlExpr {parts : List UrlPart}
    (reads : ∀ value ∈ urlValues parts, Reads scope read value.names) :
    evaluate host scope (urlExpr parts) =
      pure (.text (String.join (parts.map (·.written host read)))) := by
  unfold urlExpr
  split
  next literal found => rw [evaluate, literalUrl?_eq_some host found]
  next => rw [evaluate, evaluatePieces_eq host reads, pure_bind]

theorem evaluateNamed_entriesKeyword (keyword : String) {entries : List (String × Value)}
    (reads : ∀ value ∈ entries.map Prod.snd, Reads scope read value.names) :
    evaluateNamed host scope (entriesKeyword keyword entries) =
      pure (present [(keyword, dictionary? read entries)]) := by
  unfold entriesKeyword dictionary?
  cases entries with
  | nil => rfl
  | cons entry rest =>
    have each : ∀ field ∈ entry :: rest, evaluate host scope field.2.toExpr = pure (field.2.object read) :=
      fun field member => Value.evaluate_toExpr host (reads _ (List.mem_map_of_mem member))
    rw [if_neg (by simp), if_neg (by simp)]
    simp only [evaluateNamed, evaluate, Source.evaluateNamed_map host scope Prod.fst each, pure_bind]
    rfl

theorem evaluateNamed_valueKeyword (keyword : String) {value : Option Value}
    (reads : ∀ v ∈ value.toList, Reads scope read v.names) :
    evaluateNamed host scope (valueKeyword keyword value) =
      pure (present [(keyword, value.map (·.object read))]) := by
  unfold valueKeyword
  cases value with
  | none => rfl
  | some v =>
    have first := Value.evaluate_toExpr host (reads v (by simp))
    simp only [evaluateNamed, first, pure_bind]
    rfl

theorem evaluateNamed_keywords {request : Request}
    (reads : ∀ value ∈ request.values, Reads scope read value.names) :
    evaluateNamed host scope request.keywords = pure (request.sent host read).named := by
  -- Each part evaluates by itself, since its values are among those of the request.
  have within : ∀ part ⊆ request.values, ∀ value ∈ part, Reads scope read value.names :=
    fun part among value member => reads value (among member)
  unfold Request.keywords
  simp only [Source.evaluateNamed_append]
  rw [evaluateNamed_entriesKeyword host "params" (within _ ?_),
    evaluateNamed_entriesKeyword host "headers" (within _ ?_),
    evaluateNamed_valueKeyword host "json" (within _ ?_),
    evaluateNamed_valueKeyword host "data" (within _ ?_),
    evaluateNamed_valueKeyword host "files" (within _ ?_)]
  · simp only [pure_bind, present, ← List.filterMap_append]
    rfl
  all_goals
    intro value member
    simp only [Request.values, List.mem_append]
    tauto

/-- The call that a method returns sends its request and hands on the answer. -/
theorem Request.run_call {request : Request} (receiver : scope.read? "self" = some .receiver)
    (reads : ∀ value ∈ request.values, Reads scope read value.names) (log : List (Sent V)) :
    (evaluate host scope request.call).run.run log =
      ((host.answer (request.sent host read)).mapError .client, log ++ [request.sent host read]) := by
  have inUrl : ∀ value ∈ urlValues request.url, Reads scope read value.names :=
    fun value member => reads value (by simp [Request.values, member])
  have url := evaluate_urlExpr host inUrl
  have named := evaluateNamed_keywords host reads
  -- The call goes to the client of the instance: two attributes, then a request that is awaited.
  have client : Execution.member .receiver "client" = (pure .client : Execution V E (Object V)) := rfl
  have send : Execution.member .client "request" = (pure .send : Execution V E (Object V)) := rfl
  simp only [Request.call, Source.selfAttribute, evaluate, evaluateAll, receiver, url, named, client, send,
    pure_bind]
  exact Execution.run_await_send host _ _ log

end Request

/-! ### Guards -/

section Guards

variable (host : Host V E) {scope : Scope V} {argument : Argument} (method : String)

/-- The guard of an argument lets everything pass but the marker. -/
theorem Argument.execute_guard_given {value : Object V} (reads : scope.read? argument.name = some value)
    (marker : scope.read? requiredName = some .marker) (unmarked : value ≠ .marker) :
    execute host scope (argument.guard method) = pure none := by
  have differs : value.isSame? .marker = some false := by
    cases value <;> first | rfl | exact absurd rfl unmarked
  simp only [Argument.guard, requiredMarker, execute, evaluate, reads, marker, pure_bind,
    Execution.isSame, differs]

theorem Argument.execute_guard_missing (reads : scope.read? argument.name = some .marker)
    (marker : scope.read? requiredName = some .marker) (guard : scope.read? "required" = some .guard) :
    execute host scope (argument.guard method) = throw (.raised (.missingArgument argument.name method)) := by
  simp only [Argument.guard, requiredMarker, execute, executeAll, evaluate, evaluateAll, evaluateNamed,
    reads, marker, guard, pure_bind, Execution.isSame, Object.isSame?]
  rfl

/-- The guards report the first argument that is not given, or else leave the rest to do. -/
theorem executeAll_guards {given : List (String × Object V)} {guarded : List Argument}
    (required : ∀ argument ∈ guarded, argument.required = true)
    (reads : ∀ argument ∈ guarded, scope.read? argument.name = some (argument.bound given))
    (unmarked : ∀ name, given.lookup name ≠ some .marker)
    (marker : guarded ≠ [] → scope.read? requiredName = some .marker)
    (guard : guarded ≠ [] → scope.read? "required" = some .guard) (body : List Stmt) :
    executeAll host scope (guarded.map (·.guard method) ++ body) =
      match guarded.find? fun argument => (given.lookup argument.name).isNone with
      | some argument => throw (.raised (.missingArgument argument.name method))
      | none => executeAll host scope body := by
  induction guarded with
  | nil => rfl
  | cons first rest ih =>
    have something := List.cons_ne_nil first rest
    have others := ih (fun argument member => required argument (List.mem_cons_of_mem _ member))
      (fun argument member => reads argument (List.mem_cons_of_mem _ member))
      (fun _ => marker something) (fun _ => guard something)
    have here := reads first (List.mem_cons_self ..)
    have needed := required first (List.mem_cons_self ..)
    have mark := marker something
    rw [List.map_cons, List.cons_append, List.find?_cons]
    unfold Argument.bound at here
    -- A missing argument stops the body at its guard. A given one passes, and the later guards decide.
    cases found : given.lookup first.name with
    | none =>
      rw [found, needed] at here
      have stops := Argument.execute_guard_missing host method here mark (guard something)
      simp only [executeAll, stops]
      rfl
    | some value =>
      rw [found] at here
      have passes := Argument.execute_guard_given host method here mark
        fun same => unmarked first.name (same ▸ found)
      simpa only [executeAll, passes, pure_bind, Option.isNone_some] using others

end Guards

/-! ### Definitions -/

section Definition

variable {method : Method} (sound : method.IsScoped) (host : Host V E)

def Method.body (method : Method) : List Stmt :=
  method.requiredArguments.map (·.guard method.name) ++ [.return method.request.call]

theorem isBindable_iff_of_noKeyword {name : String} (noKeyword : name ∉ Name.keywords) :
    Source.isBindable name = true ↔ name ≠ "__debug__" := by
  rw [Source.isBindable_iff]
  constructor
  · rintro free rfl
    exact free (by decide)
  · intro other constant
    -- The other names of constants are keywords.
    have cases : name = "None" ∨ name = "True" ∨ name = "False" := by
      simpa [Source.constantNames, other] using constant
    rcases cases with rfl | rfl | rfl <;> exact noKeyword (by decide)

theorem Method.parameterNames_eq (method : Method) :
    (({ name := "self" } : Source.Parameter) :: method.arguments.map Argument.parameter).map (·.name) =
      "self" :: method.argumentNames := by
  simp [Method.argumentNames, Argument.parameter]

include sound in
theorem Method.IsScoped.bindable_iff :
    (method.name :: "self" :: method.argumentNames).all Source.isBindable = true ↔
      "__debug__" ∉ method.name :: method.argumentNames := by
  rw [List.all_cons, List.all_cons, show Source.isBindable "self" = true by decide, Bool.true_and,
    ← List.all_cons, List.all_eq_true]
  constructor
  · intro each member
    exact (isBindable_iff_of_noKeyword (sound.noKeyword _ member)).mp (each _ member) rfl
  · intro absent name member
    refine (isBindable_iff_of_noKeyword (sound.noKeyword _ member)).mpr fun same => ?_
    exact absent (same ▸ member)

include sound in
theorem Method.IsScoped.parameters_distinct : ("self" :: method.argumentNames).Nodup :=
  List.nodup_cons.mpr ⟨fun member => sound.apart _ member (by decide), sound.distinct⟩

/-- A method with a name that stands for a constant cannot be defined. -/
theorem Method.define_refused (reserved : "__debug__" ∈ method.name :: method.argumentNames)
    (scope : Scope V) : Source.define host scope method.function = throw .refused := by
  -- One name that cannot be bound is enough, wherever it stands.
  have refused : (method.name :: "self" :: method.argumentNames).all Source.isBindable = false := by
    rw [List.all_eq_false]
    have among : "__debug__" ∈ method.name :: "self" :: method.argumentNames := by
      simp only [List.mem_cons] at reserved ⊢
      tauto
    exact ⟨"__debug__", among, by decide⟩
  simp only [Method.function, Source.define, List.singleton_append, Method.parameterNames_eq, refused]
  rfl

theorem Argument.evaluate_default {argument : Argument} {scope : Scope V}
    (marker : argument.required = true → scope.read? requiredName = some .marker) :
    Source.evaluateOptional host scope argument.parameter.default =
      pure (some (if argument.required then .marker else .none)) := by
  unfold Argument.parameter
  cases needed : argument.required with
  | false => simp [Source.evaluateOptional, evaluate]
  | true => simp [Source.evaluateOptional, requiredMarker, evaluate, marker needed]

theorem Argument.evaluate_hint {argument : Argument} {scope : Scope V}
    (any : scope.read? "Any" = some .hint)
    (builtin : ∀ name ∈ Source.builtinTypes, scope.read? name = some (.builtin name)) :
    ∃ value, Source.evaluateOptional host scope argument.parameter.hint = pure value := by
  unfold Argument.parameter
  cases found : TypeHint.ofLabel? argument.type with
  | none => exact ⟨none, by simp [Source.evaluateOptional]⟩
  | some hint =>
    obtain ⟨label, -, here⟩ := Option.bind_eq_some_iff.mp found
    have evaluated := TypeHint.evaluate_toExpr host any builtin (TypeHint.ofChars?_known _ hint here)
    cases argument.required with
    | true => exact ⟨some hint.object, by simp [Source.evaluateOptional, evaluated]⟩
    | false =>
      -- An optional argument may be none as well, and any hint is a type.
      have either : Execution.union hint.object .none = (pure .hint : Execution V E (Object V)) := by
        cases hint <;> rfl
      exact ⟨some .hint, by simp [Source.evaluateOptional, evaluate, evaluated, either]⟩

/-- The function of a method, once it is defined. -/
def Method.defined (method : Method) : Function V where
  positional := ["self"]
  keywordOnly := method.arguments.map fun argument =>
    (argument.name, some (if argument.required then .marker else .none))
  body := method.body

include sound in
theorem Method.IsScoped.define_eq (bindable : "__debug__" ∉ method.name :: method.argumentNames) :
    Source.define host method.imports.scope method.function = pure method.defined := by
  -- Everything that a definition evaluates is read in the module: hints, and the marker as a default.
  have any : (method.imports.scope : Scope V).read? "Any" = some .hint :=
    read?_of_lookup rfl (Imports.lookup_wanted method.imports_wants_any rfl)
  have builtin : ∀ name ∈ Source.builtinTypes,
      (method.imports.scope : Scope V).read? name = some (.builtin name) := by
    intro name known
    have plain : ∀ name ∈ Source.builtinTypes, name ∉ Name.keywords ∧ name ≠ "__debug__" := by decide
    exact read?_of_lookup (constant?_eq_none (plain name known).1 (plain name known).2)
      (Imports.lookup_builtin _ known)
  have defaults : ∀ argument ∈ method.arguments,
      Source.evaluateOptional host (method.imports.scope : Scope V) argument.parameter.default =
        pure (some (if argument.required then .marker else .none)) := by
    intro argument member
    refine Argument.evaluate_default host fun required => read?_of_lookup rfl ?_
    -- The marker is imported if an argument is required.
    have something : method.requiredArguments ≠ [] :=
      List.ne_nil_of_mem (List.mem_filter.mpr ⟨member, required⟩)
    exact Imports.lookup_wanted (Method.imports_wants_guard something (List.mem_cons_self ..)) rfl
  have hints : ∀ parameter ∈ ({ name := "self" } : Source.Parameter) ::
      method.arguments.map Argument.parameter, ∃ value,
      Source.evaluateOptional host (method.imports.scope : Scope V) parameter.hint = pure value := by
    intro parameter member
    rcases List.mem_cons.mp member with rfl | member
    · exact ⟨none, rfl⟩
    · obtain ⟨argument, -, rfl⟩ := List.mem_map.mp member
      exact Argument.evaluate_hint host any builtin
  have allowed := sound.bindable_iff.mpr bindable
  have distinct := Source.areDistinct_iff.mpr sound.parameters_distinct
  simp only [Method.function, Source.define, List.singleton_append, Method.parameterNames_eq, allowed,
    distinct, Source.evaluateDefaults_map host _ defaults, Source.evaluateHints_eq host _ hints,
    evaluate, any, pure_bind]
  rfl

theorem Method.Accepts.call_eq {given : List (String × Object V)} (accepts : method.Accepts given) :
    method.defined.call host method.imports.scope [.receiver] given =
      (do return (← executeAll host (method.bodyScope given) method.body).getD .none) := by
  have names : (method.defined : Function V).keywordOnly.map Prod.fst = method.argumentNames := by
    simp [Method.defined, Method.argumentNames, Function.comp_def]
  have among : (given.all fun entry => method.argumentNames.contains entry.1) = true := by
    rw [List.all_eq_true]
    intro entry member
    simpa using accepts.among _ (List.mem_map_of_mem member)
  have distinct := Source.areDistinct_iff.mpr accepts.distinct
  -- Parameters are bound by keyword to what is given, and else to their defaults.
  have bound := @Source.bindNamed_map V E Argument (·.name)
    (fun argument => if argument.required then .marker else .none) method.arguments given
  unfold Source.Function.call
  simp only [names, among, distinct]
  simp only [Method.defined, bound, pure_bind]
  rfl

end Definition

/-! ### Runs -/

section Runs

variable {method : Method} (sound : method.IsScoped) (host : Host V E)
  (bindable : "__debug__" ∉ method.argumentNames) {given : List (String × Object V)}
  (accepts : method.Accepts given)
include sound bindable accepts

theorem Method.IsScoped.executeAll_body :
    executeAll host (method.bodyScope given) method.body =
      match method.missing? given with
      | some argument => throw (.raised (.missingArgument argument.name method.name))
      | none => executeAll host (method.bodyScope given) [.return method.request.call] := by
  rw [Method.missing?_eq]
  -- Marker and guard are imported as soon as one argument is required.
  have imported : ∀ {name : String} {value : Object V}, method.requiredArguments ≠ [] →
      name ∈ [requiredName, "required"] → Source.offered? "rbxapi.runtime" name = some value →
      (method.bodyScope given).read? name = some value := fun something member offered =>
    sound.read?_bound given member
      (Imports.lookup_wanted (Method.imports_wants_guard something member) offered)
  exact executeAll_guards host method.name
    (fun argument member => (List.mem_filter.mp member).2)
    (fun argument member => sound.read?_argument bindable given (List.mem_filter.mp member).1)
    accepts.lookup_ne_marker (fun something => imported something (by simp) rfl)
    (fun something => imported something (by simp) rfl) _

omit accepts in
theorem Method.IsScoped.run_return (nothing : method.missing? given = none) (log : List (Sent V)) :
    (executeAll host (method.bodyScope given) [.return method.request.call]).run.run log =
      (((host.answer (method.request.sent host (valueGiven given))).mapError .client).map some,
        log ++ [method.request.sent host (valueGiven given)]) := by
  -- With nothing missing, every name in the request is an argument with a value.
  have reads : ∀ value ∈ method.request.values,
      Reads (method.bodyScope given) (valueGiven given) value.names := by
    intro value member name carried
    obtain ⟨argument, among, rfl⟩ := List.mem_map.mp (sound.known value member name carried)
    rw [sound.read?_argument bindable given among, Method.bound_eq nothing among]
  have sent := Request.run_call host rfl reads log
  simp only [executeAll, execute, bind_assoc, pure_bind]
  rw [Execution.run_bind, sent]
  cases host.answer (method.request.sent host (valueGiven given)) <;> rfl

end Runs

/-- A method that is called does what is described, or it cannot be defined. -/
theorem Method.IsScoped.run_eq {method : Method} (sound : method.IsScoped) (host : Host V E)
    {given : List (String × Object V)} (accepts : method.Accepts given) :
    method.run host given =
      if "__debug__" ∈ method.name :: method.argumentNames then (.error .refused, [])
      else method.outcome host given := by
  simp only [Method.run, Method.render]
  -- A reserved name stops the definition. Otherwise guards run first, and then the request.
  by_cases reserved : "__debug__" ∈ method.name :: method.argumentNames
  · rw [if_pos reserved, Method.define_refused host reserved]
    rfl
  · rw [if_neg reserved]
    have bindable : "__debug__" ∉ method.argumentNames := fun member => reserved (List.mem_cons_of_mem _ member)
    rw [sound.define_eq host reserved, pure_bind, accepts.call_eq, sound.executeAll_body host bindable accepts]
    unfold Method.outcome Execution.outcome
    cases nothing : method.missing? given with
    | some argument => rfl
    | none =>
      simp only
      rw [Execution.run_bind, sound.run_return host bindable nothing]
      cases host.answer (method.request.sent host (valueGiven given)) <;> rfl

end Bindery
