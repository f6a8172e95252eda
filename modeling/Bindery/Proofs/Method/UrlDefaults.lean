import Bindery.Proofs.Method.Compilation
import Bindery.Proofs.Method.Grouping
import Bindery.Proofs.Method.PathBinding

/-!
# Defaults in URLs

A placeholder in a path sends the parameter of its name there, and the document says whether a parameter is required. The
two are apart: a parameter that the document leaves optional may stand in a URL, and a call that leaves it out writes its
default there. No other default gets into a URL; above all, no object there has one in it.
-/
namespace Bindery

open Bindery.Schema (Definitions Operation Parameter)
open Bindery.Source (Host Object)

section Arguments

variable {path : String} {operation : Operation} {definitions : Definitions}

/-- All arguments that are sent together are required. -/
theorem grouped_required (grouped : (buildArguments path operation definitions).value.grouped = true) :
    ∀ argument ∈ (buildArguments path operation definitions).value.arguments, argument.required = true := by
  -- Only an object as the sole parameter is taken apart.
  by_cases object : ∃ parameter properties, SoleObject definitions operation parameter properties
  · obtain ⟨parameter, properties, object⟩ := object
    exact fun argument member => ((separated_arguments path object).2.2 argument member).1
  · have ungrouped := ungrouped_of_no_object path fun parameter properties sole => object ⟨parameter, properties, sole⟩
    cases grouped.symm.trans ungrouped

/-- An argument of its own is required just if its parameter is. -/
theorem required_of_mem_served (ungrouped : (buildArguments path operation definitions).value.grouped = false)
    {pair : Parameter × Argument}
    (member : pair ∈ served (orderParameters operation.parameters) (buildArguments path operation definitions).value) :
    pair.2.required = pair.1.required := by
  obtain ⟨i, bound, here⟩ := List.mem_iff_getElem.mp member
  simp only [served, ungrouped_arguments ungrouped, List.getElem_zip, List.getElem_zipWith] at here
  subst here
  rfl

/-- Arguments put an object of all of them into a URL, or the value of one that is sent to the path. -/
theorem mem_bindings_cases {binding : UrlBinding}
    (member : binding ∈ (buildArguments path operation definitions).value.bindings) :
    ((buildArguments path operation definitions).value.grouped = true ∧
        binding.2 = groupValue (buildArguments path operation definitions).value.arguments) ∨
      (buildArguments path operation definitions).value.grouped = false ∧
        ∃ argument ∈ (buildArguments path operation definitions).value.arguments,
          argument.isAt .path = true ∧ binding.2 = .argument argument.name := by
  obtain ⟨argument, among, here⟩ := List.mem_filterMap.mp member
  obtain ⟨text, -, rfl⟩ := Option.map_eq_some_iff.mp here
  obtain ⟨sender, inPath⟩ := List.mem_filter.mp among
  unfold ArgumentList.senders at sender
  unfold ArgumentList.valueOf
  -- The value of a sender is the group or the sender itself.
  cases grouped : (buildArguments path operation definitions).value.grouped with
  | true => exact .inl ⟨rfl, by rw [if_pos rfl]⟩
  | false =>
    simp only [grouped, Bool.false_eq_true, if_false] at sender ⊢
    exact .inr ⟨trivial, argument, sender, inPath, rfl⟩

end Arguments

section Url

variable {name verb base path : String} {operation : Operation} {definitions : Definitions} {method : Noted Method}
  (compiled : compileOperation name verb base path operation definitions = .ok method)
include compiled

/-- An object in a URL is made of all arguments, which are required. -/
theorem group_in_url {fields : List (String × String)} (member : .group fields ∈ urlValues method.value.request.url) :
    (buildArguments path operation definitions).value.grouped = true ∧ .group fields = groupValue method.value.arguments ∧
      ∀ argument ∈ method.value.arguments, argument.required = true := by
  obtain ⟨request, -, -, -, arguments, -⟩ := compileOperation_eq_ok compiled
  obtain ⟨binding, bound, same⟩ := List.mem_map.mp (compiled_urlValues compiled member)
  obtain ⟨grouped, whole⟩ | ⟨-, argument, -, -, alone⟩ := mem_bindings_cases bound
  · exact ⟨grouped, arguments ▸ same.symm.trans whole, arguments ▸ grouped_required grouped⟩
  · cases same.symm.trans alone

/-- An argument that stands in a URL alone has a parameter of its own, which belongs in the path. -/
theorem single_in_url {single : String} (member : .argument single ∈ urlValues method.value.request.url) :
    (buildArguments path operation definitions).value.grouped = false ∧
      ∃ pair ∈ (orderParameters operation.parameters).zip method.value.arguments, pair.2.name = single ∧
        pair.2.documented = pair.1.name ∧ decidedPlace path pair.1 = some Location.path.label := by
  obtain ⟨request, -, -, -, arguments, -⟩ := compileOperation_eq_ok compiled
  obtain ⟨binding, bound, same⟩ := List.mem_map.mp (compiled_urlValues compiled member)
  obtain ⟨-, whole⟩ | ⟨ungrouped, argument, listed, inPath, alone⟩ := mem_bindings_cases bound
  · cases same.symm.trans whole
  · obtain rfl : single = argument.name := Value.argument.inj (same.symm.trans alone)
    rw [← served_arguments ungrouped] at listed
    obtain ⟨pair, serves, rfl⟩ := List.mem_map.mp listed
    have isOf := isOf_of_mem_served ungrouped serves
    refine ⟨ungrouped, pair, arguments ▸ serves, rfl, isOf.documented, ?_⟩
    rw [← isOf.location]
    exact Argument.isAt_iff.mp inPath

end Url

/-! ### Calls -/

section Calls

variable {V E : Type} {method : Method} {given : List (String × Object V)}

/-- Does a call leave the URL with the value that stands for an argument that is not given? -/
structure Method.DefaultsInUrl (method : Method) (given : List (String × Object V)) (argument : Argument) : Prop where
  listed : argument ∈ method.arguments
  interpolated : ∃ value ∈ urlValues method.request.url, argument.name ∈ value.names
  default : valueGiven given argument.name = .none

/-- A call that sends something lacks no required argument. -/
theorem Method.IsScoped.sent_eq (sound : method.IsScoped) (host : Host V E) (accepts : method.Accepts given)
    {sent : Source.Sent V} (member : sent ∈ (method.run host given).2) :
    method.missing? given = none ∧ sent = method.request.sent host (valueGiven given) := by
  rw [sound.run_eq host accepts] at member
  -- A method that cannot be defined sends nothing, and neither does one that misses an argument.
  split at member
  · cases member
  · unfold Method.outcome at member
    cases nothing : method.missing? given with
    | some argument =>
      rw [nothing] at member
      cases member
    | none =>
      rw [nothing] at member
      exact ⟨rfl, List.mem_singleton.mp member⟩

/-- Where nobody gives none, it is the default of an optional argument that is left out. -/
theorem valueGiven_eq_none_iff (complete : method.missing? given = none) (nowhere : ∀ entry ∈ given, entry.2 ≠ .none)
    {argument : Argument} (member : argument ∈ method.arguments) :
    valueGiven given argument.name = .none ↔ argument.required = false ∧ argument.name ∉ given.map Prod.fst := by
  unfold valueGiven
  -- A given value is not none. Without one, the argument is optional, or it would be missing.
  cases found : given.lookup argument.name with
  | some value =>
    have entry := Source.mem_of_lookup found
    exact iff_of_false (nowhere _ entry) fun left => left.2 (List.mem_map_of_mem entry)
  | none =>
    have optional : argument.required = false := by
      simpa [found] using List.find?_eq_none.mp complete argument member
    have absent : argument.name ∉ given.map Prod.fst := by
      intro named
      obtain ⟨entry, here, same⟩ := List.mem_map.mp named
      have differs := List.lookup_eq_none_iff.mp found entry here
      simp [same] at differs
    exact iff_of_true rfl ⟨optional, absent⟩

end Calls

/-- An object in a URL is made of required arguments, and an argument that stands there alone is required just if its
parameter is documented so. A call that gives no argument as none sends a URL with a default in it for exactly those
arguments that stand there alone, whose parameters are documented as optional, and that it leaves out. -/
theorem compileOperation_urlDefaults {name verb base path : String} {operation : Operation}
    {definitions : Definitions} {method : Noted Method}
    (compiled : compileOperation name verb base path operation definitions = .ok method) :
    (∀ fields, .group fields ∈ urlValues method.value.request.url → ∀ field ∈ fields,
        ∃ argument ∈ method.value.arguments, argument.name = field.2 ∧ argument.required = true) ∧
      (∀ single, .argument single ∈ urlValues method.value.request.url →
        ∃ pair ∈ (orderParameters operation.parameters).zip method.value.arguments, pair.2.name = single ∧
          pair.2.documented = pair.1.name ∧ decidedPlace path pair.1 = some Location.path.label ∧
          pair.2.required = pair.1.required) ∧
      ∀ {V E : Type} (host : Host V E) (given : List (String × Object V)), name ∉ Name.keywords →
        method.value.Accepts given → (∀ entry ∈ given, entry.2 ≠ .none) →
        ∀ sent ∈ (method.value.run host given).2,
          sent = method.value.request.sent host (valueGiven given) ∧
            ∀ argument, method.value.DefaultsInUrl given argument ↔
              .argument argument.name ∈ urlValues method.value.request.url ∧ argument.name ∉ given.map Prod.fst ∧
                ∃ parameter, (parameter, argument) ∈ (orderParameters operation.parameters).zip method.value.arguments ∧
                  parameter.required = false := by
  obtain ⟨request, -, -, -, arguments, -⟩ := compileOperation_eq_ok compiled
  have asDocumented (ungrouped : (buildArguments path operation definitions).value.grouped = false)
      {pair : Parameter × Argument} (member : pair ∈ (orderParameters operation.parameters).zip method.value.arguments) :
      pair.2.required = pair.1.required :=
    required_of_mem_served ungrouped (by rwa [arguments] at member)
  refine ⟨fun fields member field among => ?_, fun single member => ?_, ?_⟩
  · obtain ⟨-, whole, required⟩ := group_in_url compiled member
    obtain rfl := Value.group.inj whole
    obtain ⟨argument, listed, rfl⟩ := List.mem_map.mp among
    exact ⟨argument, listed, rfl, required argument listed⟩
  · obtain ⟨ungrouped, pair, serves, facts⟩ := single_in_url compiled member
    exact ⟨pair, serves, facts.1, facts.2.1, facts.2.2, asDocumented ungrouped serves⟩
  · intro V E host given free accepts nowhere sent member
    obtain ⟨complete, same⟩ := (compileOperation_isScoped free compiled).sent_eq host accepts member
    refine ⟨same, fun argument => ⟨?_, ?_⟩⟩
    · rintro ⟨listed, ⟨value, inUrl, named⟩, default⟩
      obtain ⟨optional, absent⟩ := (valueGiven_eq_none_iff complete nowhere listed).mp default
      cases value with
      | group fields =>
        -- An object is made of required arguments, of which none is left out.
        have required := (group_in_url compiled inUrl).2.2 argument listed
        cases optional.symm.trans required
      | argument single =>
        obtain rfl := List.mem_singleton.mp named
        obtain ⟨ungrouped, -⟩ := single_in_url compiled inUrl
        rw [arguments, ← served_arguments ungrouped, List.mem_map] at listed
        obtain ⟨pair, serves, rfl⟩ := listed
        rw [served, ← arguments] at serves
        exact ⟨inUrl, absent, pair.1, serves, (asDocumented ungrouped serves).symm.trans optional⟩
    · rintro ⟨inUrl, absent, parameter, serves, optional⟩
      obtain ⟨ungrouped, -⟩ := single_in_url compiled inUrl
      have listed : argument ∈ method.value.arguments := (List.of_mem_zip serves).2
      refine ⟨listed, ⟨_, inUrl, List.mem_singleton_self _⟩, ?_⟩
      exact (valueGiven_eq_none_iff complete nowhere listed).mpr ⟨(asDocumented ungrouped serves).trans optional, absent⟩

/-! ### A parameter in a path that may be left out -/

/-- A client that answers nothing, where values are numbers or none. -/
def nothingHost : Host Empty Empty where
  format
    | .number n => toString n
    | .none => "None"
    | _ => ""
  answer _ := .ok .none

/-- An operation with a parameter that must be given and one that may be left out, which is documented in the query. -/
def kindOperation : Operation :=
  { parameters := [{ name := "kind", place := some "query" }, { name := "id", place := some "path", required := true }] }

/-- The first argument of a method is given, and the default of the second one gets into the URL. -/
theorem kind_defaults :
    ∃ method, compileOperation "Items" "get" "https://host" "/items/\x7bid\x7d/\x7bkind\x7d" kindOperation [] = .ok method ∧
      method.value.Accepts [("id", (.number 7 : Object Empty))] ∧
      ⟨[.text "get", .text "https://host/items/7/None"], []⟩ ∈ (method.value.run nothingHost [("id", .number 7)]).2 ∧
      ∀ argument, method.value.DefaultsInUrl [("id", (.number 7 : Object Empty))] argument ↔
        .argument argument.name ∈ urlValues method.value.request.url ∧ argument.name ∉ ["id"] ∧
          ∃ parameter, (parameter, argument) ∈ (orderParameters kindOperation.parameters).zip method.value.arguments ∧
            parameter.required = false := by
  have facts : (compileOperation "Items" "get" "https://host" "/items/\x7bid\x7d/\x7bkind\x7d" kindOperation
      []).toOption.map (fun method => (method.value.name, method.value.arguments, method.value.request)) =
        some ("Items",
          [{ name := "id", documented := "id", type := none, target := ⟨"id", some "path"⟩, required := true },
            { name := "kind", documented := "kind", type := none, target := ⟨"kind", some "path"⟩, required := false }],
          { verb := "get", url := [.text "https://host/items/", .value (.argument "id"), .text "/",
            .value (.argument "kind")] }) := by decide +kernel
  obtain ⟨method, compiled, same⟩ := ok_of_map_eq_some facts
  simp only [Prod.mk.injEq] at same
  obtain ⟨named, arguments, request⟩ := same
  have accepts : method.value.Accepts [("id", (.number 7 : Object Empty))] :=
    ⟨by simp, by simp [Method.argumentNames, arguments], by simp⟩
  have free : "Items" ∉ Name.keywords := by decide
  have sends : ⟨[.text "get", .text "https://host/items/7/None"], []⟩ ∈
      (method.value.run nothingHost [("id", .number 7)]).2 := by
    rw [(compileOperation_isScoped free compiled).run_eq nothingHost accepts,
      if_neg (by simp [named, Method.argumentNames, arguments]), Method.outcome, Method.missing?, arguments, request]
    exact List.mem_singleton_self _
  exact ⟨method, compiled, accepts, sends,
    ((compileOperation_urlDefaults compiled).2.2 nothingHost _ free accepts (by simp) _ sends).2⟩

/-- A parameter in the path is optional if the document does not say otherwise, and a call without it sends its
default. -/
theorem user_left_out :
    ∃ method, compileOperation "Users" "get" "https://host" "/v1/users/\x7buserId\x7d"
        { parameters := [{ name := "userId", place := some "path" }] } [] = .ok method ∧
      (∃ argument ∈ method.value.arguments, .argument argument.name ∈ urlValues method.value.request.url ∧
        argument.required = false) ∧
      (method.value.run nothingHost []).2 = [⟨[.text "get", .text "https://host/v1/users/None"], []⟩] := by
  have facts : (compileOperation "Users" "get" "https://host" "/v1/users/\x7buserId\x7d"
      { parameters := [{ name := "userId", place := some "path" }] } []).toOption.map
        (fun method => (method.value.name, method.value.arguments, method.value.request)) =
        some ("Users",
          [{ name := "userId", documented := "userId", type := none, target := ⟨"userId", some "path"⟩, required := false }],
          { verb := "get", url := [.text "https://host/v1/users/", .value (.argument "userId")] }) := by decide +kernel
  obtain ⟨method, compiled, same⟩ := ok_of_map_eq_some facts
  simp only [Prod.mk.injEq] at same
  obtain ⟨named, arguments, request⟩ := same
  have accepts : method.value.Accepts ([] : List (String × Object Empty)) := ⟨by simp, by simp, by simp⟩
  refine ⟨method, compiled, ⟨_, by rw [arguments]; exact List.mem_singleton_self _, ?_, rfl⟩, ?_⟩
  · rw [request]
    exact List.mem_singleton_self _
  · rw [(compileOperation_isScoped (by decide) compiled).run_eq nothingHost accepts,
      if_neg (by simp [named, Method.argumentNames, arguments]), Method.outcome, Method.missing?, arguments, request]
    rfl

end Bindery
