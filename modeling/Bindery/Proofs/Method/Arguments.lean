import Bindery.Proofs.Method.FreshNames
import Bindery.Proofs.Path.Placeholders

/-!
# The arguments of an operation, seen from its parameters

Ungrouped, the arguments are the parameters, required ones first, each under a fresh name. Grouped,
they are the properties of the one parameter, with the target of that parameter.
-/
namespace Bindery

open Bindery.Schema (Definitions Description Node Operation Parameter)

@[simp]
theorem Noted.value_pure {α : Type} (a : α) : (pure a : Noted α).value = a := rfl

@[simp]
theorem Noted.value_bind {α β : Type} (x : Noted α) (f : α → Noted β) :
    (x >>= f).value = (f x.value).value := rfl

/-- The argument of a parameter, under a name. -/
def Argument.ofParameter (definitions : Definitions) (placeholders : List (String × String))
    (parameter : Parameter) (name : String) : Argument where
  name
  documented := parameter.name
  type := (parameterType definitions parameter).value
  target := targetOf placeholders parameter
  required := parameter.required
  description := summaryLine parameter.description
  choices := Bindery.choices parameter.enum

/-- The argument of a property, under a name. -/
def Argument.ofProperty (definitions : Definitions) (target : Target) (property : String × Node)
    (name : String) : Argument :=
  let schema := (resolve definitions (some property.2)).value
  { name, documented := property.1, type := (typeLabel definitions schema).value, target, required := true,
    description := summaryLine schema.description, choices := Bindery.choices schema.enum }

/-- The names that parameters are asked to have. -/
def parameterNames (parameters : List Parameter) : List String :=
  parameters.map fun parameter => Name.argument parameter.name

def propertyNames (properties : List (String × Node)) : List String :=
  properties.map fun property => Name.argument property.1

/-! ### The order of the parameters -/

/-- The required ones of some parameters and then the others, with the order of each kept. -/
structure RequiredFirst (declared ordered : List Parameter) : Prop where
  sorted : ordered.Pairwise fun before after => after.required = true → before.required = true
  kept : ∀ required, ordered.filter (·.required == required) = declared.filter (·.required == required)

theorem orderParameters_requiredFirst (declared : List Parameter) :
    RequiredFirst declared (orderParameters declared) := by
  constructor
  -- Within the required ones, within the others, and across: only the last needs that all in front are required.
  · refine List.pairwise_append.mpr ⟨?_, ?_, ?_⟩
    · apply List.pairwise_of_forall_mem_list
      intro before left after right isRequired
      exact (List.mem_filter.mp left).2
    · apply List.pairwise_of_forall_mem_list
      intro before left after right isRequired
      have optional := (List.mem_filter.mp right).2
      simp [isRequired] at optional
    · intro before left after right isRequired
      exact (List.mem_filter.mp left).2
  · intro required
    unfold orderParameters
    rw [List.filter_append, List.filter_filter, List.filter_filter]
    -- One of the halves is kept as it is, and nothing is kept of the other one.
    cases required <;> simp

/-- The order leaves no choice. -/
theorem RequiredFirst.eq {declared ordered : List Parameter} (first : RequiredFirst declared ordered) :
    ordered = orderParameters declared := by
  have halves : ordered = ordered.filter (·.required == true) ++ ordered.filter (·.required == false) := by
    have sorted := first.sorted
    clear first
    induction ordered with
    | nil => rfl
    | cons parameter rest ih =>
      obtain ⟨before, sorted⟩ := List.pairwise_cons.mp sorted
      cases own : parameter.required with
      | true => simpa [own] using ih sorted
      | false =>
        -- After one that is not required no other one is.
        have optional : ∀ after ∈ rest, after.required = false := by
          intro after member
          simpa [own] using before after member
        have none : rest.filter (·.required == true) = [] :=
          List.filter_eq_nil_iff.mpr fun after member => by simp [optional after member]
        have all : rest.filter (·.required == false) = rest :=
          List.filter_eq_self.mpr fun after member => by simp [optional after member]
        rw [List.filter_cons_of_neg (by simp [own]), List.filter_cons_of_pos (by simp [own]), none, all,
          List.nil_append]
  rw [halves, first.kept, first.kept, orderParameters]
  simp

theorem parameterArguments_value (definitions : Definitions) (placeholders : List (String × String))
    (taken : List String) (parameters : List Parameter) :
    (parameterArguments definitions placeholders taken parameters).value =
      List.zipWith (Argument.ofParameter definitions placeholders) parameters
        (freshNames taken (parameterNames parameters)) := by
  induction parameters generalizing taken with
  | nil => rfl
  | cons parameter rest ih =>
    simp only [parameterArguments, Noted.value_bind, Noted.value_pure, ih]
    rfl

theorem propertyArguments_value (definitions : Definitions) (target : Target) (taken : List String)
    (properties : List (String × Node)) :
    (propertyArguments definitions target taken properties).value =
      List.zipWith (Argument.ofProperty definitions target) properties
        (freshNames taken (propertyNames properties)) := by
  induction properties generalizing taken with
  | nil => rfl
  | cons property rest ih =>
    simp only [propertyArguments, Noted.value_bind, Noted.value_pure, ih]
    rfl

/-! ### Which operations are taken apart -/

/-- The parameter that is taken apart, if there is one, with the properties of its schema. -/
def separated? (definitions : Definitions) (parameters : List Parameter) :
    Option (Parameter × List (String × Node)) :=
  (soleSchema? (orderParameters parameters)).bind fun sole =>
    (Description.separable? (resolve definitions (some sole.2)).value).map fun properties =>
      (sole.1, properties)

theorem buildArguments_value (path : String) (operation : Operation) (definitions : Definitions) :
    (buildArguments path operation definitions).value =
      match separated? definitions operation.parameters with
      | some (parameter, properties) =>
        ⟨(propertyArguments definitions (targetOf (Path.placeholders path) parameter) [] properties).value,
          Path.placeholders path, true⟩
      | none =>
        ⟨(parameterArguments definitions (Path.placeholders path) []
            (orderParameters operation.parameters)).value, Path.placeholders path, false⟩ := by
  simp only [buildArguments, separated?]
  -- The two branches of the source: it has a parameter alone with its schema, or it has not.
  cases soleSchema? (orderParameters operation.parameters) with
  | none => rfl
  | some sole =>
    simp only [Noted.value_bind, Noted.value_pure, Option.bind_some]
    cases Description.separable? (resolve definitions (some sole.2)).value with
    | none => rfl
    | some properties => rfl

theorem soleSchema?_eq_some {parameters : List Parameter} {parameter : Parameter} {node : Node}
    (sole : soleSchema? parameters = some (parameter, node)) :
    parameters = [parameter] ∧ parameter.schema = some node := by
  unfold soleSchema? at sole
  split at sole
  next only =>
    obtain ⟨found, schema, same⟩ := Option.map_eq_some_iff.mp sole
    cases same
    exact ⟨rfl, schema⟩
  · cases sole

theorem orderParameters_perm (parameters : List Parameter) :
    (orderParameters parameters).Perm parameters :=
  List.filter_append_perm _ parameters

/-- Only a parameter that stands alone is taken apart, and it has properties. -/
theorem separated?_eq_some {definitions : Definitions} {parameters : List Parameter}
    {parameter : Parameter} {properties : List (String × Node)}
    (separated : separated? definitions parameters = some (parameter, properties)) :
    parameters = [parameter] ∧ properties ≠ [] := by
  obtain ⟨⟨sole, node⟩, found, mapped⟩ := Option.bind_eq_some_iff.mp separated
  obtain ⟨others, separable, same⟩ := Option.map_eq_some_iff.mp mapped
  cases same
  -- The parameters were ordered first; a list with one member has no other order.
  have alone := (soleSchema?_eq_some found).1
  refine ⟨List.perm_singleton.mp (alone ▸ (orderParameters_perm parameters).symm), ?_⟩
  -- A schema is taken apart only as an object with properties, so they are not empty.
  unfold Description.separable? at separable
  split at separable
  next object =>
    cases separable
    simpa using object.2
  · cases separable

/-! ### The names of the arguments -/

@[simp]
theorem length_freshNames (taken names : List String) : (freshNames taken names).length = names.length := by
  induction names generalizing taken with
  | nil => rfl
  | cons name rest ih => simp [freshNames, ih]

private theorem map_name_zipWith {α : Type} (make : α → String → Argument)
    (named : ∀ a name, (make a name).name = name) (items : List α) (names : List String)
    (fits : items.length = names.length) : (List.zipWith make items names).map (·.name) = names := by
  induction items generalizing names with
  | nil =>
    obtain rfl := List.length_eq_zero_iff.mp fits.symm
    rfl
  | cons item items ih =>
    cases names with
    | nil => cases fits
    | cons name names =>
      simp only [List.zipWith_cons_cons, List.map_cons, named, ih names (Nat.succ.inj fits)]

/-- What arguments have from the items that they are made of. -/
theorem map_zipWith_item {α β : Type} {make : α → String → Argument} {field : Argument → β} (item : α → β)
    (same : ∀ a name, field (make a name) = item a) {items : List α} {names : List String}
    (fits : items.length = names.length) : (List.zipWith make items names).map field = items.map item := by
  -- Both sides as maps over the pairs, of which the right one reads the first component only.
  rw [← List.map_uncurry_zip_eq_zipWith, List.map_map]
  conv_rhs => rw [← List.map_fst_zip (Nat.le_of_eq fits), List.map_map]
  apply List.map_congr_left
  rintro ⟨a, name⟩ -
  exact same a name

/-- The names of arguments are the documented ones, made plain and fresh one after another. -/
theorem argumentNames_eq (path : String) (operation : Operation) (definitions : Definitions) :
    (buildArguments path operation definitions).value.arguments.map (·.name) =
      freshNames [] ((buildArguments path operation definitions).value.arguments.map
        fun argument => Name.argument argument.documented) := by
  rw [buildArguments_value]
  -- Taken apart or not, arguments are items zipped with fresh names, and have their documented names from the items.
  split
  next parameter properties _ =>
    have fits : properties.length = (freshNames [] (propertyNames properties)).length := by simp [propertyNames]
    simp only [propertyArguments_value]
    rw [map_name_zipWith _ (fun _ _ => rfl) _ _ fits,
      map_zipWith_item (fun property => Name.argument property.1) (fun _ _ => rfl) fits]
    rfl
  next =>
    have fits : (orderParameters operation.parameters).length =
        (freshNames [] (parameterNames (orderParameters operation.parameters))).length := by simp [parameterNames]
    simp only [parameterArguments_value]
    rw [map_name_zipWith _ (fun _ _ => rfl) _ _ fits,
      map_zipWith_item (fun parameter => Name.argument parameter.name) (fun _ _ => rfl) fits]
    rfl

theorem argumentName_eq {path : String} {operation : Operation} {definitions : Definitions} {argument : Argument}
    (member : argument ∈ (buildArguments path operation definitions).value.arguments) :
    ∃ taken documented, argument.name = freshName taken (Name.argument documented) := by
  have among : argument.name ∈ (buildArguments path operation definitions).value.arguments.map (·.name) :=
    List.mem_map_of_mem member
  rw [argumentNames_eq] at among
  obtain ⟨wanted, source, taken, same⟩ := mem_freshNames among
  obtain ⟨other, -, rfl⟩ := List.mem_map.mp source
  exact ⟨taken, other.documented, same⟩

/-- Every argument has a name of its own. -/
theorem argumentNames_nodup (path : String) (operation : Operation) (definitions : Definitions) :
    ((buildArguments path operation definitions).value.arguments.map (·.name)).Nodup := by
  rw [argumentNames_eq]
  exact freshNames_nodup [] _

/-- No argument has a name that the method binds already, or that is a keyword. -/
theorem argumentNames_apart {path : String} {operation : Operation} {definitions : Definitions}
    {argument : Argument} (member : argument ∈ (buildArguments path operation definitions).value.arguments) :
    argument.name ∉ boundNames ∧ argument.name ∉ Name.keywords := by
  obtain ⟨taken, documented, same⟩ := argumentName_eq member
  rw [same]
  exact ⟨freshName_not_bound taken _, freshName_not_keyword taken (argument_not_keyword documented)⟩

/-- An argument is found by its name. -/
theorem find?_argument {arguments : List Argument} {argument : Argument} (member : argument ∈ arguments)
    (distinct : (arguments.map (·.name)).Nodup) :
    arguments.find? (fun other => decide (other.name = argument.name)) = some argument := by
  induction arguments with
  | nil => cases member
  | cons first rest ih =>
    rw [List.map_cons, List.nodup_cons] at distinct
    rcases List.mem_cons.mp member with rfl | later
    · simp
    -- An earlier argument is not in the way, since names are distinct.
    · have differs : first.name ≠ argument.name := fun same =>
        distinct.1 (same ▸ List.mem_map_of_mem later)
      rw [List.find?_cons_of_neg (by simpa using differs)]
      exact ih later distinct.2

end Bindery
