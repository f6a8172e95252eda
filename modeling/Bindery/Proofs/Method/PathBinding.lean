import Bindery.Proofs.Method.Occupancy
import Bindery.Proofs.Method.Requests
import Bindery.Proofs.Method.Urls

/-!
# Which placeholders are bound

Every parameter that is sent in the path takes one placeholder at most, the first free one that ends
with the text of its name. So all placeholders are bound exactly if this leaves no parameter and no
placeholder of a parameter over, which templates with repeated or nested placeholders may.
-/
namespace Bindery

open Bindery.Path (Placeholder Site Layout seat? seatAll? renameSeat)
open Bindery.Schema (Definitions Operation Parameter)

/-- The names of the parameters that are sent in the path, required ones first. -/
def pathNames (path : String) (operation : Operation) : List String :=
  ((orderParameters operation.parameters).filter fun parameter =>
    decidedPlace path parameter = some Location.path.label).map (·.name)

/-- Does the text of a name end a placeholder? -/
def endsPlaceholder (path name : String) (p : Placeholder) : Bool :=
  ((Path.placeholders path).lookup name).any fun text => text.toList.isSuffixOf p.text

/-- The placeholders of a path with the names that took them. Names come one after another, and each
takes the first free placeholder that ends with its text. -/
def takers? (path : String) (names : List String) : Option (List (Placeholder × Option String)) :=
  seatAll? (endsPlaceholder path) names ((Path.scan path.toList).map fun p => (p, none))

/-- Every name takes a placeholder, and a placeholder whose name is declared is taken whole and under
its own name. -/
def Covered (path : String) (operation : Operation) : Prop :=
  ∃ seats, takers? path (pathNames path operation) = some seats ∧
    ∀ p taker, (p, taker) ∈ seats → String.ofList p.name ∈ operation.parameters.map (·.name) →
      taker = some (String.ofList p.name) ∧
        (Path.placeholders path).lookup (String.ofList p.name) = some (String.ofList p.text)

/-- A method that sends every argument of the path in its URL, and no placeholder of a parameter as a
literal. -/
structure BindsAll (base path : String) (operation : Operation) (method : Method) : Prop where
  arguments : ∀ argument ∈ method.arguments, argument.target.location = some Location.path.label →
    ∃ value ∈ urlValues method.request.url, argument.name ∈ value.names
  placeholders : ∀ before p after, Path.Occurs path.toList before p after →
    String.ofList p.name ∈ operation.parameters.map (·.name) →
    ∃ left value right, method.request.url = left ++ .value value :: right ∧
      spelled? (placeholderOf? path method.arguments) left = some (base.toList ++ before) ∧
      spelled? (placeholderOf? path method.arguments) right = some after ∧
      (value.target? method.arguments).map (·.name) = some (String.ofList p.name)

/-! ### Bindings and names -/

def boundName (arguments : List Argument) (binding : UrlBinding) : String :=
  ((binding.2.target? arguments).map (·.name)).getD ""

theorem Binds.boundName {path : String} {arguments : List Argument} {target : Target}
    {binding : UrlBinding} (binds : Binds path arguments target binding) :
    boundName arguments binding = target.name := by
  rw [Bindery.boundName, binds.target, Option.map_some, Option.getD_some]

section Operation

variable {path : String} {operation : Operation} {definitions : Definitions}

theorem senders_targets : (buildArguments path operation definitions).value.senders.map (·.target) =
    (orderParameters operation.parameters).map (targetOf (Path.placeholders path)) := by
  unfold ArgumentList.senders
  -- Ungrouped, arguments and parameters are in the same order; grouped, the first argument stands for the parameter.
  cases grouped : (buildArguments path operation definitions).value.grouped with
  | false =>
    rw [if_neg (by simp), ← served_parameters grouped, ← served_arguments grouped, List.map_map,
      List.map_map]
    exact List.map_congr_left fun pair member => (isOf_of_mem_served grouped member).target
  | true =>
    obtain ⟨parameter, alone, something, targets⟩ := grouped_arguments grouped
    obtain ⟨first, rest, arguments⟩ := List.exists_cons_of_ne_nil something
    have target := targets first (by simp [arguments])
    have ordered : orderParameters operation.parameters = [parameter] :=
      List.perm_singleton.mp (alone ▸ orderParameters_perm operation.parameters)
    simp [arguments, ordered, target]

theorem senders_pathNames :
    ((buildArguments path operation definitions).value.senders.filter (·.isAt .path)).map (·.target.name) =
      pathNames path operation := by
  -- Filter and name depend on the target alone.
  have onTargets : ∀ senders : List Argument, (senders.filter (·.isAt .path)).map (·.target.name) =
      ((senders.map (·.target)).filter fun target =>
        decide (target.location = some Location.path.label)).map (·.name) := by
    intro senders
    rw [List.filter_map, List.map_map]
    refine congrArg _ (List.filter_congr fun argument _ => ?_)
    rw [Bool.eq_iff_iff, Argument.isAt_iff]
    simp
  rw [onTargets, senders_targets, List.filter_map, List.map_map, pathNames]
  simp only [Function.comp_def, targetOf_location]
  rfl

variable (quiet : ∀ argument ∈ (buildArguments path operation definitions).value.senders,
  argument.isAt .path = true → ((Path.placeholders path).lookup argument.target.name).isSome = true)

include quiet

/-- Without a missing placeholder there is a value for every name in the path. -/
theorem bindings_names :
    (buildArguments path operation definitions).value.bindings.map
      (boundName (buildArguments path operation definitions).value.arguments) = pathNames path operation := by
  rw [← @senders_pathNames path operation definitions, ArgumentList.bindings, List.map_filterMap,
    buildArguments_placeholders]
  rw [← List.filterMap_eq_map]
  refine List.filterMap_congr fun argument member => ?_
  obtain ⟨sender, inPath⟩ := List.mem_filter.mp member
  obtain ⟨text, found⟩ := Option.isSome_iff_exists.mp (quiet argument sender inPath)
  have binds := binds_of_sender path operation definitions sender found
  simp only [found, Option.map_some, Function.comp, binds.boundName]

/-- Every argument of the path is carried by a value. -/
theorem exists_carrier {argument : Argument}
    (member : argument ∈ (buildArguments path operation definitions).value.arguments)
    (inPath : argument.target.location = some Location.path.label) :
    ∃ binding ∈ (buildArguments path operation definitions).value.bindings,
      argument.name ∈ binding.2.names := by
  -- An argument is sent by itself or by the first one of its group.
  have carried : ∃ sender ∈ (buildArguments path operation definitions).value.senders,
      sender.target = argument.target ∧
        argument.name ∈ ((buildArguments path operation definitions).value.valueOf sender).names := by
    unfold ArgumentList.senders ArgumentList.valueOf
    cases grouped : (buildArguments path operation definitions).value.grouped with
    | false => exact ⟨argument, member, rfl, by simp [Value.names]⟩
    | true =>
      obtain ⟨parameter, -, something, targets⟩ := grouped_arguments grouped
      obtain ⟨first, rest, arguments⟩ := List.exists_cons_of_ne_nil something
      have same := (targets first (by simp [arguments])).trans (targets argument member).symm
      refine ⟨first, by simp [arguments], same, ?_⟩
      rw [if_pos rfl, groupValue_names]
      exact List.mem_map_of_mem member
  obtain ⟨sender, among, same, here⟩ := carried
  have sent : sender.isAt .path = true := Argument.isAt_iff.mpr (same ▸ inPath)
  obtain ⟨text, found⟩ := Option.isSome_iff_exists.mp (quiet sender among sent)
  refine ⟨(text, (buildArguments path operation definitions).value.valueOf sender), ?_, here⟩
  refine List.mem_filterMap.mpr ⟨sender, List.mem_filter.mpr ⟨among, sent⟩, ?_⟩
  rw [buildArguments_placeholders, found, Option.map_some]

end Operation

/-- An argument is carried by one value. -/
theorem carrier_unique {path : String} {operation : Operation} {definitions : Definitions}
    {binding other : UrlBinding} {name : String}
    (first : binding ∈ (buildArguments path operation definitions).value.bindings)
    (second : other ∈ (buildArguments path operation definitions).value.bindings)
    (here : name ∈ binding.2.names) (there : name ∈ other.2.names) : binding.2 = other.2 := by
  have disjoint := (List.nodup_flatMap.mp (bindings_nodup path operation definitions)).2
  have symmetric : Std.Symm (Function.onFun List.Disjoint Value.names) :=
    ⟨fun _ _ apart _ there here => apart here there⟩
  -- Two different values would share the name, but their names are disjoint.
  by_contra differ
  exact disjoint.forall (List.mem_map_of_mem first) (List.mem_map_of_mem second) differ here there

theorem values_nodup (path : String) (operation : Operation) (definitions : Definitions) :
    ((buildArguments path operation definitions).value.bindings.map Prod.snd).Nodup := by
  have disjoint := (List.nodup_flatMap.mp (bindings_nodup path operation definitions)).2
  refine disjoint.imp_of_mem fun {value other} member _ apart same => ?_
  obtain ⟨binding, bound, rfl⟩ := List.mem_map.mp member
  obtain ⟨target, -, binds⟩ := exists_binds path operation definitions bound
  -- Equal values would share a name, for every value has one.
  obtain ⟨name, rest, names⟩ := List.exists_cons_of_ne_nil binds.something
  have carried : name ∈ binding.2.names := by simp [names]
  exact apart carried (same ▸ carried)

/-! ### Seats and places -/

/-- Sites before any value has come. -/
def freeSites (sites : List Site) : Occupancy := sites.map fun site => (site, none)

theorem siteMarks_free (sites : List Site) :
    siteMarks (freeSites sites) = letters (sites.flatMap Site.content) := by
  induction sites with
  | nil => rfl
  | cons site sites ih =>
    rw [List.flatMap_cons, letters_append, ← ih]
    rfl

theorem shows_start {template : String} {text : List Char} (same : template.toList = text)
    (layout : Layout text) : Shows [.text template] (freeSites layout.sites) layout.tail := by
  refine ⟨.singleton _, ?_, ?_⟩
  · intro site binding member
    obtain ⟨other, -, same⟩ := List.mem_map.mp member
    cases same
  · have whole : letters template.toList = letters (layout.sites.flatMap Site.content ++ layout.tail) :=
      congrArg letters (same.trans layout.joined)
    rw [marks, marks, List.append_nil, whole, letters_append, siteMarks_free]

section Places

variable {url : List UrlPart} {spots : Occupancy} {tail : List Char} (shows : Shows url spots tail)
  {spell : Value → Option (List Char)}
  (spells : ∀ site binding, (site, some binding) ∈ spots → spell binding.2 = some binding.1.toList)

include shows spells

theorem Shows.spelled_part {part : Occupancy} (among : part ⊆ spots) (x : List Char) :
    spelledMarks? spell (siteMarks part ++ letters x) = some (contents part ++ x) :=
  spelled_siteMarks (fun site binding member => shows.proper site binding (among member))
    (fun site binding member => spells site binding (among member)) x

omit spells in
/-- A value that has taken a place is in the URL. -/
theorem Shows.mem_urlValues {site : Site} {binding : UrlBinding} (taken : (site, some binding) ∈ spots) :
    binding.2 ∈ urlValues url := by
  obtain ⟨earlier, later, seats⟩ := List.append_of_mem taken
  have row : marks url = (siteMarks earlier ++ letters (site.without binding.1)) ++
      .value binding.2 :: (siteMarks later ++ letters tail) := by
    rw [shows.row, seats, siteMarks_append, siteMarks]
    simp
  obtain ⟨left, right, split, -, -⟩ := split_marks row
  simp [split, urlValues]

/-- A value that has taken a whole placeholder stands in its place. -/
theorem Shows.value_of_seat {earlier later : Occupancy} {site : Site} {binding : UrlBinding}
    (seats : spots = earlier ++ (site, some binding) :: later)
    (whole : binding.1.toList = site.placeholder.text) :
    ∃ left right, url = left ++ .value binding.2 :: right ∧
      spelled? spell left = some (contents earlier ++ site.gap) ∧
      spelled? spell right = some (contents later ++ tail) := by
  -- With its whole placeholder taken, nothing but the gap is left of the site.
  have gap : site.without binding.1 = site.gap := by
    have parts : site.without binding.1 ++ binding.1.toList = site.content :=
      without_append (whole ▸ List.suffix_refl _)
    rw [whole] at parts
    exact List.append_cancel_right parts
  have row : marks url = (siteMarks earlier ++ letters site.gap) ++
      .value binding.2 :: (siteMarks later ++ letters tail) := by
    rw [shows.row, seats, siteMarks_append, siteMarks, gap]
    simp
  obtain ⟨left, right, split, before, after⟩ := split_marks row
  refine ⟨left, right, split, ?_, ?_⟩
  · rw [← spelledMarks?_marks, before]
    exact shows.spelled_part spells (by simp [seats]) _
  · rw [← spelledMarks?_marks, after]
    exact shows.spelled_part spells (by simp [seats]) _

/-- A value that stands in the place of a placeholder has taken it whole. -/
theorem Shows.seat_of_value (blank : Path.IsBlank tail) {earlier later : Occupancy} {site : Site}
    {taken : Option UrlBinding} (seats : spots = earlier ++ (site, taken) :: later)
    {left right : List UrlPart} {value : Value} (split : url = left ++ .value value :: right)
    (before : spelled? spell left = some (contents earlier ++ site.gap))
    (after : spelled? spell right = some (contents later ++ tail)) :
    ∃ binding, taken = some binding ∧ binding.2 = value ∧ binding.1.toList = site.placeholder.text := by
  have row : siteMarks spots ++ letters tail = marks left ++ .value value :: marks right := by
    rw [← shows.row, split, marks_append, marks]
  obtain ⟨front, other, binding, back, seats', same, start, ending⟩ := split_siteMarks row
  rw [← spelledMarks?_marks, start, shows.spelled_part spells (by simp [seats'])] at before
  rw [← spelledMarks?_marks, ending, shows.spelled_part spells (by simp [seats'])] at after
  -- What follows the value has as many placeholders as sites, so the site of the value is the given one.
  have scans := congrArg Path.scan (Option.some.inj after)
  simp only [contents, Path.scan_sites _ blank] at scans
  have lengths : back.length = later.length := by simpa using congrArg List.length scans
  have same_seats := List.append_inj' (seats'.symm.trans seats) (by simp [lengths])
  obtain ⟨rfl, rest⟩ := same_seats
  cases (List.cons.inj rest).1
  have gap : site.without binding.1 = site.gap := List.append_cancel_left (Option.some.inj before)
  have parts := without_append (shows.proper site binding (by simp [seats])).2
  rw [gap] at parts
  exact ⟨binding, rfl, same, List.append_cancel_left parts⟩

end Places

/-! ### Methods -/

/-- The names take the placeholders that the values take. -/
theorem takers?_eq {base path : String} {operation : Operation} {definitions : Definitions}
    (plain : '\x7b' ∉ base.toList) (layout : Layout (base.toList ++ path.toList))
    (quiet : ∀ argument ∈ (buildArguments path operation definitions).value.senders,
      argument.isAt .path = true →
        ((Path.placeholders path).lookup argument.target.name).isSome = true) :
    takers? path (pathNames path operation) =
      (seatAll? endsSite (buildArguments path operation definitions).value.bindings
        (freeSites layout.sites)).map (List.map (renameSeat (·.placeholder)
          (boundName (buildArguments path operation definitions).value.arguments))) := by
  have seats : (Path.scan path.toList).map (fun p => (p, (none : Option String))) =
      (freeSites layout.sites).map (renameSeat (·.placeholder)
        (boundName (buildArguments path operation definitions).value.arguments)) := by
    rw [layout.scanned plain, freeSites, List.map_map, List.map_map]
    rfl
  rw [takers?, seats, ← bindings_names quiet]
  -- Taking seats by values and by names is the same, because a value ends a site just if its name does.
  refine Path.seatAll?_map _ _ (fun binding member site => ?_) _
  obtain ⟨target, -, binds⟩ := exists_binds path operation definitions member
  rw [endsPlaceholder, binds.boundName, binds.text]
  rfl

/-- All arguments of the path are in a URL exactly if all values for it are. -/
theorem arguments_bound_iff {path : String} {operation : Operation} {definitions : Definitions}
    (quiet : ∀ argument ∈ (buildArguments path operation definitions).value.senders,
      argument.isAt .path = true →
        ((Path.placeholders path).lookup argument.target.name).isSome = true)
    {values : List Value}
    (known : values ⊆ (buildArguments path operation definitions).value.bindings.map Prod.snd) :
    (∀ argument ∈ (buildArguments path operation definitions).value.arguments,
      argument.target.location = some Location.path.label → ∃ value ∈ values, argument.name ∈ value.names) ↔
      ∀ binding ∈ (buildArguments path operation definitions).value.bindings, binding.2 ∈ values := by
  constructor
  · intro all binding member
    obtain ⟨target, inPath, binds⟩ := exists_binds path operation definitions member
    -- Take any argument of the value. It is in the URL within some value, which can only be this one.
    obtain ⟨name, rest, names⟩ := List.exists_cons_of_ne_nil binds.something
    have carried : name ∈ binding.2.names := by simp [names]
    obtain ⟨argument, found, rfl⟩ := Option.map_eq_some_iff.mp (binds.owned name carried)
    have named : argument.name = name := by simpa using List.find?_some found
    obtain ⟨value, present, here⟩ := all argument (List.mem_of_find?_eq_some found) inPath
    obtain ⟨other, bound, rfl⟩ := List.mem_map.mp (known present)
    exact carrier_unique member bound carried (named ▸ here) ▸ present
  · intro all argument member inPath
    obtain ⟨binding, bound, carried⟩ := exists_carrier quiet member inPath
    exact ⟨binding.2, all binding bound, carried⟩

/-- Placeholders of some names have become values of those names exactly if they are taken whole and
under their own names. -/
theorem Shows.placeholders_iff {base path : String} {arguments : List Argument} {url : List UrlPart}
    {spots : Occupancy} (plain : '\x7b' ∉ base.toList) (layout : Layout (base.toList ++ path.toList))
    (shows : Shows url spots layout.tail) (places : spots.map Prod.fst = layout.sites)
    (bound : ∀ site binding, (site, some binding) ∈ spots → ∃ target, Binds path arguments target binding)
    (names : List String) :
    (∀ before p after, Path.Occurs path.toList before p after → String.ofList p.name ∈ names →
      ∃ left value right, url = left ++ .value value :: right ∧
        spelled? (placeholderOf? path arguments) left = some (base.toList ++ before) ∧
        spelled? (placeholderOf? path arguments) right = some after ∧
        (value.target? arguments).map (·.name) = some (String.ofList p.name)) ↔
      ∀ p taker, (p, taker) ∈ spots.map (renameSeat (·.placeholder) (boundName arguments)) →
        String.ofList p.name ∈ names →
        taker = some (String.ofList p.name) ∧
          (Path.placeholders path).lookup (String.ofList p.name) = some (String.ofList p.text) := by
  have spells : ∀ site binding, (site, some binding) ∈ spots →
      placeholderOf? path arguments binding.2 = some binding.1.toList := fun site binding member =>
    (bound site binding member).elim fun _ binds => binds.spells
  constructor
  · intro values p taker member named
    obtain ⟨⟨site, taken⟩, here, same⟩ := List.mem_map.mp member
    cases same
    -- From a seat to the URL: the value at the place of the site has taken the site whole.
    obtain ⟨earlier, later, seats⟩ := List.append_of_mem here
    have sites : layout.sites = earlier.map Prod.fst ++ site :: later.map Prod.fst := by
      simp [← places, seats]
    obtain ⟨before, start, occurs⟩ := layout.occurs_of_site plain sites
    obtain ⟨left, value, right, split, front, back, target⟩ := values before _ _ occurs named
    rw [start] at front
    obtain ⟨binding, rfl, rfl, whole⟩ := shows.seat_of_value spells layout.blank seats split front back
    obtain ⟨goal, binds⟩ := bound site binding here
    rw [binds.target, Option.map_some, Option.some.injEq] at target
    refine ⟨by simp [binds.boundName, target], ?_⟩
    rw [← whole, String.ofList_toList, ← target]
    exact binds.text
  · intro takers before p after occurs named
    -- From the URL to a seat: the occurrence belongs to a site, whose taker stands for it in the URL.
    obtain ⟨earlier, site, later, sites, rfl, start, rfl⟩ := layout.site_of_occurs plain occurs
    obtain ⟨front, rest, seats, rfl, others⟩ := List.map_eq_append_iff.mp (places.trans sites)
    obtain ⟨⟨site, taken⟩, back, rfl, rfl, rfl⟩ := List.map_eq_cons_iff.mp others
    have here : (site, taken) ∈ spots := by simp [seats]
    obtain ⟨taker, text⟩ := takers site.placeholder _ (List.mem_map_of_mem here) named
    obtain ⟨binding, rfl, name⟩ := Option.map_eq_some_iff.mp taker
    obtain ⟨target, binds⟩ := bound site binding here
    rw [binds.boundName] at name
    have whole : binding.1.toList = site.placeholder.text := by
      have same := binds.text.symm.trans (name ▸ text)
      rw [Option.some.inj same, String.toList_ofList]
    obtain ⟨left, right, split, front', back'⟩ := shows.value_of_seat spells seats whole
    refine ⟨left, binding.2, right, split, ?_, back', ?_⟩
    · rw [start]
      exact front'
    · rw [binds.target, Option.map_some, name]

section Compiled

variable {name verb base path : String} {operation : Operation} {definitions : Definitions}

theorem bindings_isToken {binding : UrlBinding}
    (member : binding ∈ (buildArguments path operation definitions).value.bindings) :
    Path.IsToken binding.1.toList := by
  obtain ⟨target, -, binds⟩ := exists_binds path operation definitions member
  exact Path.isToken_of_lookup binds.text

variable {method : Noted Method}
  (compiled : compileOperation name verb base path operation definitions = .ok method)
include compiled

theorem compiled_urlValues :
    urlValues method.value.request.url ⊆
      (buildArguments path operation definitions).value.bindings.map Prod.snd := by
  rw [(compileOperation_path compiled).1]
  exact (urlValues_bindAll_text _ _).subset

/-- Without a notice, every parameter that is sent in the path has a placeholder. -/
theorem compiled_placeholders (quiet : ∀ missing place, Notice.missingPlaceholder missing place ∉ method.notices)
    {argument : Argument} (sender : argument ∈ (buildArguments path operation definitions).value.senders)
    (inPath : argument.isAt .path = true) :
    ((Path.placeholders path).lookup argument.target.name).isSome = true := by
  cases text : (Path.placeholders path).lookup argument.target.name with
  | some _ => rfl
  | none =>
    -- A missing placeholder would have been noted.
    have noted := (compileOperation_path compiled).2
      (List.mem_map.mpr ⟨argument, by simp [sender, inPath, text], rfl⟩)
    exact absurd noted (quiet argument.target.name path)

end Compiled

/-- A method binds everything exactly if no parameter and no placeholder of a parameter is left
over. -/
theorem compileOperation_bindsAll_iff {name verb base path : String} {operation : Operation}
    {definitions : Definitions} {method : Noted Method} (plain : '\x7b' ∉ base.toList)
    (compiled : compileOperation name verb base path operation definitions = .ok method)
    (quiet : ∀ missing place, Notice.missingPlaceholder missing place ∉ method.notices) :
    BindsAll base path operation method.value ↔ Covered path operation := by
  obtain ⟨request, -, -, -, arguments, -⟩ := compileOperation_eq_ok compiled
  have url := (compileOperation_path compiled).1
  have found : ∀ argument ∈ (buildArguments path operation definitions).value.senders,
      argument.isAt .path = true →
        ((Path.placeholders path).lookup argument.target.name).isSome = true :=
    fun _ sender inPath => compiled_placeholders compiled quiet sender inPath
  obtain ⟨layout⟩ := Path.exists_layout (base.toList ++ path.toList)
  have start : Shows [.text (base ++ path)] (freeSites layout.sites) layout.tail :=
    shows_start String.toList_append layout
  have tokens : ∀ binding ∈ (buildArguments path operation definitions).value.bindings,
      Path.IsToken binding.1.toList := fun _ member => bindings_isToken member
  have seats := takers?_eq plain layout found
  have bound := arguments_bound_iff found (compiled_urlValues compiled)
  cases seated : seatAll? endsSite (buildArguments path operation definitions).value.bindings
      (freeSites layout.sites) with
  | none =>
    rw [seated, Option.map_none] at seats
    refine iff_of_false (fun binds => ?_) (fun ⟨_, taken, _⟩ => by simp [seats] at taken)
    have distinct : ((buildArguments path operation definitions).value.bindings.map Prod.snd ++
        urlValues [.text (base ++ path)]).Nodup := by
      simpa [urlValues] using values_nodup path operation definitions
    obtain ⟨binding, member, absent⟩ := start.unseated layout.blank tokens distinct seated
    rw [← url] at absent
    exact absent (bound.mp (arguments ▸ binds.arguments) binding member)
  | some spots =>
    rw [seated, Option.map_some] at seats
    have shows : Shows method.value.request.url spots layout.tail := by
      rw [url]
      exact start.run layout.blank tokens seated
    have taken : ∀ binding ∈ (buildArguments path operation definitions).value.bindings,
        binding.2 ∈ urlValues method.value.request.url := fun binding member =>
      (Path.seatAll?_guest seated member).elim fun _ seat => shows.mem_urlValues seat
    have places : spots.map Prod.fst = layout.sites := by
      simp [Path.seatAll?_places seated, freeSites, Function.comp_def]
    have takers : ∀ site binding, (site, some binding) ∈ spots → ∃ target,
        Binds path method.value.arguments target binding := by
      intro site binding member
      rcases Path.seatAll?_known seated member with free | guest
      · obtain ⟨other, -, same⟩ := List.mem_map.mp free
        cases same
      · obtain ⟨target, -, binds⟩ := exists_binds path operation definitions guest
        exact ⟨target, arguments ▸ binds⟩
    have placeholders := shows.placeholders_iff plain layout places takers
      (operation.parameters.map (·.name))
    constructor
    · intro binds
      exact ⟨_, seats, arguments ▸ placeholders.mp binds.placeholders⟩
    · rintro ⟨rows, same, covered⟩
      cases seats.symm.trans same
      exact ⟨arguments ▸ bound.mpr taken, placeholders.mpr (arguments ▸ covered)⟩

/-- An operation with one parameter, sent in the path. -/
private def byIdentifier : Operation where
  parameters := [{ name := "id", place := some "path", required := true }]

/-- A placeholder that stands alone is bound. -/
theorem single_placeholder_bound :
    ∃ method, compileOperation "GetItem" "get" "https://host" "/items/\x7bid\x7d" byIdentifier [] = .ok method ∧
      BindsAll "https://host" "/items/\x7bid\x7d" byIdentifier method.value := by
  have compiles : ((compileOperation "GetItem" "get" "https://host" "/items/\x7bid\x7d" byIdentifier
      []).toOption.all fun method => method.notices.isEmpty) = true := by decide +kernel
  have succeeds : (compileOperation "GetItem" "get" "https://host" "/items/\x7bid\x7d" byIdentifier
      []).toOption.isSome = true := by decide +kernel
  cases compiled : compileOperation "GetItem" "get" "https://host" "/items/\x7bid\x7d" byIdentifier [] with
  | error failure =>
    rw [compiled] at succeeds
    cases succeeds
  | ok method =>
    have covered : Covered "/items/\x7bid\x7d" byIdentifier := by
      refine ⟨[(⟨['i', 'd'], ['\x7b', 'i', 'd', '\x7d']⟩, some "id")], by decide +kernel, ?_⟩
      intro p taker member _
      cases List.mem_singleton.mp member
      exact ⟨by decide +kernel, by decide +kernel⟩
    have silent : method.notices = [] := by simpa [compiled, Except.toOption] using compiles
    exact ⟨method, rfl, (compileOperation_bindsAll_iff (by decide) compiled (by simp [silent])).mpr covered⟩

/-- The second of two equal placeholders stays a literal. -/
theorem repeated_placeholder_unbound :
    ∃ method, compileOperation "GetItem" "get" "https://host" "/a/\x7bid\x7d/b/\x7bid\x7d" byIdentifier [] =
        .ok method ∧
      (byIdentifier.parameters.map fun parameter => (parameter.name, parameter.place)).Nodup ∧
      method.notices = [] ∧
      ¬ BindsAll "https://host" "/a/\x7bid\x7d/b/\x7bid\x7d" byIdentifier method.value := by
  have compiles : (compileOperation "GetItem" "get" "https://host" "/a/\x7bid\x7d/b/\x7bid\x7d" byIdentifier
      []).toOption.map (fun method => (method.value.request.url, method.notices.isEmpty)) =
      some ([.text "https://host/a/", .value (.argument "id"), .text "/b/\x7bid\x7d"], true) := by decide +kernel
  cases compiled : compileOperation "GetItem" "get" "https://host" "/a/\x7bid\x7d/b/\x7bid\x7d" byIdentifier
      [] with
  | error failure => simp [compiled, Except.toOption] at compiles
  | ok method =>
    simp only [compiled, Except.toOption, Option.map_some, Option.some.injEq, Prod.mk.injEq,
      List.isEmpty_iff] at compiles
    obtain ⟨url, silent⟩ := compiles
    refine ⟨method, rfl, by decide, silent, fun binds => ?_⟩
    have occurs : Path.Occurs "/a/\x7bid\x7d/b/\x7bid\x7d".toList "/a/\x7bid\x7d/b/".toList
        ⟨['i', 'd'], ['\x7b', 'i', 'd', '\x7d']⟩ [] := ⟨by decide, by decide +kernel⟩
    obtain ⟨left, value, right, split, -, spelled, -⟩ := binds.placeholders _ _ _ occurs (by decide)
    rw [url] at split
    -- The only value in the URL has a literal behind it.
    obtain ⟨rfl, rfl, rfl⟩ : left = [.text "https://host/a/"] ∧ value = .argument "id" ∧
        right = [.text "/b/\x7bid\x7d"] := by
      cases left with
      | nil => cases split
      | cons first left =>
        cases left with
        | nil =>
          cases split
          exact ⟨rfl, rfl, rfl⟩
        | cons second left =>
          cases left with
          | nil => cases split
          | cons third left => simp at split
    simp [spelled?] at spelled

end Bindery
