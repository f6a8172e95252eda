import Bindery.Proofs.Name.Identifiers
import Bindery.Proofs.Text.NullFree
import Bindery.Source.Legality
import Mathlib.Data.List.TakeWhile

/-!
# Legal source has a text

Source that is legal, and whose expressions are not too deep, is printed. Its text has no null character,
whatever the texts in it hold: names have none, and literals escape it.
-/
namespace Bindery.Source

open Bindery.Text (IsVisible)

/-! ### Pieces of text -/

theorem nullFree_commaSeparated {items : List String} (free : ∀ item ∈ items, NullFree item) :
    NullFree (commaSeparated items) := nullFree_intercalate (by decide) free

theorem nullFree_parenthesized {closed : Bool} {s : String} (free : NullFree s) :
    NullFree (parenthesized closed s) := by
  unfold parenthesized
  split
  · exact free
  · exact (NullFree.append (by decide) free).append (by decide)

theorem nullFree_textLiteral (inner : Bool) (value : String) : NullFree (textLiteral inner value) := by
  unfold textLiteral
  split
  · exact nullFree_of_visible (Text.innerLiteral_visible value)
  · exact nullFree_of_visible fun c member => .inl (Text.literal_printable value c member)

theorem nullFree_toString (n : Int) : NullFree (toString n) := by
  have digits : ∀ m : Nat, NullFree (toString m) := fun m member =>
    absurd (toString_word m _ member) (by decide)
  cases n with
  | ofNat m => exact digits m
  | negSucc m => exact NullFree.append (by decide) (digits (m + 1))

/-- Pieces are enclosed without a null character, whatever they hold. -/
theorem enclosePieces_visible (quotes : List Text.Quote) (pieces : List (List Char × Bool)) :
    ∀ c ∈ (enclosePieces quotes pieces).1, IsVisible c := by
  induction pieces generalizing quotes with
  | nil => simp [enclosePieces]
  | cons piece rest ih =>
    simp only [enclosePieces]
    rw [List.forall_mem_append]
    exact ⟨Text.enclose_visible _ _ _, ih _⟩

theorem nullFree_formattedLiteral (pieces : List (List Char × Bool)) : NullFree (formattedLiteral pieces) := by
  have body := enclosePieces_visible Text.Quote.all pieces
  simp only [formattedLiteral]
  generalize enclosePieces Text.Quote.all pieces = enclosed at body ⊢
  -- The quotes around the body are those left over for it, if there are any.
  have quote : ∀ c ∈ (enclosed.2.head?.map Text.Quote.text).getD [], IsVisible c := by
    cases enclosed.2.head? with
    | none => simp
    | some first => exact first.text_visible
  refine nullFree_of_visible ?_
  rw [String.toList_ofList, List.cons_append, List.cons_append, List.forall_mem_cons,
    List.forall_mem_append, List.forall_mem_append]
  exact ⟨.inl (by decide), ⟨quote, body⟩, quote⟩

/-! ### Names -/

/-- A name consists of blanks and of what is left without those around it. -/
theorem mem_bareName_or_gap {name : String} {c : Char} (member : c ∈ name.toList) :
    c ∈ (bareName name).toList ∨ isGap c = true := by
  rw [bareName, String.toList_ofList, List.mem_reverse]
  rw [← List.takeWhile_append_dropWhile (p := isGap) (l := name.toList)] at member
  -- The blanks in front are taken off first, and then those at the end.
  rcases List.mem_append.mp member with gap | rest
  · exact .inr (List.mem_takeWhile_imp gap)
  · rw [← List.mem_reverse, ← List.takeWhile_append_dropWhile (p := isGap)
      (l := (name.toList.dropWhile isGap).reverse)] at rest
    rcases List.mem_append.mp rest with gap | bare
    · exact .inr (List.mem_takeWhile_imp gap)
    · exact .inl bare

theorem nullFree_of_bareName {name : String} (free : NullFree (bareName name)) : NullFree name := by
  intro member
  rcases mem_bareName_or_gap member with bare | gap
  · exact free bare
  · exact absurd gap (by decide)

theorem nullFree_of_isIdentifier {name : String} (identifier : Text.isIdentifier name = true) :
    NullFree name := by
  intro member
  unfold Text.isIdentifier at identifier
  split at identifier
  · cases identifier
  next c rest chars =>
    rw [Bool.and_eq_true, List.all_eq_true] at identifier
    rw [chars] at member
    rcases List.mem_cons.mp member with rfl | later
    · exact absurd identifier.1 (by decide)
    · exact absurd (identifier.2 _ later) (by decide)

theorem nullFree_of_isLegalName {name : String} (legal : isLegalName name = true) : NullFree name := by
  simp only [isLegalName, Bool.and_eq_true] at legal
  exact nullFree_of_bareName (nullFree_of_isIdentifier legal.1.1)

theorem nullFree_of_isValueName {name : String} (legal : isValueName name = true) : NullFree name := by
  rw [isValueName, Bool.or_eq_true, List.contains_iff_mem] at legal
  rcases legal with legal | constant
  · exact nullFree_of_isLegalName legal
  · refine nullFree_of_bareName ?_
    -- A name that is no identifier is a constant, of which there are four.
    have each : ∀ constant ∈ constantNames, NullFree constant := by
      simp [constantNames, NullFree]
    exact each _ constant

theorem nullFree_of_isLegalModule {module : String} (legal : isLegalModule module = true) :
    NullFree module := by
  intro member
  rw [isLegalModule, List.all_eq_true] at legal
  rcases @mem_splitOnAny_or_break (· = '.') _ _ member with dot | ⟨piece, among, inside⟩
  · exact absurd dot (by decide)
  · exact nullFree_of_isLegalName (legal piece among) (by rwa [String.toList_ofList])

/-! ### Expressions -/

/-- Is there a result, with a property? -/
def Gives {α : Type} (P : α → Prop) (result : Except PrintFault α) : Prop := ∃ value, result = .ok value ∧ P value

theorem Gives.pure {α : Type} {P : α → Prop} {value : α} (holds : P value) : Gives P (pure value) :=
  ⟨value, rfl, holds⟩

theorem Gives.bind {α β : Type} {P : α → Prop} {Q : β → Prop} {first : Except PrintFault α}
    {next : α → Except PrintFault β} (left : Gives P first) (right : ∀ value, P value → Gives Q (next value)) :
    Gives Q (first >>= next) := by
  obtain ⟨value, rfl, holds⟩ := left
  exact right value holds

def AllNullFree (items : List String) : Prop := ∀ item ∈ items, NullFree item

/-- Are an expression and all that is inside it legal as parts? -/
def Expr.IsSound (e : Expr) : Prop := ∀ part ∈ e.parts, part.isLegalPart = true

instance (e : Expr) : Decidable e.IsSound :=
  inferInstanceAs (Decidable (∀ part ∈ e.parts, part.isLegalPart = true))

/-- Are all expressions legal as parts? -/
def AllSound (items : List Expr) : Prop := ∀ part ∈ items, part.isLegalPart = true

theorem allSound_append {first second : List Expr} :
    AllSound (first ++ second) ↔ AllSound first ∧ AllSound second := List.forall_mem_append

theorem Expr.isSound_iff {e : Expr} : e.IsSound ↔ e.isLegalPart = true ∧ AllSound e.inside := List.forall_mem_cons

mutual

/-- A sound expression is printed without null characters. -/
theorem print_of_sound (inner : Bool) : ∀ e : Expr, e.IsSound → Gives NullFree (e.print inner)
  | .name id, sound => ⟨id, rfl, nullFree_of_isValueName (Expr.isSound_iff.mp sound).1⟩
  | .text value, _ => ⟨_, rfl, nullFree_textLiteral inner value⟩
  | .number value, _ => ⟨_, rfl, nullFree_toString value⟩
  | .none, _ => ⟨_, rfl, by decide⟩
  | .attribute base member, sound => by
    obtain ⟨own, inside⟩ := Expr.isSound_iff.mp sound
    refine (print_of_sound inner base inside).bind fun s free => .pure ?_
    exact ((nullFree_parenthesized free).append (by decide)).append (nullFree_of_isLegalName own)
  | .item base indices, sound => by
    obtain ⟨first, rest⟩ := allSound_append.mp (Expr.isSound_iff.mp sound).2
    refine (print_of_sound inner base first).bind fun s free =>
      (printAll_of_sound inner indices rest).bind fun others all => .pure ?_
    exact (((nullFree_parenthesized free).append (by decide)).append
      (nullFree_commaSeparated all)).append (by decide)
  | .call function arguments named, sound => by
    obtain ⟨own, inside⟩ := Expr.isSound_iff.mp sound
    obtain ⟨first, later⟩ := allSound_append.mp inside
    obtain ⟨callee, values⟩ := allSound_append.mp first
    refine (print_of_sound inner function callee).bind fun s free =>
      (printAll_of_sound inner arguments values).bind fun others all =>
        (printNamed_of_sound inner named (List.all_eq_true.mp own) later).bind fun more each => .pure ?_
    exact (((nullFree_parenthesized free).append (by decide)).append
      (nullFree_commaSeparated (List.forall_mem_append.mpr ⟨all, each⟩))).append (by decide)
  | .dict entries, sound => by
    refine (printEntries_of_sound inner entries (Expr.isSound_iff.mp sound).2).bind fun others all => .pure ?_
    exact (NullFree.append (by decide) (nullFree_commaSeparated all)).append (by decide)
  | .list items, sound => by
    refine (printAll_of_sound inner items (Expr.isSound_iff.mp sound).2).bind fun others all => .pure ?_
    exact (NullFree.append (by decide) (nullFree_commaSeparated all)).append (by decide)
  | .tuple items, sound => by
    refine (printAll_of_sound inner items (Expr.isSound_iff.mp sound).2).bind fun others all => ?_
    split
    · exact .pure ((NullFree.append (by decide) (all _ (List.mem_singleton_self _))).append (by decide))
    · exact .pure ((NullFree.append (by decide) (nullFree_commaSeparated all)).append (by decide))
  | .union left right, sound => by
    obtain ⟨first, second⟩ := allSound_append.mp (Expr.isSound_iff.mp sound).2
    refine (print_of_sound inner left first).bind fun s free =>
      (print_of_sound inner right second).bind fun t free' => .pure ?_
    exact ((nullFree_parenthesized free).append (by decide)).append (nullFree_parenthesized free')
  | .await operand, sound => by
    refine (print_of_sound inner operand (Expr.isSound_iff.mp sound).2).bind fun s free => .pure ?_
    exact NullFree.append (by decide) (nullFree_parenthesized free)
  | .same left right, sound => by
    obtain ⟨first, second⟩ := allSound_append.mp (Expr.isSound_iff.mp sound).2
    refine (print_of_sound inner left first).bind fun s free =>
      (print_of_sound inner right second).bind fun t free' => .pure ?_
    exact (free.append (by decide)).append free'
  | .differs left right, sound => by
    obtain ⟨first, second⟩ := allSound_append.mp (Expr.isSound_iff.mp sound).2
    refine (print_of_sound inner left first).bind fun s free =>
      (print_of_sound inner right second).bind fun t free' => .pure ?_
    exact (free.append (by decide)).append free'
  | .formatted pieces, sound => by
    -- What is interpolated was printed to see whether the literal is read back.
    have own : isReadBack pieces = true := (Expr.isSound_iff.mp sound).1
    unfold isReadBack at own
    split at own
    · cases own
    next printed done => exact ⟨_, by rw [Expr.print, done]; rfl, nullFree_formattedLiteral printed⟩

theorem printAll_of_sound (inner : Bool) : ∀ items : List Expr, AllSound (membersOf items) →
    Gives AllNullFree (printAll inner items)
  | [], _ => ⟨[], rfl, by simp [AllNullFree]⟩
  | item :: rest, sound => by
    obtain ⟨first, later⟩ := allSound_append.mp sound
    refine (print_of_sound inner item first).bind fun s free =>
      (printAll_of_sound inner rest later).bind fun others all => .pure ?_
    exact List.forall_mem_cons.mpr ⟨free, all⟩

theorem printNamed_of_sound (inner : Bool) : ∀ named : List (String × Expr),
    (∀ entry ∈ named, isLegalName entry.1 = true) → AllSound (membersOfNamed named) →
      Gives AllNullFree (printNamed inner named)
  | [], _, _ => ⟨[], rfl, by simp [AllNullFree]⟩
  | (name, value) :: rest, legal, sound => by
    obtain ⟨first, later⟩ := allSound_append.mp sound
    rw [List.forall_mem_cons] at legal
    refine (print_of_sound inner value first).bind fun s free =>
      (printNamed_of_sound inner rest legal.2 later).bind fun others all => .pure ?_
    exact List.forall_mem_cons.mpr ⟨((nullFree_of_isLegalName legal.1).append (by decide)).append free, all⟩

theorem printEntries_of_sound (inner : Bool) : ∀ entries : List (String × Expr),
    AllSound (membersOfNamed entries) → Gives AllNullFree (printEntries inner entries)
  | [], _ => ⟨[], rfl, by simp [AllNullFree]⟩
  | (key, value) :: rest, sound => by
    obtain ⟨first, later⟩ := allSound_append.mp sound
    refine (print_of_sound inner value first).bind fun s free =>
      (printEntries_of_sound inner rest later).bind fun others all => .pure ?_
    exact List.forall_mem_cons.mpr ⟨((nullFree_textLiteral inner key).append (by decide)).append free, all⟩

end

/-- Has the expression few enough levels to be printed? -/
def Expr.isShallow (e : Expr) : Bool := e.depth ≤ depthLimit

/-- A sound expression that is not too deep has a text. -/
theorem source_of_sound {e : Expr} (sound : e.IsSound) (shallow : e.isShallow = true) : Gives NullFree e.source := by
  rw [Expr.source, if_neg (Nat.not_lt.mpr (of_decide_eq_true shallow))]
  exact print_of_sound false e sound

theorem Expr.isLegalIn_iff {brackets : Nat} {e : Expr} :
    e.isLegalIn brackets = true ↔ e.IsSound ∧ brackets + e.nesting Expr.isBracketed ≤ bracketLimit := by
  rw [Expr.isLegalIn, Bool.and_eq_true, List.all_eq_true, decide_eq_true_eq]
  rfl

theorem Expr.isSound_of_isLegal {e : Expr} (legal : e.isLegal = true) : e.IsSound :=
  (Expr.isLegalIn_iff.mp legal).1

theorem Expr.isSound_of_isLegalTarget {e : Expr} (legal : e.isLegalTarget = true) : e.IsSound := by
  unfold Expr.isLegalTarget at legal
  split at legal
  · refine Expr.isSound_iff.mpr ⟨?_, fun _ member => nomatch member⟩
    simp only [Expr.isLegalPart, isValueName, legal, Bool.true_or]
  · exact Expr.isSound_of_isLegal legal

/-! ### Statements -/

def Parameter.isShallow (parameter : Parameter) : Bool :=
  parameter.hint.all Expr.isShallow && parameter.default.all Expr.isShallow

mutual

def Stmt.isShallow : Stmt → Bool
  | .importFrom .. | .reraise => true
  | .assign target value => target.isShallow && value.isShallow
  | .expression value | .return value => value.isShallow
  | .ifThen test body => test.isShallow && areShallowAll body
  | .tryExcept body _ _ handler => areShallowAll body && areShallowAll handler
  | .function _ _ positional keywordOnly returns _ body =>
    (positional ++ keywordOnly).all Parameter.isShallow && returns.isShallow && areShallowAll body
  | .classDef _ _ members => areShallowAll members

def areShallowAll : List Stmt → Bool
  | [] => true
  | statement :: rest => statement.isShallow && areShallowAll rest

end

/-- The text of something that may be missing, after a lead. -/
def optionalSource (lead : String) : Option Expr → Except PrintFault String
  | some e => (lead ++ ·) <$> e.source
  | Option.none => pure ""

theorem print_parameter (parameter : Parameter) : parameter.print = do
    let hint ← optionalSource ": " parameter.hint
    let default ← optionalSource "=" parameter.default
    return parameter.name ++ hint ++ default := by
  obtain ⟨name, hint, default⟩ := parameter
  cases hint <;> cases default <;> simp [Parameter.print, optionalSource]

theorem optionalSource_of_legal {lead : String} (free : NullFree lead) {part : Option Expr}
    (legal : part.all (Expr.isLegalIn 1) = true) (shallow : part.all Expr.isShallow = true) :
    Gives NullFree (optionalSource lead part) := by
  cases part with
  | none => exact .pure (by decide)
  | some e =>
    obtain ⟨s, printed, text⟩ := source_of_sound (Expr.isLegalIn_iff.mp legal).1 shallow
    exact ⟨lead ++ s, by rw [optionalSource, printed]; rfl, free.append text⟩

theorem print_parameter_of_legal {parameter : Parameter} (legal : parameter.isLegal = true)
    (shallow : parameter.isShallow = true) : Gives NullFree parameter.print := by
  simp only [Parameter.isLegal, Parameter.isShallow, Bool.and_eq_true] at legal shallow
  obtain ⟨⟨named, hinted⟩, defaulted⟩ := legal
  rw [print_parameter]
  refine (optionalSource_of_legal (by decide) hinted shallow.1).bind fun first free =>
    (optionalSource_of_legal (by decide) defaulted shallow.2).bind fun second free' => .pure ?_
  exact ((nullFree_of_isLegalName named).append free).append free'

theorem mapM_parameters_of_legal {parameters : List Parameter}
    (legal : ∀ parameter ∈ parameters, parameter.isLegal = true)
    (shallow : ∀ parameter ∈ parameters, parameter.isShallow = true) :
    Gives AllNullFree (parameters.mapM Parameter.print) := by
  induction parameters with
  | nil => exact ⟨[], rfl, by simp [AllNullFree]⟩
  | cons first rest ih =>
    rw [List.forall_mem_cons] at legal shallow
    rw [List.mapM_cons]
    refine (print_parameter_of_legal legal.1 shallow.1).bind fun s free =>
      (ih legal.2 shallow.2).bind fun others all => .pure ?_
    exact List.forall_mem_cons.mpr ⟨free, all⟩

theorem printParameters_of_legal {positional keywordOnly : List Parameter}
    (legal : areLegalParameters (positional ++ keywordOnly) = true)
    (shallow : (positional ++ keywordOnly).all Parameter.isShallow = true) :
    Gives NullFree (printParameters positional keywordOnly) := by
  rw [areLegalParameters, Bool.and_eq_true, List.all_eq_true] at legal
  obtain ⟨first, second⟩ := List.forall_mem_append.mp legal.1
  obtain ⟨first', second'⟩ := List.forall_mem_append.mp (List.all_eq_true.mp shallow)
  refine (mapM_parameters_of_legal first first').bind fun before free =>
    (mapM_parameters_of_legal second second').bind fun after free' => .pure ?_
  refine nullFree_commaSeparated (List.forall_mem_append.mpr ⟨free, ?_⟩)
  split
  · simp
  · exact List.forall_mem_cons.mpr ⟨by decide, free'⟩

theorem nullFree_indented (level : Nat) {line : String} (free : NullFree line) : NullFree (indented level line) := by
  refine NullFree.append (nullFree_ofList fun member => ?_) free
  exact absurd (List.mem_replicate.mp member).2 (by decide)

/-- The head of a function is printed by itself, whatever its body is. -/
theorem lines_function {level : Nat} {async : Bool} {name documentation : String}
    {positional keywordOnly : List Parameter} {returns : Expr} {body : List Stmt} (named : isLegalName name = true)
    (listed : areLegalParameters (positional ++ keywordOnly) = true)
    (shallow_list : (positional ++ keywordOnly).all Parameter.isShallow = true)
    (result : returns.isLegal = true) (shallow_result : returns.isShallow = true)
    (inside : Gives AllNullFree (linesOf (level + 1) body)) :
    Gives AllNullFree
      ((Stmt.function async name positional keywordOnly returns documentation body).lines level) := by
  refine (printParameters_of_legal listed shallow_list).bind fun parameters free =>
    (source_of_sound (Expr.isSound_of_isLegal result) shallow_result).bind fun type free' =>
      inside.bind fun rest all => .pure ?_
  -- The head, between the names and the parameters, and the documentation as a literal.
  have start : NullFree (if async then "async def " else "def ") := by cases async <;> decide
  have header := ((((start.append (nullFree_of_isLegalName named)).append (by decide : NullFree "(")).append
    free).append (by decide : NullFree ") -> ")).append free'
  refine List.forall_mem_cons.mpr ⟨by decide, List.forall_mem_cons.mpr
    ⟨nullFree_indented level (header.append (by decide)), List.forall_mem_cons.mpr ⟨?_, all⟩⟩⟩
  exact nullFree_indented _ (nullFree_of_visible (Text.docstring_visible documentation))

theorem lines_classDef {level : Nat} {name documentation : String} {members : List Stmt}
    (legal : isLegalName name = true) (inside : Gives AllNullFree (linesOf (level + 1) members)) :
    Gives AllNullFree ((Stmt.classDef name documentation members).lines level) := by
  refine inside.bind fun rest all => .pure ?_
  have header := (by decide : NullFree "class ").append (nullFree_of_isLegalName legal)
  refine List.forall_mem_cons.mpr ⟨by decide, List.forall_mem_cons.mpr
    ⟨nullFree_indented level (header.append (by decide)), List.forall_mem_cons.mpr ⟨?_, all⟩⟩⟩
  exact nullFree_indented _ (nullFree_of_visible (Text.docstring_visible documentation))

mutual

/-- A legal statement is printed without null characters if nothing in it is too deep. -/
theorem lines_of_legal : ∀ (level : Nat) (statement : Stmt), statement.isLegal = true →
    statement.isShallow = true →
    Gives AllNullFree (statement.lines level)
  | level, .importFrom module depth names, legal, _ => by
    simp only [Stmt.isLegal, Bool.and_eq_true, List.all_eq_true] at legal
    refine ⟨_, rfl, List.forall_mem_singleton.mpr (nullFree_indented level ?_)⟩
    have dots : NullFree (String.ofList (List.replicate depth '.')) :=
      nullFree_ofList fun member => absurd (List.mem_replicate.mp member).2 (by decide)
    have origin : NullFree (module.getD "") := by
      cases module with
      | none => decide
      | some name => exact nullFree_of_isLegalModule legal.1
    refine (((NullFree.append (by decide) dots).append origin).append (by decide)).append ?_
    exact nullFree_commaSeparated fun name member => nullFree_of_isLegalName (legal.2 name member)
  | level, .assign target value, legal, shallow => by
    simp only [Stmt.isLegal, Stmt.isShallow, Bool.and_eq_true] at legal shallow
    refine (source_of_sound (Expr.isSound_of_isLegalTarget legal.1) shallow.1).bind fun s free =>
      (source_of_sound (Expr.isSound_of_isLegal legal.2) shallow.2).bind fun t free' => .pure ?_
    exact List.forall_mem_singleton.mpr (nullFree_indented level ((free.append (by decide)).append free'))
  | level, .expression value, legal, shallow => by
    refine (source_of_sound (Expr.isSound_of_isLegal legal) shallow).bind fun s free => .pure ?_
    exact List.forall_mem_singleton.mpr (nullFree_indented level free)
  | level, .return value, legal, shallow => by
    refine (source_of_sound (Expr.isSound_of_isLegal legal) shallow).bind fun s free => .pure ?_
    exact List.forall_mem_singleton.mpr (nullFree_indented level (NullFree.append (by decide) free))
  | level, .reraise, _, _ =>
    ⟨_, rfl, List.forall_mem_singleton.mpr (nullFree_indented level (by decide))⟩
  | level, .ifThen test body, legal, shallow => by
    simp only [Stmt.isLegal, Stmt.isShallow, Bool.and_eq_true] at legal shallow
    refine (source_of_sound (Expr.isSound_of_isLegal legal.1) shallow.1).bind fun s free =>
      (linesOf_of_legal (level + 1) body legal.2 shallow.2).bind fun rest all => .pure ?_
    exact List.forall_mem_cons.mpr
      ⟨nullFree_indented level ((NullFree.append (by decide) free).append (by decide)), all⟩
  | level, .tryExcept body failure binder handler, legal, shallow => by
    simp only [Stmt.isLegal, Stmt.isShallow, Bool.and_eq_true] at legal shallow
    obtain ⟨⟨⟨first, caught⟩, bound⟩, second⟩ := legal
    refine (linesOf_of_legal (level + 1) body first shallow.1).bind fun before all =>
      (linesOf_of_legal (level + 1) handler second shallow.2).bind fun after all' => .pure ?_
    have clause := (((by decide : NullFree "except ").append (nullFree_of_isLegalName caught)).append
      (by decide : NullFree " as ")).append (nullFree_of_isLegalName bound)
    exact List.forall_mem_append.mpr
      ⟨List.forall_mem_cons.mpr ⟨nullFree_indented level (by decide), all⟩,
        List.forall_mem_cons.mpr ⟨nullFree_indented level (clause.append (by decide)), all'⟩⟩
  | level, .function async name positional keywordOnly returns documentation body, legal, shallow => by
    simp only [Stmt.isLegal, Stmt.isShallow, Bool.and_eq_true] at legal shallow
    obtain ⟨⟨⟨named, listed⟩, result⟩, inside⟩ := legal
    obtain ⟨⟨shallow_list, shallow_result⟩, shallow_body⟩ := shallow
    exact lines_function named listed shallow_list result shallow_result
      (linesOf_of_legal (level + 1) body inside shallow_body)
  | level, .classDef name documentation members, legal, shallow => by
    simp only [Stmt.isLegal, Stmt.isShallow, Bool.and_eq_true] at legal shallow
    exact lines_classDef legal.1 (linesOf_of_legal (level + 1) members legal.2 shallow)

theorem linesOf_of_legal : ∀ (level : Nat) (statements : List Stmt), areLegalAll statements = true →
    areShallowAll statements = true → Gives AllNullFree (linesOf level statements)
  | _, [], _, _ => ⟨[], rfl, by simp [AllNullFree]⟩
  | level, statement :: rest, legal, shallow => by
    simp only [areLegalAll, areShallowAll, Bool.and_eq_true] at legal shallow
    refine (lines_of_legal level statement legal.1 shallow.1).bind fun first all =>
      (linesOf_of_legal level rest legal.2 shallow.2).bind fun others all' => .pure ?_
    exact List.forall_mem_append.mpr ⟨all, all'⟩

end

theorem printModule_of_lines {statements : List Stmt} (printed : Gives AllNullFree (linesOf 0 statements)) :
    Gives NullFree (printModule statements) := by
  refine printed.bind fun lines all => ?_
  split
  · exact .pure (nullFree_intercalate (by decide) (List.forall_mem_cons.mp all).2)
  · exact .pure (nullFree_intercalate (by decide) all)

/-- A legal module has a text without null characters if no expression in it is too deep. -/
theorem printModule_of_legal {statements : List Stmt} (legal : areLegalAll statements = true)
    (shallow : areShallowAll statements = true) : Gives NullFree (printModule statements) :=
  printModule_of_lines (linesOf_of_legal 0 statements legal shallow)

end Bindery.Source
