import Bindery.Proofs.Data.Nesting
import Bindery.Proofs.Session.Log

/-!
# The shape of a request

A request is a call; if that is refused for want of a token, it is a call for one as well, and then the same call
again. What comes of the last call comes of the request. All this holds of replies that can be read: a reply that
means failure is read for the errors it lists, and one whose body is nested too deeply is no failure of the API but
ends the request in its own way.
-/
namespace Bindery

open Bindery.Data (Datum)
open Bindery.Network (Reply Response)

/-! ### What is sent of what is given -/

/-- Do arguments give these members under a name? -/
inductive IsGiven (arguments : List (String × Datum)) (name : String) : Option (List (String × Datum)) → Prop
  | missing (absent : arguments.lookup name = none) : IsGiven arguments name none
  | null (empty : arguments.lookup name = some .null) : IsGiven arguments name none
  | members {members : List (String × Datum)} (found : arguments.lookup name = some (.object members)) :
    IsGiven arguments name (some members)

/-- Are these the members given but for the nulls, in the same order? -/
inductive LeavesNulls : Option (List (String × Datum)) → Option (List (String × Datum)) → Prop
  | nothing : LeavesNulls none none
  | members {given sent : List (String × Datum)} (order : sent.Sublist given)
    (which : ∀ member, member ∈ sent ↔ member ∈ given ∧ member.2 ≠ .null) : LeavesNulls (some given) (some sent)

/-- Does a payload send what arguments give, but no nulls? The values of header fields are sent as texts, and a JSON
value as it is. -/
structure Payload.Carries (payload : Payload) (arguments : List (String × Datum)) : Prop where
  query : ∃ given, IsGiven arguments "params" given ∧ LeavesNulls given payload.query
  headers : ∃ given sent, IsGiven arguments "headers" given ∧ LeavesNulls given sent ∧
    payload.headers = sent.map fun fields => fields.map fun field => (field.1, field.2.display)
  json : payload.json = (arguments.lookup "json").getD .null
  form : ∃ given, IsGiven arguments "data" given ∧ LeavesNulls given payload.form
  files : ∃ given, IsGiven arguments "files" given ∧ LeavesNulls given payload.files

theorem namedPart_eq_ok_iff {arguments : List (String × Datum)} {name : String}
    {part : Option (List (String × Datum))} : namedPart arguments name = .ok part ↔ IsGiven arguments name part := by
  unfold namedPart
  constructor
  · intro named
    -- The argument is missing, null, an object, or something else, which is refused.
    split at named
    next absent =>
      cases named
      exact .missing absent
    next empty =>
      cases named
      exact .null empty
    next members found =>
      cases named
      exact .members found
    next => cases named
  · intro given
    cases given with
    | missing absent => rw [absent]
    | null empty => rw [empty]
    | members found => rw [found]

theorem leavesNulls_dropNulls (given : Option (List (String × Datum))) : LeavesNulls given (given.map dropNulls) := by
  cases given with
  | none => exact .nothing
  | some members =>
    refine .members List.filter_sublist fun member => ?_
    rw [dropNulls, List.mem_filter]
    cases member.2 <;> simp

/-- Are the arguments known ones, with members or nothing where members belong? -/
structure AreArguments (arguments : List (String × Datum)) : Prop where
  known : ∀ argument ∈ arguments, argument.1 ∈ requestArguments
  typed : ∀ name ∈ requestArguments, name ≠ "json" → ∃ part, IsGiven arguments name part

/-- Just such arguments are a payload, which carries them. -/
theorem ofArguments_eq_ok_iff (arguments : List (String × Datum)) :
    AreArguments arguments ↔ ∃ payload, Payload.ofArguments arguments = .ok payload ∧ payload.Carries arguments := by
  unfold Payload.ofArguments
  constructor
  -- No argument is a stranger, and the four typed ones can be read.
  · intro ⟨known, typed⟩
    have noStranger : ¬(arguments.any fun argument => !requestArguments.contains argument.1) = true := by
      simpa using known
    obtain ⟨query, queried⟩ := typed "params" (by decide) (by decide)
    obtain ⟨headers, headed⟩ := typed "headers" (by decide) (by decide)
    obtain ⟨form, formed⟩ := typed "data" (by decide) (by decide)
    obtain ⟨files, filed⟩ := typed "files" (by decide) (by decide)
    rw [if_neg noStranger]
    dsimp only
    rw [namedPart_eq_ok_iff.mpr queried, namedPart_eq_ok_iff.mpr headed, namedPart_eq_ok_iff.mpr formed,
      namedPart_eq_ok_iff.mpr filed]
    refine ⟨_, rfl, ⟨_, queried, leavesNulls_dropNulls _⟩, ⟨_, _, headed, leavesNulls_dropNulls _, ?_⟩, rfl,
      ⟨_, formed, leavesNulls_dropNulls _⟩, ⟨_, filed, leavesNulls_dropNulls _⟩⟩
    rw [Payload.ofParts, Option.map_map]
    rfl
  -- The arguments are read one after the other, so that all of them have been read.
  · rintro ⟨payload, given, -⟩
    split at given
    · cases given
    next noStranger =>
    obtain ⟨query, queried, given⟩ := bind_eq_ok given
    obtain ⟨headers, headed, given⟩ := bind_eq_ok given
    obtain ⟨form, formed, given⟩ := bind_eq_ok given
    obtain ⟨files, filed, -⟩ := bind_eq_ok given
    refine ⟨by simpa using noStranger, fun name among named => ?_⟩
    simp only [requestArguments, List.mem_cons, List.not_mem_nil, or_false] at among
    -- A JSON value may be anything; each of the other four has been read above.
    rcases among with rfl | rfl | rfl | rfl | rfl
    · exact ⟨_, namedPart_eq_ok_iff.mp queried⟩
    · exact ⟨_, namedPart_eq_ok_iff.mp headed⟩
    · exact absurd rfl named
    · exact ⟨_, namedPart_eq_ok_iff.mp formed⟩
    · exact ⟨_, namedPart_eq_ok_iff.mp filed⟩

/-! ### What a call comes to -/

/-- What a call of an address comes to by its reply, if it is the last call of a request. -/
inductive Concludes (url : String) : Reply → Except ExchangeFault Datum → Prop
  | broken {kind message : String} : Concludes url (.broken kind message) (.error (.broken kind message))
  | invalidAddress {message : String} : Concludes url (.invalidAddress message) (.error (.invalidAddress message))
  | malformed {fault : Network.HeaderFault} : Concludes url (.malformed fault) (.error (.malformedHeader fault))
  | success {response : Response} {value : Datum} (well : response.isSuccess = true)
    (read : payloadOf response = .ok value) : Concludes url (.response response) (.ok value)
  | renewed {response : Response} {token : String} (refused : response.status = 403) (here : url = Session.refreshAddress)
    (fresh : response.headers.get? Session.forgeryHeader = some token) (nonempty : token ≠ "") :
    Concludes url (.response response) (.ok .null)
  | tokenless {response : Response} (refused : response.status = 403) (here : url = Session.refreshAddress)
    (stale : ∀ token, response.headers.get? Session.forgeryHeader = some token → token = "") :
    Concludes url (.response response) (.error (.failure missingToken))
  | failed {response : Response} {errors : List Datum} (message : String) (ill : response.isSuccess = false)
    (elsewhere : response.status = 403 → url ≠ Session.refreshAddress) (listed : listedErrors response = .ok errors) :
    Concludes url (.response response) (.error (.failure (.api message response.status errors)))

/-- Is something to be read that cannot be read? A body may be nested too deeply, and a text may be none in the charset
that it is declared to be in. What a refusal at the address of fresh tokens has in its body is not read. -/
inductive IsUnreadable (url : String) : Reply → Prop
  | deep {response : Response} (well : response.isSuccess = true) (nonempty : response.body.isEmpty = false)
    (read : response.json = .error (.unreadable .tooDeep)) : IsUnreadable url (.response response)
  | undecodable {response : Response} {fault : Data.Json.BytesFault} {reason : Text.DecodingFault}
    (well : response.isSuccess = true) (nonempty : response.body.isEmpty = false)
    (read : response.json = .error fault) (shown : response.text = .error reason) : IsUnreadable url (.response response)
  | deepErrors {response : Response} (ill : response.isSuccess = false)
    (elsewhere : response.status = 403 → url ≠ Session.refreshAddress)
    (read : response.json = .error (.unreadable .tooDeep)) : IsUnreadable url (.response response)

/-- Is this a fault of reading a body? -/
inductive ExchangeFault.IsOfReading : ExchangeFault → Prop
  | tooDeep : IsOfReading .tooDeep
  | undecodable (reason : Text.DecodingFault) : IsOfReading (.undecodable reason)

/-- What is read comes to what it should, and what cannot be read ends the request in a way of its own. -/
def Settles (url : String) (reply : Reply) (result : Except ExchangeFault Datum) : Prop :=
  ¬IsUnreadable url reply ∧ Concludes url reply result ∨
    IsUnreadable url reply ∧ ∃ fault, fault.IsOfReading ∧ result = .error fault

section Settling

variable {url : String} {reply : Reply} {result : Except ExchangeFault Datum}

theorem Concludes.not_isOfReading {fault : ExchangeFault} (concludes : Concludes url reply (.error fault)) :
    ¬fault.IsOfReading := by
  intro reading
  cases concludes <;> cases reading

theorem Settles.concludes_iff (settles : Settles url reply result) :
    Concludes url reply result ↔ ¬IsUnreadable url reply := by
  rcases settles with ⟨readable, concludes⟩ | ⟨unreadable, fault, reading, rfl⟩
  · exact iff_of_true concludes readable
  · exact iff_of_false (fun concludes => concludes.not_isOfReading reading) (not_not_intro unreadable)

theorem Settles.fault_of_isUnreadable (settles : Settles url reply result) (unreadable : IsUnreadable url reply) :
    ∃ fault, fault.IsOfReading ∧ result = .error fault := by
  rcases settles with ⟨readable, -⟩ | ⟨-, ended⟩
  · exact absurd unreadable readable
  · exact ended

end Settling

section Readings

variable {url : String} {response : Response} {fault : ExchangeFault}

theorem isOfReading_of_payloadOf (failed : payloadOf response = .error fault) : fault.IsOfReading := by
  unfold payloadOf at failed
  split at failed
  · cases failed
  split at failed
  · cases failed
  · cases failed
    exact .tooDeep
  · split at failed
    · cases failed
    · cases failed
      exact .undecodable _

theorem isOfReading_of_listedErrors (failed : listedErrors response = .error fault) : fault.IsOfReading := by
  unfold listedErrors at failed
  split at failed
  · split at failed <;> cases failed
  · cases failed
    exact .tooDeep
  · cases failed

theorem isUnreadable_iff_payloadOf (well : response.isSuccess = true) :
    IsUnreadable url (.response response) ↔ ∃ fault, payloadOf response = .error fault := by
  unfold payloadOf
  constructor
  · intro unreadable
    cases unreadable with
    | deep _ nonempty read =>
      rw [nonempty, read]
      exact ⟨_, rfl⟩
    | undecodable _ nonempty read shown =>
      rw [nonempty, read, shown, if_neg Bool.false_ne_true]
      -- The body is no JSON for whatever reason; nesting is one that comes before the text is tried.
      split
      next same => cases same
      next => exact ⟨_, rfl⟩
      next => exact ⟨_, rfl⟩
    | deepErrors ill => exact absurd (well.symm.trans ill) (by decide)
  -- A body that is empty, a document or a text is read; what is left cannot be read.
  · rintro ⟨fault, failed⟩
    split at failed
    next => cases failed
    next nonempty =>
      rw [Bool.not_eq_true] at nonempty
      split at failed
      next => cases failed
      next read => exact .deep well nonempty read
      next _ read =>
        split at failed
        next => cases failed
        next shown => exact .undecodable well nonempty read shown

theorem isUnreadable_iff_listedErrors (ill : response.isSuccess = false)
    (elsewhere : response.status = 403 → url ≠ Session.refreshAddress) :
    IsUnreadable url (.response response) ↔ ∃ fault, listedErrors response = .error fault := by
  unfold listedErrors
  constructor
  · intro unreadable
    cases unreadable with
    | deep well => exact absurd (well.symm.trans ill) (by decide)
    | undecodable well => exact absurd (well.symm.trans ill) (by decide)
    | deepErrors _ _ read =>
      rw [read]
      exact ⟨_, rfl⟩
  -- A body that is no document lists no errors, unless it is nested too deeply.
  · rintro ⟨fault, failed⟩
    split at failed
    next => split at failed <;> cases failed
    next read => exact .deepErrors ill elsewhere read
    next => cases failed

theorem settles_payloadOf (well : response.isSuccess = true) : Settles url (.response response) (payloadOf response) := by
  cases read : payloadOf response with
  | ok value =>
    refine .inl ⟨fun unreadable => ?_, .success well read⟩
    obtain ⟨fault, failed⟩ := (isUnreadable_iff_payloadOf well).mp unreadable
    cases read.symm.trans failed
  | error fault =>
    exact .inr ⟨(isUnreadable_iff_payloadOf well).mpr ⟨fault, read⟩, fault, isOfReading_of_payloadOf read, rfl⟩

theorem settles_responseFault (address : String) (ill : response.isSuccess = false)
    (elsewhere : response.status = 403 → url ≠ Session.refreshAddress) :
    Settles url (.response response) (.error (responseFault response address)) := by
  unfold responseFault
  cases listed : listedErrors response with
  | ok errors =>
    refine .inl ⟨fun unreadable => ?_, .failed _ ill elsewhere listed⟩
    obtain ⟨fault, failed⟩ := (isUnreadable_iff_listedErrors ill elsewhere).mp unreadable
    cases listed.symm.trans failed
  | error fault =>
    exact .inr ⟨(isUnreadable_iff_listedErrors ill elsewhere).mpr ⟨fault, listed⟩, fault,
      isOfReading_of_listedErrors listed, rfl⟩

/-- What a refusal at the address of fresh tokens has in its body does not matter. -/
theorem not_isUnreadable_of_refused (refused : response.status = 403) (here : url = Session.refreshAddress) :
    ¬IsUnreadable url (.response response) := by
  have ill : response.isSuccess = false := by simp [Response.isSuccess, refused]
  intro unreadable
  cases unreadable with
  | deep well => exact absurd (well.symm.trans ill) (by decide)
  | undecodable well => exact absurd (well.symm.trans ill) (by decide)
  | deepErrors _ elsewhere => exact elsewhere refused here

end Readings

namespace Exchange

theorem settle_of_ill {call : Call} {response : Response} {line : Line} (ill : response.isSuccess = false)
    (elsewhere : response.status = 403 → call.url ≠ Session.refreshAddress) :
    (outcome (settle call response) line).1 = .error (responseFault response call.url) := by
  have other : ¬(response.status = 403 ∧ call.url = Session.refreshAddress) := fun both => elsewhere both.1 both.2
  unfold settle
  rw [ill, if_neg Bool.false_ne_true, if_neg other]
  -- An expiry may be noted on the way, which makes no difference to what is said.
  split <;> rfl

theorem settle_settles (call : Call) (response : Response) (line : Line) :
    Settles call.url (.response response) (outcome (settle call response) line).1 := by
  by_cases well : response.isSuccess = true
  · have said : (outcome (settle call response) line).1 = payloadOf response := by
      unfold settle
      rw [if_pos well]
      cases payloadOf response <;> rfl
    rw [said]
    exact settles_payloadOf well
  by_cases refused : response.status = 403 ∧ call.url = Session.refreshAddress
  · -- The body is not looked at, so that this always comes to what it should.
    refine .inl ⟨not_isUnreadable_of_refused refused.1 refused.2, ?_⟩
    unfold settle
    rw [if_neg well, if_pos refused]
    split
    next absent => exact .tokenless refused.1 refused.2 (by simp [absent])
    next empty => exact .tokenless refused.1 refused.2 (by simp [empty])
    next token nonempty fresh => exact .renewed refused.1 refused.2 fresh nonempty
  · rw [Bool.not_eq_true] at well
    have elsewhere : response.status = 403 → call.url ≠ Session.refreshAddress := fun status here => refused ⟨status, here⟩
    rw [settle_of_ill well elsewhere]
    exact settles_responseFault _ well elsewhere

/-- A call taken as the last word. -/
def once (call : Call) : Exchange Datum := transmit call >>= settle call

theorem once_settles (call : Call) (line : Line) :
    ∃ result, outcome (once call) line = (result, line.noteAll [call]) ∧ Settles call.url line.next result := by
  refine ⟨_, Prod.ext rfl (transmit_settle call line), ?_⟩
  have sent := outcome_transmit call line
  unfold once
  -- Only a response is ever read.
  cases arrived : line.next with
  | response response =>
    rw [arrived] at sent
    rw [outcome_bind_ok sent]
    exact settle_settles call response _
  | broken kind message =>
    rw [arrived] at sent
    rw [outcome_bind_error sent]
    exact .inl ⟨by rintro ⟨⟩, .broken⟩
  | invalidAddress message =>
    rw [arrived] at sent
    rw [outcome_bind_error sent]
    exact .inl ⟨by rintro ⟨⟩, .invalidAddress⟩
  | malformed fault =>
    rw [arrived] at sent
    rw [outcome_bind_error sent]
    exact .inl ⟨by rintro ⟨⟩, .malformed⟩

end Exchange

/-! ### Requests -/

/-- Is this a refusal that a fresh token may help against? -/
inductive IsRefused (url : String) : Reply → Prop
  | refused {response : Response} (status : response.status = 403) (elsewhere : url ≠ Session.refreshAddress) :
    IsRefused url (.response response)

/-- Is this an answer to the call for a fresh token after which the request goes on? -/
inductive Renews : Reply → Prop
  | success {response : Response} (well : response.isSuccess = true) : Renews (.response response)
  | fresh {response : Response} {token : String} (refused : response.status = 403)
    (given : response.headers.get? Session.forgeryHeader = some token) (nonempty : token ≠ "") :
    Renews (.response response)

/-- A reply by its position in a script. After its end, replies are empty successes. -/
def replyAt (script : List Reply) (i : Nat) : Reply := script[i]?.getD (.response {})

/-- Has a request its shape? It is told by the replies how many calls it takes, and what it comes to by the last one. -/
structure HasShape (call : Call) (script : List Reply) (made : List Call) (result : Except ExchangeFault Datum) : Prop where
  calls : made ≠ [] ∧ made <+: [call, Call.refresh, call]
  renews : 2 ≤ made.length ↔ IsRefused call.url (replyAt script 0)
  repeats : 3 ≤ made.length ↔ IsRefused call.url (replyAt script 0) ∧ Renews (replyAt script 1)
  ends : ∃ last ∈ made.getLast?, Concludes last.url (replyAt script (made.length - 1)) result

/-- Can the replies be read that a request takes for the last word on a call? -/
structure IsLegible (url : String) (script : List Reply) : Prop where
  first : ¬IsRefused url (replyAt script 0) → ¬IsUnreadable url (replyAt script 0)
  second : IsRefused url (replyAt script 0) → ¬IsUnreadable Session.refreshAddress (replyAt script 1)
  third : IsRefused url (replyAt script 0) → Renews (replyAt script 1) → ¬IsUnreadable url (replyAt script 2)

/-- The call for a fresh token succeeds just if the request goes on. -/
theorem Concludes.isOk_iff {reply : Reply} {result : Except ExchangeFault Datum}
    (concludes : Concludes Session.refreshAddress reply result) : (∃ value, result = .ok value) ↔ Renews reply := by
  have noValue (fault : ExchangeFault) : ¬∃ value, (.error fault : Except ExchangeFault Datum) = .ok value := by
    rintro ⟨value, same⟩
    cases same
  -- Of all that a call for a token can come to, only successes and fresh tokens are values.
  cases concludes with
  | broken => exact iff_of_false (noValue _) (by rintro ⟨⟩)
  | invalidAddress => exact iff_of_false (noValue _) (by rintro ⟨⟩)
  | malformed => exact iff_of_false (noValue _) (by rintro ⟨⟩)
  | success well => exact iff_of_true ⟨_, rfl⟩ (.success well)
  | renewed refused _ given nonempty => exact iff_of_true ⟨_, rfl⟩ (.fresh refused given nonempty)
  | @tokenless response refused _ stale =>
    refine iff_of_false (noValue _) fun renews => ?_
    -- The status is 403, so that only a token would help.
    cases renews with
    | success well =>
      have status : 200 ≤ response.status ∧ response.status < 300 := by simpa [Response.isSuccess] using well
      omega
    | fresh _ given nonempty => exact nonempty (stale _ given)
  | failed _ ill elsewhere =>
    refine iff_of_false (noValue _) fun renews => ?_
    cases renews with
    | success well => exact absurd (well.symm.trans ill) (by decide)
    | fresh refused => exact elsewhere refused rfl

section Shapes

variable {call : Call} {script : List Reply} {result : Except ExchangeFault Datum}

/-- Has a request its shape just if its replies can be read, and does it end with a fault of reading if not? -/
def IsShaped (call : Call) (script : List Reply) (made : List Call) (result : Except ExchangeFault Datum) : Prop :=
  (HasShape call script made result ↔ IsLegible call.url script) ∧
    (¬IsLegible call.url script → ∃ fault, fault.IsOfReading ∧ result = .error fault)

theorem isShaped_of_settles (before : List Call) {last : Call} (calls : before ++ [last] <+: [call, Call.refresh, call])
    (renews : 2 ≤ (before ++ [last]).length ↔ IsRefused call.url (replyAt script 0))
    (settles : Settles last.url (replyAt script before.length) result)
    (repeats : Concludes last.url (replyAt script before.length) result →
      (3 ≤ (before ++ [last]).length ↔ IsRefused call.url (replyAt script 0) ∧ Renews (replyAt script 1)))
    (legible : IsLegible call.url script ↔ ¬IsUnreadable last.url (replyAt script before.length)) :
    IsShaped call script (before ++ [last]) result := by
  have isLast : (before ++ [last]).getLast? = some last := List.getLast?_concat
  have count : (before ++ [last]).length - 1 = before.length := by simp
  unfold IsShaped
  -- All that is left to be read is the last reply: both sides say that the result is what this one comes to.
  rw [legible, ← settles.concludes_iff, settles.concludes_iff.not_left]
  refine ⟨⟨fun shape => ?_, fun concludes => ?_⟩, settles.fault_of_isUnreadable⟩
  · obtain ⟨other, isOther, concludes⟩ := shape.ends
    rw [isLast] at isOther
    cases isOther
    rwa [count] at concludes
  · exact ⟨⟨by simp, calls⟩, renews, repeats concludes, last, isLast, by rwa [count]⟩

theorem isShaped_first (accepted : ¬IsRefused call.url (replyAt script 0))
    (settles : Settles call.url (replyAt script 0) result) : IsShaped call script [call] result := by
  have legible : IsLegible call.url script ↔ ¬IsUnreadable call.url (replyAt script 0) := by
    constructor
    · exact fun legible => legible.first accepted
    · intro readable
      exact ⟨fun _ => readable, fun refused => absurd refused accepted, fun refused => absurd refused accepted⟩
  exact isShaped_of_settles [] (List.prefix_append _ _) (iff_of_false (by simp) accepted) settles
    (fun _ => iff_of_false (by simp) fun renewed => accepted renewed.1) legible

theorem isShaped_second {fault : ExchangeFault} (refused : IsRefused call.url (replyAt script 0))
    (settles : Settles Session.refreshAddress (replyAt script 1) (.error fault)) :
    IsShaped call script [call, Call.refresh] (.error fault) := by
  -- A call for a token that fails in a way that can be read does not renew it.
  have stops (concludes : Concludes Session.refreshAddress (replyAt script 1) (.error fault)) :
      ¬Renews (replyAt script 1) := by
    intro renews
    obtain ⟨value, same⟩ := concludes.isOk_iff.mpr renews
    cases same
  have legible : IsLegible call.url script ↔ ¬IsUnreadable Session.refreshAddress (replyAt script 1) := by
    constructor
    · exact fun legible => legible.second refused
    · intro readable
      exact ⟨fun accepted => absurd refused accepted, fun _ => readable,
        fun _ renews => absurd renews (stops (settles.concludes_iff.mpr readable))⟩
  exact isShaped_of_settles [call] (List.prefix_append [call, Call.refresh] [call]) (iff_of_true (by simp) refused) settles
    (fun concludes => iff_of_false (by simp) fun renewed => stops concludes renewed.2) legible

theorem isShaped_third {value : Datum} (refused : IsRefused call.url (replyAt script 0))
    (renewed : Settles Session.refreshAddress (replyAt script 1) (.ok value))
    (settles : Settles call.url (replyAt script 2) result) : IsShaped call script [call, Call.refresh, call] result := by
  -- What gave a value has been read, and after that the request can only go on because it may.
  have readable : ¬IsUnreadable Session.refreshAddress (replyAt script 1) := by
    intro unreadable
    obtain ⟨fault, -, same⟩ := renewed.fault_of_isUnreadable unreadable
    cases same
  have renews : Renews (replyAt script 1) := (renewed.concludes_iff.mpr readable).isOk_iff.mp ⟨value, rfl⟩
  have legible : IsLegible call.url script ↔ ¬IsUnreadable call.url (replyAt script 2) := by
    constructor
    · exact fun legible => legible.third refused renews
    · intro last
      exact ⟨fun accepted => absurd refused accepted, fun _ => readable, fun _ _ => last⟩
  exact isShaped_of_settles [call, Call.refresh] List.prefix_rfl (iff_of_true (by simp) refused) settles
    (fun _ => iff_of_true (by simp) ⟨refused, renews⟩) legible

end Shapes

theorem Line.next_noteAll (line : Line) (calls : List Call) :
    (line.noteAll calls).next = replyAt line.replies calls.length := by
  simp [next, noteAll, replyAt]

theorem isRefused_iff {call : Call} {response : Response} :
    IsRefused call.url (.response response) ↔ Exchange.wantsToken call response = true := by
  have both : Exchange.wantsToken call response = true ↔ response.status = 403 ∧ call.url ≠ Session.refreshAddress := by
    simp [Exchange.wantsToken]
  rw [both]
  constructor
  · rintro ⟨status, elsewhere⟩
    exact ⟨status, elsewhere⟩
  · rintro ⟨status, elsewhere⟩
    exact .refused status elsewhere

namespace Exchange

theorem request_of_not_isRefused {call : Call} {line : Line} (accepted : ¬IsRefused call.url line.next) :
    outcome (request call) line = outcome (once call) line := by
  have sent := outcome_transmit call line
  unfold request once
  -- Both are one call, and differ only in what a refusal for want of a token leads to.
  cases answer : answerOf line.next with
  | error fault =>
    rw [answer] at sent
    rw [outcome_bind_error sent, outcome_bind_error sent]
  | ok response =>
    rw [answer] at sent
    rw [answerOf_eq_ok answer, isRefused_iff] at accepted
    rw [outcome_bind_ok sent, outcome_bind_ok sent, if_neg accepted]

theorem request_of_isRefused {call : Call} {line : Line} (refused : IsRefused call.url line.next) :
    outcome (request call) line = outcome (once Call.refresh >>= fun _ => once call) (line.noteAll [call]) := by
  have sent := outcome_transmit call line
  generalize arrived : line.next = reply at refused sent
  cases refused with
  | @refused response status elsewhere =>
    have wants : wantsToken call response = true := isRefused_iff.mp (.refused status elsewhere)
    unfold request
    rw [outcome_bind_ok sent, if_pos wants, spend_of_wantsToken arrived wants, once, bind_assoc]
    rfl

/-- A request takes as many calls as its replies ask for, and comes to what the last one comes to, unless it meets a
reply that cannot be read. -/
theorem request_isShaped (call : Call) (line : Line) :
    ∃ made result, outcome (request call) line = (result, line.noteAll made) ∧
      (made ≠ [] ∧ made <+: [call, Call.refresh, call]) ∧
      (2 ≤ made.length ↔ IsRefused call.url (replyAt line.replies 0)) ∧ IsShaped call line.replies made result := by
  have begun : line.next = replyAt line.replies 0 := by
    rw [Line.next, replyAt, List.head?_eq_getElem?]
  -- A request is one call, unless that is refused for want of a token.
  by_cases refused : IsRefused call.url line.next
  · rw [request_of_isRefused refused]
    rw [begun] at refused
    obtain ⟨fresh, ended, renewed⟩ := once_settles Call.refresh (line.noteAll [call])
    rw [Line.noteAll_append] at ended
    rw [Line.next_noteAll] at renewed
    -- A fault of the second call is that of the request, whatever its kind.
    cases fresh with
    | error fault =>
      rw [outcome_bind_error ended]
      exact ⟨_, _, rfl, ⟨List.cons_ne_nil _ _, List.prefix_append [call, Call.refresh] [call]⟩, iff_of_true (by simp) refused,
        isShaped_second refused renewed⟩
    | ok value =>
      rw [outcome_bind_ok ended]
      obtain ⟨result, ended, settles⟩ := once_settles call (line.noteAll ([call] ++ [Call.refresh]))
      rw [Line.noteAll_append] at ended
      rw [Line.next_noteAll] at settles
      exact ⟨_, _, ended, ⟨List.cons_ne_nil _ _, List.prefix_rfl⟩, iff_of_true (by simp) refused,
        isShaped_third refused renewed settles⟩
  · rw [request_of_not_isRefused refused]
    rw [begun] at refused
    obtain ⟨result, ended, settles⟩ := once_settles call line
    rw [begun] at settles
    exact ⟨_, _, ended, ⟨List.cons_ne_nil _ _, List.prefix_append [call] _⟩, iff_of_false (by simp) refused,
      isShaped_first refused settles⟩

end Exchange

/-- Whatever comes back, a request makes up to three calls, with what it is given but for nulls. The replies tell how
many calls these are and what comes of them, just if each of them can be read that is the last word on its call. -/
theorem requestWith_hasShape (line : Line) (method url : String) {arguments : List (String × Datum)}
    (typed : AreArguments arguments) :
    let ended := Exchange.perform (Exchange.requestWith method url arguments) line
    ∃ payload made, payload.Carries arguments ∧ ended.2.sent = line.sent ++ made ∧
      (made ≠ [] ∧ made <+: [⟨method, url, some payload⟩, Call.refresh, ⟨method, url, some payload⟩]) ∧
      (2 ≤ made.length ↔ IsRefused url (replyAt line.replies 0)) ∧
      (HasShape ⟨method, url, some payload⟩ line.replies made ended.1 ↔ IsLegible url line.replies) ∧
      (¬IsLegible url line.replies → ∃ fault, fault.IsOfReading ∧ ended.1 = .error fault) := by
  intro ended
  obtain ⟨payload, given, carries⟩ := (ofArguments_eq_ok_iff arguments).mp typed
  obtain ⟨made, result, requested, calls, renews, shape, fault⟩ :=
    Exchange.request_isShaped ⟨method, url, some payload⟩ line
  -- The arguments are a payload, so that the request is one of the session.
  have same : ended = (result, line.noteAll made) := by
    rw [← requested]
    change outcome (Exchange.requestWith method url arguments) line = _
    rw [Exchange.requestWith, given]
  rw [same]
  exact ⟨payload, made, carries, rfl, calls, renews, shape, fault⟩

/-- A refusal, a fresh token and a success. -/
theorem renewed_hasShape :
    let url := "https://friends.roblox.com/v1/users"
    let arguments : List (String × Datum) := [("params", .object [("limit", .int 10), ("cursor", .null)])]
    let line : Line := {
      session := { headers := [("Cookie", ".ROBLOSECURITY=secret;")] }
      replies := [.response { status := 403 },
        .response { status := 403, headers := [("x-csrf-token", "fresh")] }, .response {}] }
    let ended := Exchange.perform (Exchange.requestWith "post" url arguments) line
    AreArguments arguments ∧ ∃ payload, payload.Carries arguments ∧
      HasShape ⟨"post", url, some payload⟩ line.replies ended.2.sent ended.1 := by
  intro url arguments line ended
  have typed : AreArguments arguments := by
    refine ⟨by decide, fun name _ _ => ?_⟩
    by_cases query : name = "params"
    · subst query
      exact ⟨_, .members rfl⟩
    · have absent : arguments.lookup name = none := by simp [arguments, List.lookup_cons, beq_eq_false_iff_ne.mpr query]
      exact ⟨_, .missing absent⟩
  have refused : IsRefused url (replyAt line.replies 0) := .refused rfl (by decide)
  -- The refusals are not read at all, and the success has no body.
  have legible : IsLegible url line.replies := by
    refine ⟨fun accepted => absurd refused accepted, fun _ unreadable => ?_, fun _ _ unreadable => ?_⟩
    · exact not_isUnreadable_of_refused rfl rfl unreadable
    · cases unreadable with
      | deep _ nonempty => exact absurd nonempty (by decide)
      | undecodable _ nonempty => exact absurd nonempty (by decide)
      | deepErrors ill => exact absurd ill (by decide)
  obtain ⟨payload, made, carries, sent, -, -, shape, -⟩ := requestWith_hasShape line "post" url typed
  refine ⟨typed, payload, carries, ?_⟩
  rw [show ended.2.sent = made from sent]
  exact shape.mpr legible

/-- An error status whose body is nested too deeply is told as no failure of the API: the request has not its shape. -/
theorem deep_errors_lack_shape :
    let url := "https://friends.roblox.com/v1/my/friends/count"
    let refusal : Response := { status := 500, body := List.replicate 5000 0x5b }
    let line : Line := {
      session := { headers := [("Cookie", ".ROBLOSECURITY=secret;")] }
      replies := [.response refusal] }
    let ended := Exchange.perform (Exchange.requestWith "get" url []) line
    ended.1 = .error .tooDeep ∧ ¬∃ payload, HasShape ⟨"get", url, some payload⟩ line.replies ended.2.sent ended.1 := by
  intro url refusal line ended
  have deep : listedErrors refusal = .error .tooDeep := by
    have read : refusal.json = .error (.unreadable .tooDeep) := readBytes_brackets (by decide)
    rw [listedErrors, read]
  -- The reply is no refusal for want of a token, so that the call is the only one.
  have failed : ended.1 = .error .tooDeep := by
    have accepted : ¬IsRefused url line.next := fun refused => by
      cases refused with
      | refused status => exact absurd status (by decide)
    change (outcome (Exchange.request ⟨"get", url, some {}⟩) line).1 = _
    rw [Exchange.request_of_not_isRefused accepted, Exchange.once, outcome_bind_ok (Exchange.outcome_transmit ..),
      Exchange.settle_of_ill rfl (fun status => absurd status (by decide)), responseFault, deep]
  refine ⟨failed, ?_⟩
  rintro ⟨payload, shape⟩
  obtain ⟨last, -, concludes⟩ := shape.ends
  rw [failed] at concludes
  exact concludes.not_isOfReading .tooDeep

end Bindery
