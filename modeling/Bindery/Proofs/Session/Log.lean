import Mathlib.Data.List.Forall2
import Bindery.Proofs.Steps
import Bindery.Session.Exchange

/-!
# What a session remembers

The calls of a session and the replies to them are its log. Whatever way requests take, and wherever they fail,
each reply is noted once: the session is what its log makes of it.
-/
namespace Bindery

open Bindery.Data (Datum)
open Bindery.Network (Headers Reply Response fieldKey)

/-! ### Header fields -/

section Headers

variable {name value : String}

/-- The fields of other names are left alone. -/
theorem filter_set (headers : Headers) (name value : String) :
    (headers.set name value).filter (fun field => fieldKey field.1 ≠ fieldKey name) =
      headers.filter fun field => fieldKey field.1 ≠ fieldKey name := by
  induction headers with
  | nil => simp [Headers.set]
  | cons field rest ih =>
    by_cases here : fieldKey field.1 = fieldKey name
    · simp [Headers.set, here, List.filter_filter]
    · simpa [Headers.set, here] using ih

theorem filter_set_self (headers : Headers) (name value : String) :
    (headers.set name value).filter (fun field => fieldKey field.1 = fieldKey name) = [(name, value)] := by
  induction headers with
  | nil => simp [Headers.set]
  | cons field rest ih =>
    by_cases here : fieldKey field.1 = fieldKey name
    · simp [Headers.set, here, List.filter_filter]
    · simp [Headers.set, here, ih]

/-- Fields that agree in all other names give the same values under these. -/
theorem get?_of_filter {first second : Headers} {key other : String}
    (same : first.filter (fun field => fieldKey field.1 ≠ key) = second.filter fun field => fieldKey field.1 ≠ key)
    (apart : fieldKey other ≠ key) : first.get? other = second.get? other := by
  -- The fields of the other name are among those that are not of the key.
  have narrowed : ∀ headers : Headers, headers.filter (fun field => fieldKey field.1 = fieldKey other) =
      (headers.filter fun field => fieldKey field.1 ≠ key).filter fun field => fieldKey field.1 = fieldKey other := by
    intro headers
    rw [List.filter_filter]
    refine List.filter_congr fun field _ => ?_
    by_cases here : fieldKey field.1 = fieldKey other <;> simp [here, apart]
  rw [Headers.get?, Headers.get?, narrowed first, narrowed second, same]

theorem get?_set_self (headers : Headers) (name value : String) : (headers.set name value).get? name = some value := by
  rw [Headers.get?, filter_set_self]
  rfl

end Headers

/-! ### Logs -/

/-- Calls with what came of them. -/
abbrev Log := List (Call × Reply)

/-- The replies to calls by a script. After its end, replies are empty successes. -/
def logOf : List Reply → List Call → Log
  | _, [] => []
  | script, call :: rest => (call, script.head?.getD (.response {})) :: logOf script.tail rest

theorem logOf_length (script : List Reply) (calls : List Call) : (logOf script calls).length = calls.length := by
  induction calls generalizing script with
  | nil => rfl
  | cons call rest ih => simp [logOf, ih]

theorem logOf_append (script : List Reply) (first second : List Call) :
    logOf script (first ++ second) = logOf script first ++ logOf (script.drop first.length) second := by
  induction first generalizing script with
  | nil => rfl
  | cons call rest ih => cases script <;> simp [logOf, ih]

/-- Does the server hold the session for expired? -/
def isExpiry : Call × Reply → Bool
  | (_, .response response) => response.status = 401
  | _ => false

/-- A fresh token, which comes with the refusal of a call at its address. -/
def freshToken? : Call × Reply → Option String
  | (call, .response response) =>
    if response.status = 403 ∧ call.url = Session.refreshAddress then
      (response.headers.get? Session.forgeryHeader).filter (· ≠ "")
    else none
  | _ => none

def latestToken? (log : Log) : Option String := (log.filterMap freshToken?).getLast?

def Session.note (session : Session) (entry : Call × Reply) : Session :=
  if isExpiry entry then session.expire
  else match freshToken? entry with
    | some token => session.keepToken token
    | none => session

def Session.noteAll (session : Session) (log : Log) : Session := log.foldl Session.note session

section Notes

variable (session : Session)

theorem Session.expire_headers : session.expire.headers = session.headers := by
  unfold expire
  split <;> rfl

theorem Session.expire_reportsExpiry : session.expire.reportsExpiry = session.reportsExpiry := by
  unfold expire
  split <;> rfl

/-- Each note counts an expiry or not, keeps a token or not, and touches nothing else. -/
theorem Session.note_cases (entry : Call × Reply) :
    (session.note entry).reportsExpiry = session.reportsExpiry ∧
      (session.note entry).expiries =
        session.expiries + (if session.reportsExpiry && isExpiry entry then 1 else 0) ∧
      (session.note entry).headers =
        (match freshToken? entry with
          | some token => session.headers.set forgeryHeader token
          | none => session.headers) := by
  unfold note
  by_cases expired : isExpiry entry = true
  · -- A reply cannot say both that the session has expired and that the call lacks a token.
    have noToken : freshToken? entry = none := by
      obtain ⟨call, reply⟩ := entry
      cases reply <;> simp_all [isExpiry, freshToken?]
    rw [if_pos expired, noToken]
    refine ⟨session.expire_reportsExpiry, ?_, session.expire_headers⟩
    cases reports : session.reportsExpiry <;> simp [expire, reports, expired]
  · rw [if_neg expired]
    cases freshToken? entry <;> simp [expired, keepToken]

theorem Session.noteAll_expiries (log : Log) :
    (session.noteAll log).reportsExpiry = session.reportsExpiry ∧
      (session.noteAll log).expiries =
        session.expiries + (if session.reportsExpiry then log.countP isExpiry else 0) := by
  induction log generalizing session with
  | nil => simp [noteAll]
  | cons entry rest ih =>
    obtain ⟨reports, counted, -⟩ := session.note_cases entry
    obtain ⟨kept, later⟩ := ih (session.note entry)
    refine ⟨kept.trans reports, later.trans ?_⟩
    rw [counted, reports, List.countP_cons]
    cases session.reportsExpiry <;> simp
    omega

theorem Session.noteAll_token (log : Log) :
    (session.noteAll log).headers.get? forgeryHeader =
      (latestToken? log).or (session.headers.get? forgeryHeader) := by
  induction log generalizing session with
  | nil => rfl
  | cons entry rest ih =>
    obtain ⟨-, -, headers⟩ := session.note_cases entry
    refine (ih (session.note entry)).trans ?_
    rw [headers, latestToken?, latestToken?, List.filterMap_cons]
    -- A token stays until a later one takes its place.
    cases freshToken? entry with
    | none => rfl
    | some token =>
      simp only [get?_set_self, List.getLast?_cons]
      cases (rest.filterMap freshToken?).getLast? <;> rfl

theorem Session.noteAll_others (log : Log) :
    (session.noteAll log).headers.filter (fun field => fieldKey field.1 ≠ fieldKey forgeryHeader) =
      session.headers.filter fun field => fieldKey field.1 ≠ fieldKey forgeryHeader := by
  induction log generalizing session with
  | nil => rfl
  | cons entry rest ih =>
    obtain ⟨-, -, headers⟩ := session.note_cases entry
    refine (ih (session.note entry)).trans ?_
    rw [headers]
    cases freshToken? entry with
    | none => rfl
    | some token => exact filter_set ..

end Notes

/-! ### Requests -/

/-- The next reply on a line. -/
def Line.next (line : Line) : Reply := line.replies.head?.getD (.response {})

/-- A line after one more call, before its reply is noted. -/
def Line.spend (line : Line) (call : Call) : Line :=
  { line with replies := line.replies.tail, sent := line.sent ++ [call] }

/-- A line after some more calls, with their replies noted. -/
def Line.noteAll (line : Line) (calls : List Call) : Line where
  session := line.session.noteAll (logOf line.replies calls)
  replies := line.replies.drop calls.length
  sent := line.sent ++ calls

theorem Line.noteAll_append (line : Line) (first second : List Call) :
    (line.noteAll first).noteAll second = line.noteAll (first ++ second) := by
  simp [noteAll, Session.noteAll, logOf_append, List.drop_drop]

/-- One call with its reply noted. -/
theorem Line.noteAll_single (line : Line) (call : Call) :
    line.noteAll [call] = { line.spend call with session := line.session.note (call, line.next) } := by
  simp [noteAll, spend, logOf, Session.noteAll, next]

namespace Exchange

/-- A reply as what a call gives. -/
def answerOf : Reply → Except ExchangeFault Response
  | .response response => .ok response
  | .broken kind message => .error (.broken kind message)
  | .invalidAddress message => .error (.invalidAddress message)
  | .malformed fault => .error (.malformedHeader fault)

theorem outcome_transmit (call : Call) (line : Line) :
    outcome (transmit call) line = (answerOf line.next, line.spend call) := by
  rw [transmit, outcome_bind_ok outcome_get]
  unfold Line.next
  cases line.replies.head? with
  | none => rfl
  | some reply => cases reply <;> rfl

theorem answerOf_eq_ok {reply : Reply} {response : Response} (answered : answerOf reply = .ok response) :
    reply = .response response := by
  cases reply <;> cases answered
  rfl

/-- What did not arrive changes nothing. -/
theorem note_of_error {session : Session} {call : Call} {reply : Reply} {fault : ExchangeFault}
    (failed : answerOf reply = .error fault) : session.note (call, reply) = session := by
  cases reply with
  | response response => cases failed
  | broken kind message => rfl
  | invalidAddress message => rfl
  | malformed fault => rfl

/-- A refusal for want of a token changes nothing by itself. -/
theorem note_of_wantsToken {session : Session} {call : Call} {response : Response}
    (wants : wantsToken call response = true) : session.note (call, .response response) = session := by
  have both : response.status = 403 ∧ call.url ≠ Session.refreshAddress := by simpa [wantsToken] using wants
  simp [Session.note, isExpiry, freshToken?, both.1, both.2]

/-- A response that is settled is noted, whether the call succeeds or not. -/
theorem settle_notes (call : Call) (response : Response) (line : Line) :
    (outcome (settle call response) line).2 =
      { line with session := line.session.note (call, .response response) } := by
  unfold settle
  -- A success is no expiry and has no token; a refusal is looked at for a token if it was asked for one.
  split
  next success =>
    have status : 200 ≤ response.status ∧ response.status < 300 := by simpa [Response.isSuccess] using success
    have silent : line.session.note (call, .response response) = line.session := by
      have notExpired : response.status ≠ 401 := by omega
      have notRefused : response.status ≠ 403 := by omega
      simp [Session.note, isExpiry, freshToken?, notExpired, notRefused]
    rw [silent]
    cases payloadOf response <;> rfl
  split
  next refused =>
    -- Of the refusals at this address those with a token are kept; both kinds of fault leave the session alone.
    have notExpired : isExpiry (call, .response response) = false := by simp [isExpiry, refused.1]
    split
    next absent =>
      simp [Session.note, notExpired, freshToken?, refused, absent]
    next empty =>
      have stale : freshToken? (call, .response response) = none := by simp [freshToken?, refused, empty]
      rw [Session.note, notExpired, stale]
      rfl
    next token notEmpty found =>
      have fresh : freshToken? (call, .response response) = some token := by
        have nonempty : token ≠ "" := notEmpty
        simp [freshToken?, refused, found, nonempty]
      rw [Session.note, notExpired, fresh]
      rfl
  next other =>
    have noToken : freshToken? (call, .response response) = none := if_neg other
    by_cases expired : response.status = 401
    · have expires : isExpiry (call, .response response) = true := by simpa [isExpiry] using expired
      rw [if_pos expired, Session.note, expires]
      rfl
    · have lives : isExpiry (call, .response response) = false := by simpa [isExpiry] using expired
      rw [if_neg expired, Session.note, lives, noToken]
      rfl

/-- A call whose reply never arrived needs no note. -/
theorem spend_of_error {call : Call} {line : Line} {fault : ExchangeFault}
    (failed : answerOf line.next = .error fault) : line.spend call = line.noteAll [call] := by
  rw [Line.noteAll_single, note_of_error failed]
  rfl

/-- Nor does one whose refusal asks for a token. -/
theorem spend_of_wantsToken {call : Call} {response : Response} {line : Line}
    (arrived : line.next = .response response) (wants : wantsToken call response = true) :
    line.spend call = line.noteAll [call] := by
  rw [Line.noteAll_single, arrived, note_of_wantsToken wants]
  rfl

theorem settle_spend {call : Call} {response : Response} {line : Line} (arrived : line.next = .response response) :
    (outcome (settle call response) (line.spend call)).2 = line.noteAll [call] := by
  rw [settle_notes, Line.noteAll_single, arrived]
  rfl

/-- One call, taken as the last word. -/
theorem transmit_settle (call : Call) (line : Line) :
    (outcome (transmit call >>= settle call) line).2 = line.noteAll [call] := by
  have sent := outcome_transmit call line
  -- A call whose reply does not arrive is not settled, and has nothing to note.
  cases answer : answerOf line.next with
  | error fault =>
    rw [answer] at sent
    rw [outcome_bind_error sent]
    exact spend_of_error answer
  | ok response =>
    rw [answer] at sent
    rw [outcome_bind_ok sent]
    exact settle_spend (answerOf_eq_ok answer)

/-- However a request ends, and however far it came, its calls are noted. -/
theorem request_notes (call : Call) (line : Line) :
    ∃ more, more <+: [Call.refresh, call] ∧ (outcome (request call) line).2 = line.noteAll (call :: more) := by
  have sent := outcome_transmit call line
  unfold request
  -- The first call is made in any case.
  cases answer : answerOf line.next with
  | error fault =>
    rw [answer] at sent
    rw [outcome_bind_error sent]
    exact ⟨[], List.nil_prefix, spend_of_error answer⟩
  | ok response =>
    rw [answer] at sent
    rw [outcome_bind_ok sent]
    have arrived := answerOf_eq_ok answer
    -- A refusal for want of a token is followed by the call for one, and the first call again if that succeeds.
    split
    next wants =>
      rw [← bind_assoc, spend_of_wantsToken arrived wants]
      have refreshed := transmit_settle Call.refresh (line.noteAll [call])
      cases ended : outcome (transmit Call.refresh >>= settle Call.refresh) (line.noteAll [call]) with
      | mk result between =>
        rw [ended, Line.noteAll_append] at refreshed
        cases result with
        | error fault =>
          rw [outcome_bind_error ended]
          exact ⟨[Call.refresh], ⟨[call], rfl⟩, refreshed⟩
        | ok _ =>
          rw [outcome_bind_ok ended]
          refine ⟨[Call.refresh, call], List.prefix_rfl, (transmit_settle call between).trans ?_⟩
          change between = _ at refreshed
          rw [refreshed, Line.noteAll_append]
          rfl
    next => exact ⟨[], List.nil_prefix, settle_spend arrived⟩

end Exchange

/-! ### Sequences of requests -/

/-- A request that someone asks for. -/
structure Order where
  method : String
  url : String
  arguments : List (String × Datum) := []

/-- The call that an order asks for, if its arguments are a payload. -/
def Order.call? (order : Order) : Option Call :=
  match Payload.ofArguments order.arguments with
  | .ok payload => some ⟨order.method, order.url, some payload⟩
  | .error _ => none

/-- Are these calls an order's own one, with a fresh token and once more if need be? -/
def Order.Makes (order : Order) (calls : List Call) : Prop :=
  match order.call? with
  | some call => calls ≠ [] ∧ calls <+: [call, Call.refresh, call]
  | none => calls = []

/-- A line after an order, whether the request succeeds or not. -/
def Line.serve (line : Line) (order : Order) : Line :=
  (Exchange.perform (Exchange.requestWith order.method order.url order.arguments) line).2

def Line.after (line : Line) (orders : List Order) : Line := orders.foldl Line.serve line

theorem Line.serve_notes (line : Line) (order : Order) :
    ∃ calls, order.Makes calls ∧ line.serve order = line.noteAll calls := by
  unfold serve Order.Makes Order.call? Exchange.requestWith
  -- Arguments that are no payload are refused before any call.
  cases Payload.ofArguments order.arguments with
  | error fault =>
    refine ⟨[], rfl, ?_⟩
    simp only [noteAll, logOf, List.append_nil]
    rfl
  | ok payload =>
    obtain ⟨more, few, noted⟩ := Exchange.request_notes ⟨order.method, order.url, some payload⟩ line
    exact ⟨_, ⟨List.cons_ne_nil _ _, List.cons_prefix_cons.mpr ⟨rfl, few⟩⟩, noted⟩

/-- After any orders the session is what the log of their calls makes of it. -/
theorem Line.after_notes (line : Line) (orders : List Order) :
    ∃ groups : List (List Call), List.Forall₂ Order.Makes orders groups ∧
      line.after orders = line.noteAll groups.flatten := by
  induction orders generalizing line with
  | nil => exact ⟨[], .nil, by simp [after, noteAll, logOf, Session.noteAll]⟩
  | cons order rest ih =>
    obtain ⟨calls, made, served⟩ := line.serve_notes order
    obtain ⟨groups, others, later⟩ := ih (line.serve order)
    refine ⟨calls :: groups, .cons made others, later.trans ?_⟩
    rw [served, Line.noteAll_append, List.flatten_cons]

/-- Whatever is asked of a session and whatever comes back: the expiry of the session is told once per reply that
says so, its token is the last one that came, and no other header field ever changes. -/
theorem session_follows_log (session : Session) (script : List Reply) (orders : List Order) :
    let line := Line.after { session, replies := script } orders
    let log := logOf script line.sent
    (∃ groups, List.Forall₂ Order.Makes orders groups ∧ line.sent = groups.flatten) ∧
      line.replies = script.drop log.length ∧
      line.session.reportsExpiry = session.reportsExpiry ∧
      line.session.expiries = session.expiries + (if session.reportsExpiry then log.countP isExpiry else 0) ∧
      line.session.headers.get? Session.forgeryHeader =
        (latestToken? log).or (session.headers.get? Session.forgeryHeader) ∧
      (∀ name, fieldKey name ≠ fieldKey Session.forgeryHeader →
        line.session.headers.get? name = session.headers.get? name) ∧
      line.session.headers.filter (fun field => fieldKey field.1 ≠ fieldKey Session.forgeryHeader) =
        session.headers.filter fun field => fieldKey field.1 ≠ fieldKey Session.forgeryHeader := by
  intro line log
  obtain ⟨groups, made, noted⟩ := Line.after_notes { session, replies := script } orders
  have sent : line.sent = groups.flatten := congrArg Line.sent noted
  -- The session at the end is what the log makes of the one at the start, which tells all the rest.
  have ended : line.session = session.noteAll log := by
    rw [show log = logOf script groups.flatten from congrArg (logOf script) sent]
    exact congrArg Line.session noted
  have left : line.replies = script.drop log.length := by
    rw [logOf_length, sent]
    exact congrArg Line.replies noted
  obtain ⟨reports, told⟩ := session.noteAll_expiries log
  have others := session.noteAll_others log
  rw [ended]
  exact ⟨⟨groups, made, sent⟩, left, reports, told, session.noteAll_token log,
    fun name apart => get?_of_filter others apart, others⟩

end Bindery
