import RemoteCall.Call.Proxy
import RemoteCall.Proofs.Flight.FirstRequest
import RemoteCall.Proofs.Flight.Signals

/-!
# Errands of proxies

A proxy looks at the arguments and at the name of the method before it does anything else, so an
order that it refuses leaves no trace: the client is not asked for anything, and the cache stays as
it is, down to the order of its entries.  An order that it takes is one call of the client.  This
call sends its first request as soon as it knows where to, and every request of it has the text of
the list of arguments as its body, however often the call is repeated or sent elsewhere, because the
parameters of a call never change.
-/

namespace RemoteCall
namespace Flight

section Bodies

variable {client : Client} {parameters : Parameters} {flight : Flight} {cache : Route.Cache}

/-- The body of a request is the text of a list of parameters. -/
def HasBody (client : Client) (parameters : Parameters) (request : OutboundRequest) : Prop :=
  client.codec.encode (.array parameters) = .ok request.body

/-- A call with a list of parameters, and without a request that has any other body. -/
structure Faithful (client : Client) (parameters : Parameters) (flight : Flight) : Prop where
  own : flight.call.parameters = parameters
  request : ∀ request, flight.call.request = some request → HasBody client parameters request
  draft : ∀ host draft, flight.stage = .resolving host draft → HasBody client parameters draft
  sending : ∀ request, flight.stage = .sending request → HasBody client parameters request

/-- A call that waits for nothing but an answer, a body or the end of a pause, if for anything. -/
theorem faithful_of_call {call : Call} (own : call.parameters = parameters)
    (request : ∀ request, call.request = some request → HasBody client parameters request)
    (attempts : List (Option String)) {stage : Stage} (idle : stage.demand = []) :
    Faithful client parameters ⟨call, attempts, stage⟩ := by
  refine ⟨own, request, ?_, ?_⟩
  · rintro host draft rfl
    cases idle
  · rintro sent rfl
    cases idle

theorem faithful_send (own : flight.call.parameters = parameters) {request : OutboundRequest}
    (body : HasBody client parameters request) :
    Faithful client parameters (flight.send request) := by
  refine ⟨own, fun built same => ?_, nofun, fun sent same => ?_⟩
  · cases same
    exact body
  · cases same
    exact body

theorem faithful_attempt (faithful : Faithful client parameters flight) (cache : Route.Cache) :
    Faithful client parameters (attempt client flight cache).1 := by
  cases built : flight.call.request with
  | some request =>
      rw [attempt_built built]
      exact faithful_send faithful.own (faithful.request request built)
  | none =>
      have drafted := (prepares client flight.call cache).drafted
      rcases prepared : client.prepare cache flight.call with ⟨preparation, later⟩
      rw [prepared] at drafted
      have unbuilt : ∀ request, flight.call.request = some request →
          HasBody client parameters request := by
        rw [built]
        exact nofun
      cases preparation with
      | ready request =>
          rw [attempt_ready built prepared]
          have body := (drafted.ready request rfl).body
          rw [faithful.own] at body
          exact faithful_send faithful.own body
      | lookup host draft =>
          rw [attempt_lookup built prepared]
          have body := (drafted.lookup host draft rfl).2
          rw [faithful.own] at body
          refine ⟨faithful.own, unbuilt, fun other given same => ?_, nofun⟩
          cases same
          exact body
      | failed fault =>
          rw [attempt_failed built prepared]
          exact faithful_of_call faithful.own unbuilt _ rfl

theorem faithful_met (faithful : Faithful client parameters flight) (event : Event) :
    Faithful client parameters (met client flight event) := by
  cases event with
  | resolved | unanswered | received | resumed => exact faithful
  | answered head =>
      unfold met taken
      cases client.handler with
      | standard | custom => exact faithful
      | forgetful => exact ⟨faithful.own, nofun, faithful.draft, faithful.sending⟩

/-- One step of a call, whoever takes its answers. -/
theorem Faithful.moves (faithful : Faithful client parameters flight) {event : Event}
    {next : Flight × Route.Cache} (moves : Moves client flight cache event next) :
    Faithful client parameters next.1 := by
  obtain ⟨own, request, draft, _⟩ := id faithful
  cases moves with
  | rests => exact faithful
  | fails _ continues =>
      refine faithful_of_call (continues.parameters.trans own) (fun built same => ?_) _ rfl
      -- A call may have failed with its request directed elsewhere already.
      rcases continues.request with kept | ⟨earlier, fields, isBuilt, marked⟩
      · exact request built (kept.symm.trans same)
      · rw [marked] at same
        cases same
        rw [HasBody, directed_body]
        exact request earlier isBuilt
  | aims resolving aimed =>
      obtain ⟨_, uri, _, rfl⟩ := exists_of_aim aimed
      have body := draft _ _ resolving
      refine faithful_send own ?_
      rw [HasBody, complete_body]
      exact body
  | unreached | judged | deferred | told | opened | succeeds =>
      refine faithful_of_call ?_ ?_ _ ?_
      · exact own
      · exact request
      · rfl
  | @redirected head _ earlier _ uri _ built =>
      have body := request earlier built
      rw [HasBody, ← directed_body earlier head.fields] at body
      refine faithful_send ?_ ?_
      · exact own
      · exact body
  | resumes => exact faithful_attempt faithful cache

theorem Faithful.advance (faithful : Faithful client parameters flight) (cache : Route.Cache)
    (event : Event) : Faithful client parameters (flight.advance client cache event).1 := by
  cases awaited : flight.stage.awaits event with
  | false =>
      rw [advance_of_not_awaits awaited]
      exact faithful
  | true => exact (faithful_met faithful event).moves (moves_met awaited client cache)

theorem Faithful.demand (faithful : Faithful client parameters flight) :
    ∀ request ∈ requests flight.stage.demand, HasBody client parameters request :=
  fun request member => faithful.sending request (sending_of_mem_demand member)

/-- Along a whole run. -/
theorem Faithful.deeds (faithful : Faithful client parameters flight) (cache : Route.Cache)
    (events : List Event) : ∀ request ∈ requests (Flight.deeds client flight cache events),
      HasBody client parameters request := by
  induction events generalizing flight cache with
  | nil => exact nofun
  | cons event later ih =>
      intro request member
      have next := faithful.advance cache event
      rw [deeds_cons, requests_append] at member
      rcases List.mem_append.mp member with here | there
      · rw [deedsAt] at here
        split at here
        · rw [requests_append, requests_encodesAt, List.nil_append] at here
          exact next.demand request here
        · cases here
      · exact ih next _ request there

/-- Every request of a call that starts without one has the text of its parameters as the body. -/
theorem hasBody_of_mem_callDeeds {call : Call} (unbuilt : call.request = none) (client : Client)
    (cache : Route.Cache) (events : List Event) :
    ∀ request ∈ requests (callDeeds client call cache events),
      HasBody client call.parameters request := by
  have poised : Faithful client call.parameters ⟨call, [], .pausing 0⟩ :=
    faithful_of_call rfl (by rw [unbuilt]; exact nofun) _ rfl
  have started := faithful_attempt poised cache
  intro request member
  rw [requests_callDeeds rfl] at member
  rcases List.mem_append.mp member with first | later
  · exact started.demand request first
  · exact started.deeds _ events request later

end Bodies

end Flight

namespace Errand

open Flight

variable {client : Client} {made : Except ProxyFault Call} {cache : Route.Cache}

theorem run_refused (client : Client) (fault : ProxyFault) (cache : Route.Cache)
    (events : List Event) : run client (refused fault) cache events = (refused fault, cache) := by
  induction events with
  | nil => rfl
  | cons event later ih => exact ih

theorem run_underway (client : Client) (flight : Flight) (cache : Route.Cache)
    (events : List Event) :
    run client (underway flight) cache events =
      (underway (Flight.run client flight cache events).1,
        (Flight.run client flight cache events).2) := by
  induction events generalizing flight cache with
  | nil => rfl
  | cons event later ih => exact ih _ _

theorem outcome?_of_settled {flight : Flight} {outcome : Outcome}
    (settled : flight.stage = .settled outcome) : (underway flight).outcome? = some outcome := by
  rw [outcome?, stage, settled]

theorem outcome?_of_unsettled {flight : Flight}
    (unsettled : ∀ outcome, flight.stage ≠ .settled outcome) :
    (underway flight).outcome? = none := by
  rw [outcome?, stage]
  split
  · next outcome settled => exact absurd settled (unsettled outcome)
  · rfl

/-- An order that has failed before anything was done for it: it is settled at once and for good,
nothing is waited for, the cache is as it was, and the same happens with every other client. -/
structure Forestalled (client : Client) (made : Except ProxyFault Call) (cache : Route.Cache)
    (failure : Failure) : Prop where
  failed : (start client made cache).1.outcome? = some (.error failure)
  idle : (start client made cache).1.stage.demand = []
  untouched : (start client made cache).2 = cache
  final : ∀ events, run client (start client made cache).1 (start client made cache).2 events =
    start client made cache
  unasked : ∀ other : Client, start other made cache = start client made cache

theorem forestalled_of_fault (client : Client) (fault : ProxyFault) (cache : Route.Cache) :
    Forestalled client (.error fault) cache fault.failure where
  failed := rfl
  idle := rfl
  untouched := rfl
  final events := run_refused client fault cache events
  unasked _ := rfl

end Errand

namespace Proxy

open Flight

/-- The list of parameters that arguments stand for. -/
inductive Lists : Except Json.Mismatch Json.Value → Parameters → Prop where
  | array (items : List Json.Value) : Lists (.ok (.array items)) items
  | null : Lists (.ok .null) []

variable {proxy : Proxy} {method : String} {arguments : Except Json.Mismatch Json.Value}
  {parameters : Parameters}

theorem parameters_of_lists (lists : Lists arguments parameters) :
    proxy.parameters method arguments = .ok parameters := by
  cases lists with
  | array | null => rfl

/-- Arguments that stand for no list are refused, whatever the method is. -/
theorem call_of_not_lists (unlisted : ∀ parameters, ¬Lists arguments parameters) (proxy : Proxy)
    (method : String) :
    ∃ fault, proxy.call method arguments = .error fault ∧ fault.kind = .unprocessed := by
  cases arguments with
  | error mismatch => exact ⟨_, rfl, rfl⟩
  | ok value =>
      cases value with
      | array items => exact absurd (.array items) (unlisted items)
      | null => exact absurd .null (unlisted [])
      | bool | integer | float | string | object => exact ⟨_, rfl, rfl⟩

theorem call_undeclared (lists : Lists arguments parameters)
    (undeclared : proxy.interface.declares method = false) :
    proxy.call method arguments = .error (.undeclared proxy.interface.name method) := by
  rw [call, parameters_of_lists lists]
  dsimp only
  rw [invoke, undeclared, if_neg Bool.false_ne_true]

theorem call_declared (lists : Lists arguments parameters)
    (declared : proxy.interface.declares method = true) :
    proxy.call method arguments = .ok (.fresh proxy.interface.name method parameters) := by
  rw [call, parameters_of_lists lists]
  dsimp only
  rw [invoke, if_pos declared]

section Outcomes

variable {α : Type} {read : Json.Value → Except Json.Mismatch α}

theorem conclude_converted (proxy : Proxy) (method : String) {value : Json.Value} {result : α}
    (converted : read value = .ok result) :
    proxy.conclude method read (.ok value) = .ok result := by
  simp only [conclude, converted]

theorem conclude_unconvertible (proxy : Proxy) (method : String) {value : Json.Value}
    {mismatch : Json.Mismatch} (unconvertible : read value = .error mismatch) :
    proxy.conclude method read (.ok value) =
      .error (ProxyFault.unconvertibleResult proxy.interface.name method mismatch).failure := by
  simp only [conclude, unconvertible]

end Outcomes

/-- An order whose arguments stand for no list fails as unprocessed, and otherwise an order for an
undeclared method fails as a general failure, both before anything is done.  Every other order is
one call of the client from its start to its end.  It sends a first request exactly if the list of
arguments has a text and a target is known, and then this text to that target.  All its requests
have this text as their body, its failure is told as it is, and its result as converted; a result
that cannot be converted is a failure after which the call may have been processed. -/
theorem validated_before_work {α : Type} (client : Client) (proxy : Proxy) (method : String)
    (arguments : Except Json.Mismatch Json.Value) (cache : Route.Cache)
    (read : Json.Value → Except Json.Mismatch α) (events : List Event) :
    let made := proxy.call method arguments
    let started := Errand.start client made cache
    let ended := Errand.run client started.1 started.2 events
    let told := ended.1.outcome?.map (proxy.conclude method read)
    ((∀ parameters, ¬Lists arguments parameters) →
      ∃ failure, failure.kind = .unprocessed ∧ Errand.Forestalled client made cache failure ∧
        told = some (.error failure)) ∧
    ∀ parameters, Lists arguments parameters →
      (proxy.interface.declares method = false →
        ∃ failure, failure.kind = .general ∧ Errand.Forestalled client made cache failure ∧
          told = some (.error failure)) ∧
      (proxy.interface.declares method = true →
        let call := Call.fresh proxy.interface.name method parameters
        let begun := start client call cache
        let flown := run client begun.1 begun.2 events
        started = (.underway begun.1, begun.2) ∧ ended = (.underway flown.1, flown.2) ∧
        (∀ uri body,
          (∃ request, (requests (callDeeds client call cache events)).head? = some request ∧
              request.uri = uri ∧ request.body = body) ↔
            client.codec.encode (.array parameters) = .ok body ∧
              Targets client call cache events uri) ∧
        (∀ request ∈ requests (callDeeds client call cache events),
          HasBody client parameters request) ∧
        (∀ failure, flown.1.stage = .settled (.error failure) → told = some (.error failure)) ∧
        (∀ value, flown.1.stage = .settled (.ok value) →
          (∀ result, read value = .ok result → told = some (.ok result)) ∧
          ∀ mismatch, read value = .error mismatch →
            ∃ failure, failure.kind = .possiblyProcessed ∧ told = some (.error failure)) ∧
        ((∀ outcome, flown.1.stage ≠ .settled outcome) → told = none)) := by
  intro made started ended told
  have refused (fault : ProxyFault) (isFault : made = .error fault) :
      Errand.Forestalled client made cache fault.failure ∧ told = some (.error fault.failure) := by
    have forestalled := Errand.forestalled_of_fault client fault cache
    rw [← isFault] at forestalled
    refine ⟨forestalled, ?_⟩
    have same : ended = started := forestalled.final events
    have failed : ended.1.outcome? = some (.error fault.failure) := same ▸ forestalled.failed
    exact congrArg (Option.map (proxy.conclude method read)) failed
  refine ⟨fun unlisted => ?_, fun parameters lists => ⟨fun undeclared => ?_, fun declared => ?_⟩⟩
  · obtain ⟨fault, isFault, kind⟩ := call_of_not_lists unlisted proxy method
    exact ⟨fault.failure, kind, refused fault isFault⟩
  · exact ⟨_, rfl, refused _ (call_undeclared lists undeclared)⟩
  · intro call begun flown
    have isMade : made = .ok call := call_declared lists declared
    have isStarted : started = (.underway begun.1, begun.2) := by
      change Errand.start client made cache = _
      rw [isMade]
      rfl
    have isEnded : ended = (.underway flown.1, flown.2) := by
      change Errand.run client started.1 started.2 events = _
      rw [isStarted]
      exact Errand.run_underway client begun.1 begun.2 events
    have isTold : told =
        (Errand.underway flown.1).outcome?.map (proxy.conclude method read) := by
      change ended.1.outcome?.map _ = _
      rw [isEnded]
    refine ⟨isStarted, isEnded, first_request_iff rfl client cache events,
      hasBody_of_mem_callDeeds rfl client cache events, ?_, ?_, ?_⟩
    · intro failure failed
      rw [isTold, Errand.outcome?_of_settled failed]
      rfl
    · intro value succeeded
      rw [isTold, Errand.outcome?_of_settled succeeded]
      constructor
      · intro result converted
        exact congrArg some (conclude_converted proxy method converted)
      · intro mismatch unconvertible
        exact ⟨_, rfl, congrArg some (conclude_unconvertible proxy method unconvertible)⟩
    · intro unsettled
      rw [isTold, Errand.outcome?_of_unsettled unsettled]
      rfl

end Proxy
end RemoteCall
