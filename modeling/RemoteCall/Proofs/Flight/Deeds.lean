import RemoteCall.Proofs.Flight.Exchange
import RemoteCall.Proofs.Flight.Moves

/-!
# What a call does on its way

Apart from the cache a call touches the world in three ways: it encodes its parameters, it asks for
the addresses of a host, and it sends requests.  The last two it does when it comes to a stage that
waits for what comes of them; it encodes whenever it makes an attempt without a request.  The list
of these deeds is kept beside a run, so that one can say how often and in what order they happen.
-/

namespace RemoteCall
namespace Flight

/-- Something that a call does to the world around it (`RpcSerializer::serialize`,
`DnsResolver::get_first_a_record` and `RpcTransport::send`). -/
inductive Deed where
  | encoded (value : Json.Value)
  | asked (host : String)
  | sent (request : OutboundRequest)

namespace Deed

def encoding? : Deed → Option Json.Value
  | encoded value => some value
  | asked _ | sent _ => none

def question? : Deed → Option String
  | asked host => some host
  | encoded _ | sent _ => none

def request? : Deed → Option OutboundRequest
  | sent request => some request
  | encoded _ | asked _ => none

end Deed

def encodings (deeds : List Deed) : List Json.Value := deeds.filterMap Deed.encoding?

def questions (deeds : List Deed) : List String := deeds.filterMap Deed.question?

def requests (deeds : List Deed) : List OutboundRequest := deeds.filterMap Deed.request?

/-- What a call has done when it has come to a stage. -/
def Stage.demand : Stage → List Deed
  | .resolving host _ => [.asked host]
  | .sending request => [.sent request]
  | .reading _ _ | .pausing _ | .settled _ => []

/-- What an attempt encodes: the parameters, unless there is a request already. -/
def encodes (call : Call) : List Deed :=
  match call.request with
  | none => [.encoded (.array call.parameters)]
  | some _ => []

/-- An attempt is made at the end of a pause. -/
def encodesAt (call : Call) : Event → List Deed
  | .resumed => encodes call
  | .resolved _ | .answered _ | .unanswered _ | .received _ => []

/-- What a call does at an event. -/
def deedsAt (client : Client) (flight : Flight) (cache : Route.Cache) (event : Event) :
    List Deed :=
  if flight.stage.awaits event then
    encodesAt flight.call event ++ (flight.advance client cache event).1.stage.demand
  else []

/-- What a call does along a run. -/
def deeds (client : Client) (flight : Flight) (cache : Route.Cache) : List Event → List Deed
  | [] => []
  | event :: later =>
      deedsAt client flight cache event ++
        deeds client (flight.advance client cache event).1 (flight.advance client cache event).2
          later

/-- What a call does from its start on. -/
def callDeeds (client : Client) (call : Call) (cache : Route.Cache) (events : List Event) :
    List Deed :=
  let started := start client call cache
  encodes call ++ started.1.stage.demand ++ deeds client started.1 started.2 events

/-- What a call does in a number of exchanges.  Before each of them the cache may be any. -/
def courseDeeds (client : Client) (exchanges : Nat → Exchange) (caches : Nat → Route.Cache)
    (flight : Flight) : Nat → List Deed
  | 0 => []
  | count + 1 =>
      courseDeeds client exchanges caches flight count ++
        deeds client (course client exchanges caches flight count) (caches count)
          (exchanges count).events

/-- What a call does when it is launched, and then in a number of exchanges. -/
def journal (client : Client) (call : Call) (cache : Route.Cache)
    (found : Except Net.LookupFault (List Net.Address)) (exchanges : Nat → Exchange)
    (caches : Nat → Route.Cache) (count : Nat) : List Deed :=
  callDeeds client call cache [.resolved found] ++
    courseDeeds client exchanges caches (launch client call cache found).1 count

variable {client : Client} {flight : Flight} {cache : Route.Cache}

section Lists

variable (first second : List Deed)

@[simp]
theorem requests_nil : requests [] = [] := rfl

@[simp]
theorem questions_nil : questions [] = [] := rfl

@[simp]
theorem encodings_append : encodings (first ++ second) = encodings first ++ encodings second :=
  List.filterMap_append

@[simp]
theorem questions_append : questions (first ++ second) = questions first ++ questions second :=
  List.filterMap_append

@[simp]
theorem requests_append : requests (first ++ second) = requests first ++ requests second :=
  List.filterMap_append

@[simp]
theorem encodings_encoded (value : Json.Value) :
    encodings (.encoded value :: first) = value :: encodings first := rfl

@[simp]
theorem questions_encoded (value : Json.Value) :
    questions (.encoded value :: first) = questions first := rfl

@[simp]
theorem requests_encoded (value : Json.Value) :
    requests (.encoded value :: first) = requests first := rfl

section Kinds

variable (hosts : List String) (sent : List OutboundRequest)

@[simp]
theorem encodings_asked : encodings (hosts.map Deed.asked) = [] := by
  simp [encodings, List.filterMap_map, Deed.encoding?, Function.comp_def]

@[simp]
theorem encodings_sent : encodings (sent.map Deed.sent) = [] := by
  simp [encodings, List.filterMap_map, Deed.encoding?, Function.comp_def]

@[simp]
theorem questions_asked : questions (hosts.map Deed.asked) = hosts := by
  simp [questions, List.filterMap_map, Deed.question?, Function.comp_def]

@[simp]
theorem questions_sent : questions (sent.map Deed.sent) = [] := by
  simp [questions, List.filterMap_map, Deed.question?, Function.comp_def]

@[simp]
theorem requests_asked : requests (hosts.map Deed.asked) = [] := by
  simp [requests, List.filterMap_map, Deed.request?, Function.comp_def]

@[simp]
theorem requests_sent : requests (sent.map Deed.sent) = sent := by
  simp [requests, List.filterMap_map, Deed.request?, Function.comp_def]

end Kinds

@[simp]
theorem requests_encodes (call : Call) : requests (encodes call) = [] := by
  unfold encodes
  split <;> rfl

@[simp]
theorem requests_encodesAt (call : Call) (event : Event) :
    requests (encodesAt call event) = [] := by
  cases event with
  | resumed => exact requests_encodes call
  | resolved | answered | unanswered | received => rfl

/-- A call sends what its start asks for, and then what the events lead to. -/
theorem requests_callDeeds {started : Flight × Route.Cache} {client : Client} {call : Call}
    {cache : Route.Cache} (starts : start client call cache = started) (events : List Event) :
    requests (callDeeds client call cache events) =
      requests started.1.stage.demand ++ requests (deeds client started.1 started.2 events) := by
  rw [callDeeds, starts, requests_append, requests_append, requests_encodes, List.nil_append]

@[simp]
theorem questions_encodes (call : Call) : questions (encodes call) = [] := by
  unfold encodes
  split <;> rfl

@[simp]
theorem questions_encodesAt (call : Call) (event : Event) :
    questions (encodesAt call event) = [] := by
  cases event with
  | resumed => exact questions_encodes call
  | resolved | answered | unanswered | received => rfl

theorem sending_of_mem_demand {stage : Stage} {request : OutboundRequest}
    (member : request ∈ requests stage.demand) : stage = .sending request := by
  cases stage with
  | sending sent =>
      cases List.mem_singleton.mp member
      rfl
  | resolving | reading | pausing | settled => cases member

theorem encodes_of_built {call : Call} {request : OutboundRequest}
    (built : call.request = some request) : encodes call = [] := by
  rw [encodes, built]

end Lists

section Steps

theorem deedsAt_of_not_awaits {event : Event} (unawaited : flight.stage.awaits event = false)
    (client : Client) (cache : Route.Cache) : deedsAt client flight cache event = [] := by
  rw [deedsAt, unawaited, if_neg Bool.false_ne_true]

/-- A call that has its request encodes nothing more. -/
theorem deedsAt_of_built {request : OutboundRequest} (built : flight.call.request = some request)
    {event : Event} (awaited : flight.stage.awaits event = true) (client : Client)
    (cache : Route.Cache) :
    deedsAt client flight cache event = (flight.advance client cache event).1.stage.demand := by
  rw [deedsAt, if_pos awaited]
  cases event with
  | resumed => rw [encodesAt, encodes_of_built built, List.nil_append]
  | resolved | answered | unanswered | received => rw [encodesAt, List.nil_append]

@[simp]
theorem deeds_nil : deeds client flight cache [] = [] := rfl

@[simp]
theorem deeds_cons (event : Event) (later : List Event) :
    deeds client flight cache (event :: later) =
      deedsAt client flight cache event ++
        deeds client (flight.advance client cache event).1
          (flight.advance client cache event).2 later := rfl

theorem deeds_of_unawaited {events : List Event}
    (unawaited : ∀ event ∈ events, flight.stage.awaits event = false) (client : Client)
    (cache : Route.Cache) :
    deeds client flight cache events = [] ∧ run client flight cache events = (flight, cache) := by
  induction events with
  | nil => exact ⟨rfl, rfl⟩
  | cons event later ih =>
      have first : flight.stage.awaits event = false := unawaited event (by simp)
      obtain ⟨silent, same⟩ := ih fun other member => unawaited other (by simp [member])
      rw [deeds_cons, run_cons, deedsAt_of_not_awaits first, advance_of_not_awaits first]
      exact ⟨silent, same⟩

theorem deeds_settled {outcome : Outcome} (settled : flight.stage = .settled outcome)
    (events : List Event) : deeds client flight cache events = [] := by
  have unawaited : ∀ event ∈ events, flight.stage.awaits event = false := by
    intro event _
    rw [settled]
    rfl
  exact (deeds_of_unawaited unawaited client cache).1

/-- Events for which nothing is sent or asked let a call do at most one thing more, and that is
what it has come to at their end. -/
theorem deeds_of_inward (retentive : client.handler ≠ .forgetful)
    (built : flight.call.request ≠ none) (idle : flight.stage.demand = []) {events : List Event}
    (inward : ∀ event ∈ events, ∀ stage : Stage, stage.awaits event = true → stage.demand = []) :
    deeds client flight cache events = (run client flight cache events).1.stage.demand := by
  induction events generalizing flight cache with
  | nil => exact idle.symm
  | cons event later ih =>
      have remaining : ∀ other ∈ later, ∀ stage : Stage,
          stage.awaits other = true → stage.demand = [] :=
        fun other member => inward other (by simp [member])
      rw [deeds_cons, run_cons]
      cases awaited : flight.stage.awaits event with
      | false =>
          rw [deedsAt_of_not_awaits awaited, advance_of_not_awaits awaited, List.nil_append]
          exact ih built idle remaining
      | true =>
          obtain ⟨request, isBuilt⟩ := Option.ne_none_iff_exists'.mp built
          have kept := (moves_advance retentive flight cache event).built built
          rw [deedsAt_of_built isBuilt awaited]
          by_cases quiet : (flight.advance client cache event).1.stage.demand = []
          · rw [quiet, List.nil_append]
            exact ih kept quiet remaining
          · -- What it now waits for is not among the events that are left.
            have unawaited : ∀ other ∈ later,
                (flight.advance client cache event).1.stage.awaits other = false := by
              intro other member
              rw [← Bool.not_eq_true]
              exact fun awaits => quiet (remaining other member _ awaits)
            obtain ⟨silent, same⟩ := deeds_of_unawaited unawaited client
              (flight.advance client cache event).2
            rw [silent, same, List.append_nil]

/-- While the answer to a request is taken, nothing is sent yet. -/
theorem demand_of_sending {request : OutboundRequest} {event : Event}
    {next : Flight × Route.Cache} (moves : Moves client flight cache event next)
    (sending : flight.stage = .sending request) (awaited : flight.stage.awaits event = true) :
    next.1.stage.demand = [] := by
  cases moves with
  | rests unawaited =>
      rw [unawaited] at awaited
      cases awaited
  | fails | unreached | judged | deferred | told | opened | succeeds => rfl
  | aims elsewhere | redirected elsewhere | resumes elsewhere =>
      rw [sending] at elsewhere
      cases elsewhere

/-- In an exchange a call does what it has come to at the end of it. -/
theorem deeds_exchange (retentive : client.handler ≠ .forgetful) {request : OutboundRequest}
    (sending : flight.stage = .sending request) (built : flight.call.request = some request)
    (cache : Route.Cache) (exchange : Exchange) :
    deeds client flight cache exchange.events =
      (run client flight cache exchange.events).1.stage.demand := by
  have stays : flight.call.request ≠ none := by
    rw [built]
    exact nofun
  have received (body : Except Body.Fault Bytes) (stage : Stage)
      (awaits : stage.awaits (.received body) = true) : stage.demand = [] := by
    cases stage with
    | resolving | sending => cases awaits
    | reading | pausing | settled => rfl
  have resumed (stage : Stage) (awaits : stage.awaits .resumed = true) : stage.demand = [] := by
    cases stage with
    | resolving | sending => cases awaits
    | reading | pausing | settled => rfl
  cases exchange with
  | unanswered fault =>
      have awaited : flight.stage.awaits (.unanswered fault) = true := by
        rw [sending]
        rfl
      have moves := moves_advance retentive flight cache (.unanswered fault)
      have idle := demand_of_sending moves sending awaited
      rw [Exchange.events, deeds_cons, run_cons, deedsAt_of_built built awaited, idle,
        List.nil_append]
      refine deeds_of_inward retentive (moves.built stays) idle ?_
      simpa using resumed
  | answered head body =>
      have awaited : flight.stage.awaits (.answered head) = true := by
        rw [sending]
        rfl
      have moves := moves_advance retentive flight cache (.answered head)
      have idle := demand_of_sending moves sending awaited
      rw [Exchange.events, deeds_cons, run_cons, deedsAt_of_built built awaited, idle,
        List.nil_append]
      refine deeds_of_inward retentive (moves.built stays) idle ?_
      simpa using ⟨received body, resumed⟩

section Encoding

variable (explanation : String)

/-- The list of deeds leaves no encoding out: at an event without one, the call does the same
with a codec that encodes nothing. -/
theorem advance_withoutEncoding {event : Event}
    (silent : encodings (deedsAt client flight cache event) = []) :
    flight.advance { client with codec := client.codec.withoutEncoding explanation } cache event =
      flight.advance client cache event := by
  unfold advance
  cases stage : flight.stage with
  | resolving | sending | reading | settled => cases event <;> rfl
  | pausing milliseconds =>
      cases event with
      | resolved | answered | unanswered | received => rfl
      | resumed =>
          have awaited : flight.stage.awaits .resumed = true := by
            rw [stage]
            rfl
          rw [deedsAt, if_pos awaited] at silent
          cases built : flight.call.request with
          | some request =>
              dsimp only
              rw [attempt_built built, attempt_built built]
          | none =>
              rw [encodesAt, encodes, built, encodings_append] at silent
              cases silent

theorem run_withoutEncoding {events : List Event}
    (silent : encodings (deeds client flight cache events) = []) :
    run { client with codec := client.codec.withoutEncoding explanation } flight cache events =
      run client flight cache events := by
  induction events generalizing flight cache with
  | nil => rfl
  | cons event later ih =>
      rw [deeds_cons, encodings_append, List.append_eq_nil_iff] at silent
      rw [run_cons, run_cons, advance_withoutEncoding explanation silent.1]
      exact ih silent.2

theorem course_withoutEncoding {exchanges : Nat → Exchange} {caches : Nat → Route.Cache}
    {count : Nat} (silent : encodings (courseDeeds client exchanges caches flight count) = []) :
    course { client with codec := client.codec.withoutEncoding explanation } exchanges caches flight
        count =
      course client exchanges caches flight count := by
  induction count with
  | zero => rfl
  | succ count ih =>
      rw [courseDeeds, encodings_append, List.append_eq_nil_iff] at silent
      rw [course, course, ih silent.1, run_withoutEncoding explanation silent.2]

end Encoding

end Steps

end Flight
end RemoteCall
