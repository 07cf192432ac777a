import RemoteCall.Proofs.Flight.Landing
import RemoteCall.Proofs.Flight.Traffic
import Mathlib.Data.List.Induction

/-!
# Where entries come from

An entry of a shared cache is earned by a call that works under its key: by following a redirect to
the target, or by succeeding with a request to it.  No step of a call does anything else to what the
cache says, apart from forgetting the call's own key and from making room; so every entry of a cache
that was empty at first can be traced to the step that earned it, however the calls are interleaved.
-/

namespace RemoteCall
namespace Flight

open Route Cache

variable {client : Client} {flight : Flight} {cache : Route.Cache} {entry : String × String}

/-- How a step of a call that has sent some requests earns an entry that leads to a URI. -/
inductive Earns (sent : List OutboundRequest) (flight : Flight) (event : Event) (next : Flight) :
    Uri → Prop where
  /-- The last request was answered with a redirect, and the call is on its way there. -/
  | redirected {request : OutboundRequest} (last : sent.getLast? = some request)
      {head : ResponseHead} (reading : flight.stage = .reading head .redirect) {body : Bytes}
      (received : event = .received (.ok body)) {host : String}
      (named : head.fields.read .redirectHost = some host) {uri : Uri}
      (aimed : Redirect.target request.uri host head.fields = .ok uri) {again : OutboundRequest}
      (sending : next.stage = .sending again) (there : again.uri = uri) :
      Earns sent flight event next uri
  /-- The last request was answered with the result of the call. -/
  | landed {request : OutboundRequest} (last : sent.getLast? = some request)
      (underway : ¬flight.Settled) {value : Json.Value}
      (succeeded : next.stage = .settled (.ok value)) :
      Earns sent flight event next request.uri

section Entries

theorem mem_of_mem_forget {key : Option String} (member : entry ∈ (forget cache key).entries) :
    entry ∈ cache.entries := by
  cases key with
  | none => exact member
  | some name => exact mem_of_mem_remove member

theorem mem_of_mem_concludeAttempt {call : Call} {outcome : Outcome} {attempt : Option String}
    (member : entry ∈ (concludeAttempt call outcome cache attempt).entries) :
    entry ∈ cache.entries ∨
      attempt = some entry.1 ∧ (∃ value, outcome = .ok value) ∧
        ∃ request, call.request = some request ∧ entry.2 = request.uri.targetText := by
  cases attempt with
  | none => exact Or.inl member
  | some key =>
      cases outcome with
      | error failure => exact Or.inl (mem_of_mem_remove member)
      | ok value =>
          unfold concludeAttempt at member
          dsimp only at member
          split at member
          · exact Or.inl member
          · cases built : call.request with
            | none =>
                rw [built] at member
                exact Or.inl member
            | some request =>
                rw [built] at member
                rcases mem_of_mem_put member with rfl | stored
                · exact Or.inr ⟨rfl, ⟨value, rfl⟩, request, rfl, rfl⟩
                · exact Or.inl stored

/-- What the end of some attempts brings into a cache: nothing, or the target of the request that
has succeeded. -/
theorem mem_of_mem_conclude {call : Call} {outcome : Outcome} {attempts : List (Option String)}
    (member : entry ∈ (attempts.foldl (concludeAttempt call outcome) cache).entries) :
    entry ∈ cache.entries ∨
      some entry.1 ∈ attempts ∧ (∃ value, outcome = .ok value) ∧
        ∃ request, call.request = some request ∧ entry.2 = request.uri.targetText := by
  induction attempts generalizing cache with
  | nil => exact Or.inl member
  | cons attempt later ih =>
      rcases ih member with stored | ⟨own, landed⟩
      · rcases mem_of_mem_concludeAttempt stored with before | ⟨rfl, landed⟩
        · exact Or.inl before
        · exact Or.inr ⟨List.mem_cons_self, landed⟩
      · exact Or.inr ⟨List.mem_cons_of_mem attempt own, landed⟩

theorem mem_of_mem_settle_error {failure : Failure}
    (member : entry ∈ (flight.settle cache (.error failure)).2.entries) :
    entry ∈ cache.entries := by
  rcases mem_of_mem_conclude member with stored | ⟨_, ⟨_, succeeded⟩, _⟩
  · exact stored
  · cases succeeded

theorem mem_of_mem_prepare (client : Client) (call : Call)
    (member : entry ∈ (client.prepare cache call).2.entries) : entry ∈ cache.entries := by
  have prepares := prepares client call cache
  generalize client.prepare cache call = prepared at prepares member
  cases prepares with
  | unencodable | address => exact member
  | unknown | misremembered | remembered => exact mem_of_mem_touch member

theorem mem_of_mem_attempt (member : entry ∈ (attempt client flight cache).2.entries) :
    entry ∈ cache.entries := by
  cases built : flight.call.request with
  | some request =>
      rw [attempt_built built] at member
      exact member
  | none =>
      apply mem_of_mem_prepare client flight.call
      rcases prepared : client.prepare cache flight.call with ⟨preparation, later⟩
      cases preparation with
      | ready request =>
          rw [attempt_ready built prepared] at member
          exact member
      | lookup host draft =>
          rw [attempt_lookup built prepared] at member
          exact member
      | failed fault =>
          rw [attempt_failed built prepared] at member
          exact mem_of_mem_settle_error member

end Entries

section Steps

variable {call : Call} {sent : List OutboundRequest} (standard : client.handler = .standard)

include standard

/-- Whatever a step brings into a cache is under the key of the call, and the step has earned it. -/
theorem earns_of_moves {key : Option String} (own : ∀ attempt ∈ flight.attempts, attempt = key)
    (keyed : ∀ request, flight.call.request = some request → request.routeKey = key)
    (last : ∀ head kind, flight.stage = .reading head kind →
      sent.getLast? = flight.call.request) {event : Event} {next : Flight × Route.Cache}
    (moves : Moves client flight cache event next) (member : entry ∈ next.2.entries) :
    entry ∈ cache.entries ∨
      key = some entry.1 ∧
        ∃ uri, entry.2 = uri.targetText ∧ Earns sent flight event next.1 uri := by
  cases moves with
  | rests | aims | deferred | opened => exact Or.inl member
  | unreached | told => exact Or.inl (mem_of_mem_forget member)
  | resumes => exact Or.inl (mem_of_mem_attempt member)
  | fails _ _ forgot =>
      have kept := mem_of_mem_settle_error member
      rcases forgot with rfl | rfl
      · exact Or.inl kept
      · exact Or.inl (mem_of_mem_forget kept)
  | judged custom =>
      rw [standard] at custom
      cases custom
  | succeeds reading =>
      rcases mem_of_mem_conclude member with stored | ⟨opened, _, request, built, target⟩
      · exact Or.inl stored
      · have unsettled : ¬flight.Settled := by
          rintro ⟨outcome, settled⟩
          rw [reading] at settled
          cases settled
        have sentLast := (last _ _ reading).trans built
        exact Or.inr ⟨(own _ opened).symm, request.uri, target, .landed sentLast unsettled rfl⟩
  | @redirected head body request host uri reading built named aimed =>
      have sentLast := (last _ _ reading).trans built
      have mine := keyed request built
      cases key with
      | none =>
          rw [mine] at member
          exact Or.inl member
      | some name =>
          rw [mine] at member
          rcases mem_of_mem_put member with rfl | stored
          · exact Or.inr ⟨rfl, uri, rfl, .redirected sentLast reading rfl named aimed rfl rfl⟩
          · exact Or.inl stored

end Steps

/-- A call that goes on is confined to its key whatever has become of the cache in between. -/
theorem Confined.renewed {key : Option String} {initial : Route.Cache}
    {state : Flight × Route.Cache} (confined : Confined key initial state)
    (underway : ¬state.1.Settled) (cache : Route.Cache) : Confined key cache (state.1, cache) := by
  have stage := confined.stage
  refine ⟨.refl key cache, confined.own, confined.keyed, ?_⟩
  unfold StageConfined at stage ⊢
  dsimp only
  cases same : state.1.stage with
  | resolving | sending | reading | pausing =>
      rw [same] at stage
      exact stage
  | settled outcome => exact absurd ⟨outcome, same⟩ underway

/-- A call that has been started, with what it has sent so far. -/
structure Started (client : Client) (call : Call) (sent : List OutboundRequest)
    (flight : Flight) : Prop where
  last : LastSent flight sent
  confined : flight.Settled ∨ ∀ cache, Confined (client.keyOf call) cache (flight, cache)

theorem started_of_confined {call : Call} {sent : List OutboundRequest}
    {initial : Route.Cache} {state : Flight × Route.Cache} (last : LastSent state.1 sent)
    (confined : Confined (client.keyOf call) initial state) : Started client call sent state.1 := by
  refine ⟨last, ?_⟩
  by_cases settled : state.1.Settled
  · exact Or.inl settled
  · exact Or.inr fun cache => confined.renewed settled cache

/-- A call on its way: it has not been started and has sent nothing, or it has been started. -/
def Underway (client : Client) (call : Call) (sent : List OutboundRequest) (flight : Flight) :
    Prop :=
  flight = poised call ∧ sent = [] ∨ Started client call sent flight

/-- What a step of a call does to the cache and comes to. -/
structure Traced (client : Client) (call : Call) (sent : List OutboundRequest) (flight : Flight)
    (cache : Route.Cache) (event : Event) : Prop where
  framed : Framed (client.keyOf call) cache (flight.advance client cache event).2
  earned : ∀ entry ∈ (flight.advance client cache event).2.entries, entry ∈ cache.entries ∨
    client.keyOf call = some entry.1 ∧ ∃ uri, entry.2 = uri.targetText ∧
      Earns sent flight event (flight.advance client cache event).1 uri

section Calls

variable {call : Call} {sent : List OutboundRequest} (standard : client.handler = .standard)

include standard

theorem Started.advance (started : Started client call sent flight) (cache : Route.Cache)
    (event : Event) :
    Traced client call sent flight cache event ∧
      Started client call (sent ++ requests (deedsAt client flight cache event))
        (flight.advance client cache event).1 := by
  have retentive := retentive_of_standard standard
  have last : LastSent (flight.advance client cache event).1 _ :=
    started.last.advance retentive event
  rcases started.confined with settled | confined
  · obtain ⟨outcome, stage⟩ := settled
    refine ⟨⟨?_, ?_⟩, ⟨last, ?_⟩⟩
    · rw [advance_settled stage]
      exact .refl _ cache
    · intro entry member
      rw [advance_settled stage] at member
      exact Or.inl member
    · rw [advance_settled stage]
      exact Or.inl ⟨outcome, stage⟩
  · -- The call has been confined all along, so it is on the cache as others have left it.
    have next := (confined cache).advance retentive event
    refine ⟨⟨next.framed, fun entry member => ?_⟩, started_of_confined last next⟩
    refine earns_of_moves standard (confined cache).own (confined cache).keyed ?_
      (moves_advance retentive flight cache event) member
    intro head kind reading
    rcases started.last with ⟨failure, failed⟩ | last
    · rw [failed] at reading
      cases reading
    · exact last

theorem traced_start (call : Call) (cache : Route.Cache) :
    Traced client call [] (poised call) cache .resumed ∧
      Started client call (requests (deedsAt client (poised call) cache .resumed))
        ((poised call).advance client cache .resumed).1 := by
  have retentive := retentive_of_standard standard
  have confined :
      Confined (client.keyOf call) cache ((poised call).advance client cache .resumed) :=
    confined_start client call cache
  have last : LastSent (start client call cache).1 (requests (callDeeds client call cache [])) :=
    lastSent retentive call cache []
  rw [← deeds_poised, deeds_cons, deeds_nil, List.append_nil] at last
  exact ⟨⟨confined.framed, fun _ member => Or.inl (mem_of_mem_attempt member)⟩,
    started_of_confined last confined⟩

theorem Underway.advance (underway : Underway client call sent flight) (cache : Route.Cache)
    (event : Event) :
    Traced client call sent flight cache event ∧
      Underway client call (sent ++ requests (deedsAt client flight cache event))
        (flight.advance client cache event).1 := by
  rcases underway with ⟨rfl, rfl⟩ | started
  · cases awaited : (poised call).stage.awaits event with
    | false =>
        rw [deedsAt_of_not_awaits awaited]
        refine ⟨⟨?_, fun entry member => ?_⟩, ?_⟩
        · rw [advance_of_not_awaits awaited]
          exact .refl _ cache
        · rw [advance_of_not_awaits awaited] at member
          exact Or.inl member
        · rw [advance_of_not_awaits awaited]
          exact Or.inl ⟨rfl, rfl⟩
    | true =>
        cases event with
        | resumed =>
            obtain ⟨traced, started⟩ := traced_start standard call cache
            exact ⟨traced, Or.inr started⟩
        | resolved | answered | unanswered | received => cases awaited
  · obtain ⟨traced, next⟩ := started.advance standard cache event
    exact ⟨traced, Or.inr next⟩

end Calls

end Flight

namespace Traffic

open Flight Route Cache

variable {Caller : Type} [DecidableEq Caller] {clients : Caller → Client}
  {calls : Caller → Call} {entry : String × String}

/-- One of some turns has earned an entry: it is a step of a call that works under the key, and the
entry is the target of a URI that this step earns. -/
def Earned (clients : Caller → Client) (calls : Caller → Call) (start : Traffic Caller)
    (turns : List (Caller × Event)) (entry : String × String) : Prop :=
  ∃ before caller event later uri,
    turns = before ++ (caller, event) :: later ∧
      (clients caller).keyOf (calls caller) = some entry.1 ∧ entry.2 = uri.targetText ∧
        Earns (requests (part caller (deeds clients start before)))
          ((run clients start before).flights caller) event
          ((run clients start (before ++ [(caller, event)])).flights caller) uri

theorem Earned.concat {start : Traffic Caller} {turns : List (Caller × Event)}
    (earned : Earned clients calls start turns entry) (turn : Caller × Event) :
    Earned clients calls start (turns ++ [turn]) entry := by
  obtain ⟨before, caller, event, later, uri, rfl, own, target, earns⟩ := earned
  exact ⟨before, caller, event, later ++ [turn], uri, by simp, own, target, earns⟩

section Standard

variable (standard : ∀ caller, (clients caller).handler = .standard)

include standard

/-- Whatever the others do, a call has been started or not, and goes on under its key. -/
theorem underway_run (calls : Caller → Call) (cache : Route.Cache) (turns : List (Caller × Event))
    (caller : Caller) :
    Underway (clients caller) (calls caller)
      (requests (part caller (deeds clients (poised calls cache) turns)))
      ((run clients (poised calls cache) turns).flights caller) := by
  induction turns using List.reverseRecOn with
  | nil => exact Or.inl ⟨rfl, rfl⟩
  | append_singleton turns turn ih =>
      obtain ⟨mover, event⟩ := turn
      rw [deeds_append, run_append, deeds_cons, deeds_nil, run_cons, run_nil, List.append_nil,
        part_append, requests_append]
      by_cases same : mover = caller
      · subst same
        rw [part_deedsAt_self, flights_advance_self]
        exact (ih.advance (standard mover) _ event).2
      · rw [part_deedsAt_of_ne same, flights_advance_of_ne same, requests_nil, List.append_nil]
        exact ih

theorem earned_run (calls : Caller → Call) (capacity : Nat) (turns : List (Caller × Event)) :
    let start := poised calls (.withCapacity capacity)
    ∀ entry ∈ (run clients start turns).cache.entries, Earned clients calls start turns entry := by
  intro start
  induction turns using List.reverseRecOn with
  | nil => exact fun _ member => absurd member List.not_mem_nil
  | append_singleton turns turn ih =>
      intro entry member
      obtain ⟨caller, event⟩ := turn
      have underway := underway_run standard calls (.withCapacity capacity) turns caller
      obtain ⟨traced, _⟩ := underway.advance (standard caller) (run clients start turns).cache event
      rw [run_append, run_cons, run_nil, cache_advance] at member
      -- The entry was there before the last turn, or this turn has earned it.
      rcases traced.earned entry member with stored | ⟨own, uri, target, earns⟩
      · exact (ih entry stored).concat (caller, event)
      · refine ⟨turns, caller, event, [], uri, rfl, own, target, ?_⟩
        rw [run_append, run_cons, run_nil, flights_advance_self]
        exact earns

/-- From an empty cache on, however the calls are interleaved, every entry has been earned by one of
the steps so far.  A step leaves the entries of other keys than its call's alone, except for those
that make room in a full cache; and a step that earns nothing brings nothing into the cache. -/
theorem provenance (calls : Caller → Call) (capacity : Nat) (turns : List (Caller × Event)) :
    let start := poised calls (.withCapacity capacity)
    let traffic := run clients start turns
    (∀ entry ∈ traffic.cache.entries, Earned clients calls start turns entry) ∧
      ∀ caller event,
        let next := traffic.advance clients (caller, event)
        Framed ((clients caller).keyOf (calls caller)) traffic.cache next.cache ∧
          ((∀ uri, ¬Earns (requests (part caller (deeds clients start turns)))
            (traffic.flights caller) event (next.flights caller) uri) →
            ∀ entry ∈ next.cache.entries, entry ∈ traffic.cache.entries) := by
  intro start traffic
  refine ⟨earned_run standard calls capacity turns, ?_⟩
  intro caller event next
  have underway := underway_run standard calls (.withCapacity capacity) turns caller
  obtain ⟨traced, _⟩ := underway.advance (standard caller) traffic.cache event
  refine ⟨traced.framed, fun idle entry member => ?_⟩
  rcases traced.earned entry member with stored | ⟨_, uri, _, earns⟩
  · exact stored
  · rw [← flights_advance_self] at earns
    exact absurd earns (idle uri)

end Standard

/-- Two calls about entities whose names look the same once they are cleaned for a header. -/
theorem provenance_entities :
    let client : Client :=
      { relay with settings := { relay.settings with entityPosition := some 0 } }
    let calls : Bool → Call := fun caller =>
      .fresh "SimpleCalc" "add" [.string (if caller then "caf\u00e9" else "caf\u00e8")]
    let key (caller : Bool) := client.routeKey "relay" (calls caller)
    let answer := Response.success (Json.Value.bool true).bytes
    let turns : List (Bool × Event) :=
      [(false, .resumed), (true, .resumed), (true, .resolved (.ok [.v4 ⟨#v[10, 0, 0, 8]⟩])),
        (false, .resolved (.ok [.v4 ⟨#v[10, 0, 0, 7]⟩])), (true, .answered answer.head),
        (false, .answered answer.head), (false, .received (.ok answer.body)),
        (true, .received (.ok answer.body))]
    let start := poised calls (.withCapacity 100)
    let entries := (run (fun _ => client) start turns).cache.entries
    FieldValue.cleaned (key false) = FieldValue.cleaned (key true) ∧
      entries = [(key true, "http://10.0.0.8:8080"), (key false, "http://10.0.0.7:8080")] ∧
        ∀ entry ∈ entries, Earned (fun _ => client) calls start turns entry := by
  intro client calls key answer turns start entries
  refine ⟨by decide +kernel, by decide +kernel, ?_⟩
  have standard : ∀ _ : Bool, client.handler = .standard := fun _ => rfl
  exact (provenance standard calls 100 turns).1

end Traffic
end RemoteCall
