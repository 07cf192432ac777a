import RemoteCall.Proofs.Flight.Landing

/-!
# What later calls find

A call that fills the cache leaves the target of its last request there, and the target of a URI is
made of its scheme, its authority and its path.  So a later call under the same key is sent to the
same place without a lookup; but its URI has no query, and a server that tells requests apart by
their queries takes it for another one.
-/

namespace RemoteCall
namespace Flight

open Uri

variable {client : Client} {call : Call} {cache : Route.Cache} {key target : String}

/-- A call that is sent without a lookup goes to the entry of its client, if this is an address, or
to what is remembered under its key. -/
theorem attempt_sending_cases {flight : Flight} (unbuilt : flight.call.request = none)
    {request : OutboundRequest}
    (sending : (attempt client flight cache).1.stage = .sending request) :
    client.entryName = none ∧ request.uri = client.entry ∨
      ∃ key target, client.keyOf flight.call = some key ∧ cache.find? key = some target ∧
        Uri.parse target = .ok request.uri := by
  cases encoded : client.codec.encode (.array flight.call.parameters) with
  | error fault =>
      rw [attempt_failed unbuilt (prepare_of_unencodable encoded cache)] at sending
      cases sending
  | ok body =>
      cases named : client.entryName with
      | none =>
          rw [attempt_ready unbuilt (prepare_of_address named encoded cache)] at sending
          cases sending
          exact Or.inl ⟨rfl, by rw [complete_uri, addressed_uri]⟩
      | some host =>
          have keyed : client.keyOf flight.call = some (client.routeKey host flight.call) := by
            rw [Client.keyOf, unbuilt, named]
            rfl
          have prepared := prepare_of_name encoded named cache
          dsimp only at prepared
          cases found : (cache.find? (client.routeKey host flight.call)).filter (!·.isEmpty) with
          | none =>
              rw [found] at prepared
              rw [attempt_lookup unbuilt prepared] at sending
              cases sending
          | some target =>
              rw [found] at prepared
              cases read : Uri.parse target with
              | error fault =>
                  simp only [read] at prepared
                  rw [attempt_failed unbuilt prepared] at sending
                  cases sending
              | ok uri =>
                  simp only [read] at prepared
                  rw [attempt_ready unbuilt prepared] at sending
                  cases sending
                  obtain ⟨stored, _⟩ := Option.filter_eq_some_iff.mp found
                  exact Or.inr ⟨_, target, keyed, stored, by rw [read, complete_uri]; rfl⟩

section Recalling

variable (unbuilt : call.request = none) (keyed : client.keyOf call = some key)
  (found : cache.find? key = some target)

include unbuilt keyed found

/-- A call whose key leads to a URI is sent there at once. -/
theorem start_recalled {uri : Uri} (read : Uri.parse target = .ok uri) {body : Bytes}
    (encoded : client.codec.encode (.array call.parameters) = .ok body) :
    ∃ request, (start client call cache).1.stage = .sending request ∧ request.uri = uri := by
  rw [Client.keyOf, unbuilt] at keyed
  obtain ⟨host, named, rfl⟩ := Option.map_eq_some_iff.mp keyed
  have prepared := prepare_of_name encoded named cache
  dsimp only at prepared
  rw [found, Option.filter_some, isEmpty_of_parse read] at prepared
  simp only [Bool.not_false, if_true, read] at prepared
  rw [start, attempt_ready unbuilt prepared]
  exact ⟨_, rfl, complete_uri _⟩

/-- A call for which something is remembered goes there if it is sent without a lookup. -/
theorem parse_of_start_sending {request : OutboundRequest}
    (sending : (start client call cache).1.stage = .sending request) :
    Uri.parse target = .ok request.uri := by
  rcases attempt_sending_cases unbuilt sending with ⟨unnamed, _⟩ | ⟨own, other, isKey, stored, read⟩
  · rw [Client.keyOf, unbuilt, unnamed] at keyed
    cases keyed
  · rw [keyed] at isKey
    cases isKey
    rw [found] at stored
    cases stored
    exact read

end Recalling

/-- A client whose entry has a query. -/
def sharded : Client where
  entry := ⟨some "http", some "relay:8080", "/rpc", some "shard=3"⟩
  settings := .usual
  codec := .json
  handler := .standard

/-- The way of a call to a host that is looked up and answers at once. -/
def direct (address : Net.Ipv4) : List Event :=
  let answer := Response.success (Json.Value.bool true).bytes
  [.resolved (.ok [.v4 address]), .answered answer.head, .received (.ok answer.body)]

/-- What a successful call leaves under its key is the target of its last request, unless it was
there before.  The next calls under this key are sent to the same place at once, and never with a
query, so with the query of that request exactly if it had none. -/
theorem recalled_without_query (retentive : client.handler ≠ .forgetful)
    (readable : client.entry.Readable) (keyed : client.keyOf call = some key)
    (consistent : Consistent call cache key) (events : List Event) :
    let started := start client call cache
    let ended := run client started.1 started.2 events
    ∀ value, ended.1.stage = .settled (.ok value) →
      ∃ request, (requests (callDeeds client call cache events)).getLast? = some request ∧
        ∃ target, ended.2.find? key = some target ∧
          (target = request.uri.targetText ∨ cache.find? key = some target) ∧
          (target = request.uri.targetText →
            ∀ (successor : Client) (next : Call), next.request = none →
              successor.keyOf next = some key →
              (∀ again, (start successor next ended.2).1.stage = .sending again →
                SamePlace again.uri request.uri ∧ again.uri.query = none ∧
                  (again.uri.query = request.uri.query ↔ request.uri.query = none)) ∧
              (request.uri.text.utf8ByteSize ≤ Uri.lengthLimit →
                ∀ body, successor.codec.encode (.array next.parameters) = .ok body →
                  ∃ again, (start successor next ended.2).1.stage = .sending again)) := by
  intro started ended value succeeded
  have landing : Landing key cache ended :=
    (landing_start readable keyed consistent).run retentive events
  have stage := landing.stage
  rw [StageLanding, succeeded] at stage
  obtain ⟨⟨request, built, _, absolute, leads⟩, target, found⟩ := stage
  have last : LastSent ended.1 (requests (callDeeds client call cache events)) :=
    lastSent retentive call cache events
  have sent := (last.of_succeeded succeeded).trans built
  refine ⟨request, sent, target, found, (leads target found).imp_right And.left, ?_⟩
  rintro rfl successor next unbuilt again
  constructor
  · intro second sending
    have read := parse_of_start_sending unbuilt again found sending
    obtain ⟨same, unqueried⟩ := absolute.reads_targetText read
    exact ⟨same, unqueried, by rw [unqueried, eq_comm]⟩
  · intro within body encoded
    obtain ⟨uri, read, _⟩ :=
      absolute.parse_targetText (Nat.le_trans absolute.targetText_size within)
    obtain ⟨second, sending, _⟩ := start_recalled unbuilt again found read encoded
    exact ⟨second, sending⟩

/-- The second call of a client whose entry has a query is sent without one. -/
theorem recalled_without_query_sharded :
    let call := Call.fresh "SimpleCalc" "add" []
    let events := direct ⟨#v[10, 0, 0, 7]⟩
    let started := start sharded call .usual
    let ended := run sharded started.1 started.2 events
    ∃ request again, (requests (callDeeds sharded call .usual events)).getLast? = some request ∧
      (start sharded call ended.2).1.stage = .sending again ∧
        SamePlace again.uri request.uri ∧ again.uri.query = none := by
  intro call events started ended
  have result : ended.1.stage.result?.map Json.Value.text = some "true" := by decide +kernel
  obtain ⟨value, isResult, _⟩ := Option.map_eq_some_iff.mp result
  have succeeded : ended.1.stage = .settled (.ok value) := Stage.result?_eq_some_iff.mp isResult
  have retentive : sharded.handler ≠ .forgetful := nofun
  have readable : sharded.entry.Readable :=
    readable_of_parse (by rfl : Uri.parse "http://relay:8080/rpc?shard=3" = .ok sharded.entry)
  have keyed : sharded.keyOf call = some (sharded.routeKey "relay" call) := rfl
  have consistent : Consistent call .usual (sharded.routeKey "relay" call) := ⟨nofun, nofun⟩
  obtain ⟨request, sent, target, found, origin, later⟩ :=
    recalled_without_query retentive readable keyed consistent events value succeeded
  have isTarget : target = request.uri.targetText := origin.resolve_right nofun
  obtain ⟨place, sends⟩ := later isTarget sharded call rfl keyed
  have last : (requests (callDeeds sharded call .usual events)).getLast?.map
      (fun request => request.uri.text) = some "http://10.0.0.7:8080/rpc?shard=3" := by
    decide +kernel
  rw [sent] at last
  have text : request.uri.text = "http://10.0.0.7:8080/rpc?shard=3" := Option.some.inj last
  obtain ⟨again, sending⟩ := sends (by rw [text]; decide) _ rfl
  obtain ⟨same, unqueried, _⟩ := place again sending
  exact ⟨request, again, sent, sending, same, unqueried⟩

/-- Two calls in a row under one key, the first with a query and the second without. -/
theorem query_lost_by_recall :
    let call := Call.fresh "SimpleCalc" "add" []
    let events := direct ⟨#v[10, 0, 0, 7]⟩
    let started := start sharded call .usual
    let ended := run sharded started.1 started.2 events
    ended.1.stage = .settled (.ok (.bool true)) ∧
      ∃ request again,
        (requests (callDeeds sharded call .usual events)).getLast? = some request ∧
          request.uri.query = some "shard=3" ∧
          (start sharded call ended.2).1.stage = .sending again ∧ again.uri.query = none :=
  ⟨rfl, _, _, rfl, rfl, rfl, rfl⟩

end Flight
end RemoteCall
