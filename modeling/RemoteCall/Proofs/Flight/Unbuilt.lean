import RemoteCall.Proofs.Flight.Reaiming
import RemoteCall.Proofs.Flight.Eviction

/-!
# Calls whose request cannot be built

Building a request looks at the cache and does not change what it says.  So a call that fails while
its request is built leaves every entry where it was, that of its own key included, and a
remembered target that is no URI fails every later call under its key in the same way.
-/

namespace RemoteCall
namespace Flight

variable {client : Client} {call : Call} {cache : Route.Cache}
  {found : Except Net.LookupFault (List Net.Address)}

/-- Building a request may make an entry the latest used one, and that is all. -/
theorem Prepares.find? {prepared : Preparation × Route.Cache}
    (prepares : Prepares client call cache prepared) (name : String) :
    prepared.2.find? name = cache.find? name := by
  cases prepares with
  | unencodable | address => rfl
  | unknown | misremembered | remembered => exact Route.Cache.find?_touch cache _ name

/-- How a call is left whose request cannot be built: it has failed as unprocessed, the call is as
it was, and so is what is remembered. -/
structure Unbuilt (call : Call) (cache : Route.Cache) (left : Flight × Route.Cache) : Prop where
  failed : ∃ fault : BuildFault, left.1.stage =
    .settled (.error ((CallFault.notBuilt fault).failure call.interface call.method))
  call : left.1.call = call
  remembered : ∀ name, left.2.find? name = cache.find? name

namespace Unbuilt

variable {left : Flight × Route.Cache}

theorem failedAs (unbuilt : Unbuilt call cache left) : left.1.FailedAs .unprocessed := by
  obtain ⟨fault, stage⟩ := unbuilt.failed
  exact ⟨_, stage, rfl⟩

theorem of_prepare {fault : BuildFault} {later : Route.Cache} (unbuilt : call.request = none)
    (failed : client.prepare cache call = (.failed fault, later))
    (found : Except Net.LookupFault (List Net.Address)) :
    Unbuilt call cache (launch client call cache found) := by
  have kept := (prepares client call cache).find?
  rw [failed] at kept
  rw [launch_failed unbuilt found failed]
  exact ⟨⟨fault, fail_stage _⟩, rfl, kept⟩

/-- A call is over as soon as it is launched only if its request cannot be built. -/
theorem of_settled (unbuilt : call.request = none)
    (settled : (launch client call cache found).1.Settled) :
    Unbuilt call cache (launch client call cache found) := by
  rcases prepared : client.prepare cache call with ⟨preparation, later⟩
  cases preparation with
  | failed fault => exact of_prepare unbuilt prepared found
  | ready request =>
      rw [launch_ready unbuilt found prepared] at settled
      exact absurd settled (sending_send request).not_settled
  | lookup host draft =>
      have kept := (prepares client call cache).find?
      rw [prepared] at kept
      rw [launch_lookup unbuilt found prepared] at settled ⊢
      cases aimed : client.aim call host draft found with
      | ok request =>
          rw [aimed] at settled
          exact absurd settled (sending_send request).not_settled
      | error fault => exact ⟨⟨fault, fail_stage _⟩, rfl, kept⟩

end Unbuilt

theorem callDeeds_resolved (later : List Event) :
    callDeeds client call cache (.resolved found :: later) =
      callDeeds client call cache [.resolved found] ++
        deeds client (launch client call cache found).1 (launch client call cache found).2
          later := by
  simp only [callDeeds, deeds_cons, deeds_nil, List.append_nil, List.append_assoc]
  rfl

/-- A call that is over as soon as it is launched has sent nothing, and never will. -/
theorem requests_of_settled (unbuilt : call.request = none)
    (settled : (launch client call cache found).1.Settled) (later : List Event) :
    requests (callDeeds client call cache (.resolved found :: later)) = [] := by
  obtain ⟨outcome, stage⟩ := settled
  obtain ⟨hosts, launched, _, _⟩ := (launches unbuilt client cache found).deeds
  rw [callDeeds_resolved, deeds_settled stage, List.append_nil, launched, stage]
  simp [Stage.demand]

/-- Calls that are launched one after another, each with what the lookup of its host finds if there
is one, on the cache that the call before it has left. -/
def launchEach (client : Client) (cache : Route.Cache) :
    List (Call × Except Net.LookupFault (List Net.Address)) → List Flight × Route.Cache
  | [] => ([], cache)
  | (call, found) :: later =>
      let launched := launch client call cache found
      let others := launchEach client launched.2 later
      (launched.1 :: others.1, others.2)

/-- The target remembered under a key is not a URI. -/
def Misremembers (cache : Route.Cache) (key : String) : Prop :=
  ∃ target fault, cache.find? key = some target ∧ target ≠ "" ∧ Uri.parse target = .error fault

section Misremembering

variable {key : String} (bad : Misremembers cache key)

include bad

theorem Misremembers.unbuilt (unbuilt : call.request = none)
    (keyed : client.keyOf call = some key)
    (found : Except Net.LookupFault (List Net.Address)) :
    Unbuilt call cache (launch client call cache found) := by
  obtain ⟨target, fault, remembered, nonempty, unreadable⟩ := bad
  cases encoded : client.codec.encode (.array call.parameters) with
  | error fault => exact .of_prepare unbuilt (prepare_of_unencodable encoded cache) found
  | ok body =>
      rw [Client.keyOf, unbuilt] at keyed
      obtain ⟨host, named, rfl⟩ := Option.map_eq_some_iff.mp keyed
      have prepared := prepare_of_name encoded named cache
      have kept : (cache.find? (client.routeKey host call)).filter (!·.isEmpty) = some target := by
        rw [remembered]
        simp [nonempty]
      simp only [kept, unreadable] at prepared
      exact .of_prepare unbuilt prepared found

theorem Misremembers.of_unbuilt {left : Flight × Route.Cache} (unbuilt : Unbuilt call cache left) :
    Misremembers left.2 key := by
  obtain ⟨target, fault, remembered, rest⟩ := bad
  exact ⟨target, fault, (unbuilt.remembered key).trans remembered, rest⟩

/-- Each call under the key fails before it sends anything, and leaves the target for the next. -/
theorem Misremembers.launchEach
    {turns : List (Call × Except Net.LookupFault (List Net.Address))}
    (own : ∀ turn ∈ turns, turn.1.request = none ∧ client.keyOf turn.1 = some key) :
    (∀ flight ∈ (launchEach client cache turns).1, flight.FailedAs .unprocessed) ∧
      Misremembers (launchEach client cache turns).2 key := by
  induction turns generalizing cache with
  | nil => exact ⟨fun _ member => absurd member List.not_mem_nil, bad⟩
  | cons turn later ih =>
      obtain ⟨call, found⟩ := turn
      have first : Unbuilt call cache (launch client call cache found) :=
        bad.unbuilt (own (call, found) (by simp)).1 (own (call, found) (by simp)).2 found
      obtain ⟨failed, left⟩ := ih (bad.of_unbuilt first)
        fun turn member => own turn (by simp [member])
      refine ⟨?_, left⟩
      intro flight member
      rcases List.mem_cons.mp member with rfl | member
      · exact first.failedAs
      · exact failed flight member

end Misremembering

/-- A call whose request cannot be built has failed as unprocessed, has sent nothing and never will,
and is left as it was; but so is the cache, with what it remembers under the key of the call.  If
that is no URI, every later call under the key fails too, however many there are. -/
theorem routes_kept_unbuilt (client : Client) {call : Call} (unbuilt : call.request = none)
    (cache : Route.Cache) {found : Except Net.LookupFault (List Net.Address)}
    (settled : (launch client call cache found).1.Settled) :
    let launched := launch client call cache found
    (∃ fault : BuildFault, launched.1.stage =
        .settled (.error ((CallFault.notBuilt fault).failure call.interface call.method))) ∧
      launched.1.FailedAs .unprocessed ∧
      (∀ later, requests (callDeeds client call cache (.resolved found :: later)) = []) ∧
      launched.1.call = call ∧
      (∀ name, launched.2.find? name = cache.find? name) ∧
      ∀ key, Misremembers cache key →
        ∀ turns : List (Call × Except Net.LookupFault (List Net.Address)),
          (∀ turn ∈ turns, turn.1.request = none ∧ client.keyOf turn.1 = some key) →
            ∀ flight ∈ (launchEach client launched.2 turns).1, flight.FailedAs .unprocessed := by
  intro launched
  have left : Unbuilt call cache launched := .of_settled unbuilt settled
  refine ⟨left.failed, left.failedAs, requests_of_settled unbuilt settled, left.call,
    left.remembered, ?_⟩
  intro key bad turns own
  have laterBad : Misremembers launched.2 key := bad.of_unbuilt left
  exact (laterBad.launchEach own).1

/-- A cache in which the target of one call is cut short. -/
def cutShort : Route.Cache :=
  Route.Cache.usual.put (relay.routeKey "relay" (.fresh "SimpleCalc" "add" [])) "http://"

theorem routes_kept_unbuilt_cutShort :
    let call := Call.fresh "SimpleCalc" "add" []
    let found := .ok [Net.Address.v4 ⟨#v[10, 0, 0, 7]⟩]
    (launch relay call cutShort found).1.Settled ∧
      ∀ flight ∈ (launchEach relay (launch relay call cutShort found).2
        [(call, found), (call, found)]).1, flight.FailedAs .unprocessed := by
  intro call found
  have settled : (launch relay call cutShort found).1.Settled := ⟨_, rfl⟩
  have bad : Misremembers cutShort (relay.routeKey "relay" call) :=
    ⟨"http://", _, Route.Cache.find?_put_self _ _ _, by decide, rfl⟩
  refine ⟨settled, ?_⟩
  refine (routes_kept_unbuilt relay rfl cutShort settled).2.2.2.2.2 _ bad _ ?_
  intro turn member
  simp only [List.mem_cons, List.not_mem_nil, or_false, or_self] at member
  rw [member]
  exact ⟨rfl, rfl⟩

/-- A call that fails while its request is built leaves the remembered target that it failed by, and
the next call fails by it again; had the target been forgotten, it would have been sent. -/
theorem cutShort_stays :
    let call := Call.fresh "SimpleCalc" "add" []
    let key := relay.routeKey "relay" call
    let found := .ok [Net.Address.v4 ⟨#v[10, 0, 0, 7]⟩]
    let first := launch relay call cutShort found
    relay.keyOf call = some key ∧ first.1.FailedAs .unprocessed ∧
      requests (callDeeds relay call cutShort [.resolved found]) = [] ∧
      first.2.find? key ≠ none ∧
      (launch relay call first.2 found).1.FailedAs .unprocessed ∧
      (requests (callDeeds relay call (first.2.remove key) [.resolved found])).map
        (fun request => request.uri.text) = ["http://10.0.0.7:8080/"] := by
  intro call key found first
  have remembered : first.2.find? key = some "http://" := rfl
  refine ⟨rfl, ⟨_, rfl, rfl⟩, rfl, ?_, ⟨_, rfl, rfl⟩, by decide +kernel⟩
  rw [remembered]
  exact Option.some_ne_none _

end Flight
end RemoteCall
