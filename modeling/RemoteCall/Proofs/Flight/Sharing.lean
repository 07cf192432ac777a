import RemoteCall.Proofs.Flight.Provenance
import RemoteCall.Proofs.Flight.Recall
import RemoteCall.Proofs.Uri.Replaced

/-!
# Clients that share a cache

Clients may share a cache although they enter through different servers.  A route key names the host
of the entry and not its scheme, its port or its path; so where two clients have the same key, what
one of them leaves in the cache takes the calls of the other to the server of the first.  Nothing
else does: without redirects, every request goes the way of its own client's entry, or of the entry
of a client whose call under the same key has succeeded.
-/

namespace RemoteCall
namespace Flight

open Uri

/-- What the lookup of a host finds, if it depends on the host alone. -/
abbrev Names := String → Except Net.LookupFault (List Net.Address)

/-- Where the requests of a client go that has a cache of its own and is not redirected: to its
entry, with an address for its host if that is a name, and to what has been remembered of this. -/
inductive HeadsTo (names : Names) (client : Client) : Uri → Prop where
  | entry (unnamed : client.entryName = none) : HeadsTo names client client.entry
  | resolved {host : String} (named : client.entryName = some host) {address : Net.Ipv4}
      (chosen : Net.chooseIpv4 host (names host) = .ok address) {uri : Uri}
      (replaced : client.entry.withHost address.text = .ok uri) : HeadsTo names client uri
  | recalled {uri landed : Uri} (heads : HeadsTo names client uri) (absolute : uri.Absolute)
      (read : Uri.parse uri.targetText = .ok landed) : HeadsTo names client landed

variable {names : Names} {client : Client} {flight : Flight} {cache : Route.Cache} {uri : Uri}

section Heading

variable {text : String} (read : Uri.parse text = .ok client.entry)

include read

theorem HeadsTo.sameWay (heads : HeadsTo names client uri) : SameWay uri client.entry := by
  induction heads with
  | entry => exact .refl client.entry
  | resolved named _ replaced =>
      exact (sameWay_of_withHost read (authority_of_entryName named) replaced).1
  | recalled _ absolute again ih => exact (absolute.reads_targetText again).1.sameWay.trans ih

/-- The host of a client with a name is replaced by the address that its lookup finds. -/
theorem HeadsTo.host (heads : HeadsTo names client uri) {host : String}
    (named : client.entryName = some host) :
    ∃ address, Net.chooseIpv4 host (names host) = .ok address ∧ uri.host = some address.text := by
  induction heads with
  | entry unnamed =>
      rw [unnamed] at named
      cases named
  | @resolved other isNamed address chosen _ replaced =>
      rw [isNamed] at named
      cases named
      exact ⟨address, chosen,
        (sameWay_of_withHost read (authority_of_entryName isNamed) replaced).2⟩
  | recalled _ absolute again ih =>
      obtain ⟨address, chosen, host⟩ := ih
      exact ⟨address, chosen, (absolute.reads_targetText again).1.host.trans host⟩

theorem HeadsTo.absolute (heads : HeadsTo names client uri) {host : String}
    (named : client.entryName = some host) : uri.Absolute := by
  induction heads with
  | entry unnamed =>
      rw [unnamed] at named
      cases named
  | resolved isNamed _ replaced =>
      exact (readable_of_parse read).withHost (authority_of_entryName isNamed) replaced
  | recalled _ absolute again _ =>
      exact absolute.of_samePlace (absolute.reads_targetText again).1 (readable_of_parse again)

end Heading

/-- Whether an event is an answer of the kind that sends a call elsewhere. -/
def Event.redirects : Event → Bool
  | .answered head => responseKind? head.fields == some .redirect
  | .resolved _ | .unanswered _ | .received _ | .resumed => false

/-- A call that looks up nothing but the host of its entry, and is not about to be redirected. -/
structure Straight (client : Client) (flight : Flight) : Prop where
  resolving : ∀ host draft, flight.stage = .resolving host draft →
    client.entryName = some host ∧ draft.uri = client.entry
  staying : ∀ head, flight.stage ≠ .reading head .redirect

/-- Where a request comes from that a step of a call sends: it has been sent before, or it goes to
the address of the entry, to the entry itself, or to what is remembered. -/
inductive Sends (client : Client) (flight : Flight) (cache : Route.Cache) (event : Event) :
    Uri → Prop where
  | again {earlier : OutboundRequest} (built : flight.call.request = some earlier) :
      Sends client flight cache event earlier.uri
  | resolved {host : String} (named : client.entryName = some host)
      {found : Except Net.LookupFault (List Net.Address)} (isFound : event = .resolved found)
      {address : Net.Ipv4} (chosen : Net.chooseIpv4 host found = .ok address) {uri : Uri}
      (replaced : client.entry.withHost address.text = .ok uri) :
      Sends client flight cache event uri
  | entered (unnamed : client.entryName = none) : Sends client flight cache event client.entry
  | recalled {milliseconds : Nat} (pausing : flight.stage = .pausing milliseconds)
      (unbuilt : flight.call.request = none) {key target : String}
      (keyed : client.keyOf flight.call = some key) (found : cache.find? key = some target)
      {uri : Uri} (read : Uri.parse target = .ok uri) : Sends client flight cache event uri

section Steps

theorem straight_attempt (client : Client) (flight : Flight) (cache : Route.Cache) :
    Straight client (attempt client flight cache).1 := by
  cases built : flight.call.request with
  | some request =>
      rw [attempt_built built]
      exact ⟨nofun, nofun⟩
  | none =>
      have prepares := prepares client flight.call cache
      rcases prepared : client.prepare cache flight.call with ⟨preparation, later⟩
      rw [prepared] at prepares
      cases preparation with
      | ready request =>
          rw [attempt_ready built prepared]
          exact ⟨nofun, nofun⟩
      | failed fault =>
          rw [attempt_failed built prepared]
          exact ⟨nofun, nofun⟩
      | lookup host draft =>
          rw [attempt_lookup built prepared]
          refine ⟨fun other given same => ?_, nofun⟩
          cases same
          cases prepares with
          | unknown _ named => exact ⟨named, addressed_uri client flight.call _⟩

variable {event : Event} {next : Flight × Route.Cache} (straight : Straight client flight)
  (moves : Moves client flight cache event next)

include straight moves

theorem straight_of_moves (direct : event.redirects = false) : Straight client next.1 := by
  cases moves with
  | rests => exact straight
  | fails | aims | unreached | judged | deferred | succeeds => exact ⟨nofun, nofun⟩
  | told => exact ⟨nofun, nofun⟩
  | opened _ typed =>
      refine ⟨nofun, fun head reading => ?_⟩
      cases reading
      simp [Event.redirects, typed] at direct
  | redirected reading => exact absurd reading (straight.staying _)
  | resumes => exact straight_attempt client flight cache

theorem sends_of_moves (awaited : flight.stage.awaits event = true) {request : OutboundRequest}
    (sending : next.1.stage = .sending request) : Sends client flight cache event request.uri := by
  cases moves with
  | rests unawaited =>
      rw [unawaited] at awaited
      cases awaited
  | fails | unreached | judged | deferred | told | opened | succeeds => cases sending
  | redirected reading => exact absurd reading (straight.staying _)
  | aims resolving aimed =>
      cases sending
      obtain ⟨named, sameUri⟩ := straight.resolving _ _ resolving
      obtain ⟨address, uri, chosen, replaced, rfl⟩ := chosen_of_aim aimed
      rw [sameUri] at replaced
      rw [complete_uri]
      exact .resolved named rfl chosen replaced
  | resumes pausing =>
      cases built : flight.call.request with
      | some earlier =>
          rw [attempt_built built] at sending
          cases sending
          exact .again built
      | none =>
          rcases attempt_sending_cases built sending with
            ⟨unnamed, isEntry⟩ | ⟨key, target, keyed, found, read⟩
          · rw [isEntry]
            exact .entered unnamed
          · exact .recalled pausing built keyed found read

end Steps

end Flight

namespace Traffic

open Flight Route Cache
open Uri (SameWay)

variable {Caller : Type} [DecidableEq Caller] {clients : Caller → Client}
  {calls : Caller → Call} {names : Names} {traffic : Traffic Caller}

/-- A call may be sent where the call of a lender goes: its own one, or one under the same key that
has succeeded. -/
def Lends (clients : Caller → Client) (calls : Caller → Call) (traffic : Traffic Caller)
    (lender borrower : Caller) : Prop :=
  lender = borrower ∨
    (∃ key, (clients lender).keyOf (calls lender) = some key ∧
      (clients borrower).keyOf (calls borrower) = some key) ∧
      ∃ value, (traffic.flights lender).stage = .settled (.ok value)

theorem settled_advance {caller : Caller} {outcome : Outcome}
    (settled : (traffic.flights caller).stage = .settled outcome) (turn : Caller × Event) :
    ((traffic.advance clients turn).flights caller).stage = .settled outcome := by
  obtain ⟨mover, event⟩ := turn
  by_cases same : mover = caller
  · subst same
    rw [flights_advance_self, advance_settled settled]
    exact settled
  · rw [flights_advance_of_ne same]
    exact settled

theorem Lends.advance {lender borrower : Caller}
    (lends : Lends clients calls traffic lender borrower) (turn : Caller × Event) :
    Lends clients calls (traffic.advance clients turn) lender borrower := by
  rcases lends with same | ⟨sharing, value, settled⟩
  · exact Or.inl same
  · exact Or.inr ⟨sharing, value, settled_advance settled turn⟩

/-- What the calls have sent so far, and what they have left in the cache. -/
structure Shared (names : Names) (clients : Caller → Client) (calls : Caller → Call)
    (traffic : Traffic Caller) (deeds : List (Caller × Deed)) : Prop where
  sent : ∀ caller, ∀ request ∈ requests (part caller deeds), ∃ lender,
    Lends clients calls traffic lender caller ∧ HeadsTo names (clients lender) request.uri
  stored : ∀ entry ∈ traffic.cache.entries, ∃ lender uri,
    (clients lender).keyOf (calls lender) = some entry.1 ∧
      (∃ value, (traffic.flights lender).stage = .settled (.ok value)) ∧
        entry.2 = uri.targetText ∧ HeadsTo names (clients lender) uri
  straight : ∀ caller, Straight (clients caller) (traffic.flights caller)

section Running

variable (standard : ∀ caller, (clients caller).handler = .standard)
  (read : ∀ caller, ∃ text, Uri.parse text = .ok (clients caller).entry)
  (fresh : ∀ caller, (calls caller).request = none)

theorem entryName_of_keyOf {client : Client} {call : Call} (unbuilt : call.request = none)
    {key : String} (keyed : client.keyOf call = some key) :
    ∃ host, client.entryName = some host := by
  rw [Client.keyOf, unbuilt] at keyed
  obtain ⟨host, named, _⟩ := Option.map_eq_some_iff.mp keyed
  exact ⟨host, named⟩

include read fresh

/-- Wherever a step sends a request, a client's own request would go there, or one of a lender. -/
theorem Shared.sends {deeds : List (Caller × Deed)}
    (shared : Shared names clients calls traffic deeds) {caller : Caller}
    (underway : Underway (clients caller) (calls caller) (requests (part caller deeds))
      (traffic.flights caller)) {event : Event}
    (awaited : (traffic.flights caller).stage.awaits event = true)
    (answers : ∀ found, event = .resolved found → ∀ host,
      (clients caller).entryName = some host → found = names host) {uri : Uri}
    (sends : Sends (clients caller) (traffic.flights caller) traffic.cache event uri) :
    ∃ lender, Lends clients calls traffic lender caller ∧ HeadsTo names (clients lender) uri := by
  cases sends with
  | again built =>
      rcases underway with ⟨poised, _⟩ | started
      · rw [poised] at built
        rw [show (Flight.poised (calls caller)).call.request = none from fresh caller] at built
        cases built
      · rcases started.last with ⟨failure, failed⟩ | last
        · rw [failed] at awaited
          cases awaited
        · rw [built] at last
          exact shared.sent caller _ (List.mem_of_getLast? last)
  | resolved named isFound chosen replaced =>
      rw [answers _ isFound _ named] at chosen
      exact ⟨caller, Or.inl rfl, .resolved named chosen replaced⟩
  | entered unnamed => exact ⟨caller, Or.inl rfl, .entry unnamed⟩
  | recalled pausing unbuilt keyed found again =>
      have sameCall : (clients caller).keyOf (traffic.flights caller).call =
          (clients caller).keyOf (calls caller) := by
        rcases underway with ⟨poised, _⟩ | started
        · rw [poised]
          rfl
        · -- A call that makes a pause after its start has its request.
          rcases started.confined with ⟨outcome, settled⟩ | confined
          · rw [pausing] at settled
            cases settled
          · have stage := (confined traffic.cache).stage
            rw [StageConfined, pausing] at stage
            exact absurd unbuilt stage
      rw [sameCall] at keyed
      obtain ⟨lender, stored, own, succeeded, rfl, heads⟩ :=
        shared.stored _ (mem_of_find? found)
      obtain ⟨text, isEntry⟩ := read lender
      obtain ⟨host, named⟩ := entryName_of_keyOf (fresh lender) own
      exact ⟨lender, Or.inr ⟨⟨_, own, keyed⟩, succeeded⟩,
        .recalled heads (heads.absolute isEntry named) again⟩

include standard

/-- After a turn, every request that has been sent went where a lender's would go. -/
theorem Shared.sent_advance {deeds : List (Caller × Deed)}
    (shared : Shared names clients calls traffic deeds) {mover : Caller}
    (underway : Underway (clients mover) (calls mover) (requests (part mover deeds))
      (traffic.flights mover)) (event : Event)
    (answers : ∀ found, event = .resolved found → ∀ host,
      (clients mover).entryName = some host → found = names host) (caller : Caller)
    {request : OutboundRequest}
    (member : request ∈ requests (part caller (deeds ++ deedsAt clients traffic (mover, event)))) :
    ∃ lender, Lends clients calls (traffic.advance clients (mover, event)) lender caller ∧
      HeadsTo names (clients lender) request.uri := by
  rw [part_append, requests_append, List.mem_append] at member
  have before (sent : request ∈ requests (part caller deeds)) : ∃ lender,
      Lends clients calls (traffic.advance clients (mover, event)) lender caller ∧
        HeadsTo names (clients lender) request.uri := by
    obtain ⟨lender, lends, heads⟩ := shared.sent caller request sent
    exact ⟨lender, lends.advance (mover, event), heads⟩
  by_cases same : mover = caller
  · subst same
    rw [part_deedsAt_self] at member
    rcases member with sent | now
    · exact before sent
    · cases awaited : (traffic.flights mover).stage.awaits event with
      | false =>
          rw [deedsAt_of_not_awaits awaited] at now
          cases now
      | true =>
          rw [Flight.deedsAt, if_pos awaited, requests_append, requests_encodesAt,
            List.nil_append] at now
          have moves := moves_advance (retentive_of_standard (standard mover))
            (traffic.flights mover) traffic.cache event
          obtain ⟨lender, lends, heads⟩ := shared.sends read fresh underway awaited answers
            (sends_of_moves (shared.straight mover) moves awaited (sending_of_mem_demand now))
          exact ⟨lender, lends.advance (mover, event), heads⟩
  · rw [part_deedsAt_of_ne same] at member
    exact before (member.resolve_right List.not_mem_nil)

omit read fresh in
/-- After a turn, every entry leads where a request of a call went that has succeeded. -/
theorem Shared.stored_advance {deeds : List (Caller × Deed)}
    (shared : Shared names clients calls traffic deeds) {mover : Caller}
    (underway : Underway (clients mover) (calls mover) (requests (part mover deeds))
      (traffic.flights mover)) (event : Event) {entry : String × String}
    (member : entry ∈ (traffic.advance clients (mover, event)).cache.entries) :
    ∃ lender uri, (clients lender).keyOf (calls lender) = some entry.1 ∧
      (∃ value, ((traffic.advance clients (mover, event)).flights lender).stage =
        .settled (.ok value)) ∧
      entry.2 = uri.targetText ∧ HeadsTo names (clients lender) uri := by
  rw [cache_advance] at member
  have traced := (underway.advance (standard mover) traffic.cache event).1
  rcases traced.earned entry member with stored | ⟨own, uri, target, earns⟩
  · obtain ⟨lender, uri, keyed, ⟨value, succeeded⟩, target, heads⟩ := shared.stored entry stored
    exact ⟨lender, uri, keyed, ⟨value, settled_advance succeeded (mover, event)⟩, target, heads⟩
  · cases earns with
    | redirected _ reading => exact absurd reading ((shared.straight mover).staying _)
    | @landed request last _ value succeeded =>
        obtain ⟨lender, lends, heads⟩ := shared.sent mover request (List.mem_of_getLast? last)
        rcases lends.advance (mover, event) with rfl | ⟨⟨key, lent, borrowed⟩, done⟩
        · refine ⟨lender, request.uri, own, ⟨value, ?_⟩, target, heads⟩
          rw [flights_advance_self]
          exact succeeded
        · rw [own] at borrowed
          cases borrowed
          exact ⟨lender, request.uri, lent, done, target, heads⟩

theorem Shared.advance {deeds : List (Caller × Deed)}
    (shared : Shared names clients calls traffic deeds)
    (underway : ∀ caller, Underway (clients caller) (calls caller)
      (requests (part caller deeds)) (traffic.flights caller)) (turn : Caller × Event)
    (answers : ∀ found, turn.2 = .resolved found → ∀ host,
      (clients turn.1).entryName = some host → found = names host)
    (direct : turn.2.redirects = false) :
    Shared names clients calls (traffic.advance clients turn)
      (deeds ++ deedsAt clients traffic turn) := by
  obtain ⟨mover, event⟩ := turn
  refine ⟨fun caller request member => ?_, fun entry member => ?_, fun caller => ?_⟩
  · exact shared.sent_advance standard read fresh (underway mover) event answers caller member
  · exact shared.stored_advance standard (underway mover) event member
  · by_cases same : mover = caller
    · subst same
      rw [flights_advance_self]
      exact straight_of_moves (shared.straight mover)
        (moves_advance (retentive_of_standard (standard mover)) _ _ event) direct
    · rw [flights_advance_of_ne same]
      exact shared.straight caller

/-- Whatever order the turns have, requests go where their client's own requests would go, or where
those of a lender go. -/
theorem shared_run (capacity : Nat) (turns : List (Caller × Event))
    (answers : ∀ caller found, (caller, .resolved found) ∈ turns → ∀ host,
      (clients caller).entryName = some host → found = names host)
    (direct : ∀ turn ∈ turns, turn.2.redirects = false) :
    let start := poised calls (.withCapacity capacity)
    Shared names clients calls (run clients start turns) (deeds clients start turns) := by
  intro start
  induction turns using List.reverseRecOn with
  | nil =>
      exact ⟨fun _ _ member => absurd member List.not_mem_nil,
        fun _ member => absurd member List.not_mem_nil, fun _ => ⟨nofun, nofun⟩⟩
  | append_singleton turns turn ih =>
      have shared := ih
        (fun caller found member => answers caller found (List.mem_append_left _ member))
        fun other member => direct other (List.mem_append_left _ member)
      rw [run_append, deeds_append, run_cons, run_nil, deeds_cons, deeds_nil, List.append_nil]
      obtain ⟨mover, event⟩ := turn
      refine shared.advance standard read fresh
        (fun caller => underway_run standard calls (.withCapacity capacity) turns caller)
        (mover, event) ?_ (direct _ (by simp))
      rintro found rfl
      exact answers mover found (by simp)

/-- Calls of clients that share a cache, and are not redirected, go the way of their own entry or of
the entry of a client whose call under the same key has succeeded, and to the address that its host
has.  So a call goes its own way unless it has its key in common with a client of another entry. -/
theorem own_or_lent_way (capacity : Nat) (turns : List (Caller × Event))
    (answers : ∀ caller found, (caller, .resolved found) ∈ turns → ∀ host,
      (clients caller).entryName = some host → found = names host)
    (direct : ∀ turn ∈ turns, turn.2.redirects = false) :
    let start := poised calls (.withCapacity capacity)
    let traffic := run clients start turns
    ∀ caller, ∀ request ∈ requests (part caller (deeds clients start turns)),
      (∃ lender, Lends clients calls traffic lender caller ∧
        SameWay request.uri (clients lender).entry ∧
          ∀ host, (clients lender).entryName = some host →
            ∃ address, Net.chooseIpv4 host (names host) = .ok address ∧
              request.uri.host = some address.text) ∧
      ((∀ other key, (clients other).keyOf (calls other) = some key →
          (clients caller).keyOf (calls caller) = some key →
            SameWay (clients other).entry (clients caller).entry) →
        SameWay request.uri (clients caller).entry) := by
  intro start traffic caller request member
  have shared := shared_run standard read fresh capacity turns answers direct
  obtain ⟨lender, lends, heads⟩ := shared.sent caller request member
  obtain ⟨text, isEntry⟩ := read lender
  have way := heads.sameWay isEntry
  refine ⟨⟨lender, lends, way, fun host named => heads.host isEntry named⟩, fun alike => ?_⟩
  rcases lends with rfl | ⟨⟨key, lent, own⟩, _⟩
  · exact way
  · exact way.trans (alike lender key lent own)

end Running

section Samples

/-- Two clients that enter through the same host and differ in the port. -/
def neighbours (caller : Bool) : Client :=
  if caller then { relay with entry := ⟨some "http", some "relay:9090", "/", none⟩ } else relay

/-- The second client makes its call when that of the first one has succeeded. -/
def visits (address : Net.Ipv4) : List (Bool × Event) :=
  let answer := Response.success (Json.Value.bool true).bytes
  [(false, .resumed), (false, .resolved (.ok [.v4 address])), (false, .answered answer.head),
    (false, .received (.ok answer.body)), (true, .resumed)]

theorem answers_visits (address : Net.Ipv4) (caller : Bool)
    (found : Except Net.LookupFault (List Net.Address))
    (member : (caller, .resolved found) ∈ visits address) : found = .ok [.v4 address] := by
  simp only [visits, List.mem_cons, List.not_mem_nil, Prod.mk.injEq, reduceCtorEq, and_false,
    or_false, false_or, Event.resolved.injEq] at member
  exact member.2

/-- The second client is sent on the way of the first one, which has succeeded before. -/
theorem own_or_lent_way_neighbours :
    let calls : Bool → Call := fun _ => .fresh "SimpleCalc" "add" []
    let turns := visits ⟨#v[10, 0, 0, 7]⟩
    let start := poised calls (.withCapacity 100)
    ∃ request ∈ requests (part true (deeds neighbours start turns)),
      Lends neighbours calls (run neighbours start turns) false true ∧
        SameWay request.uri (neighbours false).entry := by
  intro calls turns start
  have standard : ∀ caller, (neighbours caller).handler = .standard := by
    rintro (_ | _) <;> rfl
  have read : ∀ caller, ∃ text, Uri.parse text = .ok (neighbours caller).entry := by
    rintro (_ | _)
    · exact ⟨"http://relay:8080/", rfl⟩
    · exact ⟨"http://relay:9090/", rfl⟩
  have direct : ∀ turn ∈ turns, turn.2.redirects = false := by decide +kernel
  let names : Names := fun _ => .ok [.v4 ⟨#v[10, 0, 0, 7]⟩]
  have answers : ∀ caller found, (caller, .resolved found) ∈ turns → ∀ host,
      (neighbours caller).entryName = some host → found = names host :=
    fun caller found member _ _ => answers_visits _ caller found member
  have fresh : ∀ caller, (calls caller).request = none := fun _ => rfl
  have ways := own_or_lent_way standard read fresh 100 turns answers direct true
  have ports : (requests (part true (deeds neighbours start turns))).map (·.uri.port) =
      [some 8080] := by
    decide +kernel
  obtain ⟨request, sent, port⟩ : ∃ request ∈ requests (part true (deeds neighbours start turns)),
      request.uri.port = some 8080 := by
    have member : some 8080 ∈ [some (8080 : UInt16)] := List.mem_singleton_self _
    rw [← ports] at member
    exact List.mem_map.mp member
  obtain ⟨⟨lender, lends, way, _⟩, _⟩ := ways request sent
  cases lender with
  | false => exact ⟨request, sent, lends, way⟩
  | true =>
      -- The entry of the second client has another port than the request.
      have other := way.port
      rw [port] at other
      exact absurd other (by decide)

/-- The second client sends its call to the port of the first one, although the host has one address
only and nobody redirects. -/
theorem neighbour_led_astray :
    let calls : Bool → Call := fun _ => .fresh "SimpleCalc" "add" []
    let turns := visits ⟨#v[10, 0, 0, 7]⟩
    let sent := requests (part true (deeds neighbours (poised calls (.withCapacity 100)) turns))
    (∀ caller found, (caller, .resolved found) ∈ turns →
        found = .ok [.v4 ⟨#v[10, 0, 0, 7]⟩]) ∧
      (∀ turn ∈ turns, turn.2.redirects = false) ∧
        sent.map (·.uri.port) = [some 8080] ∧ (neighbours true).entry.port = some 9090 := by
  intro calls turns sent
  exact ⟨answers_visits _, by decide +kernel, by decide +kernel, by decide⟩

end Samples

end Traffic
end RemoteCall
