import RemoteCall.Proofs.Flight.Deeds
import RemoteCall.Response.Factory

/-!
# One request, aimed again

A call encodes its parameters once and looks its host up once at most.  Whatever it sends after its
first request is that request again: retries send it where it went before, redirects send it
elsewhere, and all that ever comes to it is the mark of a relay.
-/

namespace RemoteCall
namespace Flight

variable {client : Client} {flight : Flight} {cache : Route.Cache}

/-- Whether the answer of an exchange has the mark of a relay. -/
def Exchange.isMarked : Exchange → Bool
  | .answered head _ => head.fields.has .directDirection
  | .unanswered _ => false

/-- A request is another one again, apart from its target and the mark of a relay. -/
structure Repeats (first request : OutboundRequest) : Prop where
  method : request.method = first.method
  body : request.body = first.body
  timeouts : request.timeouts = first.timeouts
  routeKey : request.routeKey = first.routeKey
  fields : request.fields.erase Header.directDirection.fieldName =
    first.fields.erase Header.directDirection.fieldName

/-- One of the first exchanges was a redirect with the mark of a relay. -/
def MarkedBefore (codec : Codec) (exchanges : Nat → Exchange) (count : Nat) : Prop :=
  ∃ earlier < count, (exchanges earlier).isRedirectSignal codec = true ∧
    (exchanges earlier).isMarked = true

/-- A request that is sent after a number of exchanges has the mark of a relay exactly if one of
the redirects among them had it. -/
structure MarkedBy (codec : Codec) (exchanges : Nat → Exchange) (count : Nat)
    (request : OutboundRequest) : Prop where
  marked : MarkedBefore codec exchanges count →
    request.fields.read .directDirection = some Header.yes
  unmarked : ¬MarkedBefore codec exchanges count → request.fields.has .directDirection = false

/-- Where a request goes after an exchange, given where it went before. -/
structure AimedBy (codec : Codec) (exchange : Exchange) (request next : OutboundRequest) :
    Prop where
  staying : exchange.isRedirectSignal codec = false → next.uri = request.uri
  leaving : exchange.isRedirectSignal codec = true →
    ∃ head body host, exchange = .answered head (.ok body) ∧
      head.fields.read .redirectHost = some host ∧
        Redirect.target request.uri host head.fields = .ok next.uri

/-- What is sent after an exchange that has not ended the call. -/
inductive Resends (codec : Codec) (request : OutboundRequest) :
    Exchange → OutboundRequest → Prop where
  | again {exchange : Exchange} (staying : exchange.isRedirectSignal codec = false) :
      Resends codec request exchange request
  | elsewhere {head : ResponseHead} {body : Bytes}
      (leaving : (Exchange.answered head (.ok body)).isRedirectSignal codec = true)
      {host : String} (named : head.fields.read .redirectHost = some host) {uri : Uri}
      (aimed : Redirect.target request.uri host head.fields = .ok uri) :
      Resends codec request (.answered head (.ok body))
        ((directed request head.fields).withUri uri)

section Resending

variable {codec : Codec} {exchange : Exchange} {request next : OutboundRequest}

theorem Repeats.refl (request : OutboundRequest) : Repeats request request :=
  ⟨rfl, rfl, rfl, rfl, rfl⟩

theorem Repeats.trans {first : OutboundRequest} (before : Repeats first request)
    (after : Repeats request next) : Repeats first next where
  method := after.method.trans before.method
  body := after.body.trans before.body
  timeouts := after.timeouts.trans before.timeouts
  routeKey := after.routeKey.trans before.routeKey
  fields := after.fields.trans before.fields

theorem repeats_directed (request : OutboundRequest) (fields : Fields) :
    Repeats request (directed request fields) := by
  unfold directed
  split
  · exact ⟨rfl, rfl, rfl, rfl, Fields.erase_write_self request.fields .directDirection Header.yes⟩
  · exact .refl request

theorem Resends.repeats (resends : Resends codec request exchange next) :
    Repeats request next := by
  cases resends with
  | again => exact .refl request
  | elsewhere =>
      have marked := repeats_directed request
      exact ⟨(marked _).method, (marked _).body, (marked _).timeouts, (marked _).routeKey,
        (marked _).fields⟩

theorem Resends.aimedBy (resends : Resends codec request exchange next) :
    AimedBy codec exchange request next := by
  cases resends with
  | again staying =>
      refine ⟨fun _ => rfl, ?_⟩
      intro leaving
      rw [staying] at leaving
      cases leaving
  | elsewhere leaving named aimed =>
      refine ⟨?_, fun _ => ⟨_, _, _, rfl, named, aimed⟩⟩
      intro staying
      rw [leaving] at staying
      cases staying

theorem markedBefore_succ {exchanges : Nat → Exchange} {count : Nat} :
    MarkedBefore codec exchanges (count + 1) ↔
      MarkedBefore codec exchanges count ∨
        (exchanges count).isRedirectSignal codec = true ∧
          (exchanges count).isMarked = true := by
  constructor
  · rintro ⟨earlier, within, marked⟩
    rcases Nat.lt_succ_iff_lt_or_eq.mp within with before | rfl
    · exact Or.inl ⟨earlier, before, marked⟩
    · exact Or.inr marked
  · rintro (⟨earlier, before, marked⟩ | marked)
    · exact ⟨earlier, Nat.lt_succ_of_lt before, marked⟩
    · exact ⟨count, Nat.lt_succ_self count, marked⟩

theorem cleaned_yes : FieldValue.cleaned Header.yes = Header.yes := by
  decide

/-- A mark that has been put on a request stays, and no answer but a redirect puts it there. -/
theorem Resends.markedBy {exchanges : Nat → Exchange} {count : Nat}
    (resends : Resends codec request (exchanges count) next)
    (before : MarkedBy codec exchanges count request) :
    MarkedBy codec exchanges (count + 1) next := by
  have marks : MarkedBefore codec exchanges (count + 1) ↔ _ := markedBefore_succ
  generalize exchanges count = exchange at resends marks
  cases resends with
  | again staying =>
      have same : MarkedBefore codec exchanges (count + 1) ↔
          MarkedBefore codec exchanges count := by
        rw [marks, staying]
        simp
      exact ⟨fun marked => before.marked (same.mp marked),
        fun unmarked => before.unmarked fun marked => unmarked (same.mpr marked)⟩
  | @elsewhere head _ leaving _ _ _ _ =>
      cases fresh : head.fields.has .directDirection with
      | true =>
          have added : directed request head.fields =
              request.withHeader .directDirection Header.yes := by
            rw [directed, if_pos fresh]
          constructor
          · intro _
            rw [added]
            exact (Fields.read_write_self request.fields .directDirection Header.yes).trans
              (congrArg some cleaned_yes)
          · intro unmarked
            exact absurd (marks.mpr (Or.inr ⟨leaving, fresh⟩)) unmarked
      | false =>
          have unchanged : directed request head.fields = request := by
            rw [directed, fresh]
            rfl
          have same : MarkedBefore codec exchanges (count + 1) ↔
              MarkedBefore codec exchanges count := by
            rw [marks]
            simp [Exchange.isMarked, fresh]
          rw [unchanged]
          exact ⟨fun marked => before.marked (same.mp marked),
            fun unmarked => before.unmarked fun marked => unmarked (same.mpr marked)⟩

end Resending

section Exchanges

variable {request : OutboundRequest}

/-- After an exchange the call has ended, or it has sent its request again. -/
theorem resends_of_exchange (standard : client.handler = .standard)
    (sending : flight.stage = .sending request) (built : flight.call.request = some request)
    (cache : Route.Cache) (exchange : Exchange) :
    let next := (run client flight cache exchange.events).1
    next.Settled ∨ ∃ later, next.stage = .sending later ∧ next.call.request = some later ∧
      Resends client.codec request exchange later := by
  intro next
  cases redirect : exchange.isRedirectSignal client.codec with
  | true =>
      obtain ⟨head, body, _, rfl, _⟩ := Exchange.isRedirectSignal_iff.mp redirect
      have followed : next = _ := run_redirect_answered sending standard cache built redirect
      let reading : Flight := { flight with stage := .reading head .redirect }
      have kept : reading.call.request = some request := built
      have follows := follows client kept cache head.fields
      rw [followed]
      generalize follow client _ cache head.fields = after at follows
      cases follows with
      | forbidden | exceeded | lost => exact Or.inl ⟨_, fail_stage _⟩
      | followed _ _ named aimed =>
          rw [directed_uri] at aimed
          exact Or.inr ⟨_, rfl, rfl, .elsewhere redirect named aimed⟩
  | false =>
      cases retry : exchange.isRetrySignal with
      | true =>
          cases allowed : mayRetry client flight.call with
          | true =>
              have resent : next.stage = .sending request ∧ next.call = flight.call.countRetry :=
                run_retry sending standard built retry allowed
              refine Or.inr ⟨request, resent.1, ?_, .again redirect⟩
              rw [resent.2]
              exact built
          | false => exact Or.inl (run_retry_exhausted sending standard retry allowed).settled
      | false =>
          have ended : next.EndsWithinBudgets := run_final sending standard retry redirect
          obtain ⟨outcome, settled, _⟩ := ended
          exact Or.inl ⟨outcome, settled⟩

end Exchanges

section Launching

variable {call : Call} {found : Except Net.LookupFault (List Net.Address)}

/-- What becomes the first request of a call, before the last headers are added. -/
inductive FirstDraft (client : Client) (call : Call) : OutboundRequest → Prop where
  | addressed (body : Bytes) : FirstDraft client call (client.addressed call body)
  | named (body : Bytes) (host : String) (uri : Uri) :
      FirstDraft client call
        (((client.addressed call body).withRouteKey (client.routeKey host call)).withUri uri)

/-- How launching a call goes. -/
structure Launches (client : Client) (call : Call) (cache : Route.Cache)
    (found : Except Net.LookupFault (List Net.Address)) : Prop where
  poised : (launch client call cache found).1.Settled ∨
    ∃ draft, FirstDraft client call draft ∧
      (launch client call cache found).1.stage = .sending (client.complete call draft) ∧
        (launch client call cache found).1.call.request = some (client.complete call draft)
  deeds : ∃ hosts : List String,
    callDeeds client call cache [.resolved found] =
        .encoded (.array call.parameters) ::
          (hosts.map Deed.asked ++ (launch client call cache found).1.stage.demand) ∧
      hosts.length ≤ 1 ∧
        ∀ asked ∈ hosts, client.entryName = some asked ∧
          (cache.find? (client.routeKey asked call)).filter (!·.isEmpty) = none

/-- A host is looked up only if no target is remembered for the call. -/
theorem unremembered_of_lookup {host : String} {draft : OutboundRequest} {later : Route.Cache}
    (lookup : client.prepare cache call = (.lookup host draft, later)) :
    client.entryName = some host ∧
      (cache.find? (client.routeKey host call)).filter (!·.isEmpty) = none := by
  cases encoded : client.codec.encode (.array call.parameters) with
  | error fault =>
      rw [prepare_of_unencodable encoded] at lookup
      cases lookup
  | ok body =>
      cases named : client.entryName with
      | none =>
          rw [Client.prepare, encoded] at lookup
          dsimp only at lookup
          rw [named] at lookup
          cases lookup
      | some name =>
          rw [prepare_of_name encoded named] at lookup
          cases remembered : (cache.find? (client.routeKey name call)).filter (!·.isEmpty) with
          | none =>
              rw [remembered] at lookup
              cases lookup
              exact ⟨rfl, remembered⟩
          | some target =>
              rw [remembered] at lookup
              dsimp only at lookup
              cases parsed : Uri.parse target with
              | error fault =>
                  rw [parsed] at lookup
                  cases lookup
              | ok uri =>
                  rw [parsed] at lookup
                  cases lookup

/-- A call that does not start with a lookup is launched as soon as it is started. -/
theorem launches_of_started (unbuilt : call.request = none)
    (unawaited : (start client call cache).1.stage.awaits (.resolved found) = false)
    (poised : (start client call cache).1.Settled ∨
      ∃ draft, FirstDraft client call draft ∧
        (start client call cache).1 = send ⟨call, [], .pausing 0⟩ (client.complete call draft)) :
    Launches client call cache found := by
  have launched : (launch client call cache found).1 = (start client call cache).1 := by
    rw [launch, advance_of_not_awaits unawaited]
  constructor
  · rw [launched]
    rcases poised with settled | ⟨draft, first, sent⟩
    · exact Or.inl settled
    · rw [sent]
      exact Or.inr ⟨draft, first, rfl, rfl⟩
  · refine ⟨[], ?_, Nat.zero_le 1, fun _ member => absurd member List.not_mem_nil⟩
    rw [launched, callDeeds, encodes, unbuilt, deeds_cons, deeds_nil,
      deedsAt_of_not_awaits unawaited]
    simp

theorem launches (unbuilt : call.request = none) (client : Client) (cache : Route.Cache)
    (found : Except Net.LookupFault (List Net.Address)) : Launches client call cache found := by
  rcases prepared : client.prepare cache call with ⟨preparation, later⟩
  have prepares := prepares client call cache
  rw [prepared] at prepares
  cases preparation with
  | failed fault =>
      have failed : start client call cache = fail ⟨call, [], .pausing 0⟩ later (.notBuilt fault) :=
        attempt_failed unbuilt prepared
      apply launches_of_started unbuilt
      · rw [failed]
        rfl
      · rw [failed]
        exact Or.inl ⟨_, fail_stage _⟩
  | ready request =>
      have sent : start client call cache = (send ⟨call, [], .pausing 0⟩ request, later) :=
        attempt_ready unbuilt prepared
      have first : ∃ draft, FirstDraft client call draft ∧ request = client.complete call draft := by
        cases prepares with
        | address encoded address => exact ⟨_, .addressed _, rfl⟩
        | remembered encoded named uri => exact ⟨_, .named _ _ uri, rfl⟩
      obtain ⟨draft, isFirst, rfl⟩ := first
      apply launches_of_started unbuilt
      · rw [sent]
        rfl
      · rw [sent]
        exact Or.inr ⟨draft, isFirst, rfl⟩
  | lookup host draft =>
      have asking : start client call cache = (⟨call, [], .resolving host draft⟩, later) :=
        attempt_lookup unbuilt prepared
      obtain ⟨named, unremembered⟩ := unremembered_of_lookup prepared
      have launched := launch_lookup unbuilt found prepared
      constructor
      · rw [launched]
        cases aimed : client.aim call host draft found with
        | error fault => exact Or.inl ⟨_, fail_stage _⟩
        | ok request =>
            obtain ⟨_, uri, _, rfl⟩ := exists_of_aim aimed
            cases prepares with
            | unknown => exact Or.inr ⟨_, .named _ host uri, rfl, rfl⟩
      · refine ⟨[host], ?_, Nat.le_refl 1, ?_⟩
        · rw [callDeeds, asking, encodes, unbuilt, launch, asking]
          simp [deedsAt, Stage.awaits, Stage.demand, encodesAt]
        · intro asked isAsked
          rw [List.mem_singleton.mp isAsked]
          exact ⟨named, unremembered⟩

/-- The first request of a call has no mark of a relay. -/
theorem FirstDraft.unmarked {draft : OutboundRequest} (first : FirstDraft client call draft) :
    (client.complete call draft).fields.has .directDirection = false := by
  have addressed (body : Bytes) :
      (client.addressed call body).fields.has .directDirection = false := by
    unfold Client.addressed
    cases client.entity call with
    | none => rfl
    | some identifier =>
        exact Fields.has_write_of_ne _ identifier (by decide : Header.directDirection ≠ _)
  have unmarkedDraft : draft.fields.has .directDirection = false := by
    cases first with
    | addressed body => exact addressed body
    | named body host uri =>
        rw [← addressed body]
        exact Fields.has_write_of_ne _ _ (by decide : Header.directDirection ≠ .routeKey)
  unfold Client.complete
  dsimp only [OutboundRequest.withHeader]
  rw [Fields.has_write_of_ne _ _ (by decide), Fields.has_write_of_ne _ _ (by decide)]
  cases client.settings.requestTimeout with
  | none => exact unmarkedDraft
  | some timeout => exact unmarkedDraft

end Launching

section Courses

variable {exchanges : Nat → Exchange} {count : Nat}

/-- What a call has sent when it has been through a number of exchanges. -/
structure Trail (client : Client) (exchanges : Nat → Exchange) (count : Nat) (now : Flight)
    (sent : List OutboundRequest) : Prop where
  poised : now.Settled ∨ ∃ request, now.stage = .sending request ∧
    now.call.request = some request ∧ sent.length = count + 1 ∧ sent[count]? = some request
  unmarked : ∀ first, sent[0]? = some first → first.fields.has .directDirection = false
  resends : ∀ earlier request next, sent[earlier]? = some request →
    sent[earlier + 1]? = some next → Resends client.codec request (exchanges earlier) next

theorem sent_concat_cases {sent : List OutboundRequest} {request later : OutboundRequest}
    {index : Nat} (isSent : (sent ++ [later])[index]? = some request) :
    index < sent.length ∧ sent[index]? = some request ∨
      index = sent.length ∧ request = later := by
  rcases Nat.lt_or_ge index sent.length with within | beyond
  · rw [List.getElem?_append_left within] at isSent
    exact Or.inl ⟨within, isSent⟩
  · have bound := (List.getElem?_eq_some_iff.mp isSent).1
    rw [List.length_append, List.length_singleton] at bound
    obtain rfl : index = sent.length := by omega
    rw [List.getElem?_concat_length] at isSent
    exact Or.inr ⟨rfl, (Option.some.inj isSent).symm⟩

/-- An exchange adds one request to what has been sent, or it ends the call. -/
theorem Trail.succ (standard : client.handler = .standard) {now : Flight}
    {sent : List OutboundRequest} (trail : Trail client exchanges count now sent)
    (cache : Route.Cache) :
    ∃ more, deeds client now cache (exchanges count).events = more.map Deed.sent ∧
      Trail client exchanges (count + 1) (run client now cache (exchanges count).events).1
        (sent ++ more) := by
  have retentive := retentive_of_standard standard
  rcases trail.poised with ⟨outcome, settled⟩ | ⟨request, sending, built, length, last⟩
  · refine ⟨[], deeds_settled settled _, ?_⟩
    rw [run_settled settled, List.append_nil]
    exact ⟨Or.inl ⟨outcome, settled⟩, trail.unmarked, trail.resends⟩
  · have demand := deeds_exchange retentive sending built cache (exchanges count)
    rcases resends_of_exchange standard sending built cache (exchanges count) with
      ⟨outcome, settled⟩ | ⟨later, stage, kept, resends⟩
    · refine ⟨[], ?_, ?_⟩
      · rw [demand, settled]
        rfl
      · rw [List.append_nil]
        exact ⟨Or.inl ⟨outcome, settled⟩, trail.unmarked, trail.resends⟩
    · refine ⟨[later], ?_, ?_, ?_, ?_⟩
      · rw [demand, stage]
        rfl
      · exact Or.inr ⟨later, stage, kept, by simp [length], by simp [← length]⟩
      · intro first isFirst
        rw [List.getElem?_append_left (by omega)] at isFirst
        exact trail.unmarked first isFirst
      · intro earlier before next isBefore isNext
        rcases sent_concat_cases isNext with ⟨within, isNext⟩ | ⟨isLast, rfl⟩
        · rw [List.getElem?_append_left (Nat.lt_of_succ_lt within)] at isBefore
          exact trail.resends earlier before next isBefore isNext
        · -- Only the last pair of requests is new.
          obtain rfl : earlier = count := by omega
          rw [List.getElem?_append_left (by omega), last] at isBefore
          cases isBefore
          exact resends

theorem trail_course (standard : client.handler = .standard) {sent : List OutboundRequest}
    (first : Trail client exchanges 0 flight sent) (caches : Nat → Route.Cache) (count : Nat) :
    ∃ more, courseDeeds client exchanges caches flight count = more.map Deed.sent ∧
      Trail client exchanges count (course client exchanges caches flight count)
        (sent ++ more) := by
  induction count with
  | zero =>
      refine ⟨[], rfl, ?_⟩
      rw [List.append_nil]
      exact first
  | succ count ih =>
      obtain ⟨before, deedsBefore, trail⟩ := ih
      obtain ⟨more, deedsNow, longer⟩ := trail.succ standard (caches count)
      refine ⟨before ++ more, ?_, ?_⟩
      · rw [courseDeeds, deedsBefore, deedsNow, List.map_append]
      · rw [← List.append_assoc]
        exact longer

theorem exists_sent_before {sent : List OutboundRequest} {index : Nat} {request : OutboundRequest}
    (isSent : sent[index + 1]? = some request) : ∃ before, sent[index]? = some before := by
  have bound := (List.getElem?_eq_some_iff.mp isSent).1
  exact ⟨_, List.getElem?_eq_getElem (by omega)⟩

theorem Trail.repeats {now : Flight} {sent : List OutboundRequest}
    (trail : Trail client exchanges count now sent) {first : OutboundRequest}
    (isFirst : sent[0]? = some first) (index : Nat) {request : OutboundRequest}
    (isSent : sent[index]? = some request) : Repeats first request := by
  induction index generalizing request with
  | zero =>
      rw [isFirst] at isSent
      cases isSent
      exact .refl first
  | succ index ih =>
      obtain ⟨before, isBefore⟩ := exists_sent_before isSent
      exact (ih isBefore).trans (trail.resends index before request isBefore isSent).repeats

theorem Trail.markedBy {now : Flight} {sent : List OutboundRequest}
    (trail : Trail client exchanges count now sent) (index : Nat) {request : OutboundRequest}
    (isSent : sent[index]? = some request) : MarkedBy client.codec exchanges index request := by
  induction index generalizing request with
  | zero =>
      refine ⟨?_, fun _ => trail.unmarked request isSent⟩
      rintro ⟨earlier, before, _⟩
      exact absurd before (Nat.not_lt_zero earlier)
  | succ index ih =>
      obtain ⟨before, isBefore⟩ := exists_sent_before isSent
      exact (trail.resends index before request isBefore isSent).markedBy (ih isBefore)

theorem trail_settled {now : Flight} (settled : now.Settled) (exchanges : Nat → Exchange)
    (count : Nat) : Trail client exchanges count now [] where
  poised := Or.inl settled
  unmarked first isFirst := by cases isFirst
  resends earlier request next isSent _ := by cases isSent

theorem trail_first {now : Flight} {request : OutboundRequest}
    (sending : now.stage = .sending request) (built : now.call.request = some request)
    (unmarked : request.fields.has .directDirection = false) (exchanges : Nat → Exchange) :
    Trail client exchanges 0 now [request] where
  poised := Or.inr ⟨request, sending, built, rfl, rfl⟩
  unmarked first isFirst := by
    cases isFirst
    exact unmarked
  resends earlier before next _ isNext := by cases isNext

/-- All that a fresh call does: it encodes its parameters, asks for a host at most, and sends one
request after the other. -/
theorem exists_trail (standard : client.handler = .standard) {call : Call}
    (unbuilt : call.request = none) (cache : Route.Cache)
    (found : Except Net.LookupFault (List Net.Address)) (exchanges : Nat → Exchange)
    (caches : Nat → Route.Cache) (count : Nat) :
    ∃ (hosts : List String) (sent : List OutboundRequest),
      journal client call cache found exchanges caches count =
        .encoded (.array call.parameters) :: (hosts.map Deed.asked ++ sent.map Deed.sent) ∧
      encodings (courseDeeds client exchanges caches (launch client call cache found).1 count) =
        [] ∧
      hosts.length ≤ 1 ∧
      (∀ asked ∈ hosts, client.entryName = some asked ∧
        (cache.find? (client.routeKey asked call)).filter (!·.isEmpty) = none) ∧
      Trail client exchanges count
        (course client exchanges caches (launch client call cache found).1 count) sent := by
  obtain ⟨poised, hosts, launched, few, justified⟩ := launches unbuilt client cache found
  obtain ⟨start, demand, trail⟩ : ∃ start : List OutboundRequest,
      (launch client call cache found).1.stage.demand = start.map Deed.sent ∧
        Trail client exchanges 0 (launch client call cache found).1 start := by
    rcases poised with settled | ⟨draft, first, sending, built⟩
    · refine ⟨[], ?_, trail_settled settled exchanges 0⟩
      obtain ⟨outcome, stage⟩ := settled
      rw [stage]
      rfl
    · refine ⟨[client.complete call draft], ?_,
        trail_first sending built first.unmarked exchanges⟩
      rw [sending]
      rfl
  obtain ⟨more, later, longer⟩ := trail_course standard trail caches count
  refine ⟨hosts, start ++ more, ?_, ?_, few, justified, longer⟩
  · rw [journal, launched, demand, later]
    simp
  · rw [later, encodings_sent]

end Courses

/-- A fresh call encodes its parameters once, so that later on it needs no encoder any more; and it
looks its host up once at most, and not at all if the host is an address or a target is remembered.
Each request that it sends is the first one again, apart from its target and the mark of a relay;
the mark is on it exactly if one of the redirects before it had it; and it goes where the one before
it went, or where a redirect between the two leads. -/
theorem built_once {client : Client} (standard : client.handler = .standard)
    (interface method : String) (parameters : Parameters) (cache : Route.Cache)
    (found : Except Net.LookupFault (List Net.Address)) (exchanges : Nat → Exchange)
    (caches : Nat → Route.Cache) (count : Nat) :
    let call := Call.fresh interface method parameters
    let deeds := journal client call cache found exchanges caches count
    let launched := (launch client call cache found).1
    encodings deeds = [.array parameters] ∧
      (∀ explanation, course { client with codec := client.codec.withoutEncoding explanation }
          exchanges caches launched count = course client exchanges caches launched count) ∧
      (questions deeds).length ≤ 1 ∧
      (client.entryName = none → questions deeds = []) ∧
      (∀ host target, client.entryName = some host →
        cache.find? (client.routeKey host call) = some target → target.isEmpty = false →
          questions deeds = []) ∧
      ∀ first, (requests deeds)[0]? = some first →
        ∀ index request, (requests deeds)[index]? = some request →
          Repeats first request ∧ MarkedBy client.codec exchanges index request ∧
            ∀ next, (requests deeds)[index + 1]? = some next →
              AimedBy client.codec (exchanges index) request next := by
  intro call deeds launched
  obtain ⟨hosts, sent, all, silent, few, justified, trail⟩ :=
    exists_trail standard (rfl : call.request = none) cache found exchanges caches count
  have encodingsEq : encodings deeds = [.array parameters] := by
    unfold deeds
    rw [all, encodings_encoded, encodings_append]
    simp [call, Call.fresh]
  have questionsEq : questions deeds = hosts := by
    unfold deeds
    rw [all, questions_encoded, questions_append]
    simp
  have requestsEq : requests deeds = sent := by
    unfold deeds
    rw [all, requests_encoded, requests_append]
    simp
  rw [encodingsEq, questionsEq, requestsEq]
  refine ⟨rfl, fun explanation => course_withoutEncoding explanation silent, few, ?_, ?_, ?_⟩
  · intro address
    refine List.eq_nil_iff_forall_not_mem.mpr fun asked member => ?_
    have named := (justified asked member).1
    rw [address] at named
    cases named
  · intro host target named remembered meaningful
    refine List.eq_nil_iff_forall_not_mem.mpr fun asked member => ?_
    obtain ⟨isNamed, unremembered⟩ := justified asked member
    rw [named] at isNamed
    cases isNamed
    rw [remembered, Option.filter_some, meaningful] at unremembered
    cases unremembered
  · intro first isFirst index request isSent
    exact ⟨trail.repeats isFirst index isSent, trail.markedBy index isSent,
      fun next isNext => (trail.resends index request next isSent isNext).aimedBy⟩

/-- A relay sends a call elsewhere: the request that goes there is the first one with the mark. -/
theorem built_once_relayed :
    let relayed := Response.redirect ⟨"10.0.0.7", none, none, true⟩
    let exchanges : Nat → Exchange := fun _ => .answered relayed.head (.ok relayed.body)
    let deeds := journal loopback (.fresh "SimpleCalc" "add" []) .usual (.ok []) exchanges
      (fun _ => .usual) 1
    ∃ first next, (requests deeds)[0]? = some first ∧ (requests deeds)[1]? = some next ∧
      Repeats first next ∧ next.fields.read .directDirection = some Header.yes ∧
        next.uri.text = "http://10.0.0.7:8080/" := by
  intro relayed exchanges deeds
  have targets : (requests deeds).map (fun request => request.uri.text) =
      ["http://127.0.0.1:8080/", "http://10.0.0.7:8080/"] := by
    decide +kernel
  obtain ⟨first, later, all, _, isLater⟩ := List.map_eq_cons_iff.mp targets
  obtain ⟨next, others, rfl, target, _⟩ := List.map_eq_cons_iff.mp isLater
  have isFirst : (requests deeds)[0]? = some first := by rw [all]; rfl
  have isNext : (requests deeds)[1]? = some next := by rw [all]; rfl
  have marked : MarkedBefore loopback.codec exchanges 1 :=
    ⟨0, Nat.zero_lt_one, by decide +kernel, by decide +kernel⟩
  obtain ⟨repeats, markedBy, _⟩ := (built_once rfl "SimpleCalc" "add" [] .usual (.ok [])
    exchanges (fun _ => .usual) 1).2.2.2.2.2 _ isFirst 1 _ isNext
  exact ⟨first, next, isFirst, isNext, repeats, markedBy.marked marked, target⟩

/-- An answer of the kind of a redirect from a server that failed asks to try again, and its mark
is not taken over. -/
theorem mark_of_failed_server_dropped :
    let relayed := Response.redirect ⟨"10.0.0.7", none, none, true⟩
    let failed : ResponseHead := { relayed.head with status := ⟨503⟩ }
    let exchanges : Nat → Exchange := fun _ => .answered failed (.ok relayed.body)
    let deeds := journal loopback (.fresh "SimpleCalc" "add" []) .usual (.ok []) exchanges
      (fun _ => .usual) 1
    responseKind? failed.fields = some .redirect ∧ failed.fields.has .directDirection = true ∧
      ∃ next, (requests deeds)[1]? = some next ∧ next.fields.has .directDirection = false := by
  intro relayed failed exchanges deeds
  have second : (requests deeds)[1]?.map (fun next => next.fields.has .directDirection) =
      some false := by
    decide +kernel
  obtain ⟨next, isNext, unmarked⟩ := Option.map_eq_some_iff.mp second
  exact ⟨by decide +kernel, by decide +kernel, next, isNext, unmarked⟩

end Flight
end RemoteCall
