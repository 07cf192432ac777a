import RemoteCall.Proofs.Flight.Signals

/-!
# Junctures

There are two places where the counters of a call have a say in what it does next: where it is asked
to try again, and where it is led elsewhere by a redirect.  At such a juncture the call goes on or
ends, and one of its counters counts on; everywhere else it does the same whatever its counters say.
So a step of a call is the juncture that it comes to, which can be told without the counters, and
what they make of it.
-/

namespace RemoteCall
namespace Flight

/-- A call with other counters. -/
def withCounts (flight : Flight) (retries redirects : UInt32) : Flight :=
  { flight with call := { flight.call with retries := retries, redirects := redirects } }

/-- What a call comes to at an event, as far as it can be told without its counters. -/
inductive Juncture where
  /-- The counters have no say. -/
  | plain (next : Flight × Route.Cache)
  /-- The call tries again, or it ends if no retry is left. -/
  | retry (granted refused : Flight × Route.Cache)
  /-- The call follows a redirect, or it ends if no redirect is left. -/
  | redirect (granted refused : Flight × Route.Cache)

/-- Whether a call that reads the body of a redirect goes on to follow it, if a redirect is left. -/
def isLed (client : Client) (flight : Flight) (head : ResponseHead) (body : Bytes) : Bool :=
  head.status == .ok && (resultOf client.codec head.fields body).isOk &&
    flight.call.request.isSome && client.settings.redirectsLimit != 0

/-- The juncture that a call comes to at an event.  A redirect that is granted is followed as by a
call that has counted nothing yet. -/
def juncture (client : Client) (flight : Flight) (cache : Route.Cache) (event : Event) :
    Juncture :=
  match flight.stage, event with
  | .sending _, .unanswered (.unprocessed explanation) =>
      let cache := forget cache flight.attempts.head?.join
      .retry
        ({ flight with
            attempts := flight.attempts.tail
            stage := .pausing client.settings.retryDelay }, cache)
        (flight.fail cache (.unreached explanation))
  | .sending _, .answered head =>
      if Event.isRetrySignal client (.answered head) then
        let flight := taken client flight
        .retry ({ flight with stage := .pausing (suggestedPause client head.fields) }, cache)
          (flight.fail cache (exhausted client head.status))
      else .plain (flight.afterAnswer client cache head)
  | .reading head .redirect, .received (.ok body) =>
      if isLed client flight head body then
        .redirect ((flight.withCounts 0 0).follow client cache head.fields)
          (flight.fail cache (.redirectsExceeded client.settings.redirectsLimit))
      else .plain (flight.advance client cache event)
  | _, _ => .plain (flight.advance client cache event)

theorem isLed_iff {client : Client} {flight : Flight} {head : ResponseHead} {body : Bytes} :
    isLed client flight head body = true ↔
      head.status = .ok ∧ (∃ value, resultOf client.codec head.fields body = .ok value) ∧
        (∃ request, flight.call.request = some request) ∧
          client.settings.redirectsLimit ≠ 0 := by
  have decodes : (resultOf client.codec head.fields body).isOk = true ↔
      ∃ value, resultOf client.codec head.fields body = .ok value := by
    cases resultOf client.codec head.fields body with
    | error fault => simp [Except.isOk, Except.toBool]
    | ok value => simp [Except.isOk, Except.toBool]
  simp only [isLed, Bool.and_eq_true, beq_iff_eq, bne_iff_ne, decodes, Option.isSome_iff_exists,
    and_assoc]

/-- What a call comes to, with other counters. -/
def recounted (next : Flight × Route.Cache) (retries redirects : UInt32) : Flight × Route.Cache :=
  (next.1.withCounts retries redirects, next.2)

section Recounting

variable {client : Client} {flight : Flight} {cache : Route.Cache}

variable (flight cache) (retries redirects : UInt32)

theorem attempt_withCounts :
    attempt client (flight.withCounts retries redirects) cache =
      recounted (attempt client flight cache) retries redirects := by
  cases built : flight.call.request with
  | some request =>
      have same : (flight.withCounts retries redirects).call.request = some request := built
      rw [attempt_built built, attempt_built same]
      rfl
  | none =>
      have same : (flight.withCounts retries redirects).call.request = none := built
      rcases prepared : client.prepare cache flight.call with ⟨preparation, later⟩
      have alike : client.prepare cache (flight.withCounts retries redirects).call =
          (preparation, later) := prepared
      cases preparation with
      | ready request =>
          rw [attempt_ready built prepared, attempt_ready same alike]
          rfl
      | lookup host draft =>
          rw [attempt_lookup built prepared, attempt_lookup same alike]
          rfl
      | failed fault =>
          rw [attempt_failed built prepared, attempt_failed same alike]
          rfl

theorem afterUnprocessed_withCounts (explanation : String) :
    (flight.withCounts retries redirects).afterUnprocessed client cache explanation =
      recounted
        (if retries < client.settings.retriesLimit then
          ({ flight with
              attempts := flight.attempts.tail
              stage := .pausing client.settings.retryDelay },
            forget cache flight.attempts.head?.join)
        else flight.fail (forget cache flight.attempts.head?.join) (.unreached explanation))
        (increment retries) redirects := by
  have mayRetry_eq : mayRetry client (flight.withCounts retries redirects).call =
      decide (retries < client.settings.retriesLimit) := rfl
  rw [afterUnprocessed, mayRetry_eq]
  by_cases left : retries < client.settings.retriesLimit
  · rw [if_pos left, if_pos (decide_eq_true left)]
    rfl
  · rw [if_neg left, if_neg (by simpa using left)]
    rfl

theorem afterRetrySignal_withCounts (head : ResponseHead) :
    (flight.withCounts retries redirects).afterRetrySignal client cache head =
      recounted
        (if retries < client.settings.retriesLimit then
          ({ flight with stage := .pausing (suggestedPause client head.fields) }, cache)
        else flight.fail cache (exhausted client head.status))
        (increment retries) redirects := by
  have mayRetry_eq : mayRetry client (flight.withCounts retries redirects).call =
      decide (retries < client.settings.retriesLimit) := rfl
  rw [afterRetrySignal, mayRetry_eq]
  by_cases left : retries < client.settings.retriesLimit
  · rw [if_pos left, if_pos (decide_eq_true left)]
    rfl
  · rw [if_neg left, if_neg (by simpa using left)]
    rfl

theorem interpret_withCounts {head : ResponseHead} (silent : asksAgain head = false) :
    (flight.withCounts retries redirects).interpret client cache head =
      recounted (flight.interpret client cache head) retries redirects := by
  cases typed : responseKind? head.fields with
  | none =>
      rw [interpret_untyped typed, interpret_untyped typed]
      rfl
  | some kind =>
      by_cases thrown : kind = .throwable
      · subst thrown
        rw [interpret_throwable typed, interpret_throwable typed]
        rfl
      · have unasked : ¬(head.status.isServerError ∨ kind = .retry) := by
          intro asked
          rw [asksAgain_iff.mpr ⟨kind, typed, thrown, asked⟩] at silent
          cases silent
        rw [interpret_content typed thrown unasked, interpret_content typed thrown unasked]
        rfl

theorem taken_withCounts :
    taken client (flight.withCounts retries redirects) =
      (taken client flight).withCounts retries redirects := by
  unfold taken
  cases client.handler <;> rfl

theorem follow_withCounts {request : OutboundRequest} (built : flight.call.request = some request)
    (allowed : client.settings.redirectsLimit ≠ 0) (fields : Fields) :
    (flight.withCounts retries redirects).follow client cache fields =
      recounted
        (if client.settings.redirectsLimit < redirects then
          flight.fail cache (.redirectsExceeded client.settings.redirectsLimit)
        else (flight.withCounts 0 0).follow client cache fields)
        retries (increment redirects) := by
  have same (retries redirects : UInt32) :
      (flight.withCounts retries redirects).call.request = some request := built
  have unspent : ¬client.settings.redirectsLimit < (flight.withCounts 0 0).call.redirects :=
    UInt32.not_lt_zero
  rw [follow, same, follow, same]
  dsimp only
  rw [if_neg allowed, if_neg allowed, if_neg unspent]
  by_cases exceeded : client.settings.redirectsLimit < redirects
  · have spent : client.settings.redirectsLimit <
        (flight.withCounts retries redirects).call.redirects := exceeded
    rw [if_pos exceeded, if_pos spent]
    rfl
  · have left : ¬client.settings.redirectsLimit <
        (flight.withCounts retries redirects).call.redirects := exceeded
    rw [if_neg exceeded, if_neg left]
    cases fields.read .redirectHost with
    | none => rfl
    | some host =>
        dsimp only
        cases Redirect.target (directed request fields).uri host fields with
        | error fault => rfl
        | ok uri => rfl

/-- Without a request, or where no redirect is allowed at all, the counters are not looked at. -/
theorem follow_withCounts_of_barred
    (barred : flight.call.request = none ∨ client.settings.redirectsLimit = 0) (fields : Fields) :
    (flight.withCounts retries redirects).follow client cache fields =
      recounted (flight.follow client cache fields) retries redirects := by
  cases built : flight.call.request with
  | none =>
      have same : (flight.withCounts retries redirects).call.request = none := built
      rw [follow, follow, built, same]
      rfl
  | some request =>
      have same : (flight.withCounts retries redirects).call.request = some request := built
      have forbidden : client.settings.redirectsLimit = 0 :=
        barred.resolve_left (by rw [built]; exact Option.some_ne_none request)
      rw [follow, follow, built, same]
      dsimp only
      rw [if_pos forbidden, if_pos forbidden]
      rfl

/-- A body that does not lead a call to follow a redirect is taken without a look at its counters.
-/
theorem afterBody_withCounts_of_unled {head : ResponseHead} {kind : ResponseType}
    {body : Except Body.Fault Bytes}
    (unled : kind = .redirect → ∀ bytes, body = .ok bytes →
      isLed client flight head bytes = false) :
    (flight.withCounts retries redirects).afterBody client cache head kind body =
      recounted (flight.afterBody client cache head kind body) retries redirects := by
  by_cases thrown : kind = .throwable
  · subst thrown
    rw [afterBody_throwable, afterBody_throwable]
    rfl
  · cases body with
    | error fault =>
        rw [afterBody_unreadable thrown, afterBody_unreadable thrown]
        rfl
    | ok bytes =>
        rw [afterBody_content thrown, afterBody_content thrown]
        cases decoded : resultOf client.codec head.fields bytes with
        | error fault =>
            rw [afterContent_undecodable decoded, afterContent_undecodable decoded]
            rfl
        | ok value =>
            by_cases status : head.status = .ok
            · by_cases leaving : kind = .redirect
              · subst leaving
                rw [afterContent_redirect decoded status, afterContent_redirect decoded status]
                have staying := unled rfl bytes rfl
                rw [← Bool.not_eq_true, isLed_iff] at staying
                refine follow_withCounts_of_barred _ _ _ _ ?_ head.fields
                cases built : flight.call.request with
                | none => exact Or.inl rfl
                | some request =>
                    refine Or.inr (Decidable.not_not.mp fun allowed => staying ?_)
                    exact ⟨status, ⟨value, decoded⟩, ⟨request, built⟩, allowed⟩
              · rw [afterContent_value decoded status leaving,
                  afterContent_value decoded status leaving]
                rfl
            · rw [afterContent_unexpected decoded status, afterContent_unexpected decoded status]
              rfl

end Recounting

section Junctures

variable {client : Client} {flight : Flight} {cache : Route.Cache}

theorem juncture_of_not_awaits {event : Event} (unawaited : flight.stage.awaits event = false) :
    juncture client flight cache event = .plain (flight, cache) := by
  unfold juncture
  split
  · next stage =>
      rw [stage] at unawaited
      cases unawaited
  · next stage =>
      rw [stage] at unawaited
      cases unawaited
  · next stage =>
      rw [stage] at unawaited
      cases unawaited
  · rw [advance_of_not_awaits unawaited]

end Junctures

/-- What the counters of a call make of a juncture. -/
def Juncture.decided (settings : Settings) (retries redirects : UInt32) :
    Juncture → Flight × Route.Cache
  | .plain next => recounted next retries redirects
  | .retry granted refused =>
      recounted (if retries < settings.retriesLimit then granted else refused)
        (increment retries) redirects
  | .redirect granted refused =>
      recounted (if settings.redirectsLimit < redirects then refused else granted)
        retries (increment redirects)

section Deciding

variable {client : Client} {flight : Flight} {cache : Route.Cache}

theorem afterAnswer_withCounts {request : OutboundRequest}
    (sending : flight.stage = .sending request) (head : ResponseHead)
    (retries redirects : UInt32) :
    (flight.withCounts retries redirects).afterAnswer client cache head =
      (juncture client flight cache (.answered head)).decided client.settings retries
        redirects := by
  unfold juncture
  rw [sending]
  dsimp only
  cases signal : Event.isRetrySignal client (.answered head) with
  | true =>
      obtain ⟨regular, asks⟩ := Bool.and_eq_true_iff.mp signal
      rw [if_pos rfl, afterAnswer_of_isRegular regular, taken_withCounts,
        interpret_of_asksAgain asks, afterRetrySignal_withCounts]
      rfl
  | false =>
      rw [if_neg Bool.false_ne_true]
      cases regular : client.handler.isRegular with
      | true =>
          have silent : asksAgain head = false := by simpa [Event.isRetrySignal, regular] using signal
          rw [afterAnswer_of_isRegular regular, afterAnswer_of_isRegular regular, taken_withCounts,
            interpret_withCounts _ _ _ _ silent]
          rfl
      | false =>
          cases handler : client.handler with
          | standard | forgetful =>
              rw [handler] at regular
              cases regular
          | custom judge =>
              rw [afterAnswer, afterAnswer, handler]
              rfl

theorem afterBody_withCounts {head : ResponseHead} {kind : ResponseType}
    (reading : flight.stage = .reading head kind) (body : Except Body.Fault Bytes)
    (retries redirects : UInt32) :
    (flight.withCounts retries redirects).afterBody client cache head kind body =
      (juncture client flight cache (.received body)).decided client.settings retries
        redirects := by
  by_cases led : kind = .redirect ∧ ∃ bytes, body = .ok bytes ∧ isLed client flight head bytes
  · obtain ⟨rfl, bytes, rfl, leads⟩ := led
    obtain ⟨status, ⟨value, decoded⟩, ⟨request, built⟩, allowed⟩ := isLed_iff.mp leads
    unfold juncture
    rw [reading]
    dsimp only
    rw [if_pos leads, afterBody_content (by decide), afterContent_redirect decoded status,
      follow_withCounts _ _ _ _ built allowed]
    rfl
  · have unled : kind = .redirect → ∀ bytes, body = .ok bytes →
        isLed client flight head bytes = false := by
      intro leaving bytes arrived
      rw [← Bool.not_eq_true]
      exact fun leads => led ⟨leaving, bytes, arrived, leads⟩
    have plain : juncture client flight cache (.received body) =
        .plain (flight.advance client cache (.received body)) := by
      unfold juncture
      rw [reading]
      cases kind with
      | throwable | success | retry => rfl
      | redirect =>
          cases body with
          | error fault => rfl
          | ok bytes => exact if_neg (by simp [unled rfl bytes rfl])
    rw [plain, afterBody_withCounts_of_unled _ _ _ _ unled, advance_received reading]
    rfl

theorem resolved_withCounts {host : String} {draft : OutboundRequest}
    (resolving : flight.stage = .resolving host draft)
    (found : Except Net.LookupFault (List Net.Address)) (retries redirects : UInt32) :
    (flight.withCounts retries redirects).advance client cache (.resolved found) =
      (juncture client flight cache (.resolved found)).decided client.settings retries
        redirects := by
  have plain : juncture client flight cache (.resolved found) =
      .plain (flight.advance client cache (.resolved found)) := by
    unfold juncture
    rw [resolving]
  have same : (flight.withCounts retries redirects).stage = .resolving host draft := resolving
  have aims : client.aim (flight.withCounts retries redirects).call host draft found =
      client.aim flight.call host draft found := rfl
  rw [plain, advance_resolved resolving, advance_resolved same, aims]
  cases client.aim flight.call host draft found <;> rfl

theorem afterTransportFault_withCounts {request : OutboundRequest}
    (sending : flight.stage = .sending request) (fault : TransportFault)
    (retries redirects : UInt32) :
    (flight.withCounts retries redirects).afterTransportFault client cache fault =
      (juncture client flight cache (.unanswered fault)).decided client.settings retries
        redirects := by
  unfold juncture
  rw [sending]
  cases fault with
  | timedOut | failed =>
      dsimp only
      rw [advance_unanswered sending]
      rfl
  | unprocessed explanation =>
      exact afterUnprocessed_withCounts flight cache retries redirects explanation

theorem resumed_withCounts {milliseconds : Nat} (pausing : flight.stage = .pausing milliseconds)
    (retries redirects : UInt32) :
    (flight.withCounts retries redirects).advance client cache .resumed =
      (juncture client flight cache .resumed).decided client.settings retries redirects := by
  have plain : juncture client flight cache .resumed = .plain (attempt client flight cache) := by
    unfold juncture advance
    rw [pausing]
  have resumed : (flight.withCounts retries redirects).advance client cache .resumed =
      attempt client (flight.withCounts retries redirects) cache := by
    have same : (flight.withCounts retries redirects).stage = .pausing milliseconds := pausing
    unfold advance
    rw [same]
  rw [plain, resumed, attempt_withCounts]
  rfl

end Deciding

/-- A call does at an event what its counters make of the juncture that it comes to. -/
theorem advance_withCounts (client : Client) (flight : Flight) (cache : Route.Cache)
    (event : Event) (retries redirects : UInt32) :
    (flight.withCounts retries redirects).advance client cache event =
      (juncture client flight cache event).decided client.settings retries redirects := by
  cases awaited : flight.stage.awaits event with
  | false =>
      have still : (flight.withCounts retries redirects).stage.awaits event = false := awaited
      rw [juncture_of_not_awaits awaited, advance_of_not_awaits still]
      rfl
  | true =>
      cases stage : flight.stage with
      | resolving host draft =>
          cases event with
          | resolved found => exact resolved_withCounts stage found retries redirects
          | answered | unanswered | received | resumed =>
              rw [stage] at awaited
              cases awaited
      | sending request =>
          have same : (flight.withCounts retries redirects).stage = .sending request := stage
          cases event with
          | answered head =>
              rw [advance_answered_eq same]
              exact afterAnswer_withCounts stage head retries redirects
          | unanswered fault =>
              rw [advance_unanswered same]
              exact afterTransportFault_withCounts stage fault retries redirects
          | resolved | received | resumed =>
              rw [stage] at awaited
              cases awaited
      | reading head kind =>
          have same : (flight.withCounts retries redirects).stage = .reading head kind := stage
          cases event with
          | received body =>
              rw [advance_received same]
              exact afterBody_withCounts stage body retries redirects
          | resolved | answered | unanswered | resumed =>
              rw [stage] at awaited
              cases awaited
      | pausing milliseconds =>
          cases event with
          | resumed => exact resumed_withCounts stage retries redirects
          | resolved | answered | unanswered | received =>
              rw [stage] at awaited
              cases awaited
      | settled outcome =>
          rw [stage] at awaited
          cases event <;> cases awaited

theorem withCounts_self (flight : Flight) :
    flight.withCounts flight.call.retries flight.call.redirects = flight := rfl

/-- Of a call that may not try again, or not follow a redirect, nothing more is to come. -/
theorem settled_of_refused {client : Client} {flight : Flight} {cache : Route.Cache}
    {event : Event} {granted refused : Flight × Route.Cache}
    (asks : juncture client flight cache event = .retry granted refused) :
    refused.1.Settled := by
  unfold juncture at asks
  split at asks
  · cases asks
    exact ⟨_, fail_stage _⟩
  · split at asks
    · cases asks
      exact ⟨_, fail_stage _⟩
    · cases asks
  · split at asks <;> cases asks
  · cases asks

theorem failedAs_of_refused {client : Client} {flight : Flight} {cache : Route.Cache}
    {event : Event} {granted refused : Flight × Route.Cache}
    (asks : juncture client flight cache event = .redirect granted refused) :
    refused.1.FailedAs .redirectsExceeded := by
  unfold juncture at asks
  split at asks
  · cases asks
  · split at asks <;> cases asks
  · split at asks
    · cases asks
      exact failedAs_fail rfl
    · cases asks
  · cases asks

theorem juncture_settled {client : Client} {flight : Flight} {cache : Route.Cache}
    (settled : flight.Settled) (event : Event) :
    juncture client flight cache event = .plain (flight, cache) := by
  obtain ⟨outcome, stage⟩ := settled
  refine juncture_of_not_awaits ?_
  rw [stage]
  rfl

end Flight
end RemoteCall
