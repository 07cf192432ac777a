import RemoteCall.Proofs.Flight.Steps

/-!
# Exchanges

Seen from outside, a call whose request is built is a sequence of exchanges: the request is sent,
and either no answer comes, or an answer with a body that arrives or does not.  An exchange asks to
try again, or it sends the call elsewhere, or it ends the call; the facts below say what the call
does in each of the three cases.  They also hold when the cache is changed from outside between
exchanges.
-/

namespace RemoteCall

/-- Whether a kind of failure says that a budget was used up. -/
def FailureKind.isExhaustion : FailureKind → Bool
  | .retriesExceeded | .redirectsExceeded => true
  | .general | .unprocessed | .possiblyProcessed | .processed => false

theorem FailureKind.isExhaustion_ofCertainty (certainty : Certainty) :
    (FailureKind.ofCertainty certainty).isExhaustion = false := by
  cases certainty <;> rfl

namespace Flight

/-- What comes of sending a request. -/
inductive Exchange where
  | unanswered (fault : TransportFault)
  /-- An answer arrives, and then its body or the reason why there is none. -/
  | answered (head : ResponseHead) (body : Except Body.Fault Bytes)

namespace Exchange

/-- An exchange as the events that a call can wait for.  The last of them is the end of the pause
that follows if the call tries again. -/
def events : Exchange → List Event
  | .unanswered fault => [.unanswered fault, .resumed]
  | .answered head body => [.answered head, .received body, .resumed]

/-- Whether an exchange asks to try again: the request was not processed, or the answer is of the
kind that asks for it, or it is a result or a redirect of a server that failed. -/
def isRetrySignal : Exchange → Bool
  | .unanswered (.unprocessed _) => true
  | .unanswered (.timedOut _) | .unanswered (.failed _) => false
  | .answered head _ =>
      match responseKind? head.fields with
      | some .retry => true
      | some .success | some .redirect => head.status.isServerError
      | some .throwable | none => false

/-- Whether the answer of an exchange asks to try again although its server has not failed. -/
def isPlainRetry : Exchange → Bool
  | .unanswered _ => false
  | .answered head _ =>
      responseKind? head.fields == some .retry && !head.status.isServerError

/-- Whether an exchange sends the call elsewhere: an answer of that kind with the usual status and
a body that arrives and can be decoded. -/
def isRedirectSignal (codec : Codec) : Exchange → Bool
  | .answered head (.ok body) =>
      head.status == .ok && responseKind? head.fields == some .redirect &&
        (resultOf codec head.fields body).isOk
  | _ => false

end Exchange

/-- A call after a number of exchanges.  Before each of them the cache may be any. -/
def course (client : Client) (exchanges : Nat → Exchange) (caches : Nat → Route.Cache)
    (flight : Flight) : Nat → Flight
  | 0 => flight
  | count + 1 =>
      (run client (course client exchanges caches flight count) (caches count)
        (exchanges count).events).1

/-- A call has ended, and not because a budget was used up. -/
def EndsWithinBudgets (flight : Flight) : Prop :=
  ∃ outcome, flight.stage = .settled outcome ∧
    ∀ failure, outcome = .error failure → failure.kind.isExhaustion = false

theorem FailedAs.endsWithinBudgets {flight : Flight} {kind : FailureKind}
    (failed : flight.FailedAs kind)
    (other : kind.isExhaustion = false) : flight.EndsWithinBudgets := by
  obtain ⟨failure, settled, rfl⟩ := failed
  refine ⟨_, settled, ?_⟩
  intro same isSame
  cases isSame
  exact other

theorem failedAs_settle_report {flight : Flight} {cache : Route.Cache} {fields : Fields}
    {body : Bytes} :
    (flight.settle cache (.error (Failure.ofReport fields body))).1.FailedAs
      (.ofCertainty ((Failure.reportedCertainty? fields).getD .possiblyProcessed)) :=
  ⟨_, rfl, rfl⟩

variable {client : Client} {flight : Flight} {cache : Route.Cache}

namespace Exchange

/-- The answers that ask to try again. -/
theorem isRetrySignal_answered {head : ResponseHead} {body : Except Body.Fault Bytes} :
    (Exchange.answered head body).isRetrySignal = true ↔
      ∃ kind, responseKind? head.fields = some kind ∧ kind ≠ .throwable ∧
        (head.status.isServerError ∨ kind = .retry) := by
  simp only [isRetrySignal]
  cases typed : responseKind? head.fields with
  | none => simp
  | some kind => cases kind <;> simp

/-- The answers that send the call elsewhere. -/
theorem isRedirectSignal_iff {codec : Codec} {exchange : Exchange} :
    exchange.isRedirectSignal codec = true ↔
      ∃ head body value, exchange = .answered head (.ok body) ∧ head.status = .ok ∧
        responseKind? head.fields = some .redirect ∧
          resultOf codec head.fields body = .ok value := by
  constructor
  · intro signal
    cases exchange with
    | unanswered fault => cases signal
    | answered head received =>
        cases received with
        | error fault => cases signal
        | ok body =>
            simp only [isRedirectSignal, Bool.and_eq_true, beq_iff_eq] at signal
            obtain ⟨⟨status, typed⟩, decodes⟩ := signal
            cases decoded : resultOf codec head.fields body with
            | error fault =>
                rw [decoded] at decodes
                cases decodes
            | ok value => exact ⟨head, body, value, rfl, status, typed, decoded⟩
  · rintro ⟨head, body, value, rfl, status, typed, decoded⟩
    simp [isRedirectSignal, status, typed, decoded, Except.isOk, Except.toBool]

end Exchange

section Redirects

variable {request : OutboundRequest} {fields : Fields}

theorem follow_forbidden (built : flight.call.request = some request)
    (forbidden : client.settings.redirectsLimit = 0) :
    (follow client flight cache fields).1.FailedAs .unprocessed := by
  have follows := follows client built cache fields
  generalize follow client flight cache fields = next at follows ⊢
  cases follows with
  | forbidden => exact failedAs_fail rfl
  | exceeded allowed | lost allowed | followed allowed => exact absurd forbidden allowed

theorem follow_exceeded (built : flight.call.request = some request)
    (allowed : client.settings.redirectsLimit ≠ 0)
    (exceeded : client.settings.redirectsLimit < flight.call.redirects) :
    (follow client flight cache fields).1.FailedAs .redirectsExceeded := by
  have follows := follows client built cache fields
  generalize follow client flight cache fields = next at follows ⊢
  cases follows with
  | forbidden forbidden => exact absurd forbidden allowed
  | exceeded => exact failedAs_fail rfl
  | lost _ within | followed _ within => exact absurd exceeded within

/-- A redirect within the budget is counted, and it is followed unless it leads nowhere. -/
theorem follow_within (cache : Route.Cache) (fields : Fields)
    (built : flight.call.request = some request)
    (allowed : client.settings.redirectsLimit ≠ 0)
    (within : ¬client.settings.redirectsLimit < flight.call.redirects) :
    let next := (follow client flight cache fields).1
    next.Sending ∧ next.call.retries = flight.call.retries ∧
        next.call.redirects = increment flight.call.redirects ∨
      next.FailedAs .unprocessed := by
  have follows := follows client built cache fields
  generalize follow client flight cache fields = next at follows ⊢
  cases follows with
  | forbidden forbidden => exact absurd forbidden allowed
  | exceeded _ exceeded => exact absurd exceeded within
  | lost _ _ fault unprocessed => exact Or.inr (failedAs_fail unprocessed)
  | followed => exact Or.inl ⟨sending_send _, rfl, rfl⟩

/-- After a redirect the call either waits for the next answer or has ended. -/
theorem follow_rests (built : flight.call.request = some request) :
    (follow client flight cache fields).1.Sending ∨
      (follow client flight cache fields).1.Settled := by
  have follows := follows client built cache fields
  generalize follow client flight cache fields = next at follows ⊢
  cases follows with
  | forbidden | exceeded | lost => exact Or.inr ⟨_, fail_stage _⟩
  | followed => exact Or.inl (sending_send _)

end Redirects

/-- After a pause the call sends its request again. -/
theorem run_resumed {call : Call} {request : OutboundRequest} {milliseconds : Nat}
    (pausing : flight.stage = .pausing milliseconds) (same : flight.call = call)
    (built : call.request = some request) :
    let next := (run client flight cache [.resumed]).1
    next.stage = .sending request ∧ next.call = call := by
  subst same
  rw [run_cons, run_nil, advance_resumed pausing built]
  exact ⟨rfl, withRequest_of_built built⟩

/-- The end of a pause means nothing to a call that makes none. -/
theorem run_resumed_of_rests (rests : flight.Sending ∨ flight.Settled) :
    (run client flight cache [.resumed]).1 = flight := by
  rcases rests with ⟨request, sending, _⟩ | ⟨outcome, settled⟩
  · rw [run_cons, advance_resumed_sending sending, run_nil]
  · rw [run_settled settled]

section Rounds

variable {request : OutboundRequest} (sending : flight.stage = .sending request)
  (built : flight.call.request = some request) (standard : client.handler = .standard)

/-- How a call fails that may not be retried. -/
def retryFailure (client : Client) (exchange : Exchange) : FailureKind :=
  if exchange.isPlainRetry = true ∧ client.settings.retriesLimit ≠ 0 then .retriesExceeded
  else .unprocessed

theorem exhausted_kind {head : ResponseHead} {kind : ResponseType}
    {body : Except Body.Fault Bytes} (typed : responseKind? head.fields = some kind)
    (asked : head.status.isServerError ∨ kind = .retry) :
    (exhausted client head.status).kind = retryFailure client (.answered head body) := by
  unfold exhausted retryFailure
  simp only [Exchange.isPlainRetry, typed]
  rcases asked with failed | rfl
  · simp [failed, CallFault.kind]
  · by_cases failed : head.status.isServerError
    · simp [failed, CallFault.kind]
    · by_cases none : client.settings.retriesLimit = 0
      · simp [failed, none, CallFault.kind]
      · simp [failed, none, CallFault.kind]

/-- The body of a result, or of a redirect that may not be followed, ends the call. -/
theorem run_received_final {head : ResponseHead} {kind : ResponseType}
    (reading : flight.stage = .reading head kind) (thrown : kind ≠ .throwable)
    (typed : responseKind? head.fields = some kind) (body : Except Body.Fault Bytes)
    (undirected : (Exchange.answered head body).isRedirectSignal client.codec = false) :
    (run client flight cache [.received body, .resumed]).1.EndsWithinBudgets := by
  rw [run_cons, advance_received reading]
  cases body with
  | error fault =>
      rw [afterBody_unreadable thrown, run_settled (fail_stage _)]
      exact (failedAs_fail rfl).endsWithinBudgets rfl
  | ok body =>
      rw [afterBody_content thrown]
      cases decoded : resultOf client.codec head.fields body with
      | error fault =>
          rw [afterContent_undecodable decoded, run_settled (fail_stage _)]
          exact (failedAs_fail rfl).endsWithinBudgets rfl
      | ok value =>
          by_cases status : head.status = .ok
          · have staying : kind ≠ .redirect := by
              rintro rfl
              rw [Exchange.isRedirectSignal_iff.mpr
                ⟨head, body, value, rfl, status, typed, decoded⟩] at undirected
              cases undirected
            rw [afterContent_value decoded status staying, run_settled (settle_stage _)]
            exact ⟨_, settle_stage _, fun _ isError => by cases isError⟩
          · rw [afterContent_unexpected decoded status, run_settled (fail_stage _)]
            exact (failedAs_fail rfl).endsWithinBudgets rfl

include sending standard

/-- A call that may try again after an exchange that asks for it sends the same request again and
has counted the retry. -/
theorem run_retry (built : flight.call.request = some request) {exchange : Exchange}
    (signal : exchange.isRetrySignal = true) (allowed : mayRetry client flight.call = true) :
    let next := (run client flight cache exchange.events).1
    next.stage = .sending request ∧ next.call = flight.call.countRetry := by
  cases exchange with
  | unanswered fault =>
      cases fault with
      | timedOut | failed => cases signal
      | unprocessed explanation =>
          rw [Exchange.events, run_cons, advance_unanswered sending, afterTransportFault,
            afterUnprocessed, if_pos allowed]
          exact run_resumed rfl rfl built
  | answered head body =>
      obtain ⟨kind, typed, unthrown, asked⟩ := Exchange.isRetrySignal_answered.mp signal
      rw [Exchange.events, run_cons, advance_answered sending standard,
        interpret_retry typed unthrown asked, afterRetrySignal, if_pos allowed, run_cons,
        advance_received_pausing rfl]
      exact run_resumed rfl rfl built

/-- A call that may not try again ends at an exchange that asks for it. -/
theorem run_retry_exhausted {exchange : Exchange} (signal : exchange.isRetrySignal = true)
    (spent : mayRetry client flight.call = false) :
    (run client flight cache exchange.events).1.FailedAs (retryFailure client exchange) := by
  have refused : ¬mayRetry client flight.call = true := by simp [spent]
  cases exchange with
  | unanswered fault =>
      cases fault with
      | timedOut | failed => cases signal
      | unprocessed explanation =>
          rw [Exchange.events, run_cons, advance_unanswered sending, afterTransportFault,
            afterUnprocessed, if_neg refused, run_settled (fail_stage _)]
          exact failedAs_fail rfl
  | answered head body =>
      obtain ⟨kind, typed, unthrown, asked⟩ := Exchange.isRetrySignal_answered.mp signal
      rw [Exchange.events, run_cons, advance_answered sending standard,
        interpret_retry typed unthrown asked, afterRetrySignal, if_neg refused,
        run_settled (fail_stage _)]
      exact failedAs_fail (exhausted_kind typed asked)

/-- An exchange that sends the call elsewhere comes to following the redirect. -/
theorem run_redirect_answered (cache : Route.Cache) (built : flight.call.request = some request)
    {head : ResponseHead} {body : Bytes}
    (signal : (Exchange.answered head (.ok body)).isRedirectSignal client.codec = true) :
    (run client flight cache (Exchange.answered head (.ok body)).events).1 =
      (follow client { flight with stage := .reading head .redirect } cache head.fields).1 := by
  obtain ⟨_, _, value, isAnswer, status, typed, decoded⟩ := Exchange.isRedirectSignal_iff.mp signal
  cases isAnswer
  have unasked : ¬(head.status.isServerError ∨ ResponseType.redirect = .retry) := by
    simp [status]
    decide
  rw [Exchange.events, run_cons, advance_answered sending standard,
    interpret_content typed (by decide) unasked, run_cons, advance_received rfl,
    afterBody_content (by decide), afterContent_redirect decoded status]
  exact run_resumed_of_rests (follow_rests built)

theorem run_redirect (cache : Route.Cache) (built : flight.call.request = some request)
    {exchange : Exchange} (signal : exchange.isRedirectSignal client.codec = true) :
    ∃ reading fields, reading.call = flight.call ∧
      (run client flight cache exchange.events).1 = (follow client reading cache fields).1 := by
  obtain ⟨head, body, _, rfl, _⟩ := Exchange.isRedirectSignal_iff.mp signal
  exact ⟨{ flight with stage := .reading head .redirect }, head.fields, rfl,
    run_redirect_answered sending standard cache built signal⟩

/-- Every other exchange ends the call, and not because of a budget. -/
theorem run_final {exchange : Exchange} (unasked : exchange.isRetrySignal = false)
    (undirected : exchange.isRedirectSignal client.codec = false) :
    (run client flight cache exchange.events).1.EndsWithinBudgets := by
  cases exchange with
  | unanswered fault =>
      cases fault with
      | unprocessed => cases unasked
      | timedOut | failed =>
          rw [Exchange.events, run_cons, advance_unanswered sending, afterTransportFault,
            run_settled (fail_stage _)]
          · exact (failedAs_fail rfl).endsWithinBudgets rfl
          · intro _ unprocessed
            cases unprocessed
  | answered head body =>
      rw [Exchange.events, run_cons, advance_answered sending standard]
      cases typed : responseKind? head.fields with
      | none =>
          rw [interpret_untyped typed, run_settled (fail_stage _)]
          exact (failedAs_fail rfl).endsWithinBudgets rfl
      | some kind =>
          by_cases thrown : kind = .throwable
          · subst thrown
            rw [interpret_throwable typed, run_cons, advance_received rfl, afterBody_throwable,
              run_settled (settle_stage _)]
            exact failedAs_settle_report.endsWithinBudgets (FailureKind.isExhaustion_ofCertainty _)
          · have unpaused : ¬(head.status.isServerError ∨ kind = .retry) := by
              intro asked
              rw [Exchange.isRetrySignal_answered.mpr ⟨kind, typed, thrown, asked⟩] at unasked
              cases unasked
            rw [interpret_content typed thrown unpaused]
            exact run_received_final rfl thrown typed body undirected

end Rounds

end Flight
end RemoteCall
