import RemoteCall.Proofs.Flight.Budget
import RemoteCall.Proofs.Flight.Landing
import RemoteCall.Proofs.Flight.Reaiming

/-!
# What a call comes to

A call that has ended has been through a last exchange, and this exchange alone decides what becomes
of the call, whatever attempts there were before it: a result with the usual status is the value of
the call, a report becomes the failure that it describes, and an exchange of which nobody can tell
what it did is a failure that leaves the effects open.
-/

namespace RemoteCall
namespace Flight

variable {client : Client} {flight : Flight} {cache : Route.Cache}

section Bodies

variable {codec : Codec} {fields : Fields} {body : Bytes}

/-- The value that the body of an answer stands for. -/
inductive Conveys (codec : Codec) (fields : Fields) : Bytes → Json.Value → Prop where
  | nothing : Conveys codec fields [] .null
  /-- The answer says that its body is encoded, in whatever words. -/
  | encoded {body : Bytes} (nonempty : body ≠ [])
      (marked : fields.has .serializedContent = true) {value : Json.Value}
      (decoded : codec.decode body = .ok value) : Conveys codec fields body value
  | text {body : Bytes} (nonempty : body ≠ [])
      (unmarked : fields.has .serializedContent = false) :
      Conveys codec fields body (.string (Text.decodeLenient body))

theorem resultOf_of_nonempty (nonempty : body ≠ []) :
    resultOf codec fields body =
      if fields.has .serializedContent then codec.decode body
      else .ok (.string (Text.decodeLenient body)) := by
  rw [resultOf, if_neg]
  rwa [List.isEmpty_iff]

theorem resultOf_eq_ok_iff {value : Json.Value} :
    resultOf codec fields body = .ok value ↔ Conveys codec fields body value := by
  constructor
  · intro result
    by_cases nonempty : body = []
    · subst nonempty
      cases result
      exact .nothing
    · rw [resultOf_of_nonempty nonempty] at result
      cases marked : fields.has .serializedContent with
      | true =>
          rw [marked] at result
          exact .encoded nonempty marked result
      | false =>
          rw [marked] at result
          cases result
          exact .text nonempty marked
  · intro conveys
    cases conveys with
    | nothing => rfl
    | encoded nonempty marked decoded => rw [resultOf_of_nonempty nonempty, if_pos marked, decoded]
    | text nonempty unmarked => rw [resultOf_of_nonempty nonempty, unmarked, if_neg (by decide)]

theorem resultOf_eq_error_iff {fault : CodecFault} :
    resultOf codec fields body = .error fault ↔
      body ≠ [] ∧ fields.has .serializedContent = true ∧ codec.decode body = .error fault := by
  constructor
  · intro result
    have nonempty : body ≠ [] := by
      rintro rfl
      cases result
    rw [resultOf_of_nonempty nonempty] at result
    cases marked : fields.has .serializedContent with
    | true =>
        rw [marked] at result
        exact ⟨nonempty, rfl, result⟩
    | false =>
        rw [marked] at result
        cases result
  · rintro ⟨nonempty, marked, undecodable⟩
    rw [resultOf_of_nonempty nonempty, if_pos marked, undecodable]

end Bodies

namespace Exchange

/-- An exchange brings a value: a result with the usual status and a body that stands for it. -/
def Delivers (codec : Codec) (exchange : Exchange) (value : Json.Value) : Prop :=
  ∃ head body, exchange = .answered head (.ok body) ∧ head.status = .ok ∧
    responseKind? head.fields = some .success ∧ Conveys codec head.fields body value

/-- An exchange reports a failure, with whatever status. -/
def Reports (exchange : Exchange) (failure : Failure) : Prop :=
  ∃ head body, exchange = .answered head body ∧ responseKind? head.fields = some .throwable ∧
    failure = Failure.ofReport head.fields (body.toOption.getD [])

/-- A result or a redirect that does not ask to try again because its server failed. -/
structure Substantial (head : ResponseHead) (kind : ResponseType) : Prop where
  typed : responseKind? head.fields = some kind
  unthrown : kind ≠ .throwable
  unasked : kind ≠ .retry
  unfailed : head.status.isServerError = false

/-- Nobody can tell what came of an exchange. -/
inductive Doubtful (codec : Codec) : Exchange → Prop where
  | timedOut (after : Duration) : Doubtful codec (.unanswered (.timedOut after))
  | failed (explanation : String) : Doubtful codec (.unanswered (.failed explanation))
  /-- The answer does not say of which kind it is, or not readably. -/
  | untyped {head : ResponseHead} (untyped : responseKind? head.fields = none)
      (body : Except Body.Fault Bytes) : Doubtful codec (.answered head body)
  | unexpected {head : ResponseHead} {kind : ResponseType} (substantial : Substantial head kind)
      (unexpected : head.status ≠ .ok) (body : Except Body.Fault Bytes) :
      Doubtful codec (.answered head body)
  | unreadable {head : ResponseHead} {kind : ResponseType} (substantial : Substantial head kind)
      (fault : Body.Fault) : Doubtful codec (.answered head (.error fault))
  | undecodable {head : ResponseHead} {kind : ResponseType} (substantial : Substantial head kind)
      {body : Bytes} (nonempty : body ≠ []) (marked : head.fields.has .serializedContent = true)
      {fault : CodecFault} (undecodable : codec.decode body = .error fault) :
      Doubtful codec (.answered head (.ok body))

theorem cases (codec : Codec) (exchange : Exchange) :
    exchange.isRetrySignal = true ∨ exchange.isRedirectSignal codec = true ∨
      (∃ value, exchange.Delivers codec value) ∨ (∃ failure, exchange.Reports failure) ∨
        exchange.Doubtful codec := by
  cases exchange with
  | unanswered fault =>
      cases fault with
      | unprocessed explanation => exact Or.inl rfl
      | timedOut after => exact .inr (.inr (.inr (.inr (.timedOut after))))
      | failed explanation => exact .inr (.inr (.inr (.inr (.failed explanation))))
  | answered head body =>
      cases typed : responseKind? head.fields with
      | none => exact .inr (.inr (.inr (.inr (.untyped typed body))))
      | some kind =>
          by_cases thrown : kind = .throwable
          · subst thrown
            exact .inr (.inr (.inr (.inl ⟨_, head, body, rfl, typed, rfl⟩)))
          · by_cases asked : head.status.isServerError ∨ kind = .retry
            · exact Or.inl (isRetrySignal_answered.mpr ⟨kind, typed, thrown, asked⟩)
            · rw [not_or, Bool.not_eq_true] at asked
              have substantial : Substantial head kind := ⟨typed, thrown, asked.2, asked.1⟩
              cases body with
              | error fault => exact .inr (.inr (.inr (.inr (.unreadable substantial fault))))
              | ok body =>
                  by_cases status : head.status = .ok
                  · cases result : resultOf codec head.fields body with
                    | error fault =>
                        obtain ⟨nonempty, marked, undecodable⟩ := resultOf_eq_error_iff.mp result
                        exact .inr (.inr (.inr (.inr
                          (.undecodable substantial nonempty marked undecodable))))
                    | ok value =>
                        cases kind with
                        | success =>
                            have conveys := resultOf_eq_ok_iff.mp result
                            exact .inr (.inr (.inl
                              ⟨value, head, body, rfl, status, typed, conveys⟩))
                        | redirect =>
                            exact .inr (.inl (isRedirectSignal_iff.mpr
                              ⟨head, body, value, rfl, status, typed, result⟩))
                        | retry => exact absurd rfl asked.2
                        | throwable => exact absurd rfl thrown
                  · exact .inr (.inr (.inr (.inr
                      (.unexpected substantial status (.ok body)))))

end Exchange

section Rounds

variable {request : OutboundRequest} (sending : flight.stage = .sending request)
  (standard : client.handler = .standard)

include sending standard

theorem run_substantial {head : ResponseHead} {kind : ResponseType}
    (substantial : Exchange.Substantial head kind) (body : Except Body.Fault Bytes) :
    run client flight cache (Exchange.answered head body).events =
      run client { flight with stage := .reading head kind } cache [.received body, .resumed] := by
  have unasked : ¬(head.status.isServerError ∨ kind = .retry) := by
    rw [not_or, Bool.not_eq_true]
    exact ⟨substantial.unfailed, substantial.unasked⟩
  rw [Exchange.events, run_cons, advance_answered sending standard,
    interpret_content substantial.typed substantial.unthrown unasked]

theorem run_delivers {exchange : Exchange} {value : Json.Value}
    (delivers : exchange.Delivers client.codec value) :
    (run client flight cache exchange.events).1.stage = .settled (.ok value) := by
  obtain ⟨head, body, rfl, status, typed, conveys⟩ := delivers
  have substantial : Exchange.Substantial head .success :=
    ⟨typed, by decide, by decide, by rw [status]; decide⟩
  rw [run_substantial sending standard substantial, run_cons, advance_received rfl,
    afterBody_content (by decide),
    afterContent_value (resultOf_eq_ok_iff.mpr conveys) status (by decide),
    run_settled (settle_stage _)]
  rfl

theorem run_reports {exchange : Exchange} {failure : Failure} (reports : exchange.Reports failure) :
    (run client flight cache exchange.events).1.stage = .settled (.error failure) := by
  obtain ⟨head, body, rfl, typed, rfl⟩ := reports
  rw [Exchange.events, run_cons, advance_answered sending standard, interpret_throwable typed,
    run_cons, advance_received rfl, afterBody_throwable, run_settled (settle_stage _)]
  rfl

theorem run_doubtful {exchange : Exchange} (doubtful : exchange.Doubtful client.codec) :
    (run client flight cache exchange.events).1.FailedAs .possiblyProcessed := by
  cases doubtful with
  | timedOut after =>
      rw [Exchange.events, run_cons, advance_unanswered sending, afterTransportFault,
        run_settled (fail_stage _)]
      · exact failedAs_fail rfl
      · intro _ unprocessed
        cases unprocessed
  | failed explanation =>
      rw [Exchange.events, run_cons, advance_unanswered sending, afterTransportFault,
        run_settled (fail_stage _)]
      · exact failedAs_fail rfl
      · intro _ unprocessed
        cases unprocessed
  | untyped untyped body =>
      rw [Exchange.events, run_cons, advance_answered sending standard, interpret_untyped untyped,
        run_settled (fail_stage _)]
      exact failedAs_fail rfl
  | unreadable substantial fault =>
      rw [run_substantial sending standard substantial, run_cons, advance_received rfl,
        afterBody_unreadable substantial.unthrown, run_settled (fail_stage _)]
      exact failedAs_fail rfl
  | undecodable substantial nonempty marked undecodable =>
      rw [run_substantial sending standard substantial, run_cons, advance_received rfl,
        afterBody_content substantial.unthrown,
        afterContent_undecodable (resultOf_eq_error_iff.mpr ⟨nonempty, marked, undecodable⟩),
        run_settled (fail_stage _)]
      exact failedAs_fail rfl
  | @unexpected head kind substantial unexpected body =>
      rw [run_substantial sending standard substantial, run_cons, advance_received rfl]
      -- The body is taken before the status, so the call fails in one of three ways.
      cases body with
      | error fault =>
          rw [afterBody_unreadable substantial.unthrown, run_settled (fail_stage _)]
          exact failedAs_fail rfl
      | ok body =>
          rw [afterBody_content substantial.unthrown]
          cases result : resultOf client.codec head.fields body with
          | error fault =>
              rw [afterContent_undecodable result, run_settled (fail_stage _)]
              exact failedAs_fail rfl
          | ok value =>
              rw [afterContent_unexpected result unexpected, run_settled (fail_stage _)]
              exact failedAs_fail rfl

end Rounds

theorem FailedAs.kind_eq {kind other : FailureKind} (failed : flight.FailedAs kind)
    (again : flight.FailedAs other) : kind = other := by
  obtain ⟨failure, stage, rfl⟩ := failed
  obtain ⟨same, sameStage, rfl⟩ := again
  rw [stage] at sameStage
  cases sameStage
  rfl

theorem FailedAs.not_value {kind : FailureKind} (failed : flight.FailedAs kind)
    (value : Json.Value) : flight.stage ≠ .settled (.ok value) := by
  obtain ⟨failure, stage, _⟩ := failed
  rw [stage]
  exact nofun

/-- A call that is sent once more, or would have to be and may not. -/
def Repeating (flight : Flight) : Prop :=
  flight.Sending ∨ ∃ kind, flight.FailedAs kind ∧ (kind = .unprocessed ∨ kind.isExhaustion = true)

theorem Repeating.not_value (repeating : flight.Repeating) (value : Json.Value) :
    flight.stage ≠ .settled (.ok value) := by
  rcases repeating with sending | ⟨kind, failed, _⟩
  · exact fun stage => sending.not_settled ⟨_, stage⟩
  · exact failed.not_value value

theorem Repeating.failedAs (repeating : flight.Repeating) {kind : FailureKind}
    (failed : flight.FailedAs kind) : kind = .unprocessed ∨ kind.isExhaustion = true := by
  rcases repeating with sending | ⟨other, same, spent⟩
  · exact absurd failed.settled sending.not_settled
  · rwa [failed.kind_eq same]

theorem retryFailure_cases (client : Client) (exchange : Exchange) :
    retryFailure client exchange = .unprocessed ∨
      (retryFailure client exchange).isExhaustion = true := by
  unfold retryFailure
  split
  · exact Or.inr rfl
  · exact Or.inl rfl

theorem follow_repeating {request : OutboundRequest} (built : flight.call.request = some request)
    (cache : Route.Cache) (fields : Fields) : (follow client flight cache fields).1.Repeating := by
  have follows := follows client built cache fields
  generalize follow client flight cache fields = next at follows ⊢
  cases follows with
  | forbidden => exact Or.inr ⟨_, failedAs_fail rfl, Or.inl rfl⟩
  | exceeded => exact Or.inr ⟨_, failedAs_fail rfl, Or.inr rfl⟩
  | lost _ _ _ unprocessed => exact Or.inr ⟨_, failedAs_fail unprocessed, Or.inl rfl⟩
  | followed => exact Or.inl (sending_send _)

/-- What an exchange decides about a call that waited for it. -/
structure Verdict (codec : Codec) (exchange : Exchange) (next : Flight) : Prop where
  /-- A call succeeds exactly with what the exchange brings. -/
  value : ∀ value, next.stage = .settled (.ok value) ↔ exchange.Delivers codec value
  reported : ∀ failure, exchange.Reports failure → next.stage = .settled (.error failure)
  doubtful : exchange.Doubtful codec → next.FailedAs .possiblyProcessed
  classified : ¬next.FailedAs .general
  /-- Only the other side can tell that the effects took place. -/
  processed : next.FailedAs .processed →
    ∃ head body, exchange = .answered head body ∧
      responseKind? head.fields = some .throwable ∧
        Failure.reportedCertainty? head.fields = some .processed

theorem ofReport_kind_ne_general (fields : Fields) (body : Bytes) :
    (Failure.ofReport fields body).kind ≠ .general := by
  rw [Failure.ofReport]
  cases (Failure.reportedCertainty? fields).getD .possiblyProcessed <;> nofun

theorem reportedCertainty?_of_processed {fields : Fields} {body : Bytes}
    (processed : (Failure.ofReport fields body).kind = .processed) :
    Failure.reportedCertainty? fields = some .processed := by
  rw [Failure.ofReport] at processed
  cases certainty : Failure.reportedCertainty? fields with
  | none =>
      rw [certainty] at processed
      cases processed
  | some stated =>
      rw [certainty] at processed
      cases stated with
      | processed => rfl
      | unprocessed | possiblyProcessed => cases processed

/-- What becomes of a call at an exchange, by the kind of the exchange. -/
inductive Decides (codec : Codec) (exchange : Exchange) (next : Flight) : Prop where
  | again (repeating : next.Repeating)
  | brings {value : Json.Value} (delivers : exchange.Delivers codec value)
      (succeeded : next.stage = .settled (.ok value))
  | tells {failure : Failure} (reports : exchange.Reports failure)
      (failed : next.stage = .settled (.error failure))
  | leaves (doubtful : exchange.Doubtful codec) (failed : next.FailedAs .possiblyProcessed)

section Decisions

variable {codec : Codec} {exchange : Exchange} {next : Flight}
  (decides : Decides codec exchange next)

include decides

theorem Decides.delivers {value : Json.Value} (succeeded : next.stage = .settled (.ok value)) :
    exchange.Delivers codec value := by
  cases decides with
  | again repeating => exact absurd succeeded (repeating.not_value value)
  | brings delivers brought =>
      rw [brought] at succeeded
      cases succeeded
      exact delivers
  | tells _ failed =>
      rw [failed] at succeeded
      cases succeeded
  | leaves _ failed => exact absurd succeeded (failed.not_value value)

/-- A failure has one of the kinds that the client itself gives, or it has been reported. -/
theorem Decides.kind {kind : FailureKind} (failed : next.FailedAs kind) :
    kind = .unprocessed ∨ kind.isExhaustion = true ∨ kind = .possiblyProcessed ∨
      ∃ failure, exchange.Reports failure ∧ failure.kind = kind := by
  cases decides with
  | again repeating =>
      rcases repeating.failedAs failed with unprocessed | spent
      · exact Or.inl unprocessed
      · exact Or.inr (Or.inl spent)
  | brings _ succeeded => exact absurd succeeded (failed.not_value _)
  | @tells failure reports settled =>
      have same : failure.kind = kind := FailedAs.kind_eq ⟨failure, settled, rfl⟩ failed
      exact Or.inr (Or.inr (Or.inr ⟨failure, reports, same⟩))
  | leaves _ doubted => exact Or.inr (Or.inr (Or.inl (failed.kind_eq doubted)))

theorem Decides.classified : ¬next.FailedAs .general := by
  intro failed
  rcases decides.kind failed with other | spent | other | ⟨failure, reports, general⟩
  · cases other
  · cases spent
  · cases other
  · obtain ⟨head, body, _, _, rfl⟩ := reports
    exact ofReport_kind_ne_general _ _ general

theorem Decides.processed (failed : next.FailedAs .processed) :
    ∃ head body, exchange = .answered head body ∧
      responseKind? head.fields = some .throwable ∧
        Failure.reportedCertainty? head.fields = some .processed := by
  rcases decides.kind failed with other | spent | other | ⟨failure, reports, processed⟩
  · cases other
  · cases spent
  · cases other
  · obtain ⟨head, body, rfl, typed, rfl⟩ := reports
    exact ⟨head, body, rfl, typed, reportedCertainty?_of_processed processed⟩

end Decisions

section Calls

variable {request : OutboundRequest} (standard : client.handler = .standard)

include standard

theorem run_repeating (sending : flight.stage = .sending request)
    (built : flight.call.request = some request) (cache : Route.Cache) {exchange : Exchange}
    (signal : exchange.isRetrySignal = true ∨ exchange.isRedirectSignal client.codec = true) :
    (run client flight cache exchange.events).1.Repeating := by
  rcases signal with retry | redirect
  · cases allowed : mayRetry client flight.call with
    | true =>
        refine Or.inl ?_
        have resent : (run client flight cache exchange.events).1.stage = .sending request ∧ _ :=
          run_retry sending standard built retry allowed
        exact ⟨request, resent.1, by rw [resent.2]; exact built⟩
    | false =>
        exact Or.inr ⟨_, run_retry_exhausted sending standard retry allowed,
          retryFailure_cases client exchange⟩
  · obtain ⟨reading, fields, sameCall, followed⟩ :=
      run_redirect sending standard cache built redirect
    rw [followed]
    exact follow_repeating (by rw [sameCall, built]) cache fields

theorem decides_run (sending : flight.stage = .sending request)
    (built : flight.call.request = some request) (cache : Route.Cache) (exchange : Exchange) :
    Decides client.codec exchange (run client flight cache exchange.events).1 := by
  rcases Exchange.cases client.codec exchange with
    retry | redirect | ⟨value, delivers⟩ | ⟨failure, reports⟩ | doubtful
  · exact .again (run_repeating standard sending built cache (Or.inl retry))
  · exact .again (run_repeating standard sending built cache (Or.inr redirect))
  · exact .brings delivers (run_delivers sending standard delivers)
  · exact .tells reports (run_reports sending standard reports)
  · exact .leaves doubtful (run_doubtful sending standard doubtful)

/-- Every exchange decides about the call by itself, whatever there was before it. -/
theorem verdict_run (sending : flight.Sending) (cache : Route.Cache) (exchange : Exchange) :
    Verdict client.codec exchange (run client flight cache exchange.events).1 := by
  obtain ⟨request, stage, built⟩ := sending
  have decides := decides_run standard stage built cache exchange
  exact {
    value := fun value => ⟨decides.delivers, run_delivers stage standard⟩
    reported := fun failure => run_reports stage standard
    doubtful := run_doubtful stage standard
    classified := decides.classified
    processed := decides.processed }

theorem rests_of_exchange (sending : flight.Sending) (cache : Route.Cache) (exchange : Exchange) :
    (run client flight cache exchange.events).1.Settled ∨
      (run client flight cache exchange.events).1.Sending := by
  obtain ⟨request, stage, built⟩ := sending
  rcases resends_of_exchange standard stage built cache exchange with
    settled | ⟨later, resent, kept, _⟩
  · exact Or.inl settled
  · exact Or.inr ⟨later, resent, kept⟩

theorem rests_course {exchanges : Nat → Exchange} {caches : Nat → Route.Cache}
    (start : flight.Settled ∨ flight.Sending) (count : Nat) :
    (course client exchanges caches flight count).Settled ∨
      (course client exchanges caches flight count).Sending := by
  induction count with
  | zero => exact start
  | succ count ih =>
      rcases ih with settled | sending
      · rw [course_settled settled]
        exact Or.inl settled
      · exact rests_of_exchange standard sending (caches count) (exchanges count)

end Calls

/-- A call that has been launched sends its request, unless this could not be built. -/
theorem launch_cases (client : Client) (call : Call) (cache : Route.Cache)
    (found : Except Net.LookupFault (List Net.Address)) :
    (launch client call cache found).1.FailedAs .unprocessed ∨
      (launch client call cache found).1.Sending := by
  cases built : call.request with
  | some request =>
      rw [launch, start, attempt_built built]
      exact Or.inr (sending_send request)
  | none =>
      rcases prepared : client.prepare cache call with ⟨preparation, later⟩
      cases preparation with
      | ready request =>
          rw [launch, start, attempt_ready built prepared]
          exact Or.inr (sending_send request)
      | lookup host draft =>
          rw [launch, start, attempt_lookup built prepared, advance_resolved rfl]
          cases client.aim call host draft found with
          | error fault => exact Or.inl (failedAs_fail rfl)
          | ok request => exact Or.inr (sending_send request)
      | failed fault =>
          rw [launch, start, attempt_failed built prepared, advance_settled (fail_stage _)]
          exact Or.inl (failedAs_fail rfl)

theorem exists_last (standard : client.handler = .standard) {exchanges : Nat → Exchange}
    {caches : Nat → Route.Cache} (sending : flight.Sending) {count : Nat}
    (settled : (course client exchanges caches flight count).Settled) :
    ∃ last < count,
      (∀ earlier ≤ last, (course client exchanges caches flight earlier).Sending) ∧
        course client exchanges caches flight (last + 1) =
          course client exchanges caches flight count := by
  obtain ⟨ending, within, waiting, ended⟩ :=
    exists_end (rests_course standard (Or.inr sending)) settled
  cases ending with
  | zero => exact absurd ended sending.not_settled
  | succ last =>
      exact ⟨last, within, fun earlier before => waiting earlier (Nat.lt_succ_of_le before),
        (course_eq_of_settled ended within).symm⟩

/-- A call whose request is built waits for one exchange after the other, and the last one alone
decides what becomes of it.  A call never ends without a kind, whether its request is built or not.
-/
theorem decided_by_last_exchange (standard : client.handler = .standard) (call : Call)
    (cache : Route.Cache) (found : Except Net.LookupFault (List Net.Address))
    (exchanges : Nat → Exchange) (caches : Nat → Route.Cache) :
    let launched := (launch client call cache found).1
    let flight := course client exchanges caches launched
    (∀ request, launched.stage = .sending request →
      (∀ count, (flight count).Settled → ∃ last < count,
        (∀ earlier ≤ last, (flight earlier).Sending) ∧ flight (last + 1) = flight count) ∧
      ∀ count, (flight count).Sending →
        Verdict client.codec (exchanges count) (flight (count + 1))) ∧
      ∀ count, ¬(flight count).FailedAs .general := by
  intro launched flight
  have verdicts (count : Nat) (sending : (flight count).Sending) :
      Verdict client.codec (exchanges count) (flight (count + 1)) :=
    verdict_run standard sending (caches count) (exchanges count)
  rcases launch_cases client call cache found with failed | sending
  · -- A call that has failed at once stays as it is, and its kind says that it was not processed.
    constructor
    · intro request launched
      obtain ⟨failure, settled, _⟩ := failed
      rw [settled] at launched
      cases launched
    · intro count general
      have settled : (flight 0).Settled := failed.settled
      have unchanged : flight count = flight 0 := course_eq_of_settled settled (Nat.zero_le count)
      rw [unchanged] at general
      cases failed.kind_eq general
  · have ending (count : Nat) (settled : (flight count).Settled) : ∃ last < count,
        (∀ earlier ≤ last, (flight earlier).Sending) ∧ flight (last + 1) = flight count :=
      exists_last standard sending settled
    refine ⟨fun _ _ => ⟨ending, verdicts⟩, ?_⟩
    intro count general
    obtain ⟨last, _, waiting, same⟩ := ending count general.settled
    rw [← same] at general
    exact (verdicts last (waiting last (Nat.le_refl last))).classified general

/-- A call whose first server is not there and whose second one sends it on succeeds with what the
third one answers. -/
theorem decided_by_last_exchange_relayed :
    let relayed := Response.redirect ⟨"10.0.0.8", none, none, false⟩
    let answer := Response.success (Json.Value.bool true).bytes
    let exchanges : Nat → Exchange
      | 0 => .unanswered (.unprocessed "refused")
      | 1 => .answered relayed.head (.ok relayed.body)
      | _ => .answered answer.head (.ok answer.body)
    let launched := (launch loopback (.fresh "SimpleCalc" "add" []) .usual (.ok [])).1
    let flight := course loopback exchanges (fun _ => .usual) launched
    ∃ value, (flight 3).stage = .settled (.ok value) ∧
      (exchanges 2).Delivers loopback.codec value := by
  intro relayed answer exchanges launched flight
  have result : (flight 3).stage.result?.map Json.Value.text = some "true" := by decide +kernel
  obtain ⟨value, isResult, _⟩ := Option.map_eq_some_iff.mp result
  have succeeded : (flight 3).stage = .settled (.ok value) := Stage.result?_eq_some_iff.mp isResult
  have standard : loopback.handler = .standard := rfl
  obtain ⟨decided, _⟩ := decided_by_last_exchange standard (.fresh "SimpleCalc" "add" []) .usual
    (.ok []) exchanges fun _ => .usual
  obtain ⟨ending, verdicts⟩ :=
    decided _ (launch_loopback "SimpleCalc" "add" [] .usual (.ok []))
  obtain ⟨last, within, delivers⟩ :
      ∃ last < 3, (exchanges last).Delivers loopback.codec value := by
    obtain ⟨last, within, waiting, same⟩ := ending 3 ⟨_, succeeded⟩
    have ended : (flight (last + 1)).stage = .settled (.ok value) :=
      (congrArg stage same).trans succeeded
    exact ⟨last, within,
      ((verdicts last (waiting last (Nat.le_refl last))).value value).mp ended⟩
  -- Neither of the first two exchanges brings a value, so the last one is the third.
  match last with
  | 0 =>
      obtain ⟨_, _, answered, _⟩ := delivers
      cases answered
  | 1 =>
      obtain ⟨_, _, answered, _, typed, _⟩ := delivers
      cases answered
      have redirecting : responseKind? relayed.head.fields = some .redirect := by decide
      rw [redirecting] at typed
      cases typed
  | 2 => exact ⟨value, succeeded, delivers⟩

end Flight
end RemoteCall
