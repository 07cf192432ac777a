import Mathlib.Data.List.Forall2
import RemoteCall.Proofs.Flight.Launch
import RemoteCall.Proofs.Flight.Signals
import RemoteCall.Proofs.Response.Suggestions
import RemoteCall.Time.Timer

/-!
# Pauses

A call pauses when it is asked to try again and has a retry left, and at no other time.  How long
it pauses depends on what asked it: an answer may suggest a number of milliseconds, and whatever
suggests none is owed the usual pause of the client.  After the pause the request is sent again.
No timer runs longer than thirty years, and so no pause lasts longer, whatever was suggested.
-/

namespace RemoteCall

namespace Flight

/-- The pause that is made at a stage: as long as a timer runs that is set to it. -/
def Stage.pauses : Stage → List Nat
  | .pausing milliseconds => [Timer.span milliseconds]
  | .resolving _ _ | .sending _ | .reading _ _ | .settled _ => []

def Stage.isOver : Stage → Bool
  | .settled _ => true
  | .resolving _ _ | .sending _ | .reading _ _ | .pausing _ => false

/-- The pause that a call comes to at an event. -/
def pausesAt (client : Client) (flight : Flight) (cache : Route.Cache) (event : Event) :
    List Nat :=
  if flight.stage.awaits event then (flight.advance client cache event).1.stage.pauses else []

/-- The pauses that a call makes along a run. -/
def pauses (client : Client) (flight : Flight) (cache : Route.Cache) : List Event → List Nat
  | [] => []
  | event :: later =>
      pausesAt client flight cache event ++
        pauses client (flight.advance client cache event).1 (flight.advance client cache event).2
          later

/-- The signal that a call heeds at an event: it is asked to try again, and it does not end. -/
def heededAt (client : Client) (flight : Flight) (cache : Route.Cache) (event : Event) :
    List Event :=
  if flight.stage.awaits event && event.isRetrySignal client &&
      !(flight.advance client cache event).1.stage.isOver then [event]
  else []

/-- The signals that a call heeds along a run. -/
def heeded (client : Client) (flight : Flight) (cache : Route.Cache) : List Event → List Event
  | [] => []
  | event :: later =>
      heededAt client flight cache event ++
        heeded client (flight.advance client cache event).1 (flight.advance client cache event).2
          later

/-- The pause that a client owes to a signal: the one that an answer suggests, and else its own. -/
inductive Owes (client : Client) : Event → Nat → Prop where
  | unreached (explanation : String) :
      Owes client (.unanswered (.unprocessed explanation)) client.settings.retryDelay
  | suggested {head : ResponseHead} {milliseconds : Nat}
      (suggests : head.fields.Suggests milliseconds) :
      Owes client (.answered head) milliseconds
  | usual {head : ResponseHead} (silent : ∀ milliseconds, ¬head.fields.Suggests milliseconds) :
      Owes client (.answered head) client.settings.retryDelay

variable {client : Client} {flight : Flight} {cache : Route.Cache}

section Owing

variable {milliseconds other : Nat}

theorem owes_suggestedPause (client : Client) (head : ResponseHead) :
    Owes client (.answered head) (suggestedPause client head.fields) := by
  unfold suggestedPause
  split
  · next milliseconds read =>
      by_cases zero : milliseconds = 0
      · rw [if_pos zero]
        refine .usual fun other suggests => ?_
        obtain ⟨reread, nonzero⟩ := Fields.suggests_iff.mp suggests
        rw [read] at reread
        cases reread
        exact nonzero zero
      · rw [if_neg zero]
        exact .suggested (Fields.suggests_iff.mpr ⟨read, zero⟩)
  · next unread =>
      refine .usual fun other suggests => ?_
      have read := (Fields.suggests_iff.mp suggests).1
      rw [unread] at read
      cases read

theorem Owes.unique {event : Event} (first : Owes client event milliseconds)
    (second : Owes client event other) : milliseconds = other := by
  cases first with
  | unreached explanation =>
      cases second
      rfl
  | suggested suggests =>
      cases second with
      | suggested same => exact suggests.unique same
      | usual silent => exact absurd suggests (silent _)
  | usual silent =>
      cases second with
      | suggested suggests => exact absurd suggests (silent _)
      | usual => rfl

end Owing

section Steps

variable {request : OutboundRequest} {event : Event}

/-- What a call comes to that may try again.  It has its request still, unless its client forgets
the requests that are answered. -/
structure Pausing (client : Client) (flight : Flight) (event : Event) (next : Flight) : Prop where
  pausing : ∃ milliseconds, Owes client event milliseconds ∧ next.stage = .pausing milliseconds
  request : next.call.request = flight.call.request ∨
    client.handler = .forgetful ∧ next.call.request = none

/-- A call that is asked to try again makes the pause that it owes if a retry is left, and ends if
none is. -/
theorem advance_of_isRetrySignal (sending : flight.stage = .sending request)
    (signal : event.isRetrySignal client = true) (cache : Route.Cache) :
    let next := (flight.advance client cache event).1
    if flight.call.retries < client.settings.retriesLimit then Pausing client flight event next
    else next.Settled := by
  cases event with
  | resolved | received | resumed => cases signal
  | unanswered fault =>
      cases fault with
      | timedOut | failed => cases signal
      | unprocessed explanation =>
          rw [advance_unanswered sending, afterTransportFault, afterUnprocessed]
          by_cases left : flight.call.retries < client.settings.retriesLimit
          · have allowed : mayRetry client flight.call = true := decide_eq_true left
            rw [if_pos allowed]
            dsimp only
            rw [if_pos left]
            exact ⟨⟨_, .unreached explanation, rfl⟩, Or.inl rfl⟩
          · have refused : ¬mayRetry client flight.call = true := by simpa [mayRetry] using left
            rw [if_neg refused]
            dsimp only
            rw [if_neg left]
            exact ⟨_, fail_stage _⟩
  | answered head =>
      obtain ⟨regular, asks⟩ := Bool.and_eq_true_iff.mp signal
      rw [advance_answered_eq sending, afterAnswer_of_isRegular regular,
        interpret_of_asksAgain asks, afterRetrySignal]
      by_cases left : flight.call.retries < client.settings.retriesLimit
      · have allowed : mayRetry client (taken client flight).call = true := by
          rw [mayRetry, taken_retries]
          exact decide_eq_true left
        rw [if_pos allowed]
        dsimp only
        rw [if_pos left]
        exact ⟨⟨_, owes_suggestedPause client head, rfl⟩, taken_request client flight⟩
      · have refused : ¬mayRetry client (taken client flight).call = true := by
          rw [mayRetry, taken_retries]
          simpa using left
        rw [if_neg refused]
        dsimp only
        rw [if_neg left]
        exact ⟨_, fail_stage _⟩

theorem pauses_attempt (client : Client) (flight : Flight) (cache : Route.Cache) :
    (attempt client flight cache).1.stage.pauses = [] := by
  rcases attempt_cases client flight cache with
    ⟨request, sent⟩ | ⟨host, draft, resolving⟩ | ⟨failure, failed⟩
  · rw [sent]
    rfl
  · rw [resolving]
    rfl
  · rw [failed]
    rfl

/-- While nothing is sent, nothing asks a call to pause. -/
theorem pauses_of_moves {next : Flight × Route.Cache} (moves : Moves client flight cache event next)
    (awaited : flight.stage.awaits event = true)
    (elsewhere : ∀ request, flight.stage ≠ .sending request) : next.1.stage.pauses = [] := by
  cases moves with
  | rests unawaited =>
      rw [awaited] at unawaited
      cases unawaited
  | fails | aims | succeeds | redirected => rfl
  | unreached sending | judged _ sending | deferred sending | told sending | opened sending =>
      exact absurd sending (elsewhere _)
  | resumes => exact pauses_attempt client flight cache

/-- An answer or a fault that does not ask a call to try again gives it no reason to pause. -/
theorem pauses_of_sending (sending : flight.stage = .sending request)
    (awaited : flight.stage.awaits event = true)
    (silent : event.isRetrySignal client = false) :
    (flight.advance client cache event).1.stage.pauses = [] := by
  cases event with
  | resolved | received | resumed =>
      rw [sending] at awaited
      cases awaited
  | unanswered fault =>
      rw [advance_unanswered sending]
      cases fault with
      | timedOut | failed => rfl
      | unprocessed => cases silent
  | answered head =>
      rw [advance_answered_eq sending]
      cases handler : client.handler with
      | custom judge =>
          rw [afterAnswer, handler]
          rfl
      | standard | forgetful =>
          have regular : client.handler.isRegular = true := by
            rw [handler]
            rfl
          have unasked : asksAgain head = false := by
            simpa [Event.isRetrySignal, regular] using silent
          rw [afterAnswer_of_isRegular regular]
          rcases interpret_of_not_asksAgain unasked (taken client flight) cache with
            failed | ⟨kind, left, read⟩
          · rw [failed]
            rfl
          · rw [read]
            rfl

theorem pauses_of_not_isRetrySignal (awaited : flight.stage.awaits event = true)
    (silent : event.isRetrySignal client = false) (cache : Route.Cache) :
    (flight.advance client cache event).1.stage.pauses = [] := by
  cases stage : flight.stage with
  | sending request => exact pauses_of_sending stage awaited silent
  | resolving | reading | pausing | settled =>
      have kept : ∀ head, event = .answered head → client.handler ≠ .forgetful := by
        rintro head rfl
        rw [stage] at awaited
        cases awaited
      refine pauses_of_moves (moves_advance_unless_forgotten kept flight cache) awaited ?_
      rw [stage]
      exact fun _ => nofun

theorem pausesAt_of_not_isRetrySignal (silent : event.isRetrySignal client = false)
    (flight : Flight) (cache : Route.Cache) : pausesAt client flight cache event = [] := by
  unfold pausesAt
  split
  · next awaited => exact pauses_of_not_isRetrySignal awaited silent cache
  · rfl

theorem pausesAt_of_isRetrySignal (sending : flight.stage = .sending request)
    (signal : event.isRetrySignal client = true) (cache : Route.Cache) :
    pausesAt client flight cache event = (flight.advance client cache event).1.stage.pauses := by
  refine if_pos ?_
  rw [sending]
  cases event with
  | resolved | received | resumed => cases signal
  | answered | unanswered => rfl

/-- Signals are taken while a call waits for an answer. -/
theorem sending_of_isRetrySignal (awaited : flight.stage.awaits event = true)
    (signal : event.isRetrySignal client = true) :
    ∃ request, flight.stage = .sending request := by
  cases stage : flight.stage with
  | sending request => exact ⟨request, rfl⟩
  | resolving | reading | pausing | settled =>
      rw [stage] at awaited
      cases event with
      | resolved | received | resumed => cases signal
      | answered | unanswered => cases awaited

/-- A pause is made at the signals that a call heeds and nowhere else, and it is the one that the
call owes. -/
theorem pausesAt_cases (client : Client) (flight : Flight) (cache : Route.Cache) (event : Event) :
    heededAt client flight cache event = [] ∧ pausesAt client flight cache event = [] ∨
      ∃ milliseconds, Owes client event milliseconds ∧
        heededAt client flight cache event = [event] ∧
        pausesAt client flight cache event = [Timer.span milliseconds] := by
  cases signal : event.isRetrySignal client with
  | false =>
      refine Or.inl ⟨if_neg ?_, pausesAt_of_not_isRetrySignal signal flight cache⟩
      simp [signal]
  | true =>
      cases awaited : flight.stage.awaits event with
      | false =>
          refine Or.inl ⟨if_neg ?_, if_neg ?_⟩
          · simp [awaited]
          · simp [awaited]
      | true =>
          obtain ⟨request, sending⟩ := sending_of_isRetrySignal awaited signal
          have comes := advance_of_isRetrySignal sending signal cache
          rw [pausesAt_of_isRetrySignal sending signal, heededAt, awaited, signal]
          dsimp only at comes
          split at comes
          · obtain ⟨milliseconds, owes, pausing⟩ := comes.pausing
            rw [pausing]
            exact Or.inr ⟨milliseconds, owes, rfl, rfl⟩
          · obtain ⟨outcome, settled⟩ := comes
            rw [settled]
            exact Or.inl ⟨rfl, rfl⟩

end Steps

/-- Along a run, signals are heeded and pauses are made in the same order, each as it is owed. -/
theorem forall₂_pauses (client : Client) (flight : Flight) (cache : Route.Cache)
    (events : List Event) :
    List.Forall₂ (fun signal pause => ∃ milliseconds, Owes client signal milliseconds ∧
        pause = Timer.span milliseconds)
      (heeded client flight cache events) (pauses client flight cache events) := by
  induction events generalizing flight cache with
  | nil => exact .nil
  | cons event later ih =>
      rw [heeded, pauses]
      rcases pausesAt_cases client flight cache event with
        ⟨unheeded, unpaused⟩ | ⟨milliseconds, owes, heeds, pauses⟩
      · rw [unheeded, unpaused]
        exact ih _ _
      · rw [heeds, pauses]
        exact .cons ⟨milliseconds, owes, rfl⟩ (ih _ _)

section Repeating

variable {request : OutboundRequest} {event : Event}

/-- What a call comes to after a pause: it sends the request that it sent before, or it makes an
attempt to build and send one if its client has forgotten that. -/
def TriesAgain (client : Client) (request : OutboundRequest) (next : Flight × Route.Cache) : Prop :=
  next.1.stage = .sending request ∨
    client.handler = .forgetful ∧ ∃ flight cache, flight.call.request = none ∧
      next = attempt client flight cache

/-- An answer never makes a call send another request at once. -/
theorem carries_interpret (client : Client) (flight : Flight) (cache : Route.Cache)
    (head : ResponseHead) : Carries (flight.interpret client cache head).1 := by
  intro request sending
  cases asks : asksAgain head with
  | true =>
      rw [interpret_of_asksAgain asks, afterRetrySignal] at sending
      dsimp only at sending
      split at sending
      · cases sending
      · cases sending
  | false =>
      rcases interpret_of_not_asksAgain asks flight cache with failed | ⟨kind, left, read⟩
      · rw [failed] at sending
        cases sending
      · rw [read] at sending
        cases sending

theorem Carries.advance (carries : Carries flight) (client : Client) (cache : Route.Cache)
    (event : Event) : Carries (flight.advance client cache event).1 := by
  by_cases kept : ∀ head, event = .answered head → client.handler ≠ .forgetful
  · exact (moves_advance_unless_forgotten kept flight cache).carries carries
  · have forgotten : ∃ head, event = .answered head ∧ client.handler = .forgetful := by
      simpa using kept
    obtain ⟨head, rfl, forgetful⟩ := forgotten
    have regular : client.handler.isRegular = true := by
      rw [forgetful]
      rfl
    cases stage : flight.stage with
    | sending request =>
        rw [advance_answered_eq stage, afterAnswer_of_isRegular regular]
        exact carries_interpret client (taken client flight) cache head
    | resolving | reading | pausing | settled =>
        rw [advance_of_not_awaits (by rw [stage]; rfl)]
        exact carries

/-- Whatever its client does with answers, a call waits for the answer to the request it has. -/
theorem carries_run (client : Client) (carries : Carries flight) (cache : Route.Cache)
    (events : List Event) : Carries (run client flight cache events).1 := by
  induction events generalizing flight cache with
  | nil => exact carries
  | cons event later ih => exact ih (carries.advance client cache event) _

/-- A call that is asked to try again pauses and does so if a retry is left, and ends if none is. -/
theorem run_of_isRetrySignal (carries : Carries flight)
    (sending : flight.stage = .sending request) (signal : event.isRetrySignal client = true)
    (cache : Route.Cache) :
    let made := pauses client flight cache [event, .resumed]
    let next := run client flight cache [event, .resumed]
    if flight.call.retries < client.settings.retriesLimit then
      (∃ milliseconds, Owes client event milliseconds ∧ made = [Timer.span milliseconds]) ∧
        TriesAgain client request next
    else made = [] ∧ next.1.Settled := by
  have comes := advance_of_isRetrySignal sending signal cache
  dsimp only at comes ⊢
  rw [pauses, pauses, pauses, pausesAt_of_isRetrySignal sending signal,
    pausesAt_of_not_isRetrySignal rfl, run_cons, List.append_nil, List.append_nil]
  generalize flight.advance client cache event = paused at comes ⊢
  split at comes
  · next left =>
      rw [if_pos left]
      obtain ⟨milliseconds, owes, pausing⟩ := comes.pausing
      refine ⟨⟨milliseconds, owes, by rw [pausing]; rfl⟩, ?_⟩
      rcases comes.request with same | ⟨forgetful, unbuilt⟩
      · have built : paused.1.call.request = some request := same.trans (carries request sending)
        rw [run_cons, advance_resumed pausing built]
        exact Or.inl rfl
      · have resumed : paused.1.advance client paused.2 .resumed =
            attempt client paused.1 paused.2 := by
          unfold advance
          rw [pausing]
        exact Or.inr ⟨forgetful, paused.1, paused.2, unbuilt, resumed⟩
  · next left =>
      rw [if_neg left]
      obtain ⟨outcome, settled⟩ := comes
      rw [run_settled settled, settled]
      exact ⟨rfl, outcome, settled⟩

end Repeating

section Composed

variable (delay : Option UInt64)

/-- The pause that a client owes to an answer that asks to try again: as long as was suggested, if
anything was, and as usual otherwise. -/
def pauseAfter (client : Client) : Option UInt64 → Nat
  | some delay => if delay = 0 then client.settings.retryDelay else delay.toNat
  | none => client.settings.retryDelay

theorem isRetrySignal_retry (regular : client.handler.isRegular = true) :
    Event.isRetrySignal client (.answered (Response.retry delay).head) = true := by
  have asks : asksAgain (Response.retry delay).head = true :=
    asksAgain_iff.mpr ⟨_, responseKind?_retry delay, by decide, Or.inr rfl⟩
  rw [Event.isRetrySignal, regular, asks]
  rfl

theorem owes_retry (client : Client) :
    Owes client (.answered (Response.retry delay).head) (pauseAfter client delay) := by
  cases given : Response.givenDelay delay with
  | none =>
      have usual : pauseAfter client delay = client.settings.retryDelay := by
        cases delay with
        | none => rfl
        | some delay =>
            have zero : delay = 0 := by simpa [Response.givenDelay, Option.filter] using given
            exact if_pos zero
      rw [usual]
      refine .usual fun milliseconds suggests => ?_
      rw [Response.head, Response.suggests_retry, given] at suggests
      cases suggests
  | some suggested =>
      have kept := Option.filter_eq_some_iff.mp given
      have nonzero : suggested ≠ 0 := by simpa using kept.2
      have asSuggested : pauseAfter client delay = suggested.toNat := by
        rw [kept.1]
        exact if_neg nonzero
      rw [asSuggested]
      refine .suggested ?_
      rw [Response.head, Response.suggests_retry, given]
      rfl

end Composed

/-- Every call pauses once for each signal that it heeds, in that order and as long as it owes, and
never else.  Wherever it is asked to try again, it does so after the pause if a retry is left, and
ends without one if none is.  The answer that asks to try again is such a signal, and the pause that
is owed to it is the one that was given to it. -/
theorem paused_as_asked (client : Client) (call : Call) (cache : Route.Cache)
    (events : List Event) :
    let started := start client call cache
    let now := run client started.1 started.2 events
    List.Forall₂ (fun signal pause => ∃ milliseconds, Owes client signal milliseconds ∧
        pause = Timer.span milliseconds)
      (heeded client started.1 started.2 events) (pauses client started.1 started.2 events) ∧
      (∀ request event, now.1.stage = .sending request → event.isRetrySignal client = true →
        let made := pauses client now.1 now.2 [event, .resumed]
        let next := run client now.1 now.2 [event, .resumed]
        if now.1.call.retries < client.settings.retriesLimit then
          (∃ milliseconds, Owes client event milliseconds ∧ made = [Timer.span milliseconds]) ∧
            TriesAgain client request next
        else made = [] ∧ next.1.Settled) ∧
      ∀ delay : Option UInt64, client.handler.isRegular = true →
        let signal := Event.answered (Response.retry delay).head
        signal.isRetrySignal client = true ∧
          ∀ milliseconds, Owes client signal milliseconds ↔
            milliseconds = pauseAfter client delay := by
  intro started now
  have carries : Carries now.1 :=
    carries_run client (carries_attempt client _ cache) started.2 events
  refine ⟨forall₂_pauses client started.1 started.2 events, ?_, ?_⟩
  · intro request event sending signal
    exact run_of_isRetrySignal carries sending signal now.2
  · intro delay regular signal
    refine ⟨isRetrySignal_retry delay regular, fun milliseconds => ⟨fun owes => ?_, ?_⟩⟩
    · exact owes.unique (owes_retry delay client)
    · rintro rfl
      exact owes_retry delay client

/-- The longest pause that can be suggested is cut off after thirty years. -/
theorem pause_cut_off :
    let delay : UInt64 := 0xFFFFFFFFFFFFFFFF
    let started := start loopback (.fresh "SimpleCalc" "add" []) .usual
    pauses loopback started.1 started.2 [.answered (Response.retry (some delay)).head, .resumed] =
        [946080000000] ∧
      delay.toNat ≠ 946080000000 := by
  intro delay started
  have sent : started = _ := start_loopback "SimpleCalc" "add" [] .usual
  have carries : Carries started.1 := carries_attempt loopback _ .usual
  have sending : started.1.stage = .sending (loopbackRequest "SimpleCalc" "add" []) := by
    rw [sent]
    rfl
  have left : started.1.call.retries < loopback.settings.retriesLimit := by
    rw [sent]
    decide
  have signal : Event.isRetrySignal loopback (.answered (Response.retry (some delay)).head) = true :=
    isRetrySignal_retry (some delay) rfl
  have paused := run_of_isRetrySignal carries sending signal started.2
  dsimp only at paused
  rw [if_pos left] at paused
  obtain ⟨⟨milliseconds, owes, made⟩, _⟩ := paused
  rw [made, owes.unique (owes_retry (some delay) loopback)]
  decide

end Flight
end RemoteCall
