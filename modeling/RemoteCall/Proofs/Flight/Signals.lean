import RemoteCall.Proofs.Flight.Exchange
import RemoteCall.Proofs.Flight.Moves

/-!
# Signals

A call is asked to try again by its transport, which has found no server to process the request,
or by an answer.  An answer counts as such a signal only for a client that takes answers by the
rules of the protocol, be it with the request at hand or without it.
-/

namespace RemoteCall

/-- Whether a handler takes answers by the rules of the protocol. -/
def ResponseHandler.isRegular : ResponseHandler → Bool
  | .standard | .forgetful => true
  | .custom _ => false

namespace Flight

/-- Whether an answer asks to try again, whatever its body is. -/
def asksAgain (head : ResponseHead) : Bool := (Exchange.answered head (.ok [])).isRetrySignal

/-- Whether an event asks the calls of a client to try again. -/
def Event.isRetrySignal (client : Client) : Event → Bool
  | .unanswered (.unprocessed _) => true
  | .answered head => client.handler.isRegular && asksAgain head
  | .unanswered (.timedOut _) | .unanswered (.failed _) | .resolved _ | .received _ | .resumed =>
      false

/-- A call as its client takes an answer: without its request if the client forgets it. -/
def taken (client : Client) (flight : Flight) : Flight :=
  match client.handler with
  | .forgetful => { flight with call := flight.call.withoutRequest }
  | .standard | .custom _ => flight

/-- A call as it meets an event: at an answer, as its client takes this. -/
def met (client : Client) (flight : Flight) : Event → Flight
  | .answered _ => taken client flight
  | .resolved _ | .unanswered _ | .received _ | .resumed => flight

variable {client : Client} {flight : Flight} {cache : Route.Cache} {head : ResponseHead}

theorem asksAgain_iff :
    asksAgain head = true ↔ ∃ kind, responseKind? head.fields = some kind ∧ kind ≠ .throwable ∧
      (head.status.isServerError ∨ kind = .retry) :=
  Exchange.isRetrySignal_answered

/-- Answers as every client takes them. -/
theorem advance_answered_eq {request : OutboundRequest} (sending : flight.stage = .sending request)
    (head : ResponseHead) :
    flight.advance client cache (.answered head) = flight.afterAnswer client cache head := by
  unfold advance
  rw [sending]

@[simp]
theorem taken_retries (client : Client) (flight : Flight) :
    (taken client flight).call.retries = flight.call.retries := by
  unfold taken
  cases client.handler <;> rfl

theorem taken_request (client : Client) (flight : Flight) :
    (taken client flight).call.request = flight.call.request ∨
      client.handler = .forgetful ∧ (taken client flight).call.request = none := by
  unfold taken
  cases client.handler with
  | standard | custom => exact Or.inl rfl
  | forgetful => exact Or.inr ⟨rfl, rfl⟩

@[simp]
theorem taken_stage (client : Client) (flight : Flight) :
    (taken client flight).stage = flight.stage := by
  unfold taken
  cases client.handler <;> rfl

theorem taken_of_retentive (retentive : client.handler ≠ .forgetful) (flight : Flight) :
    taken client flight = flight := by
  unfold taken
  cases handler : client.handler with
  | standard | custom => rfl
  | forgetful => exact absurd handler retentive

@[simp]
theorem met_stage (client : Client) (flight : Flight) (event : Event) :
    (met client flight event).stage = flight.stage := by
  cases event with
  | answered => exact taken_stage client flight
  | resolved | unanswered | received | resumed => rfl

theorem afterAnswer_of_isRegular (regular : client.handler.isRegular = true) (flight : Flight)
    (cache : Route.Cache) (head : ResponseHead) :
    flight.afterAnswer client cache head = (taken client flight).interpret client cache head := by
  unfold afterAnswer taken
  cases handler : client.handler with
  | standard | forgetful => rfl
  | custom =>
      rw [handler] at regular
      cases regular

theorem interpret_of_asksAgain (asks : asksAgain head = true) (flight : Flight)
    (cache : Route.Cache) :
    flight.interpret client cache head = flight.afterRetrySignal client cache head := by
  obtain ⟨kind, typed, unthrown, asked⟩ := asksAgain_iff.mp asks
  exact interpret_retry typed unthrown asked

/-- An answer that does not ask to try again fails the call or has its body read. -/
theorem interpret_of_not_asksAgain (silent : asksAgain head = false) (flight : Flight)
    (cache : Route.Cache) :
    flight.interpret client cache head = flight.fail cache .untyped ∨
      ∃ kind left, flight.interpret client cache head =
        ({ flight with stage := .reading head kind }, left) := by
  cases typed : responseKind? head.fields with
  | none => exact Or.inl (interpret_untyped typed)
  | some kind =>
      by_cases thrown : kind = .throwable
      · subst thrown
        exact Or.inr ⟨_, _, interpret_throwable typed⟩
      · have unasked : ¬(head.status.isServerError ∨ kind = .retry) := by
          intro asked
          rw [asksAgain_iff.mpr ⟨kind, typed, thrown, asked⟩] at silent
          cases silent
        exact Or.inr ⟨_, _, interpret_content typed thrown unasked⟩

/-- Every step of a call is a move of the call as it meets the event, whoever takes its answers. -/
theorem moves_met {event : Event} (awaited : flight.stage.awaits event = true) (client : Client)
    (cache : Route.Cache) :
    Moves client (met client flight event) cache event (flight.advance client cache event) := by
  cases event with
  | resolved | unanswered | received | resumed =>
      refine moves_advance_unless_forgotten (fun _ isAnswer => ?_) flight cache
      cases isAnswer
  | answered head =>
      by_cases forgetful : client.handler = .forgetful
      · obtain ⟨request, sending⟩ : ∃ request, flight.stage = .sending request := by
          cases stage : flight.stage with
          | sending request => exact ⟨request, rfl⟩
          | resolving | reading | pausing | settled =>
              rw [stage] at awaited
              cases awaited
        have regular : client.handler.isRegular = true := by
          rw [forgetful]
          rfl
        rw [advance_answered_eq sending, afterAnswer_of_isRegular regular]
        exact moves_interpret ((taken_stage client flight).trans sending) head
      · rw [met, taken_of_retentive forgetful]
        exact moves_advance forgetful flight cache (.answered head)

end Flight
end RemoteCall
