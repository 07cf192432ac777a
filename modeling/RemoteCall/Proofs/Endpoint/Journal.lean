import RemoteCall.Proofs.Endpoint.Dispatch

/-!
# What the journal of a served request tells

Serving a request dispatches at most one method and awaits at most one reply.  Whatever the
interceptors do, a request is served in one of three ways: nothing is dispatched; a method is
dispatched and the request is rejected after all; or a reply is awaited, and the answer is the
answer to it.
-/

namespace RemoteCall

/-- Whether a registry can make an object one of whose methods replies so. -/
def Registry.CanReply (registry : Registry) (reply : Deferred) : Prop :=
  ∃ interface registration run object method parameters,
    registry.find? interface = some registration ∧ registration.factory run = .ok object ∧
      object.dispatch method parameters = some (.deferred reply)

namespace Endpoint

namespace Event

def isDispatch : Event → Bool
  | .dispatched _ _ => true
  | _ => false

def isAwait : Event → Bool
  | .awaited => true
  | _ => false

end Event

/-- How many methods were dispatched. -/
def dispatches (events : List Event) : Nat := events.countP Event.isDispatch

/-- How many replies were awaited. -/
def awaits (events : List Event) : Nat := events.countP Event.isAwait

@[simp]
theorem dispatches_append (first second : List Event) :
    dispatches (first ++ second) = dispatches first + dispatches second :=
  List.countP_append

@[simp]
theorem awaits_append (first second : List Event) :
    awaits (first ++ second) = awaits first + awaits second :=
  List.countP_append

/-- Nothing was dispatched and nothing awaited. -/
def Idle (events : List Event) : Prop := dispatches events = 0 ∧ awaits events = 0

theorem Idle.nil : Idle [] := ⟨rfl, rfl⟩

theorem Idle.append {first second : List Event} (firstIdle : Idle first)
    (secondIdle : Idle second) : Idle (first ++ second) := by
  obtain ⟨firstDispatches, firstAwaits⟩ := firstIdle
  obtain ⟨secondDispatches, secondAwaits⟩ := secondIdle
  constructor
  · rw [dispatches_append, firstDispatches, secondDispatches]
  · rw [awaits_append, firstAwaits, secondAwaits]

variable {α : Type}

theorem idle_intercept (behaviour : Behaviour α) (entries : List (InterceptorId × α))
    (request : Request) (chain : Chain α) :
    Idle (intercept behaviour entries request chain).events := by
  induction entries generalizing request chain with
  | nil => exact Idle.nil
  | cons entry later ih =>
      obtain ⟨id, interceptor⟩ := entry
      unfold intercept
      split
      · next next chain _ =>
          obtain ⟨noDispatch, noAwait⟩ := ih next chain
          exact ⟨by simpa [dispatches, Event.isDispatch] using noDispatch,
            by simpa [awaits, Event.isAwait] using noAwait⟩
      · exact ⟨rfl, rfl⟩
      · exact ⟨rfl, rfl⟩

/-- The ways in which a request comes to an answer, and what is done on the way. -/
inductive Course (codec : Codec) (registry : Registry) : Response → List Event → Prop where
  | idle {response : Response} {events : List Event} (idle : Idle events) :
      Course codec registry response events
  /-- A method was dispatched, and there is no reply to wait for. -/
  | rejected {events : List Event} (rejection : Rejection)
      (dispatched : dispatches events = 1) (unawaited : awaits events = 0) :
      Course codec registry rejection.response events
  | answered {events : List Event} (reply : Deferred) (possible : registry.CanReply reply)
      (dispatched : dispatches events = 1) (awaited : awaits events = 1) :
      Course codec registry (answerTo codec reply.outcome) events

theorem Course.after {codec : Codec} {registry : Registry} {response : Response}
    {before events : List Event} (course : Course codec registry response events)
    (idle : Idle before) : Course codec registry response (before ++ events) := by
  obtain ⟨noDispatch, noAwait⟩ := idle
  cases course with
  | idle idle => exact .idle (Idle.append ⟨noDispatch, noAwait⟩ idle)
  | rejected rejection dispatched unawaited =>
      exact .rejected rejection (by simp [noDispatch, dispatched]) (by simp [noAwait, unawaited])
  | answered reply possible dispatched awaited =>
      exact .answered reply possible (by simp [noDispatch, dispatched])
        (by simp [noAwait, awaited])

/-- A dispatched method that gives a deferred reply is one that the registry can reply with. -/
theorem resolve_cases (codec : Codec) (registry : Registry) (request : Request) :
    let resolved := resolve codec registry request
    awaits resolved.events = 0 ∧
      (Idle resolved.events ∧ (∃ rejection, resolved.result = .error rejection) ∨
        dispatches resolved.events = 1 ∧
          ∀ reply, resolved.result = .ok (.deferred reply) → registry.CanReply reply) := by
  have resolves := resolves codec registry request
  dsimp only
  generalize (resolve codec registry request).result = result at resolves ⊢
  generalize (resolve codec registry request).events = events at resolves ⊢
  cases resolves with
  | rejected rejection _ => exact ⟨rfl, Or.inl ⟨Idle.nil, rejection, rfl⟩⟩
  | unmade wanted explanation => exact ⟨rfl, Or.inl ⟨⟨rfl, rfl⟩, _, rfl⟩⟩
  | undispatched wanted => exact ⟨rfl, Or.inr ⟨rfl, nofun⟩⟩
  | dispatched found made dispatched =>
      refine ⟨rfl, Or.inr ⟨rfl, ?_⟩⟩
      intro reply isReply
      cases isReply
      have targets := targets codec registry request
      rw [found] at targets
      cases targets with
      | found wanted _ _ _ registered _ =>
          exact ⟨_, _, _, _, _, _, registered, made, dispatched⟩

theorem course_serveIntercepted (server : Server α) (request : Request) :
    Course server.codec server.registry (serveIntercepted server request).response
      (serveIntercepted server request).events := by
  obtain ⟨unawaited, resolved⟩ := resolve_cases server.codec server.registry request
  unfold serveIntercepted
  dsimp only
  split
  · next rejection result =>
      rcases resolved with ⟨idle, _⟩ | ⟨dispatched, _⟩
      · exact .idle idle
      · exact .rejected rejection dispatched unawaited
  · next value result =>
      rcases resolved with ⟨idle, _⟩ | ⟨dispatched, _⟩
      · exact .idle idle
      · exact .rejected _ dispatched unawaited
  · next reply result =>
      rcases resolved with ⟨_, rejection, refused⟩ | ⟨dispatched, possible⟩
      · rw [refused] at result
        cases result
      · refine .answered reply (possible reply result) ?_ ?_
        · rw [dispatches_append, dispatched]
          rfl
        · rw [awaits_append, unawaited]
          rfl

/-- Whatever the interceptors do, serving a request takes one of the three courses. -/
theorem course_serve (behaviour : Behaviour α) (server : Server α) (request : Request) :
    Course server.codec server.registry (serve behaviour server request).response
      (serve behaviour server request).events := by
  have intercepted := idle_intercept behaviour server.chain.entries request server.chain
  unfold serve
  split
  · exact .idle Idle.nil
  · split
    · exact .idle Idle.nil
    · dsimp only
      split
      · exact .idle intercepted
      · next passed _ =>
          exact (course_serveIntercepted
            { server with chain := (intercept behaviour server.chain.entries request
              server.chain).chain } passed).after intercepted

end Endpoint
end RemoteCall
