import RemoteCall.Endpoint.Binding
import RemoteCall.Proofs.Flight.Verbatim

/-!
# What comes in over a socket

Two things stand between a socket and the pipeline.  The body of a request has to arrive whole and
within its bound; if it does not, nothing is done for the request, and its caller is told so.  And
there have to be listeners: a server that comes up on every address has one at least, for each
address that it could take, so unlike a server made of given listeners it can always be started.
-/

namespace RemoteCall
namespace Endpoint

section Bodies

variable {α : Type} {behaviour : Behaviour α} {server : Server α} {request : Request}
  {arrived : Except String Bytes}

theorem intake_eq_ok_iff {body : Bytes} :
    intake arrived = .ok body ↔ arrived = .ok body ∧ body.length ≤ bodyLimit := by
  cases arrived with
  | error explanation => simp [intake]
  | ok bytes =>
      rw [intake, Except.ok.injEq]
      split
      · next within =>
          rw [Except.ok.injEq]
          exact ⟨fun same => ⟨same, same ▸ within⟩, And.left⟩
      · next long =>
          refine ⟨nofun, ?_⟩
          rintro ⟨rfl, within⟩
          exact absurd within long

theorem receive_of_read {body : Bytes} (read : intake arrived = .ok body) :
    receive behaviour server request arrived =
      serve behaviour server { request with body := body } := by
  rw [receive, read]

theorem receive_of_unread {fault : IntakeFault} (unread : intake arrived = .error fault) :
    receive behaviour server request arrived =
      ⟨Response.throwable (.ofFailure fault.failure) .unprocessed, 0, [], server⟩ := by
  rw [receive, unread]

/-- A request is served with the body that arrived for it if all of it did and it is not too long.
Otherwise nothing is done, the server stays as it is, and a call that receives the answer ends as
unprocessed. -/
theorem served_if_read (behaviour : Behaviour α) (server : Server α) (request : Request)
    (arrived : Except String Bytes) :
    let served := receive behaviour server request arrived
    (∀ body, arrived = .ok body → body.length ≤ bodyLimit →
      served = serve behaviour server { request with body := body }) ∧
    ((∀ body, arrived = .ok body → bodyLimit < body.length) →
      served.events = [] ∧ served.server = server ∧
        ∀ (client : Client) (flight : Flight) (cache : Route.Cache) (sent : OutboundRequest),
          client.handler = .standard → flight.stage = .sending sent →
            (Flight.run client flight cache
              (Flight.Exchange.ofResponse served.response).events).1.FailedAs .unprocessed) := by
  intro served
  constructor
  · intro body isArrived within
    exact receive_of_read (intake_eq_ok_iff.mpr ⟨isArrived, within⟩)
  · intro unreadable
    cases read : intake arrived with
    | ok body =>
        obtain ⟨isArrived, within⟩ := intake_eq_ok_iff.mp read
        exact absurd within (Nat.not_le_of_gt (unreadable body isArrived))
    | error fault =>
        have refused : served = _ := receive_of_unread read
        rw [refused]
        refine ⟨rfl, rfl, fun client flight cache sent standard sending => ?_⟩
        exact Flight.run_unprocessed sending standard cache
          (Flight.responseKind?_throwable _ _) (Response.reportedCertainty?_throwable _ _)

end Bodies

section Listeners

variable {Listener : Type} {bind : Net.Address → UInt16 → Except BindFault Listener}
  {port : UInt16} {listeners : List Listener}

/-- A listener that was bound to all addresses of a family. -/
def Bound (bind : Net.Address → UInt16 → Except BindFault Listener) (port : UInt16)
    (listener : Listener) : Prop :=
  bind everyIpv6 port = .ok listener ∨ bind everyIpv4 port = .ok listener

/-- The shorter family is not bound, and this is not because the longer one serves it as well. -/
def Unbindable (bind : Net.Address → UInt16 → Except BindFault Listener) (port : UInt16) : Prop :=
  (∀ listener, bind everyIpv4 port ≠ .ok listener) ∧
    (bind everyIpv4 port = .error .inUse → ∀ listener, bind everyIpv6 port ≠ .ok listener)

theorem mem_listenEverywhere_iff (up : listenEverywhere bind port = .ok listeners)
    (listener : Listener) : listener ∈ listeners ↔ Bound bind port listener := by
  unfold listenEverywhere at up
  unfold Bound
  split at up <;> cases up
  all_goals
    next longer shorter => simp [longer, shorter, eq_comm]

theorem ne_nil_of_listenEverywhere (up : listenEverywhere bind port = .ok listeners) :
    listeners ≠ [] := by
  unfold listenEverywhere at up
  split at up <;> cases up <;> exact List.cons_ne_nil _ _

theorem listenEverywhere_eq_error_iff {fault : LifecycleFault} :
    listenEverywhere bind port = .error fault ↔
      fault = .notBound everyIpv4 port ∧ Unbindable bind port := by
  unfold listenEverywhere Unbindable
  cases longer : bind everyIpv6 port with
  | ok first =>
      cases shorter : bind everyIpv4 port with
      | ok second => simp
      | error reason => cases reason <;> simp [eq_comm]
  | error _ =>
      cases shorter : bind everyIpv4 port with
      | ok second => simp
      | error reason => cases reason <;> simp [eq_comm]

/-- Stops do not touch a server that has not been started. -/
theorem run_stops (listeners : List Listener) (stops : List (Listener → Ending)) :
    (Lifecycle.ofListeners listeners).run (stops.map .stop) = .ofListeners listeners := by
  induction stops with
  | nil => rfl
  | cons ending later ih => exact ih

/-- A server comes up on every address unless the shorter family can neither be bound nor is served
along with the longer one.  Its listeners are those that were bound, and whatever it is told before,
its first start serves all of them. -/
theorem starts_if_bound (bind : Net.Address → UInt16 → Except BindFault Listener) (port : UInt16) :
    (∀ fault, listenEverywhere bind port = .error fault ↔
      fault = .notBound everyIpv4 port ∧ Unbindable bind port) ∧
    ∀ listeners, listenEverywhere bind port = .ok listeners →
      (∀ listener, listener ∈ listeners ↔ Bound bind port listener) ∧
      ∀ stops : List (Listener → Ending),
        ((Lifecycle.ofListeners listeners).run (stops.map .stop)).start =
          (.ok (), ⟨[], some listeners⟩) := by
  refine ⟨fun _ => listenEverywhere_eq_error_iff, fun listeners up => ?_⟩
  refine ⟨mem_listenEverywhere_iff up, fun stops => ?_⟩
  rw [run_stops, Lifecycle.start, Lifecycle.ofListeners]
  exact if_neg (by simpa using ne_nil_of_listenEverywhere up)

end Listeners

end Endpoint
end RemoteCall
