import RemoteCall.Proofs.Flight.Deeds
import RemoteCall.Rehearsal.World

/-!
# Calls in a rehearsed world

A rehearsed world reacts to a call with what the call waits for, and it writes down which requests
it was sent and which hosts it was asked for.  These are the deeds of the call.
-/

namespace RemoteCall
namespace Flight

open Rehearsal

variable {client : Client} {flight : Flight} {cache : Route.Cache}

/-- The requests that a world has written down, the first one first. -/
def sentIn (world : World) : List OutboundRequest := world.sent.reverse.map Sent.request

/-- The hosts that a world has been asked for, the first one first. -/
def askedIn (world : World) : List String := world.lookups.reverse.map Prod.fst

theorem serve_written (world : World) (request : OutboundRequest) (delay : Nat)
    (bound : Option Nat) :
    (world.serve request delay bound).2.sent = world.sent ∧
      (world.serve request delay bound).2.lookups = world.lookups := by
  unfold World.serve
  split
  · exact ⟨rfl, rfl⟩
  · dsimp only
    split <;> exact ⟨rfl, rfl⟩

theorem nextEntry_written (world : World) :
    world.nextEntry.2.sent = world.sent ∧ world.nextEntry.2.lookups = world.lookups := by
  unfold World.nextEntry
  split <;> exact ⟨rfl, rfl⟩

theorem exchange_written (world : World) (request : OutboundRequest) :
    sentIn (world.exchange request).2 = sentIn world ++ [request] ∧
      askedIn (world.exchange request).2 = askedIn world := by
  obtain ⟨sent, lookups⟩ := nextEntry_written world
  have written (time : Nat) :
      (Sent.mk time request :: world.nextEntry.2.sent).reverse.map Sent.request =
        sentIn world ++ [request] := by
    rw [sent, List.reverse_cons, List.map_append]
    rfl
  have asked : world.nextEntry.2.lookups.reverse.map Prod.fst = askedIn world := by
    rw [lookups, askedIn]
  unfold World.exchange
  dsimp only
  split
  · exact ⟨written _, asked⟩
  · split
    · exact ⟨written _, asked⟩
    · exact ⟨written _, asked⟩
    · rw [sentIn, askedIn, (serve_written _ _ _ _).1, (serve_written _ _ _ _).2]
      exact ⟨written _, asked⟩

/-- What a rehearsal writes down at a stage is what the list of deeds has for it. -/
theorem react_written (world : World) (flight : Flight) :
    sentIn (world.react flight).2 = sentIn world ++ requests flight.stage.demand ∧
      askedIn (world.react flight).2 = askedIn world ++ questions flight.stage.demand := by
  unfold World.react
  cases flight.stage with
  | resolving host draft =>
      refine ⟨(List.append_nil _).symm, ?_⟩
      unfold askedIn World.lookup
      rw [List.reverse_cons, List.map_append]
      rfl
  | sending request =>
      obtain ⟨sent, asked⟩ := exchange_written world request
      exact ⟨sent, asked.trans (List.append_nil _).symm⟩
  | reading | pausing | settled => exact ⟨(List.append_nil _).symm, (List.append_nil _).symm⟩

theorem awaits_serve (world : World) (request : OutboundRequest) (delay : Nat)
    (bound : Option Nat) :
    (Stage.sending request).awaits (world.serve request delay bound).1 = true := by
  unfold World.serve
  split
  · rfl
  · dsimp only
    split <;> rfl

theorem awaits_exchange (world : World) (request : OutboundRequest) :
    (Stage.sending request).awaits (world.exchange request).1 = true := by
  unfold World.exchange
  dsimp only
  split
  · rfl
  · split
    · rfl
    · rfl
    · exact awaits_serve _ _ _ _

/-- The world reacts to a call with what the call waits for. -/
theorem awaits_react {world changed : World} {event : Event}
    (reacts : world.react flight = (some event, changed)) :
    flight.stage.awaits event = true := by
  unfold World.react at reacts
  cases stage : flight.stage with
  | sending request =>
      rw [stage] at reacts
      cases reacts
      exact awaits_exchange world request
  | resolving | reading | pausing =>
      rw [stage] at reacts
      cases reacts
      rfl
  | settled =>
      rw [stage] at reacts
      cases reacts

/-- A call goes on in a world that reacts to it. -/
inductive Rehearses (client : Client) :
    World → Flight × Route.Cache → List Event → World → Flight × Route.Cache → Prop where
  | rests (world : World) (state : Flight × Route.Cache) :
      Rehearses client world state [] world state
  | reacts {world changed final : World} {flight : Flight} {cache : Route.Cache} {event : Event}
      {later : List Event} {last : Flight × Route.Cache}
      (reacts : world.react flight = (some event, changed))
      (rest : Rehearses client changed (flight.advance client cache event) later final last) :
      Rehearses client world (flight, cache) (event :: later) final last

theorem Rehearses.run_eq {world final : World} {state last : Flight × Route.Cache}
    {events : List Event} (rehearses : Rehearses client world state events final last) :
    run client state.1 state.2 events = last := by
  induction rehearses with
  | rests => rfl
  | reacts _ _ ih => exact ih

/-- What a world writes down along a run, and what is still due at its end, is what was due at its
beginning and the list of deeds. -/
theorem Rehearses.written {world final : World} {state last : Flight × Route.Cache}
    {events : List Event} (rehearses : Rehearses client world state events final last) :
    let deeds := state.1.stage.demand ++ deeds client state.1 state.2 events
    sentIn final ++ requests last.1.stage.demand = sentIn world ++ requests deeds ∧
      askedIn final ++ questions last.1.stage.demand = askedIn world ++ questions deeds := by
  induction rehearses with
  | rests =>
      dsimp only
      rw [deeds_nil, List.append_nil]
      exact ⟨rfl, rfl⟩
  | @reacts world changed _ flight cache event later _ reacts rest ih =>
      obtain ⟨sent, asked⟩ := ih
      obtain ⟨written, looked⟩ := react_written world flight
      rw [reacts] at written looked
      constructor
      · rw [sent, written, deeds_cons, deedsAt, if_pos (awaits_react reacts)]
        simp
      · rw [asked, looked, deeds_cons, deedsAt, if_pos (awaits_react reacts)]
        simp

/-- What is written down of a call until it has ended is what the list of its deeds has. -/
theorem written_of_rehearsed {call : Call} {world final : World} {events : List Event}
    {last : Flight × Route.Cache}
    (rehearses : Rehearses client world.rewound (start client call cache) events final last)
    (settled : last.1.Settled) :
    sentIn final = requests (callDeeds client call cache events) ∧
      askedIn final = questions (callDeeds client call cache events) := by
  obtain ⟨sent, asked⟩ := rehearses.written
  obtain ⟨outcome, stage⟩ := settled
  have nothing : last.1.stage.demand = [] := by
    rw [stage]
    rfl
  rw [nothing, requests_nil, List.append_nil] at sent
  rw [nothing, questions_nil, List.append_nil] at asked
  rw [sent, asked, callDeeds]
  simp [sentIn, askedIn, World.rewound]

end Flight
end RemoteCall
