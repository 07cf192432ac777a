import RemoteCall.Proofs.Flight.Deeds
import Mathlib.Logic.Function.Basic

/-!
# Calls that share a cache

Any number of calls may be on their way at once, and they may share one cache.  A call waits between
its steps and never within one, so what the calls do together is a sequence of turns: at each of
them an event comes to one of the calls, and this call takes one step on the cache as it finds it.
Nothing is said about whose turn it is, so a fact about all sequences of turns holds however the
calls are interleaved.
-/

namespace RemoteCall
namespace Flight

/-- A call that has not been started: the first event that it waits for starts it. -/
def poised (call : Call) : Flight := ⟨call, [], .pausing 0⟩

theorem advance_poised (client : Client) (call : Call) (cache : Route.Cache) :
    (poised call).advance client cache .resumed = start client call cache := rfl

theorem deeds_poised (client : Client) (call : Call) (cache : Route.Cache) (events : List Event) :
    deeds client (poised call) cache (.resumed :: events) =
      callDeeds client call cache events := by
  rw [deeds_cons, deedsAt, advance_poised, callDeeds]
  rfl

end Flight

open Flight

/-- Calls on their way, and the cache that they share (runs of `RpcClient::call` with one
`RequestToUriCache`). -/
structure Traffic (Caller : Type) where
  flights : Caller → Flight
  cache : Route.Cache

namespace Traffic

variable {Caller : Type} [DecidableEq Caller] {Item : Type}

/-- What belongs to one of the callers, in its order. -/
def part (caller : Caller) (items : List (Caller × Item)) : List Item :=
  items.filterMap fun item => if item.1 = caller then some item.2 else none

/-- No call has been started. -/
def poised (calls : Caller → Call) (cache : Route.Cache) : Traffic Caller :=
  ⟨fun caller => Flight.poised (calls caller), cache⟩

/-- One of the calls takes a step. -/
def advance (clients : Caller → Client) (traffic : Traffic Caller) (turn : Caller × Event) :
    Traffic Caller :=
  let next := (traffic.flights turn.1).advance (clients turn.1) traffic.cache turn.2
  ⟨Function.update traffic.flights turn.1 next.1, next.2⟩

/-- The calls after some turns. -/
def run (clients : Caller → Client) (traffic : Traffic Caller) (turns : List (Caller × Event)) :
    Traffic Caller :=
  turns.foldl (advance clients) traffic

/-- What a call does at its turn. -/
def deedsAt (clients : Caller → Client) (traffic : Traffic Caller) (turn : Caller × Event) :
    List (Caller × Deed) :=
  (Flight.deedsAt (clients turn.1) (traffic.flights turn.1) traffic.cache turn.2).map
    (turn.1, ·)

/-- What the calls do in some turns. -/
def deeds (clients : Caller → Client) (traffic : Traffic Caller) :
    List (Caller × Event) → List (Caller × Deed)
  | [] => []
  | turn :: later =>
      deedsAt clients traffic turn ++ deeds clients (traffic.advance clients turn) later

variable {clients : Caller → Client} {traffic : Traffic Caller} {caller : Caller}

section Parts

@[simp]
theorem part_append (caller : Caller) (first second : List (Caller × Item)) :
    part caller (first ++ second) = part caller first ++ part caller second :=
  List.filterMap_append

@[simp]
theorem part_cons_self (caller : Caller) (item : Item) (later : List (Caller × Item)) :
    part caller ((caller, item) :: later) = item :: part caller later := by
  simp [part]

theorem part_cons_of_ne {other : Caller} (differs : other ≠ caller) (item : Item)
    (later : List (Caller × Item)) : part caller ((other, item) :: later) = part caller later := by
  simp [part, differs]

@[simp]
theorem part_map_self (caller : Caller) (items : List Item) :
    part caller (items.map (caller, ·)) = items := by
  induction items with
  | nil => rfl
  | cons item later ih => rw [List.map_cons, part_cons_self, ih]

theorem part_map_of_ne {other : Caller} (differs : other ≠ caller) (items : List Item) :
    part caller (items.map (other, ·)) = [] := by
  induction items with
  | nil => rfl
  | cons item later ih => rw [List.map_cons, part_cons_of_ne differs, ih]

end Parts

section Steps

@[simp]
theorem flights_advance_self (caller : Caller) (event : Event) :
    (traffic.advance clients (caller, event)).flights caller =
      ((traffic.flights caller).advance (clients caller) traffic.cache event).1 :=
  Function.update_self _ _ _

theorem flights_advance_of_ne {other : Caller} (differs : other ≠ caller) (event : Event) :
    (traffic.advance clients (other, event)).flights caller = traffic.flights caller :=
  Function.update_of_ne differs.symm _ _

@[simp]
theorem cache_advance (turn : Caller × Event) :
    (traffic.advance clients turn).cache =
      ((traffic.flights turn.1).advance (clients turn.1) traffic.cache turn.2).2 := rfl

@[simp]
theorem part_deedsAt_self (caller : Caller) (event : Event) :
    part caller (deedsAt clients traffic (caller, event)) =
      Flight.deedsAt (clients caller) (traffic.flights caller) traffic.cache event :=
  part_map_self _ _

theorem part_deedsAt_of_ne {other : Caller} (differs : other ≠ caller) (event : Event) :
    part caller (deedsAt clients traffic (other, event)) = [] :=
  part_map_of_ne differs _

end Steps

section Runs

@[simp]
theorem run_nil : run clients traffic [] = traffic := rfl

@[simp]
theorem run_cons (turn : Caller × Event) (later : List (Caller × Event)) :
    run clients traffic (turn :: later) = run clients (traffic.advance clients turn) later := rfl

@[simp]
theorem run_append (earlier later : List (Caller × Event)) :
    run clients traffic (earlier ++ later) = run clients (run clients traffic earlier) later :=
  List.foldl_append

@[simp]
theorem deeds_nil : deeds clients traffic [] = [] := rfl

@[simp]
theorem deeds_cons (turn : Caller × Event) (later : List (Caller × Event)) :
    deeds clients traffic (turn :: later) =
      deedsAt clients traffic turn ++ deeds clients (traffic.advance clients turn) later := rfl

@[simp]
theorem deeds_append (earlier later : List (Caller × Event)) :
    deeds clients traffic (earlier ++ later) =
      deeds clients traffic earlier ++ deeds clients (run clients traffic earlier) later := by
  induction earlier generalizing traffic with
  | nil => rfl
  | cons turn earlier ih =>
      rw [List.cons_append, deeds_cons, ih, deeds_cons, List.append_assoc, run_cons]

end Runs

end Traffic
end RemoteCall
