import RemoteCall.Proofs.Flight.Junctures
import RemoteCall.Proofs.Flight.Redirection

/-!
# Two ways of counting

The counters of a call stop at the greatest number.  A call that is counted without end comes to
the same junctures, and its counts are compared with the same limits; the two ways of counting are
compared by running them side by side, where the one count is always the other one cut off at the
greatest number.  Retries are allowed while their count is below the limit, and no limit is above
the greatest number, so nothing is lost by cutting off.  Redirects are allowed until their count
exceeds the limit, which no counter does if the limit is the greatest number itself.
-/

namespace RemoteCall

namespace Flight

/-- A way of counting: what comes after a count, and how much it is. -/
structure Counting (Count : Type) where
  next : Count → Count
  value : Count → Nat

namespace Counting

/-- Counting up to the greatest number and no further. -/
def saturating : Counting UInt32 := ⟨increment, UInt32.toNat⟩

/-- Counting without end. -/
def unbounded : Counting Nat := ⟨Nat.succ, id⟩

/-- The count of a saturating counter that has been asked to count to some number. -/
def saturate (count : Nat) : UInt32 := UInt32.ofNat (min count 0xFFFFFFFF)

theorem toNat_saturate (count : Nat) : (saturate count).toNat = min count 0xFFFFFFFF := by
  rw [saturate, UInt32.toNat_ofNat']
  omega

theorem saturate_toNat (count : UInt32) : saturate count.toNat = count := by
  have bound := count.toNat_lt
  rw [← UInt32.toNat_inj, toNat_saturate]
  omega

/-- Counting one more and then stopping at the greatest number is counting up to it. -/
theorem next_saturate (count : Nat) :
    saturating.next (saturate count) = saturate (unbounded.next count) := by
  change increment (saturate count) = saturate (count + 1)
  rw [← UInt32.toNat_inj]
  by_cases room : count < 0xFFFFFFFF
  · have below : (saturate count).toNat < 0xFFFFFFFF := by
      rw [toNat_saturate]
      omega
    rw [toNat_increment below, toNat_saturate, toNat_saturate]
    omega
  · have greatest : saturate count = 0xFFFFFFFF := by
      rw [← UInt32.toNat_inj, toNat_saturate, Nat.min_eq_right (by omega)]
      rfl
    rw [greatest, toNat_saturate, Nat.min_eq_right (by omega)]
    rfl

/-- No limit is above the greatest number, so a saturating counter reaches it if any counter does.
-/
theorem value_saturate_lt_iff (count : Nat) (limit : UInt32) :
    saturating.value (saturate count) < limit.toNat ↔ unbounded.value count < limit.toNat := by
  change (saturate count).toNat < limit.toNat ↔ count < limit.toNat
  have bound := limit.toNat_lt
  rw [toNat_saturate]
  omega

/-- A saturating counter exceeds every limit below the greatest number that any counter exceeds. -/
theorem lt_value_saturate_iff (count : Nat) (limit : UInt32)
    (visible : limit ≠ 0xFFFFFFFF ∨ ¬limit.toNat < unbounded.value count) :
    limit.toNat < saturating.value (saturate count) ↔ limit.toNat < unbounded.value count := by
  change limit.toNat < (saturate count).toNat ↔ limit.toNat < count
  have bound := limit.toNat_lt
  have below : limit ≠ 0xFFFFFFFF → limit.toNat ≠ 0xFFFFFFFF :=
    fun differs same => differs (UInt32.toNat_inj.mp same)
  rw [toNat_saturate]
  rcases visible with differs | within
  · have limited := below differs
    omega
  · change ¬limit.toNat < count at within
    omega

end Counting

end Flight

/-- A call in flight that is counted beside it.  Its own counters mean nothing. -/
structure Metered (Count : Type) where
  flight : Flight
  retries : Count
  redirects : Count

namespace Metered

open Flight

variable {Count : Type}

/-- What a metered call does at an event: its counts decide where the counters have a say, and one
of them counts on. -/
def advance (counting : Counting Count) (client : Client) (metered : Metered Count)
    (cache : Route.Cache) (event : Event) : Metered Count × Route.Cache :=
  match juncture client metered.flight cache event with
  | .plain next => ({ metered with flight := next.1 }, next.2)
  | .retry granted refused =>
      let next :=
        if counting.value metered.retries < client.settings.retriesLimit.toNat then granted
        else refused
      (⟨next.1, counting.next metered.retries, metered.redirects⟩, next.2)
  | .redirect granted refused =>
      let next :=
        if client.settings.redirectsLimit.toNat < counting.value metered.redirects then refused
        else granted
      (⟨next.1, metered.retries, counting.next metered.redirects⟩, next.2)

def run (counting : Counting Count) (client : Client) (metered : Metered Count)
    (cache : Route.Cache) (events : List Event) : Metered Count × Route.Cache :=
  events.foldl (fun state event => advance counting client state.1 state.2 event) (metered, cache)

/-- The call with its counts as its counters. -/
def exact (metered : Metered UInt32) : Flight :=
  metered.flight.withCounts metered.retries metered.redirects

/-- A call metered without end, its counts so far taken over from its counters. -/
def ofFlight (flight : Flight) : Metered Nat :=
  ⟨flight, flight.call.retries.toNat, flight.call.redirects.toNat⟩

variable {counting : Counting Count} {client : Client} {cache : Route.Cache}

section Runs

variable {metered : Metered Count}

@[simp]
theorem run_nil : metered.run counting client cache [] = (metered, cache) := rfl

@[simp]
theorem run_cons (event : Event) (later : List Event) :
    metered.run counting client cache (event :: later) =
      (metered.advance counting client cache event).1.run counting client
        (metered.advance counting client cache event).2 later := rfl

theorem run_append (first second : List Event) :
    metered.run counting client cache (first ++ second) =
      (metered.run counting client cache first).1.run counting client
        (metered.run counting client cache first).2 second :=
  List.foldl_append

section Steps

variable {event : Event} {granted refused : Flight × Route.Cache}

theorem advance_plain {next : Flight × Route.Cache}
    (comes : juncture client metered.flight cache event = .plain next) :
    metered.advance counting client cache event = ({ metered with flight := next.1 }, next.2) := by
  rw [advance, comes]

theorem advance_retried
    (comes : juncture client metered.flight cache event = .retry granted refused)
    (allowed : counting.value metered.retries < client.settings.retriesLimit.toNat) :
    metered.advance counting client cache event =
      (⟨granted.1, counting.next metered.retries, metered.redirects⟩, granted.2) := by
  rw [advance, comes]
  dsimp only
  rw [if_pos allowed]

theorem advance_exhausted
    (comes : juncture client metered.flight cache event = .retry granted refused)
    (spent : ¬counting.value metered.retries < client.settings.retriesLimit.toNat) :
    metered.advance counting client cache event =
      (⟨refused.1, counting.next metered.retries, metered.redirects⟩, refused.2) := by
  rw [advance, comes]
  dsimp only
  rw [if_neg spent]

theorem advance_followed
    (comes : juncture client metered.flight cache event = .redirect granted refused)
    (within : ¬client.settings.redirectsLimit.toNat < counting.value metered.redirects) :
    metered.advance counting client cache event =
      (⟨granted.1, metered.retries, counting.next metered.redirects⟩, granted.2) := by
  rw [advance, comes]
  dsimp only
  rw [if_neg within]

theorem advance_exceeded
    (comes : juncture client metered.flight cache event = .redirect granted refused)
    (exceeded : client.settings.redirectsLimit.toNat < counting.value metered.redirects) :
    metered.advance counting client cache event =
      (⟨refused.1, metered.retries, counting.next metered.redirects⟩, refused.2) := by
  rw [advance, comes]
  dsimp only
  rw [if_pos exceeded]

end Steps

theorem advance_settled (settled : metered.flight.Settled) (event : Event) :
    metered.advance counting client cache event = (metered, cache) :=
  advance_plain (juncture_settled settled event)

theorem run_settled (settled : metered.flight.Settled) (events : List Event) :
    metered.run counting client cache events = (metered, cache) := by
  induction events with
  | nil => rfl
  | cons event later ih => rw [run_cons, advance_settled settled, ih]

end Runs

/-- Counting up to the greatest number is what calls do. -/
theorem advance_exact (metered : Metered UInt32) (client : Client) (cache : Route.Cache)
    (event : Event) :
    metered.exact.advance client cache event =
      ((metered.advance .saturating client cache event).1.exact,
        (metered.advance .saturating client cache event).2) := by
  rw [exact, advance_withCounts, advance]
  cases juncture client metered.flight cache event with
  | plain next => rfl
  | retry granted refused =>
      simp only [Juncture.decided, UInt32.lt_iff_toNat_lt]
      rfl
  | redirect granted refused =>
      simp only [Juncture.decided, UInt32.lt_iff_toNat_lt]
      rfl

theorem run_exact (metered : Metered UInt32) (client : Client) (cache : Route.Cache)
    (events : List Event) :
    Flight.run client metered.exact cache events =
      ((metered.run .saturating client cache events).1.exact,
        (metered.run .saturating client cache events).2) := by
  induction events generalizing metered cache with
  | nil => rfl
  | cons event later ih => rw [Flight.run_cons, advance_exact, ih, run_cons]

/-- The call with counts that stop at the greatest number. -/
def saturated (metered : Metered Nat) : Metered UInt32 :=
  ⟨metered.flight, Counting.saturate metered.retries, Counting.saturate metered.redirects⟩

/-- The two ways of counting come to the same in one step, unless a redirect limit that no counter
can exceed is exceeded. -/
theorem advance_saturated (metered : Metered Nat) (client : Client) (cache : Route.Cache)
    (event : Event) :
    metered.saturated.advance .saturating client cache event =
        ((metered.advance .unbounded client cache event).1.saturated,
          (metered.advance .unbounded client cache event).2) ∨
      client.settings.redirectsLimit = 0xFFFFFFFF ∧
        (metered.advance .unbounded client cache event).1.flight.FailedAs .redirectsExceeded := by
  cases comes : juncture client metered.flight cache event with
  | plain next =>
      have same : juncture client metered.saturated.flight cache event = .plain next := comes
      rw [advance_plain comes, advance_plain same]
      exact Or.inl rfl
  | retry granted refused =>
      have same : juncture client metered.saturated.flight cache event =
          .retry granted refused := comes
      have counted := Counting.next_saturate metered.retries
      have decides := Counting.value_saturate_lt_iff metered.retries client.settings.retriesLimit
      left
      by_cases allowed : Counting.unbounded.value metered.retries <
          client.settings.retriesLimit.toNat
      · rw [advance_retried comes allowed, advance_retried same (decides.mpr allowed)]
        simp only [saturated, counted]
      · rw [advance_exhausted comes allowed, advance_exhausted same (mt decides.mp allowed)]
        simp only [saturated, counted]
  | redirect granted refused =>
      have same : juncture client metered.saturated.flight cache event =
          .redirect granted refused := comes
      have counted := Counting.next_saturate metered.redirects
      by_cases exceeded : client.settings.redirectsLimit.toNat <
          Counting.unbounded.value metered.redirects
      · rw [advance_exceeded comes exceeded]
        by_cases greatest : client.settings.redirectsLimit = 0xFFFFFFFF
        · exact Or.inr ⟨greatest, failedAs_of_refused comes⟩
        · have decides := Counting.lt_value_saturate_iff metered.redirects _ (.inl greatest)
          rw [advance_exceeded same (decides.mpr exceeded)]
          simp only [saturated, counted, true_or]
      · have decides := Counting.lt_value_saturate_iff _ _ (.inr exceeded)
        rw [advance_followed comes exceeded, advance_followed same (mt decides.mp exceeded)]
        simp only [saturated, counted, true_or]

/-- The two ways of counting come to the same in every run, unless a redirect limit that no counter
can exceed is exceeded. -/
theorem run_saturated (metered : Metered Nat) (client : Client) (cache : Route.Cache)
    (events : List Event) :
    metered.saturated.run .saturating client cache events =
        ((metered.run .unbounded client cache events).1.saturated,
          (metered.run .unbounded client cache events).2) ∨
      client.settings.redirectsLimit = 0xFFFFFFFF ∧
        (metered.run .unbounded client cache events).1.flight.FailedAs .redirectsExceeded := by
  induction events generalizing metered cache with
  | nil => exact Or.inl rfl
  | cons event later ih =>
      rw [run_cons, run_cons]
      rcases advance_saturated metered client cache event with same | ⟨greatest, failed⟩
      · rw [same]
        exact ih _ _
      · rw [run_settled failed.settled]
        exact Or.inr ⟨greatest, failed⟩

/-- A call that is counted without end, from some counts on, has ended, or neither of its limits is
exceeded; and it ends as soon as one is. -/
structure Within (client : Client) (counts : Nat × Nat) (metered : Metered Nat) : Prop where
  retries_le : metered.retries ≤ max counts.1 client.settings.retriesLimit.toNat + 1
  redirects_le : metered.redirects ≤ max counts.2 (client.settings.redirectsLimit.toNat + 1) + 1
  unless_settled : metered.flight.Settled ∨
    metered.retries ≤ max counts.1 client.settings.retriesLimit.toNat ∧
      metered.redirects ≤ max counts.2 (client.settings.redirectsLimit.toNat + 1)

theorem Within.advance {counts : Nat × Nat} {metered : Metered Nat}
    (within : Within client counts metered) (cache : Route.Cache) (event : Event) :
    Within client counts (metered.advance .unbounded client cache event).1 := by
  rcases within.unless_settled with settled | ⟨retriesLeft, redirectsLeft⟩
  · rw [advance_settled settled]
    exact within
  · cases comes : juncture client metered.flight cache event with
    | plain next =>
        rw [advance_plain comes]
        exact ⟨within.retries_le, within.redirects_le, Or.inr ⟨retriesLeft, redirectsLeft⟩⟩
    | retry granted refused =>
        by_cases allowed : metered.retries < client.settings.retriesLimit.toNat
        · rw [advance_retried comes allowed]
          have counted : metered.retries + 1 ≤ max counts.1 client.settings.retriesLimit.toNat :=
            Nat.le_trans allowed (Nat.le_max_right _ _)
          exact ⟨Nat.le_succ_of_le counted, within.redirects_le, Or.inr ⟨counted, redirectsLeft⟩⟩
        · rw [advance_exhausted comes allowed]
          exact ⟨Nat.succ_le_succ retriesLeft, within.redirects_le,
            Or.inl (settled_of_refused comes)⟩
    | redirect granted refused =>
        by_cases exceeded : client.settings.redirectsLimit.toNat < metered.redirects
        · rw [advance_exceeded comes exceeded]
          exact ⟨within.retries_le, Nat.succ_le_succ redirectsLeft,
            Or.inl (failedAs_of_refused comes).settled⟩
        · rw [advance_followed comes exceeded]
          have counted : metered.redirects + 1 ≤
              max counts.2 (client.settings.redirectsLimit.toNat + 1) :=
            Nat.le_trans (Nat.succ_le_succ (Nat.le_of_not_lt exceeded)) (Nat.le_max_right _ _)
          exact ⟨within.retries_le, Nat.le_succ_of_le counted, Or.inr ⟨retriesLeft, counted⟩⟩

theorem Within.run {counts : Nat × Nat} {metered : Metered Nat}
    (within : Within client counts metered) (cache : Route.Cache) (events : List Event) :
    Within client counts (metered.run .unbounded client cache events).1 := by
  induction events generalizing metered cache with
  | nil => exact within
  | cons event later ih =>
      rw [run_cons]
      exact ih (within.advance cache event) _

theorem saturated_ofFlight (flight : Flight) :
    (ofFlight flight).saturated = ⟨flight, flight.call.retries, flight.call.redirects⟩ := by
  rw [saturated, ofFlight, Counting.saturate_toNat, Counting.saturate_toNat]

/-- A call is a call that counts up to the greatest number.  It does what a call does that counts
without end, step by step, as long as its counters can exceed its redirect limit: any limit but the
greatest number, and any call that has not exceeded it.  Counted without end, a call takes no more
signals than its limits and its first counts allow, so no limit but that one makes it try again or
follow redirects for ever. -/
theorem counted_alike (client : Client) (flight : Flight) (cache : Route.Cache)
    (events : List Event) :
    let saturating := (ofFlight flight).saturated.run .saturating client cache events
    let unbounded := (ofFlight flight).run .unbounded client cache events
    Flight.run client flight cache events = (saturating.1.exact, saturating.2) ∧
      (saturating = (unbounded.1.saturated, unbounded.2) ∨
        client.settings.redirectsLimit = 0xFFFFFFFF ∧
          unbounded.1.flight.FailedAs .redirectsExceeded) ∧
      unbounded.1.retries ≤
        max flight.call.retries.toNat client.settings.retriesLimit.toNat + 1 ∧
      unbounded.1.redirects ≤
        max flight.call.redirects.toNat (client.settings.redirectsLimit.toNat + 1) + 1 := by
  intro saturating unbounded
  have started : Within client (flight.call.retries.toNat, flight.call.redirects.toNat)
      (ofFlight flight) :=
    ⟨Nat.le_succ_of_le (Nat.le_max_left _ _), Nat.le_succ_of_le (Nat.le_max_left _ _),
      Or.inr ⟨Nat.le_max_left _ _, Nat.le_max_left _ _⟩⟩
  have within := started.run cache events
  have exactly : (ofFlight flight).saturated.exact = flight := by
    rw [saturated_ofFlight]
    exact withCounts_self flight
  have runs := run_exact (ofFlight flight).saturated client cache events
  rw [exactly] at runs
  exact ⟨runs, run_saturated (ofFlight flight) client cache events, within.retries_le,
    within.redirects_le⟩

section Redirects

variable {request : OutboundRequest} {redirection : Response.Redirection}

/-- The call that reads the body of a redirect. -/
def reading (metered : Metered Count) (redirection : Response.Redirection) : Metered Count :=
  { metered with
    flight := { metered.flight with
      stage := .reading (Response.redirect redirection).head .redirect } }

theorem juncture_reading {metered : Metered Count}
    (built : metered.flight.call.request = some request)
    (allowed : client.settings.redirectsLimit ≠ 0) (redirection : Response.Redirection)
    (cache : Route.Cache) :
    juncture client (metered.reading redirection).flight cache
        (.received (.ok (Response.redirect redirection).body)) =
      .redirect (((metered.reading redirection).flight.withCounts 0 0).follow client cache
          (Response.redirect redirection).head.fields)
        ((metered.reading redirection).flight.fail cache
          (.redirectsExceeded client.settings.redirectsLimit)) := by
  obtain ⟨_, _, value, isAnswer, status, _, decoded⟩ := Exchange.isRedirectSignal_iff.mp
    (isRedirectSignal_redirected redirection client.codec)
  cases isAnswer
  have led : isLed client (metered.reading redirection).flight (Response.redirect redirection).head
      (Response.redirect redirection).body = true :=
    isLed_iff.mpr ⟨status, ⟨value, decoded⟩, ⟨request, built⟩, allowed⟩
  exact if_pos led

theorem run_redirected {metered : Metered Count} (standard : client.handler = .standard)
    (sending : metered.flight.stage = .sending request) :
    metered.run counting client cache (redirected redirection).events =
      (metered.reading redirection).run counting client cache
        [.received (.ok (Response.redirect redirection).body), .resumed] := by
  obtain ⟨_, _, value, isAnswer, status, typed, decoded⟩ := Exchange.isRedirectSignal_iff.mp
    (isRedirectSignal_redirected redirection client.codec)
  cases isAnswer
  have unasked : ¬((Response.redirect redirection).head.status.isServerError ∨
      ResponseType.redirect = .retry) := by
    simp [status]
    decide
  have silent : Event.isRetrySignal client (.answered (Response.redirect redirection).head) =
      false := by
    rw [← Bool.not_eq_true]
    intro asks
    obtain ⟨kind, retyped, _, asked⟩ := asksAgain_iff.mp (Bool.and_eq_true_iff.mp asks).2
    rw [typed] at retyped
    cases retyped
    exact unasked asked
  have plain : juncture client metered.flight cache
      (.answered (Response.redirect redirection).head) =
        .plain ((metered.reading redirection).flight, cache) := by
    unfold juncture
    rw [sending]
    dsimp only
    rw [silent, if_neg Bool.false_ne_true, afterAnswer, standard]
    exact congrArg Juncture.plain (interpret_content typed (by decide) unasked)
  rw [redirected, Exchange.events, run_cons, advance_plain plain]
  rfl

section Taking

variable (counting) {metered : Metered Count} (standard : client.handler = .standard)
  (sending : metered.flight.stage = .sending request)
  (built : metered.flight.call.request = some request)
  (allowed : client.settings.redirectsLimit ≠ 0)

include standard sending built allowed

/-- A redirect that is granted is followed and counted. -/
theorem run_followed
    (within : ¬client.settings.redirectsLimit.toNat < counting.value metered.redirects)
    (proper : request.uri.Proper) (followable : Redirect.Followable redirection)
    (cache : Route.Cache) :
    let next := (metered.run counting client cache (redirected redirection).events).1
    next.redirects = counting.next metered.redirects ∧
      ∃ sent : OutboundRequest, next.flight.stage = .sending sent ∧
        next.flight.call.request = some sent ∧ sent.uri.Proper := by
  obtain ⟨uri, aimed, leads⟩ := Redirect.exists_target followable proper
  rw [← followable.cleaned_host] at aimed
  have comes := juncture_reading built allowed redirection cache
  have followed : (follow client ((metered.reading redirection).flight.withCounts 0 0) cache
      (Response.redirect redirection).head.fields).1 = _ :=
    follow_aimed built allowed UInt32.not_lt_zero (Response.redirect_read_redirectHost redirection)
      aimed
  have idle : (follow client ((metered.reading redirection).flight.withCounts 0 0) cache
      (Response.redirect redirection).head.fields).1.stage.awaits .resumed = false := by
    rw [followed]
    rfl
  intro next
  have isNext : next = ⟨(follow client ((metered.reading redirection).flight.withCounts 0 0) cache
      (Response.redirect redirection).head.fields).1, metered.retries,
        counting.next metered.redirects⟩ := by
    change (metered.run counting client cache (redirected redirection).events).1 = _
    rw [run_redirected standard sending, run_cons, advance_followed comes within, run_cons,
      advance_plain (juncture_of_not_awaits idle), run_nil]
    rfl
  rw [isNext]
  refine ⟨rfl, _, congrArg Flight.stage followed, ?_, leads.proper⟩
  exact congrArg (fun flight => flight.call.request) followed

/-- A redirect that is refused ends the call. -/
theorem run_exceeded
    (exceeded : client.settings.redirectsLimit.toNat < counting.value metered.redirects)
    (redirection : Response.Redirection) (cache : Route.Cache) :
    (metered.run counting client cache
      (redirected redirection).events).1.flight.FailedAs .redirectsExceeded := by
  have comes := juncture_reading built allowed redirection cache
  have failed := failedAs_of_refused comes
  rw [run_redirected standard sending, run_cons, advance_exceeded comes exceeded,
    run_settled failed.settled]
  exact failed

end Taking

end Redirects

section Beyond

variable {flight : Flight} {request : OutboundRequest} {first second : Response.Redirection}

/-- No counter exceeds the greatest number. -/
theorem not_greatest_lt (greatest : client.settings.redirectsLimit = 0xFFFFFFFF) (count : UInt32) :
    ¬client.settings.redirectsLimit.toNat < count.toNat := by
  rw [greatest]
  exact Nat.not_lt.mpr (Nat.le_of_lt_succ count.toNat_lt)

/-- A call that has been redirected as often as its counter can tell follows redirects beyond its
limit if the limit is the greatest number; counted without end, it does not. -/
theorem followed_beyond_limit (standard : client.handler = .standard)
    (greatest : client.settings.redirectsLimit = 0xFFFFFFFF)
    (sending : flight.stage = .sending request) (built : flight.call.request = some request)
    (proper : request.uri.Proper) (full : flight.call.redirects = 0xFFFFFFFF)
    (followable : Redirect.Followable first) (again : Redirect.Followable second)
    (cache : Route.Cache) :
    let events := (redirected first).events ++ (redirected second).events
    (Flight.run client flight cache events).1.Sending ∧
      ((ofFlight flight).run .unbounded client cache events).1.flight.FailedAs
        .redirectsExceeded := by
  intro events
  have allowed : client.settings.redirectsLimit ≠ 0 := by
    rw [greatest]
    decide
  constructor
  · let metered : Metered UInt32 := ⟨flight, flight.call.retries, flight.call.redirects⟩
    have metering : metered.flight.stage = .sending request := sending
    obtain ⟨_, resent, onward, rebuilt, stillProper⟩ := run_followed .saturating standard metering
      built allowed (not_greatest_lt greatest metered.redirects) proper followable cache
    obtain ⟨_, last, waiting, kept, _⟩ := run_followed .saturating standard onward rebuilt allowed
      (not_greatest_lt greatest _) stillProper again
      (metered.run .saturating client cache (redirected first).events).2
    have runs := run_exact metered client cache events
    have exactly : metered.exact = flight := withCounts_self flight
    rw [run_append, exactly] at runs
    rw [runs]
    exact ⟨last, waiting, kept⟩
  · let metered : Metered Nat := ofFlight flight
    have metering : metered.flight.stage = .sending request := sending
    obtain ⟨counted, resent, onward, rebuilt, _⟩ := run_followed .unbounded standard metering
      built allowed (not_greatest_lt greatest flight.call.redirects) proper followable cache
    rw [run_append]
    refine run_exceeded .unbounded standard onward rebuilt allowed ?_ second _
    rw [counted, greatest]
    change 0xFFFFFFFF < flight.call.redirects.toNat + 1
    rw [full]
    exact Nat.lt_succ_self _

end Beyond

/-- A client that allows as many redirects as can be counted. -/
def boundless : Client :=
  { loopback with settings := { Settings.usual with redirectsLimit := 0xFFFFFFFF } }

/-- A call that has been redirected as often as can be counted. -/
def spent : Call := { Call.fresh "SimpleCalc" "add" [] with redirects := 0xFFFFFFFF }

theorem followed_beyond_limit_boundless :
    let events := (redirected ⟨"10.0.0.7", none, none, false⟩).events ++
      (redirected ⟨"10.0.0.8", none, none, false⟩).events
    let started := start boundless spent .usual
    (Flight.run boundless started.1 started.2 events).1.Sending ∧
      ((ofFlight started.1).run .unbounded boundless started.2 events).1.flight.FailedAs
        .redirectsExceeded := by
  have followable (host : String) (read : (Net.Ipv4.ofChars? host.toList).isSome = true) :
      Redirect.Followable ⟨host, none, none, false⟩ := by
    obtain ⟨address, isAddress⟩ := Option.isSome_iff_exists.mp read
    exact ⟨.ipv4 isAddress, nofun⟩
  have sent : start boundless spent .usual = _ := start_of_address (by decide) rfl rfl .usual
  have proper : boundless.entry.Proper :=
    Uri.proper_of_parse (by rfl : Uri.parse "http://127.0.0.1:8080/" = .ok boundless.entry)
      nofun nofun
  rw [sent]
  exact followed_beyond_limit rfl rfl rfl rfl proper rfl (followable "10.0.0.7" (by decide))
    (followable "10.0.0.8" (by decide)) .usual

end Metered
end RemoteCall
