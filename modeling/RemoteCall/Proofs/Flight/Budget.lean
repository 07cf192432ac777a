import RemoteCall.Proofs.Flight.Exchange
import RemoteCall.Proofs.Flight.Launch

/-!
# The budgets of a call

A call is sent again for as long as it has retries and redirects left, in whatever order the
transport asks for them, so it ends after a number of requests that the settings bound.  While it
waits for an answer, its two counters hold the numbers of retry signals and of redirect signals so
far; each further signal either is within its budget and is counted, or it ends the call.
-/

namespace RemoteCall

/-- How many redirects of one call are followed: none if none are allowed, and else one more than
the limit says. -/
def Settings.followedRedirects (settings : Settings) : Nat :=
  if settings.redirectsLimit = 0 then 0 else settings.redirectsLimit.toNat + 1

theorem toNat_increment {count : UInt32} (room : count.toNat < 0xFFFFFFFF) :
    (increment count).toNat = count.toNat + 1 := by
  have notLast : count ≠ 0xFFFFFFFF := by
    rintro rfl
    exact absurd room (by decide)
  rw [increment, if_neg notLast, UInt32.toNat_add]
  have one : (1 : UInt32).toNat = 1 := rfl
  omega

theorem toNat_increment_le (count : UInt32) : (increment count).toNat ≤ count.toNat + 1 := by
  unfold increment
  split
  · exact Nat.le_succ _
  · rw [UInt32.toNat_add]
    exact Nat.mod_le _ _

theorem Settings.room_of_followedRedirects {settings : Settings} {redirects : UInt32}
    (room : redirects.toNat + 1 ≤ settings.followedRedirects) :
    settings.redirectsLimit ≠ 0 ∧ ¬settings.redirectsLimit < redirects := by
  unfold Settings.followedRedirects at room
  split at room
  · cases room
  · next allowed =>
      refine ⟨allowed, ?_⟩
      rw [UInt32.lt_iff_toNat_lt]
      omega

namespace Flight

/-- How many of the first exchanges asked to try again. -/
def retriesAmong (exchanges : Nat → Exchange) (count : Nat) : Nat :=
  (List.range count).countP fun index => (exchanges index).isRetrySignal

/-- How many of the first exchanges sent the call elsewhere. -/
def redirectsAmong (codec : Codec) (exchanges : Nat → Exchange) (count : Nat) : Nat :=
  (List.range count).countP fun index => (exchanges index).isRedirectSignal codec

theorem retriesAmong_succ (exchanges : Nat → Exchange) (count : Nat) :
    retriesAmong exchanges (count + 1) =
      retriesAmong exchanges count + if (exchanges count).isRetrySignal then 1 else 0 := by
  simp [retriesAmong, List.range_succ, List.countP_append, List.countP_cons]

theorem redirectsAmong_succ (codec : Codec) (exchanges : Nat → Exchange) (count : Nat) :
    redirectsAmong codec exchanges (count + 1) =
      redirectsAmong codec exchanges count +
        if (exchanges count).isRedirectSignal codec then 1 else 0 := by
  simp [redirectsAmong, List.range_succ, List.countP_append, List.countP_cons]

/-- What the budgets make of the exchange that follows on a number of others. -/
structure Ruling (client : Client) (exchanges : Nat → Exchange) (count : Nat) (next : Flight) :
    Prop where
  /-- The call tries again unless all retries are spent. -/
  retry : (exchanges count).isRetrySignal = true →
    if retriesAmong exchanges count = client.settings.retriesLimit.toNat then
      next.FailedAs (retryFailure client (exchanges count))
    else next.Sending
  /-- The call follows a redirect unless all redirects are spent or the redirect leads nowhere. -/
  redirect : (exchanges count).isRedirectSignal client.codec = true →
    if client.settings.redirectsLimit = 0 then next.FailedAs .unprocessed
    else if redirectsAmong client.codec exchanges count =
        client.settings.redirectsLimit.toNat + 1 then next.FailedAs .redirectsExceeded
    else next.Sending ∨ next.FailedAs .unprocessed
  /-- Everything else ends the call, and not because of a budget. -/
  final : (exchanges count).isRetrySignal = false →
    (exchanges count).isRedirectSignal client.codec = false → next.EndsWithinBudgets

/-- What is spent while a call waits for an answer. -/
structure Spent (client : Client) (exchanges : Nat → Exchange) (count : Nat) : Prop where
  /-- Every exchange so far was one or the other signal. -/
  total : retriesAmong exchanges count + redirectsAmong client.codec exchanges count = count
  retries_le : retriesAmong exchanges count ≤ client.settings.retriesLimit.toNat
  redirects_le :
    redirectsAmong client.codec exchanges count ≤ client.settings.followedRedirects

/-- A call that waits for an answer, with counters that tell what is spent. -/
structure Counted (client : Client) (exchanges : Nat → Exchange) (count : Nat)
    (flight : Flight) : Prop where
  sending : flight.Sending
  spent : Spent client exchanges count
  retries : flight.call.retries.toNat = retriesAmong exchanges count
  redirects : flight.call.redirects.toNat = redirectsAmong client.codec exchanges count

theorem Exchange.not_redirect_of_retry {codec : Codec} {exchange : Exchange}
    (retry : exchange.isRetrySignal = true) : exchange.isRedirectSignal codec = false := by
  rw [Bool.eq_false_iff]
  intro redirect
  obtain ⟨head, body, value, rfl, status, typed, _⟩ := Exchange.isRedirectSignal_iff.mp redirect
  obtain ⟨kind, retyped, _, asked⟩ := Exchange.isRetrySignal_answered.mp retry
  rw [typed] at retyped
  cases retyped
  rw [status] at asked
  revert asked
  decide

theorem Exchange.not_retry_of_redirect {codec : Codec} {exchange : Exchange}
    (redirect : exchange.isRedirectSignal codec = true) : exchange.isRetrySignal = false := by
  rw [Bool.eq_false_iff]
  intro retry
  rw [Exchange.not_redirect_of_retry retry] at redirect
  cases redirect

section Rounds

variable {client : Client} {exchanges : Nat → Exchange} {count : Nat} {flight : Flight}
  (standard : client.handler = .standard) (counted : Counted client exchanges count flight)

include standard counted

theorem Counted.retry (cache : Route.Cache) (signal : (exchanges count).isRetrySignal = true) :
    let next := (run client flight cache (exchanges count).events).1
    if retriesAmong exchanges count = client.settings.retriesLimit.toNat then
      next.FailedAs (retryFailure client (exchanges count))
    else Counted client exchanges (count + 1) next := by
  obtain ⟨request, sending, built⟩ := counted.sending
  have within := counted.spent.retries_le
  split
  · next spent =>
      have refused : mayRetry client flight.call = false := by
        simp only [mayRetry, decide_eq_false_iff_not, UInt32.lt_iff_toNat_lt, counted.retries]
        omega
      exact run_retry_exhausted sending standard signal refused
  · next unspent =>
      have room : flight.call.retries.toNat < client.settings.retriesLimit.toNat := by
        rw [counted.retries]
        omega
      have allowed : mayRetry client flight.call = true := by
        simpa only [mayRetry, decide_eq_true_eq, UInt32.lt_iff_toNat_lt] using room
      obtain ⟨resent, sameCall⟩ := run_retry sending standard built signal allowed
      have moreRetries := retriesAmong_succ exchanges count
      have sameRedirects := redirectsAmong_succ client.codec exchanges count
      rw [signal, if_pos rfl] at moreRetries
      rw [Exchange.not_redirect_of_retry signal, if_neg (by decide)] at sameRedirects
      have bound := client.settings.retriesLimit.toNat_lt
      refine ⟨⟨request, resent, by rw [sameCall]; exact built⟩, ⟨?_, ?_, ?_⟩, ?_, ?_⟩
      · have total := counted.spent.total
        omega
      · omega
      · have redirects := counted.spent.redirects_le
        omega
      · rw [sameCall, Call.countRetry, toNat_increment (by omega), counted.retries, moreRetries]
      · rw [sameCall, Call.countRetry, counted.redirects, sameRedirects, Nat.add_zero]

theorem Counted.redirect (cache : Route.Cache)
    (bounded : client.settings.redirectsLimit.toNat < 0xFFFFFFFF)
    (signal : (exchanges count).isRedirectSignal client.codec = true) :
    let next := (run client flight cache (exchanges count).events).1
    if client.settings.redirectsLimit = 0 then next.FailedAs .unprocessed
    else if redirectsAmong client.codec exchanges count =
        client.settings.redirectsLimit.toNat + 1 then next.FailedAs .redirectsExceeded
    else Counted client exchanges (count + 1) next ∨ next.FailedAs .unprocessed := by
  obtain ⟨request, sending, built⟩ := counted.sending
  obtain ⟨reading, fields, sameCall, followed⟩ := run_redirect sending standard cache built signal
  have within := counted.spent.redirects_le
  unfold Settings.followedRedirects at within
  have kept : reading.call.request = some request := by rw [sameCall, built]
  have redirects : reading.call.redirects.toNat = redirectsAmong client.codec exchanges count := by
    rw [sameCall, counted.redirects]
  intro next
  have nextEq : next = (follow client reading cache fields).1 := followed
  rw [nextEq]
  split
  · next forbidden => exact follow_forbidden kept forbidden
  · next allowed =>
      rw [if_neg allowed] at within
      split
      · next spent =>
          refine follow_exceeded kept allowed ?_
          rw [UInt32.lt_iff_toNat_lt, redirects]
          omega
      · next unspent =>
          have inBudget : ¬client.settings.redirectsLimit < reading.call.redirects := by
            rw [UInt32.lt_iff_toNat_lt]
            omega
          rcases follow_within cache fields kept allowed inBudget with
            ⟨resent, sameRetries, oneMore⟩ | failed
          · have moreRedirects := redirectsAmong_succ client.codec exchanges count
            have retriesSucc := retriesAmong_succ exchanges count
            rw [signal, if_pos rfl] at moreRedirects
            rw [Exchange.not_retry_of_redirect signal, if_neg (by decide)] at retriesSucc
            refine Or.inl ⟨resent, ⟨?_, ?_, ?_⟩, ?_, ?_⟩
            · have total := counted.spent.total
              omega
            · have retries := counted.spent.retries_le
              omega
            · unfold Settings.followedRedirects
              rw [if_neg allowed]
              omega
            · rw [sameRetries, sameCall, counted.retries, retriesSucc, Nat.add_zero]
            · rw [oneMore, toNat_increment (by omega), redirects, moreRedirects]
          · exact Or.inr failed

end Rounds

theorem course_settled {client : Client} {exchanges : Nat → Exchange} {caches : Nat → Route.Cache}
    {flight : Flight} {count : Nat}
    (settled : (course client exchanges caches flight count).Settled) :
    course client exchanges caches flight (count + 1) =
      course client exchanges caches flight count := by
  obtain ⟨outcome, stage⟩ := settled
  rw [course, run_settled stage]

section Calls

variable {client : Client} {exchanges : Nat → Exchange} {caches : Nat → Route.Cache}
  {flight : Flight} (standard : client.handler = .standard)
  (bounded : client.settings.redirectsLimit.toNat < 0xFFFFFFFF)

include standard bounded

theorem Counted.ruling {count : Nat}
    (counted : Counted client exchanges count (course client exchanges caches flight count)) :
    Ruling client exchanges count (course client exchanges caches flight (count + 1)) where
  retry signal := by
    have ruled := counted.retry standard (caches count) signal
    dsimp only at ruled
    rw [course]
    split at ruled
    · next spent => rwa [if_pos spent]
    · next unspent =>
        rw [if_neg unspent]
        exact ruled.sending
  redirect signal := by
    have ruled := counted.redirect standard (caches count) bounded signal
    dsimp only at ruled
    rw [course]
    split at ruled
    · next forbidden => rwa [if_pos forbidden]
    · next allowed =>
        rw [if_neg allowed]
        split at ruled
        · next spent => rwa [if_pos spent]
        · next unspent =>
            rw [if_neg unspent]
            exact ruled.imp_left Counted.sending
  final unasked undirected := by
    obtain ⟨request, sending, _⟩ := counted.sending
    rw [course]
    exact run_final sending standard unasked undirected

/-- A call that waits for an answer has ended after the next exchange, or waits again with one more
exchange counted. -/
theorem Counted.succ {count : Nat}
    (counted : Counted client exchanges count (course client exchanges caches flight count)) :
    (course client exchanges caches flight (count + 1)).Settled ∨
      Counted client exchanges (count + 1)
        (course client exchanges caches flight (count + 1)) := by
  cases retry : (exchanges count).isRetrySignal with
  | true =>
      have ruled := counted.retry standard (caches count) retry
      dsimp only at ruled
      split at ruled
      · exact Or.inl ruled.settled
      · exact Or.inr ruled
  | false =>
      cases redirect : (exchanges count).isRedirectSignal client.codec with
      | true =>
          have ruled := counted.redirect standard (caches count) bounded redirect
          dsimp only at ruled
          split at ruled
          · exact Or.inl ruled.settled
          · split at ruled
            · exact Or.inl ruled.settled
            · rcases ruled with counted | failed
              · exact Or.inr counted
              · exact Or.inl failed.settled
      | false =>
          obtain ⟨outcome, settled, _⟩ :=
            (counted.ruling standard bounded).final retry redirect
          exact Or.inl ⟨outcome, settled⟩

/-- At every moment a call has ended or waits for an answer with counters that tell what is spent.
-/
theorem settled_or_counted (start : Counted client exchanges 0 flight) (count : Nat) :
    (course client exchanges caches flight count).Settled ∨
      Counted client exchanges count (course client exchanges caches flight count) := by
  induction count with
  | zero => exact Or.inr start
  | succ count ih =>
      rcases ih with settled | counted
      · left
        rw [course_settled settled]
        exact settled
      · exact counted.succ standard bounded

end Calls

theorem course_eq_of_settled {client : Client} {exchanges : Nat → Exchange}
    {caches : Nat → Route.Cache} {flight : Flight} {count later : Nat}
    (settled : (course client exchanges caches flight count).Settled) (after : count ≤ later) :
    course client exchanges caches flight later =
      course client exchanges caches flight count := by
  induction after with
  | refl => rfl
  | step _ ih => rw [course_settled (by rw [ih]; exact settled), ih]

theorem settled_mono {client : Client} {exchanges : Nat → Exchange} {caches : Nat → Route.Cache}
    {flight : Flight} {count later : Nat}
    (settled : (course client exchanges caches flight count).Settled) (after : count ≤ later) :
    (course client exchanges caches flight later).Settled := by
  rw [course_eq_of_settled settled after]
  exact settled

/-- A call that is going to end waits for answers until it ends. -/
theorem exists_end {client : Client} {exchanges : Nat → Exchange} {caches : Nat → Route.Cache}
    {flight : Flight} (alternatives : ∀ count,
      (course client exchanges caches flight count).Settled ∨
        (course client exchanges caches flight count).Sending)
    {bound : Nat} (settled : (course client exchanges caches flight bound).Settled) :
    ∃ count ≤ bound, (∀ earlier < count, (course client exchanges caches flight earlier).Sending) ∧
      (course client exchanges caches flight count).Settled := by
  induction bound with
  | zero => exact ⟨0, Nat.le_refl 0, fun _ before => absurd before (Nat.not_lt_zero _), settled⟩
  | succ bound ih =>
      rcases alternatives bound with ended | sending
      · obtain ⟨count, within, found⟩ := ih ended
        exact ⟨count, Nat.le_succ_of_le within, found⟩
      · refine ⟨bound + 1, Nat.le_refl _, ?_, settled⟩
        intro earlier before
        rcases alternatives earlier with ended | waiting
        · exact absurd (settled_mono ended (Nat.le_of_lt_succ before)) sending.not_settled
        · exact waiting

theorem counted_launch {client : Client} {interface method : String} {parameters : Parameters}
    {cache : Route.Cache} {found : Except Net.LookupFault (List Net.Address)}
    {request : OutboundRequest} (exchanges : Nat → Exchange)
    (launched : (launch client (.fresh interface method parameters) cache found).1.stage =
      .sending request) :
    Counted client exchanges 0
      (launch client (.fresh interface method parameters) cache found).1 where
  sending := ⟨request, launched, by rw [launch_call launched]; rfl⟩
  spent := ⟨rfl, Nat.zero_le _, Nat.zero_le _⟩
  retries := by
    rw [launch_call launched]
    rfl
  redirects := by
    rw [launch_call launched]
    rfl

/-- A fresh call whose request is built ends, whatever its transport does and in whatever order.
Until then it waits for answers, one for each request, within its budgets; and each exchange goes by
the budgets. -/
theorem course_within_budgets {client : Client} (standard : client.handler = .standard)
    (bounded : client.settings.redirectsLimit.toNat < 0xFFFFFFFF) {interface method : String}
    {parameters : Parameters} {cache : Route.Cache}
    {found : Except Net.LookupFault (List Net.Address)} {request : OutboundRequest}
    (launched : (launch client (.fresh interface method parameters) cache found).1.stage =
      .sending request) (exchanges : Nat → Exchange) (caches : Nat → Route.Cache) :
    let flight := course client exchanges caches
      (launch client (.fresh interface method parameters) cache found).1
    (∃ count ≤ 1 + client.settings.retriesLimit.toNat + client.settings.followedRedirects,
      (∀ earlier < count, (flight earlier).Sending) ∧
        ∀ later ≥ count, (flight later).Settled) ∧
      ∀ count, (flight count).Sending →
        Spent client exchanges count ∧ Ruling client exchanges count (flight (count + 1)) := by
  intro flight
  have alternatives : ∀ count, (flight count).Settled ∨
      Counted client exchanges count (flight count) :=
    settled_or_counted standard bounded (counted_launch exchanges launched)
  constructor
  · -- No call waits after as many exchanges, since each of them would have been counted.
    have settled : (flight (1 + client.settings.retriesLimit.toNat +
        client.settings.followedRedirects)).Settled := by
      rcases alternatives (1 + client.settings.retriesLimit.toNat +
        client.settings.followedRedirects) with ended | counted
      · exact ended
      · have total := counted.spent.total
        have retries := counted.spent.retries_le
        have redirects := counted.spent.redirects_le
        omega
    obtain ⟨count, within, waiting, ended⟩ :=
      exists_end (fun count => (alternatives count).imp_right Counted.sending) settled
    exact ⟨count, within, waiting, fun later after => settled_mono ended after⟩
  · intro count sending
    rcases alternatives count with ended | counted
    · exact absurd ended sending.not_settled
    · exact ⟨counted.spent, counted.ruling standard bounded⟩

/-- A call to a server that is never there. -/
theorem course_within_budgets_refused :
    let refused : Nat → Exchange := fun _ => .unanswered (.unprocessed "refused")
    let flight := course loopback refused (fun _ => .usual)
      (launch loopback (.fresh "SimpleCalc" "add" []) .usual (.ok [])).1
    (∃ count ≤ 1 + 10 + 11, (∀ earlier < count, (flight earlier).Sending) ∧
        ∀ later ≥ count, (flight later).Settled) ∧
      ∀ count, (flight count).Sending →
        Spent loopback refused count ∧ Ruling loopback refused count (flight (count + 1)) := by
  exact course_within_budgets rfl (by decide)
    (launch_loopback "SimpleCalc" "add" [] .usual (.ok [])) _ _

end Flight
end RemoteCall
