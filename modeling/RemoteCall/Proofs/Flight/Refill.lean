import RemoteCall.Proofs.Flight.Recall
import RemoteCall.Proofs.Flight.Signals
import RemoteCall.Proofs.Flight.Unbuilt

/-!
# What a success leaves where no target was found

A call that finds no target under its key looks its host up, and when it has succeeded its key
should have a target, so that the next call can do without.  Whether there is one is decided in two
ways, though.  While a request is built an empty text counts as no target; when a success is
recorded it counts as an entry, and stays.  So a key with an empty text is of use again only if the
entry has been cleared on the way, by a server that was not reached or by a redirect.
-/

namespace RemoteCall

/-- A target is never empty. -/
theorem Uri.targetText_ne_empty (uri : Uri) : uri.targetText ≠ "" := by
  intro empty
  have characters : uri.targetText.toList = [] := by rw [empty, String.toList_empty]
  unfold Uri.targetText at characters
  dsimp only at characters
  split at characters <;> simp at characters

namespace Flight

variable {client : Client} {flight : Flight} {initial cache : Route.Cache} {key : String}

section Missing

/-- No target is found under a key if there is no entry, or an empty one. -/
theorem missing_iff : (Client.rememberedTarget cache key).1 = none ↔
    cache.find? key = none ∨ cache.find? key = some "" := by
  rw [rememberedTarget_eq]
  cases cache.find? key with
  | none => simp
  | some target => simp [Option.filter_some]

theorem missing_congr {other : Route.Cache} (same : other.find? key = cache.find? key) :
    (Client.rememberedTarget other key).1 = (Client.rememberedTarget cache key).1 := by
  rw [rememberedTarget_eq, rememberedTarget_eq, same]

theorem missing_remove (missing : (Client.rememberedTarget cache key).1 = none)
    (other : String) : (Client.rememberedTarget (cache.remove other) key).1 = none := by
  by_cases same : key = other
  · rw [same, missing_iff]
    exact Or.inl (Route.Cache.find?_remove_self cache other)
  · rw [missing_congr (Route.Cache.find?_remove_of_ne cache same), missing]

theorem missing_forget (missing : (Client.rememberedTarget cache key).1 = none) :
    ∀ other : Option String, (Client.rememberedTarget (forget cache other) key).1 = none
  | none => missing
  | some other => missing_remove missing other

/-- Failure records nothing. -/
theorem missing_conclude (missing : (Client.rememberedTarget cache key).1 = none) (call : Call)
    (failure : Failure) (attempts : List (Option String)) :
    (Client.rememberedTarget (attempts.foldl (concludeAttempt call (.error failure)) cache) key).1 =
      none := by
  induction attempts generalizing cache with
  | nil => exact missing
  | cons attempt later ih => exact ih (missing_forget missing attempt)

/-- Without its request a call has nothing to record. -/
theorem conclude_ok_unmade {call : Call} (unmade : call.request = none) (value : Json.Value)
    (cache : Route.Cache) (attempts : List (Option String)) :
    attempts.foldl (concludeAttempt call (.ok value)) cache = cache := by
  induction attempts generalizing cache with
  | nil => rfl
  | cons attempt later ih =>
      have concluded : concludeAttempt call (.ok value) cache attempt = cache := by
        cases attempt with
        | none => rfl
        | some name =>
            simp only [concludeAttempt, unmade]
            exact ite_self cache
      rw [List.foldl_cons, concluded]
      exact ih cache

end Missing

section Diversions

/-- A step that takes a call off its way: a server is not reached, or a redirect is followed. -/
def Diverts (flight : Flight) (event : Event) (next : Flight) : Prop :=
  match flight.stage, event with
  | .sending _, .unanswered (.unprocessed _) => True
  | .reading _ .redirect, .received _ => ∃ request, next.stage = .sending request
  | _, _ => False

/-- Somewhere along a run a call is taken off its way. -/
def Diverted (client : Client) (flight : Flight) (cache : Route.Cache) : List Event → Prop
  | [] => False
  | event :: later =>
      Diverts flight event (flight.advance client cache event).1 ∨
        Diverted client (flight.advance client cache event).1
          (flight.advance client cache event).2 later

theorem not_diverts_of_not_awaits {event : Event} (unawaited : flight.stage.awaits event = false)
    (next : Flight) : ¬Diverts flight event next := by
  unfold Diverts
  intro diverts
  split at diverts
  · next stage =>
      rw [stage] at unawaited
      cases unawaited
  · next stage =>
      rw [stage] at unawaited
      cases unawaited
  · exact diverts

theorem diverts_of_unprocessed {request : OutboundRequest} {explanation : String}
    (sending : flight.stage = .sending request) (next : Flight) :
    Diverts flight (.unanswered (.unprocessed explanation)) next := by
  unfold Diverts
  rw [sending]
  trivial

theorem diverts_of_redirect {head : ResponseHead} {body : Except Body.Fault Bytes}
    {request : OutboundRequest} {next : Flight} (reading : flight.stage = .reading head .redirect)
    (sent : next.stage = .sending request) : Diverts flight (.received body) next := by
  unfold Diverts
  rw [reading]
  exact ⟨request, sent⟩

/-- A call leaves its way only when it has waited for an answer or for the body of one. -/
theorem not_diverts_of_event {event : Event} (next : Flight)
    (answered : ∀ explanation, event ≠ .unanswered (.unprocessed explanation))
    (unread : ∀ body, event ≠ .received body) : ¬Diverts flight event next := by
  unfold Diverts
  split
  · exact absurd rfl (answered _)
  · exact absurd rfl (unread _)
  · exact id

theorem not_diverts_received {body : Except Body.Fault Bytes} {next : Flight}
    (unsent : ∀ request, next.stage ≠ .sending request) :
    ¬Diverts flight (.received body) next := by
  unfold Diverts
  split
  · next isReceived => cases isReceived
  · exact fun sent => sent.elim unsent
  · exact id

/-- A call that has failed, or is about to: what remains is to read what is reported. -/
def Lost (flight : Flight) : Prop :=
  (∃ head, flight.stage = .reading head .throwable) ∨
    ∃ failure, flight.stage = .settled (.error failure)

/-- A call that is lost is at one of two stages, and so at no other. -/
theorem Lost.elim_stage {stage : Stage} (lost : Lost flight) (here : flight.stage = stage)
    (untold : ∀ head, stage ≠ .reading head .throwable)
    (unfailed : ∀ failure, stage ≠ .settled (.error failure)) : False := by
  subst here
  rcases lost with ⟨head, reading⟩ | ⟨failure, failed⟩
  · exact untold head reading
  · exact unfailed failure failed

theorem Lost.unsuccessful (lost : Lost flight) (value : Json.Value) :
    flight.stage ≠ .settled (.ok value) := by
  intro succeeded
  refine lost.elim_stage succeeded (fun _ => Stage.noConfusion) fun failure failed => ?_
  cases failed

/-- A lost call stays lost: what it may still read is a report, and not a result. -/
theorem Lost.moves (lost : Lost flight) {event : Event} {next : Flight × Route.Cache}
    (moves : Moves client flight cache event next) : Lost next.1 := by
  cases moves with
  | rests => exact lost
  | fails _ _ _ failure => exact Or.inr ⟨failure, rfl⟩
  | aims stage | unreached stage | judged _ stage | deferred stage | told stage | opened stage
  | resumes stage =>
      exact (lost.elim_stage stage (fun _ => Stage.noConfusion) fun _ => Stage.noConfusion).elim
  | redirected stage =>
      refine (lost.elim_stage stage (fun _ reading => ?_) fun _ => Stage.noConfusion).elim
      cases reading
  | succeeds stage unthrown =>
      refine (lost.elim_stage stage (fun _ reading => ?_) fun _ => Stage.noConfusion).elim
      cases reading
      exact unthrown rfl

end Diversions

section Filling

/-- What there is under the key of a call: the empty text that was there at first, as long as it has
not been cleared, or the target of the request, which is there at the latest when the call has
succeeded. -/
inductive Finds (key : String) (uncleared : Prop) (state : Flight × Route.Cache) : Prop where
  | empty (still : uncleared) (found : state.2.find? key = some "")
  | target (cleared : ¬uncleared)
      (leads : ∀ target, state.2.find? key = some target →
        ∃ request, state.1.call.request = some request ∧ target = request.uri.targetText)
      (filled : ∀ value, state.1.stage = .settled (.ok value) → state.2.find? key ≠ none)

variable {uncleared : Prop} {diverts : Prop}

theorem Finds.congr {other : Prop} {state : Flight × Route.Cache}
    (finds : Finds key uncleared state) (same : uncleared ↔ other) : Finds key other state :=
  propext same ▸ finds

/-- While nothing is cleared or recorded, there is what there was. -/
theorem Finds.kept {state next : Flight × Route.Cache} (finds : Finds key uncleared state)
    (straight : ¬diverts) (same : next.2.find? key = state.2.find? key)
    (built : ∀ request, state.1.call.request = some request → next.1.call.request = some request)
    (unsettled : ∀ value, next.1.stage ≠ .settled (.ok value)) :
    Finds key (uncleared ∧ ¬diverts) next := by
  cases finds with
  | empty still found => exact .empty ⟨still, straight⟩ (same.trans found)
  | target cleared leads filled =>
      refine .target (fun kept => cleared kept.1) (fun target found => ?_)
        fun value settled => absurd settled (unsettled value)
      obtain ⟨request, isBuilt, isTarget⟩ := leads target (same.symm.trans found)
      exact ⟨request, built request isBuilt, isTarget⟩

/-- Success records the target of the request where there is no entry, and only there. -/
theorem Finds.settled (finds : Finds key uncleared (flight, cache)) (straight : ¬diverts)
    {request : OutboundRequest} (built : flight.call.request = some request)
    (own : ∀ attempt ∈ flight.attempts, attempt = some key) (opened : flight.attempts ≠ [])
    (value : Json.Value) :
    Finds key (uncleared ∧ ¬diverts) (flight.settle cache (.ok value)) := by
  have recorded : (flight.settle cache (.ok value)).2.find? key =
      (cache.find? key).or (some request.uri.targetText) :=
    find?_conclude_ok built value own opened
  cases finds with
  | empty still found =>
      refine .empty ⟨still, straight⟩ ?_
      rw [recorded, found]
      rfl
  | target cleared leads filled =>
      refine .target (fun kept => cleared kept.1) (fun target found => ?_) fun _ _ => ?_
      · rw [recorded] at found
        cases before : cache.find? key with
        | some earlier =>
            rw [before] at found
            cases found
            exact leads target before
        | none =>
            rw [before] at found
            cases found
            exact ⟨request, built, rfl⟩
      · rw [recorded]
        cases cache.find? key <;> nofun

/-- One step of a call that is not lost. -/
theorem Finds.moves (finds : Finds key uncleared (flight, cache))
    (confined : Confined (some key) initial (flight, cache)) {event : Event}
    {next : Flight × Route.Cache} (moves : Moves client flight cache event next) :
    Lost next.1 ∨ Finds key (uncleared ∧ ¬Diverts flight event next.1) next := by
  obtain ⟨framed, own, keyed, stage⟩ := confined
  dsimp only [StageConfined] at framed own keyed stage
  cases moves with
  | rests unawaited =>
      refine Or.inr (finds.congr ⟨fun still => ⟨still, ?_⟩, And.left⟩)
      exact not_diverts_of_not_awaits unawaited flight
  | fails _ _ _ failure => exact Or.inl (Or.inr ⟨failure, rfl⟩)
  | aims resolving aimed =>
      rw [resolving] at stage
      refine Or.inr (finds.kept ?_ rfl (fun _ built => ?_) nofun)
      · exact not_diverts_of_event _ nofun nofun
      · rw [stage.1] at built
        cases built
  | unreached sending =>
      rw [sending] at stage
      have working : Working (some key) initial flight cache :=
        ⟨framed, own, keyed, stage.1, stage.2⟩
      have forgotten : (forget cache flight.attempts.head?.join).find? key = none := by
        rw [working.head_attempt]
        exact Route.Cache.find?_remove_self cache key
      refine Or.inr (.target (fun kept => kept.2 (diverts_of_unprocessed sending _)) ?_ nofun)
      intro target found
      rw [forgotten] at found
      cases found
  | @judged _ judge head custom sending =>
      rw [sending] at stage
      obtain ⟨request, built⟩ := Option.ne_none_iff_exists'.mp stage.1
      cases judge head with
      | error failure => exact Or.inl (Or.inr ⟨failure, rfl⟩)
      | ok value =>
          refine Or.inr (finds.settled ?_ built own stage.2 value)
          exact not_diverts_of_event _ nofun nofun
  | deferred | opened =>
      refine Or.inr (finds.kept ?_ rfl (fun _ built => built) nofun)
      exact not_diverts_of_event _ nofun nofun
  | told => exact Or.inl (Or.inl ⟨_, rfl⟩)
  | @succeeds _ _ _ value reading =>
      rw [reading] at stage
      obtain ⟨request, built⟩ := Option.ne_none_iff_exists'.mp stage.1
      refine Or.inr (finds.settled ?_ built own stage.2 value)
      exact not_diverts_received fun _ => nofun
  | @redirected head _ request _ uri reading built named aimed =>
      have put : (request.routeKey.elim cache fun name => cache.put name uri.targetText).find? key =
          some uri.targetText := by
        rw [keyed request built]
        exact Route.Cache.find?_put_self cache key uri.targetText
      refine Or.inr (.target (fun kept => kept.2 (diverts_of_redirect reading rfl)) ?_ nofun)
      intro target found
      rw [put] at found
      cases found
      exact ⟨_, rfl, rfl⟩
  | resumes pausing =>
      rw [pausing] at stage
      obtain ⟨request, built⟩ := Option.ne_none_iff_exists'.mp stage
      rw [attempt_built built]
      refine Or.inr (finds.kept ?_ rfl (fun other isBuilt => ?_) nofun)
      · exact not_diverts_of_event _ nofun nofun
      · rw [built] at isBuilt
        exact isBuilt

/-- A whole run of a call. -/
theorem Finds.run (retentive : client.handler ≠ .forgetful)
    (confined : Confined (some key) initial (flight, cache))
    (finds : Lost flight ∨ Finds key uncleared (flight, cache)) (events : List Event) :
    Lost (run client flight cache events).1 ∨
      Finds key (uncleared ∧ ¬Diverted client flight cache events)
        (run client flight cache events) := by
  -- The rest of the run starts from what the first step leaves uncleared.
  induction events generalizing flight cache uncleared with
  | nil => exact finds.imp_right fun finds => finds.congr ⟨fun still => ⟨still, id⟩, And.left⟩
  | cons event later ih =>
      have moves := moves_advance retentive flight cache event
      have next : Lost (flight.advance client cache event).1 ∨
          Finds key (uncleared ∧ ¬Diverts flight event (flight.advance client cache event).1)
            (flight.advance client cache event) := by
        rcases finds with lost | finds
        · exact Or.inl (lost.moves moves)
        · exact finds.moves confined moves
      have same : (uncleared ∧ ¬Diverts flight event (flight.advance client cache event).1) ∧
            ¬Diverted client (flight.advance client cache event).1
              (flight.advance client cache event).2 later ↔
          uncleared ∧ ¬Diverted client flight cache (event :: later) := by
        rw [and_assoc, ← not_or]
        rfl
      exact (ih (confined.advance retentive event) next).imp_right fun finds => finds.congr same

end Filling

section Forgetting

/-- A call that leaves nothing behind: no target is found under a key, and the call will not record
one. -/
structure Barren (key : String) (state : Flight × Route.Cache) : Prop where
  missing : (Client.rememberedTarget state.2 key).1 = none
  unmade : ∀ head kind, state.1.stage = .reading head kind → state.1.call.request = none

theorem barren_of_unread {state : Flight × Route.Cache}
    (missing : (Client.rememberedTarget state.2 key).1 = none)
    (unread : ∀ head kind, state.1.stage ≠ .reading head kind) : Barren key state :=
  ⟨missing, fun head kind reading => absurd reading (unread head kind)⟩

theorem barren_settle_error (missing : (Client.rememberedTarget cache key).1 = none)
    (flight : Flight) (failure : Failure) : Barren key (flight.settle cache (.error failure)) :=
  barren_of_unread (missing_conclude missing flight.call failure flight.attempts)
    fun _ _ => Stage.noConfusion

theorem barren_attempt (missing : (Client.rememberedTarget cache key).1 = none) (client : Client)
    (flight : Flight) : Barren key (attempt client flight cache) := by
  cases built : flight.call.request with
  | some request =>
      rw [attempt_built built]
      exact barren_of_unread missing fun _ _ => Stage.noConfusion
  | none =>
      have kept := (prepares client flight.call cache).find? key
      rcases prepared : client.prepare cache flight.call with ⟨preparation, later⟩
      rw [prepared] at kept
      have missingLater : (Client.rememberedTarget later key).1 = none :=
        (missing_congr kept).trans missing
      cases preparation with
      | ready request =>
          rw [attempt_ready built prepared]
          exact barren_of_unread missingLater fun _ _ => Stage.noConfusion
      | lookup host draft =>
          rw [attempt_lookup built prepared]
          exact barren_of_unread missingLater fun _ _ => Stage.noConfusion
      | failed fault =>
          rw [attempt_failed built prepared]
          exact barren_settle_error missingLater flight _

/-- A client that forgets its requests when they are answered has nothing to record. -/
theorem Barren.advance (forgetful : client.handler = .forgetful)
    (barren : Barren key (flight, cache)) (event : Event) :
    Barren key (flight.advance client cache event) := by
  obtain ⟨missing, unmade⟩ := barren
  dsimp only at missing unmade
  -- An answer takes the request from the call before anything else is done about it.
  have dropped (head : ResponseHead) : (met client flight (.answered head)).call.request = none := by
    rw [met, taken, forgetful]
    rfl
  cases awaited : flight.stage.awaits event with
  | false =>
      rw [advance_of_not_awaits awaited]
      exact ⟨missing, unmade⟩
  | true =>
      have moves := moves_met awaited client cache
      generalize flight.advance client cache event = next at moves ⊢
      cases moves with
      | rests unawaited =>
          rw [met_stage, awaited] at unawaited
          cases unawaited
      | fails _ _ forgot =>
          refine barren_settle_error ?_ _ _
          rcases forgot with rfl | rfl
          · exact missing
          · exact missing_forget missing _
      | aims => exact barren_of_unread missing fun _ _ => Stage.noConfusion
      | unreached => exact barren_of_unread (missing_forget missing _) fun _ _ => Stage.noConfusion
      | judged custom =>
          rw [forgetful] at custom
          cases custom
      | deferred => exact barren_of_unread missing fun _ _ => Stage.noConfusion
      | told => exact ⟨missing_forget missing _, fun _ _ _ => dropped _⟩
      | opened => exact ⟨missing, fun _ _ _ => dropped _⟩
      | @succeeds head kind body value reading =>
          have concluded : (settle flight cache (.ok value)).2 = cache :=
            conclude_ok_unmade (unmade head kind reading) value cache flight.attempts
          refine barren_of_unread ?_ fun _ _ => Stage.noConfusion
          exact (congrArg (fun cache => (Client.rememberedTarget cache key).1) concluded).trans missing
      | redirected reading built =>
          rw [met, unmade _ _ reading] at built
          cases built
      | resumes => exact barren_attempt missing client flight

theorem Barren.run (forgetful : client.handler = .forgetful) (barren : Barren key (flight, cache))
    (events : List Event) : Barren key (run client flight cache events) := by
  induction events generalizing flight cache with
  | nil => exact barren
  | cons event later ih => exact ih (barren.advance forgetful event)

end Forgetting

section Calls

variable {call : Call}

theorem find?_start (client : Client) (call : Call) (cache : Route.Cache) (name : String) :
    (start client call cache).2.find? name = cache.find? name := by
  cases built : call.request with
  | some request => rw [start, attempt_built built]
  | none =>
      have kept := (prepares client call cache).find? name
      rcases prepared : client.prepare cache call with ⟨preparation, later⟩
      rw [prepared] at kept
      cases preparation with
      | ready request => rwa [start, attempt_ready built prepared]
      | lookup host draft => rwa [start, attempt_lookup built prepared]
      | failed fault =>
          rw [start, attempt_failed built prepared]
          exact kept

/-- A call that is started on a key without a target has done nothing to the key. -/
theorem finds_start (missing : (Client.rememberedTarget cache key).1 = none) (client : Client)
    (call : Call) :
    Lost (start client call cache).1 ∨
      Finds key (cache.find? key = some "") (start client call cache) := by
  have kept := find?_start client call cache key
  have finds (unsettled : ∀ value, (start client call cache).1.stage ≠ .settled (.ok value)) :
      Finds key (cache.find? key = some "") (start client call cache) := by
    rcases missing_iff.mp missing with absent | empty
    · refine .target (by rw [absent]; nofun) (fun target found => ?_)
        fun value settled => absurd settled (unsettled value)
      rw [kept, absent] at found
      cases found
    · exact .empty empty (kept.trans empty)
  rcases attempt_cases client ⟨call, [], .pausing 0⟩ cache with
    ⟨request, sent⟩ | ⟨host, draft, resolving⟩ | ⟨failure, failed⟩
  · refine Or.inr (finds fun value settled => ?_)
    rw [start, sent] at settled
    cases settled
  · refine Or.inr (finds fun value settled => ?_)
    rw [start, resolving] at settled
    cases settled
  · exact Or.inl (Or.inr ⟨failure, failed⟩)

/-- What there is under the key of a call when it has succeeded. -/
theorem finds_of_success (retentive : client.handler ≠ .forgetful)
    (keyed : client.keyOf call = some key)
    (missing : (Client.rememberedTarget cache key).1 = none) {events : List Event}
    {value : Json.Value} {started ended : Flight × Route.Cache}
    (starts : started = start client call cache)
    (ends : ended = run client started.1 started.2 events)
    (succeeded : ended.1.stage = .settled (.ok value)) :
    Finds key (cache.find? key = some "" ∧ ¬Diverted client started.1 started.2 events) ended := by
  subst starts ends
  have confined : Confined (some key) cache (start client call cache) :=
    keyed ▸ confined_start client call cache
  have finds := Finds.run retentive confined (finds_start missing client call) events
  exact finds.resolve_left fun lost => lost.unsuccessful value succeeded

/-- A call looks its host up exactly if it can be encoded and no target is found. -/
theorem start_resolving_iff (unbuilt : call.request = none) (keyed : client.keyOf call = some key)
    (cache : Route.Cache) :
    (∃ host draft, (start client call cache).1.stage = .resolving host draft) ↔
      (Client.rememberedTarget cache key).1 = none ∧
        ∃ body, client.codec.encode (.array call.parameters) = .ok body := by
  rw [Client.keyOf, unbuilt] at keyed
  obtain ⟨host, named, rfl⟩ := Option.map_eq_some_iff.mp keyed
  rw [rememberedTarget_eq]
  cases encoded : client.codec.encode (.array call.parameters) with
  | error fault =>
      rw [start, attempt_failed unbuilt (prepare_of_unencodable encoded cache)]
      constructor
      · rintro ⟨draftHost, draft, resolving⟩
        cases resolving
      · rintro ⟨_, body, isEncoded⟩
        cases isEncoded
  | ok body =>
      have prepared := prepare_of_name encoded named cache
      dsimp only at prepared
      cases found : (cache.find? (client.routeKey host call)).filter (!·.isEmpty) with
      | none =>
          rw [found] at prepared
          rw [start, attempt_lookup unbuilt prepared]
          exact ⟨fun _ => ⟨rfl, body, rfl⟩, fun _ => ⟨_, _, rfl⟩⟩
      | some target =>
          rw [found] at prepared
          constructor
          · rintro ⟨draftHost, draft, resolving⟩
            cases read : Uri.parse target with
            | error fault =>
                simp only [read] at prepared
                rw [start, attempt_failed unbuilt prepared] at resolving
                cases resolving
            | ok uri =>
                simp only [read] at prepared
                rw [start, attempt_ready unbuilt prepared] at resolving
                cases resolving
          · rintro ⟨isNone, _⟩
            cases isNone

/-- Whether a call that succeeds fills its key: it still has its request then, and there was no
entry under its key, or the entry has been cleared on its way. -/
def Refills (client : Client) (call : Call) (cache : Route.Cache) (key : String)
    (events : List Event) : Prop :=
  client.handler ≠ .forgetful ∧
    (cache.find? key = none ∨
      Diverted client (start client call cache).1 (start client call cache).2 events)

/-- A call that finds no target under its key and succeeds leaves the target of its last request
there if it fills the key, and no target otherwise.  In the first case no later call under the key
looks its host up, and in the second every call that can be encoded does. -/
theorem usable_after_success (keyed : client.keyOf call = some key)
    (missing : (Client.rememberedTarget cache key).1 = none) (events : List Event) :
    let started := start client call cache
    let ended := run client started.1 started.2 events
    ∀ value, ended.1.stage = .settled (.ok value) →
      (Refills client call cache key events →
        ∃ request, (requests (callDeeds client call cache events)).getLast? = some request ∧
          request.uri.targetText ≠ "" ∧
          (Client.rememberedTarget ended.2 key).1 = some request.uri.targetText) ∧
      (¬Refills client call cache key events →
        (Client.rememberedTarget ended.2 key).1 = none) ∧
      ∀ (successor : Client) (next : Call), next.request = none →
        successor.keyOf next = some key →
        ((∃ host draft, (start successor next ended.2).1.stage = .resolving host draft) ↔
          ¬Refills client call cache key events ∧
            ∃ body, successor.codec.encode (.array next.parameters) = .ok body) := by
  intro started ended value succeeded
  have filled : Refills client call cache key events →
      ∃ request, (requests (callDeeds client call cache events)).getLast? = some request ∧
        request.uri.targetText ≠ "" ∧
        (Client.rememberedTarget ended.2 key).1 = some request.uri.targetText := by
    rintro ⟨retentive, refills⟩
    have last : LastSent ended.1 (requests (callDeeds client call cache events)) :=
      lastSent retentive call cache events
    cases finds_of_success retentive keyed missing rfl rfl succeeded with
    | empty still =>
        rcases refills with absent | diverted
        · rw [absent] at still
          cases still.1
        · exact absurd diverted still.2
    | target _ leads filled =>
        obtain ⟨target, found⟩ := Option.ne_none_iff_exists'.mp (filled value succeeded)
        obtain ⟨request, built, rfl⟩ := leads target found
        refine ⟨request, (last.of_succeeded succeeded).trans built,
          request.uri.targetText_ne_empty, ?_⟩
        have unempty : request.uri.targetText.isEmpty = false := by
          simpa using request.uri.targetText_ne_empty
        rw [rememberedTarget_eq, found, Option.filter_some, unempty]
        rfl
  have unfilled : ¬Refills client call cache key events →
      (Client.rememberedTarget ended.2 key).1 = none := by
    intro keeps
    by_cases forgetful : client.handler = .forgetful
    · exact ((barren_attempt missing client ⟨call, [], .pausing 0⟩).run forgetful events).missing
    · cases finds_of_success forgetful keyed missing rfl rfl succeeded with
      | empty _ found => exact missing_iff.mpr (Or.inr found)
      | target cleared =>
          refine absurd ⟨forgetful, ?_⟩ keeps
          rcases missing_iff.mp missing with absent | empty
          · exact Or.inl absent
          · exact Or.inr (by_contra fun straight => cleared ⟨empty, straight⟩)
  refine ⟨filled, unfilled, fun successor next unbuilt again => ?_⟩
  rw [start_resolving_iff unbuilt again]
  refine and_congr_left fun _ => ⟨fun still refills => ?_, unfilled⟩
  obtain ⟨request, _, _, found⟩ := filled refills
  rw [still] at found
  cases found

/-- A cache with an empty text under the key of a call through the relay. -/
def blanked : Route.Cache := Route.Cache.usual.put "relay->SimpleCalc::add" ""

/-- The way of a call whose first request is not processed, and whose second one succeeds. -/
def secondTry (address : Net.Ipv4) : List Event :=
  let answer := Response.success (Json.Value.bool true).bytes
  [.resolved (.ok [.v4 address]), .unanswered (.unprocessed "refused"), .resumed,
    .answered answer.head, .received (.ok answer.body)]

/-- The first request is not processed, and this clears the empty text. -/
theorem usable_after_success_cleared :
    let call := Call.fresh "SimpleCalc" "add" []
    let started := start relay call blanked
    let ended := run relay started.1 started.2 (secondTry ⟨#v[10, 0, 0, 7]⟩)
    (Client.rememberedTarget blanked "relay->SimpleCalc::add").1 = none ∧
      (∃ target, target ≠ "" ∧
        (Client.rememberedTarget ended.2 "relay->SimpleCalc::add").1 = some target) ∧
      ¬∃ host draft, (start relay call ended.2).1.stage = .resolving host draft := by
  have refills : Refills relay (.fresh "SimpleCalc" "add" []) blanked "relay->SimpleCalc::add"
      (secondTry ⟨#v[10, 0, 0, 7]⟩) :=
    ⟨nofun, Or.inr (Or.inr (Or.inl (diverts_of_unprocessed rfl _)))⟩
  intro call started ended
  have missing : (Client.rememberedTarget blanked "relay->SimpleCalc::add").1 = none :=
    missing_iff.mpr (Or.inr (Route.Cache.find?_put_self _ _ _))
  have keyed : relay.keyOf call = some "relay->SimpleCalc::add" := rfl
  have result : ended.1.stage.result?.map Json.Value.text = some "true" := by decide +kernel
  obtain ⟨value, isResult, _⟩ := Option.map_eq_some_iff.mp result
  have succeeded : ended.1.stage = .settled (.ok value) := Stage.result?_eq_some_iff.mp isResult
  obtain ⟨filled, _, later⟩ :=
    usable_after_success keyed missing (secondTry ⟨#v[10, 0, 0, 7]⟩) value succeeded
  obtain ⟨request, _, unempty, found⟩ := filled refills
  refine ⟨missing, ⟨_, unempty, found⟩, fun resolving => ?_⟩
  exact ((later relay call rfl keyed).mp resolving).1 refills

/-- The first request succeeds, and the empty text stays. -/
theorem empty_target_kept :
    let call := Call.fresh "SimpleCalc" "add" []
    let started := start relay call blanked
    let ended := run relay started.1 started.2 (direct ⟨#v[10, 0, 0, 7]⟩)
    relay.keyOf call = some "relay->SimpleCalc::add" ∧
      (Client.rememberedTarget blanked "relay->SimpleCalc::add").1 = none ∧
      ended.1.stage = .settled (.ok (.bool true)) ∧
        (Client.rememberedTarget ended.2 "relay->SimpleCalc::add").1 = none ∧
          ∃ host draft, (start relay call ended.2).1.stage = .resolving host draft :=
  ⟨rfl, rfl, rfl, rfl, _, _, rfl⟩

end Calls

end Flight
end RemoteCall
