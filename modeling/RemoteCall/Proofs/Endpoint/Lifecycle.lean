import Mathlib.Data.List.Induction
import RemoteCall.Endpoint.Lifecycle

/-!
# Started once, then stopped

Whatever a server is told, it is in one of three states: it waits with all of its listeners, it
serves all of them, or it has none left.  It leaves the first state with the only start that ever
succeeds and the second one with the next stop.  A server without listeners is in the last state
from the beginning, so its first start is already refused as a second one.
-/

namespace RemoteCall
namespace Endpoint
namespace Lifecycle

variable {Listener : Type} {listeners : List Listener}
  {commands earlier later : List (Command Listener)} {command : Command Listener}

/-- A start that succeeds, with the commands before and after it. -/
structure Launch (listeners : List Listener) (commands earlier later : List (Command Listener)) :
    Prop where
  split : commands = earlier ++ .start :: later
  succeeded : ((ofListeners listeners).run earlier).start.1 = .ok ()

/-- The state that some commands have brought a server into. -/
inductive Phase (listeners : List Listener) (commands : List (Command Listener)) :
    Lifecycle Listener → Prop where
  | waiting (unlaunched : ∀ earlier later, ¬Launch listeners commands earlier later) :
      Phase listeners commands ⟨listeners, none⟩
  | running {earlier later : List (Command Listener)}
      (launch : Launch listeners commands earlier later)
      (unstopped : ∀ ending, .stop ending ∉ later) :
      Phase listeners commands ⟨[], some listeners⟩
  | stopped {earlier later : List (Command Listener)}
      (launch : Launch listeners commands earlier later) {ending : Listener → Ending}
      (stop : .stop ending ∈ later) :
      Phase listeners commands ⟨[], none⟩

theorem not_launch_nil (listeners : List Listener) (earlier later : List (Command Listener)) :
    ¬Launch listeners [] earlier later := by
  rintro ⟨split, _⟩
  simp at split

theorem Launch.concat (launch : Launch listeners commands earlier later)
    (command : Command Listener) :
    Launch listeners (commands ++ [command]) earlier (later ++ [command]) :=
  ⟨by rw [launch.split, List.append_assoc, List.cons_append], launch.succeeded⟩

/-- The start is the last command, or it has succeeded before. -/
theorem Launch.of_concat (launch : Launch listeners (commands ++ [command]) earlier later) :
    (command = .start ∧ ((ofListeners listeners).run commands).start.1 = .ok ()) ∨
      ∃ between, Launch listeners commands earlier between := by
  obtain ⟨split, succeeded⟩ := launch
  rcases List.eq_nil_or_concat later with rfl | ⟨between, last, rfl⟩
  · obtain ⟨rfl, same⟩ := List.append_inj' split rfl
    exact Or.inl ⟨List.singleton_inj.mp same, succeeded⟩
  · rw [List.concat_eq_append, ← List.cons_append, ← List.append_assoc] at split
    exact Or.inr ⟨between, (List.append_inj' split rfl).1, succeeded⟩

theorem Launch.unstopped_concat (unstopped : ∀ ending, Command.stop ending ∉ later) :
    ∀ ending, Command.stop ending ∉ later ++ [.start] := by
  intro ending member
  rcases List.mem_append.mp member with before | last
  · exact unstopped ending before
  · cases List.mem_singleton.mp last

/-- What one more command does. -/
theorem Phase.obey (phase : Phase listeners commands ((ofListeners listeners).run commands))
    (command : Command Listener) :
    Phase listeners (commands ++ [command])
      (((ofListeners listeners).run commands).obey command).2 := by
  generalize reached : (ofListeners listeners).run commands = life at phase
  cases phase with
  | waiting unlaunched =>
      cases command with
      | start =>
          cases listeners with
          | nil =>
              refine .waiting fun earlier later launch => ?_
              rcases launch.of_concat with ⟨_, succeeded⟩ | ⟨between, before⟩
              · rw [reached] at succeeded
                cases succeeded
              · exact unlaunched earlier between before
          | cons first others =>
              have launch : Launch (first :: others) (commands ++ [.start]) commands [] :=
                ⟨rfl, by rw [reached]; rfl⟩
              exact .running launch nofun
      | stop ending =>
          refine .waiting fun earlier later launch => ?_
          rcases launch.of_concat with ⟨isStart, _⟩ | ⟨between, before⟩
          · cases isStart
          · exact unlaunched earlier between before
  | running launch unstopped =>
      cases command with
      | start => exact .running (launch.concat .start) (Launch.unstopped_concat unstopped)
      | stop ending =>
          exact .stopped (launch.concat (.stop ending))
            (List.mem_append_right _ (List.mem_singleton_self _))
  | stopped launch stop =>
      cases command with
      | start | stop => exact .stopped (launch.concat _) (List.mem_append_left _ stop)

theorem phase_run (listeners : List Listener) (commands : List (Command Listener)) :
    Phase listeners commands ((ofListeners listeners).run commands) := by
  induction commands using List.reverseRecOn with
  | nil => exact .waiting (not_launch_nil listeners)
  | append_singleton commands command ih =>
      rw [run_concat]
      exact ih.obey command

/-- After a start has succeeded, there is nothing left to start. -/
theorem Launch.refused (launch : Launch listeners commands earlier later) :
    ((ofListeners listeners).run commands).start.1 = .error .alreadyStarted := by
  have phase := phase_run listeners commands
  generalize (ofListeners listeners).run commands = life at phase
  cases phase with
  | waiting unlaunched => exact absurd launch (unlaunched earlier later)
  | running | stopped => rfl

section Uniqueness

variable {otherEarlier otherLater between : List (Command Listener)}
  (launch : Launch listeners commands earlier later)
  (other : Launch listeners commands otherEarlier otherLater)

include launch other

theorem Launch.not_followed (between : List (Command Listener)) :
    otherEarlier ≠ earlier ++ .start :: between := by
  rintro rfl
  have first : Launch listeners (earlier ++ .start :: between) earlier between :=
    ⟨rfl, launch.succeeded⟩
  have refused := first.refused
  rw [other.succeeded] at refused
  cases refused

theorem Launch.eq_of_longer (longer : otherEarlier = earlier ++ between) :
    earlier = otherEarlier ∧ later = otherLater := by
  have same := launch.split.symm.trans other.split
  rw [longer, List.append_assoc] at same
  have rest := List.append_cancel_left same
  cases between with
  | nil =>
      cases rest
      exact ⟨by rw [longer, List.append_nil], rfl⟩
  | cons command between =>
      cases rest
      exact absurd longer (launch.not_followed other between)

/-- At most one start succeeds. -/
theorem Launch.unique : earlier = otherEarlier ∧ later = otherLater := by
  rcases List.append_eq_append_iff.mp (launch.split.symm.trans other.split) with
    ⟨between, longer, _⟩ | ⟨between, longer, _⟩
  · exact launch.eq_of_longer other longer
  · exact (other.eq_of_longer launch longer).imp Eq.symm Eq.symm

end Uniqueness

theorem awaitAll_eq_ok_iff {ending : Listener → Ending} :
    awaitAll ending listeners = .ok () ↔ ∀ listener ∈ listeners, ending listener = .finished := by
  induction listeners with
  | nil => simp [awaitAll]
  | cons first others ih =>
      rw [awaitAll, List.forall_mem_cons]
      cases ended : ending first with
      | finished => simpa [Ending.report] using ih
      | failed | cutOff => simp [Ending.report]

/-- A server is started once and stopped once.  A start is refused as a second one, with nothing
changed, exactly if an earlier one has succeeded or there are no listeners to serve; otherwise it
serves all listeners that the server was made with and leaves none pending.  At most one start
succeeds, and the server runs exactly from it to the next stop.  A stop is refused, with nothing
changed, if the server does not run; if it runs, the stop brings it down for good, and succeeds
exactly if the tasks of all listeners end well. -/
theorem started_once_then_stopped (listeners : List Listener)
    (commands : List (Command Listener)) :
    let life := (ofListeners listeners).run commands
    (life.start = (.error .alreadyStarted, life) ↔
      (∃ earlier later, Launch listeners commands earlier later) ∨ listeners = []) ∧
    (life.start = (.ok (), ⟨[], some listeners⟩) ↔
      ¬((∃ earlier later, Launch listeners commands earlier later) ∨ listeners = [])) ∧
    (∀ earlier later otherEarlier otherLater, Launch listeners commands earlier later →
      Launch listeners commands otherEarlier otherLater →
        earlier = otherEarlier ∧ later = otherLater) ∧
    (life.isRunning = true ↔ ∃ earlier later, Launch listeners commands earlier later ∧
      ∀ ending, .stop ending ∉ later) ∧
    ∀ ending,
      (life.isRunning = false → life.stop ending = (.error .notRunning, life)) ∧
      (life.isRunning = true → (life.stop ending).2 = ⟨[], none⟩ ∧
        ((life.stop ending).1 = .ok () ↔
          ∀ listener ∈ listeners, ending listener = .finished)) := by
  intro life
  have phase : Phase listeners commands life := phase_run listeners commands
  have unique := fun earlier later otherEarlier otherLater
    (launch : Launch listeners commands earlier later)
    (other : Launch listeners commands otherEarlier otherLater) => launch.unique other
  clear_value life
  cases phase with
  | waiting unlaunched =>
      have none : ¬∃ earlier later, Launch listeners commands earlier later := by
        simpa using unlaunched
      refine ⟨?_, ?_, unique, ?_, fun ending => ⟨fun _ => rfl, nofun⟩⟩
      · cases listeners <;> simp [start, none]
      · cases listeners <;> simp [start, none]
      · refine iff_of_false nofun ?_
        rintro ⟨earlier, later, launch, _⟩
        exact unlaunched earlier later launch
  | running launch unstopped =>
      refine ⟨?_, ?_, unique, ?_, fun ending => ⟨nofun, fun _ => ⟨rfl, awaitAll_eq_ok_iff⟩⟩⟩
      · exact iff_of_true rfl (Or.inl ⟨_, _, launch⟩)
      · exact iff_of_false nofun (not_not_intro (Or.inl ⟨_, _, launch⟩))
      · exact iff_of_true rfl ⟨_, _, launch, unstopped⟩
  | stopped launch stop =>
      refine ⟨?_, ?_, unique, ?_, fun ending => ⟨fun _ => rfl, nofun⟩⟩
      · exact iff_of_true rfl (Or.inl ⟨_, _, launch⟩)
      · exact iff_of_false nofun (not_not_intro (Or.inl ⟨_, _, launch⟩))
      · refine iff_of_false nofun ?_
        rintro ⟨earlier, later, other, unstopped⟩
        rw [(launch.unique other).2] at stop
        exact unstopped _ stop

/-- A server without listeners refuses its first start as a second one. -/
theorem refused_unstarted :
    (ofListeners ([] : List Net.Address)).start.1 = .error .alreadyStarted ∧
      ∀ earlier later, ¬Launch ([] : List Net.Address) [] earlier later :=
  ⟨rfl, not_launch_nil []⟩

end Lifecycle
end Endpoint
end RemoteCall
