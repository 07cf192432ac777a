import Mathlib.Algebra.Ring.Nat
import RemoteCall.Http.Body

/-!
# Bodies are gathered as a whole or not at all

A frame passes if its own wait is within the bound and it reports no error.  A frame that passes
adds its data to the content and its wait to the time, and leaves everything else to the frames
after it, so the first frame that does not pass decides what becomes of the body, or else its end
does.  No other property of a body matters: neither how much of it has arrived before, nor how long
that took in total.
-/

namespace RemoteCall
namespace Body

/-- The data that a frame brings.  Trailers bring none. -/
def Frame.bytes : Frame → Bytes
  | .data bytes => bytes
  | .trailers _ | .broken _ => []

namespace Stream

/-- All waits of a body, the one for its end last. -/
def waits (body : Stream) : List Nat := body.frames.map TimedFrame.wait ++ [body.ending]

/-- The data of all frames, in their order. -/
def content (body : Stream) : Bytes := body.frames.flatMap fun timed => timed.frame.bytes

/-- None of the frames reports an error. -/
def Unbroken (body : Stream) : Prop :=
  ∀ timed ∈ body.frames, ∀ explanation, timed.frame ≠ .broken explanation

/-- No wait is longer than the bound, if there is one. -/
def Prompt (bound : Option Nat) (body : Stream) : Prop :=
  ∀ limit, bound = some limit → ∀ wait ∈ body.waits, wait ≤ limit

end Stream

namespace Gathered

/-- What is gathered, with data in front that came before it.  A failure has no place for data. -/
def after (data : Bytes) (gathered : Gathered) : Gathered :=
  ⟨gathered.result.map (data ++ ·), gathered.elapsed⟩

variable (gathered : Gathered)

@[simp]
theorem after_nil : gathered.after [] = gathered := by
  obtain ⟨result, elapsed⟩ := gathered
  cases result <;> rfl

@[simp]
theorem after_after (first second : Bytes) :
    (gathered.after second).after first = gathered.after (first ++ second) := by
  obtain ⟨result, elapsed⟩ := gathered
  cases result with
  | error fault => rfl
  | ok bytes => simp [after, Except.map]

end Gathered

/-- A frame after which gathering goes on. -/
structure Passes (bound : Option Nat) (timed : TimedFrame) : Prop where
  timely : overdue bound timed.wait = false
  unbroken : ∀ explanation, timed.frame ≠ .broken explanation

/-- What is left of a body ends the gathering at once, for a reason. -/
inductive CutsShort (bound : Option Nat) (ending : Nat) : List TimedFrame → Fault → Prop where
  | unended (late : overdue bound ending = true) : CutsShort bound ending [] .inactive
  | late {timed : TimedFrame} (late : overdue bound timed.wait = true) (later : List TimedFrame) :
      CutsShort bound ending (timed :: later) .inactive
  | broken {wait : Nat} (timely : overdue bound wait = false) (explanation : String)
      (later : List TimedFrame) :
      CutsShort bound ending (⟨wait, .broken explanation⟩ :: later) (.broken explanation)

section Steps

variable {bound : Option Nat} {ending elapsed wait : Nat} {timed : TimedFrame}
  {earlier later : List TimedFrame} {fault : Fault}

theorem overdue_eq_false_iff :
    overdue bound wait = false ↔ ∀ limit, bound = some limit → wait ≤ limit := by
  cases bound with
  | none => simp [overdue]
  | some limit => simp [overdue]

/-- A frame that passes adds its data and its wait. -/
theorem gatherFrom_of_passes (passes : Passes bound timed) :
    gatherFrom bound ending elapsed (timed :: later) =
      (gatherFrom bound ending (elapsed + timed.wait) later).after timed.frame.bytes := by
  obtain ⟨wait, frame⟩ := timed
  rw [gatherFrom, passes.timely, if_neg Bool.false_ne_true]
  cases frame with
  | data bytes => rfl
  | trailers fields => exact (Gathered.after_nil _).symm
  | broken explanation => exact absurd rfl (passes.unbroken explanation)

/-- So do several frames one after another. -/
theorem gatherFrom_append (passes : ∀ timed ∈ earlier, Passes bound timed) :
    gatherFrom bound ending elapsed (earlier ++ later) =
      (gatherFrom bound ending (elapsed + (earlier.map TimedFrame.wait).sum) later).after
        (earlier.flatMap fun timed => timed.frame.bytes) := by
  induction earlier generalizing elapsed with
  | nil => exact (Gathered.after_nil _).symm
  | cons first others ih =>
      obtain ⟨passesFirst, passesOthers⟩ := List.forall_mem_cons.mp passes
      rw [List.cons_append, gatherFrom_of_passes passesFirst, ih passesOthers,
        Gathered.after_after, List.map_cons, List.sum_cons, List.flatMap_cons, Nat.add_assoc]

/-- What ends the gathering loses what the frames before have brought. -/
theorem result_of_cutsShort (cuts : CutsShort bound ending later fault) :
    (gatherFrom bound ending elapsed later).result = .error fault := by
  cases cuts with
  | unended late | late late => rw [gatherFrom, late, if_pos rfl]
  | broken timely explanation others => rw [gatherFrom, timely, if_neg Bool.false_ne_true]

/-- Frames that do not all pass, or that are followed by a late end, are cut short somewhere. -/
theorem exists_cutsShort {frames : List TimedFrame}
    (stops : ¬((∀ timed ∈ frames, Passes bound timed) ∧ overdue bound ending = false)) :
    ∃ earlier later fault, frames = earlier ++ later ∧ (∀ timed ∈ earlier, Passes bound timed) ∧
      CutsShort bound ending later fault := by
  induction frames with
  | nil =>
      have late : overdue bound ending = true := by simpa using stops
      exact ⟨[], [], _, rfl, nofun, .unended late⟩
  | cons first others ih =>
      obtain ⟨wait, frame⟩ := first
      cases due : overdue bound wait with
      | true => exact ⟨[], _, _, rfl, nofun, .late due others⟩
      | false =>
          by_cases isBroken : ∃ explanation, frame = .broken explanation
          · obtain ⟨explanation, rfl⟩ := isBroken
            exact ⟨[], _, _, rfl, nofun, .broken due explanation others⟩
          · have passes : Passes bound ⟨wait, frame⟩ := ⟨due, not_exists.mp isBroken⟩
            obtain ⟨earlier, later, fault, rfl, passesEarlier, cuts⟩ :=
              ih fun all => stops ⟨List.forall_mem_cons.mpr ⟨passes, all.1⟩, all.2⟩
            exact ⟨_ :: earlier, later, fault, rfl,
              List.forall_mem_cons.mpr ⟨passes, passesEarlier⟩, cuts⟩

end Steps

section Bodies

variable {bound : Option Nat} {body : Stream}

/-- Every frame passes and the end is in time exactly if no frame reports an error and no wait is
too long. -/
theorem passes_iff :
    ((∀ timed ∈ body.frames, Passes bound timed) ∧ overdue bound body.ending = false) ↔
      body.Unbroken ∧ body.Prompt bound := by
  constructor
  · rintro ⟨passes, timely⟩
    refine ⟨fun timed member => (passes timed member).unbroken, fun limit isBound wait member => ?_⟩
    rcases List.mem_append.mp member with inside | last
    · obtain ⟨timed, isFrame, rfl⟩ := List.mem_map.mp inside
      exact overdue_eq_false_iff.mp (passes timed isFrame).timely limit isBound
    · cases List.mem_singleton.mp last
      exact overdue_eq_false_iff.mp timely limit isBound
  · rintro ⟨unbroken, prompt⟩
    refine ⟨fun timed member => ⟨?_, unbroken timed member⟩, ?_⟩
    · exact overdue_eq_false_iff.mpr fun limit isBound =>
        prompt limit isBound _ (List.mem_append_left _ (List.mem_map_of_mem member))
    · exact overdue_eq_false_iff.mpr fun limit isBound =>
        prompt limit isBound _ (List.mem_append_right _ (List.mem_singleton_self _))

theorem gather_of_passes (passes : ∀ timed ∈ body.frames, Passes bound timed)
    (timely : overdue bound body.ending = false) :
    gather bound body = ⟨.ok body.content, body.waits.sum⟩ := by
  have gathered : gatherFrom bound body.ending 0 (body.frames ++ []) = _ :=
    gatherFrom_append passes
  rw [List.append_nil, gatherFrom, timely, if_neg Bool.false_ne_true] at gathered
  rw [gather, gathered, Stream.waits, Stream.content]
  simp [Gathered.after, Except.map]

theorem result_gather_of_cutsShort {earlier later : List TimedFrame} {fault : Fault}
    (frames : body.frames = earlier ++ later) (passes : ∀ timed ∈ earlier, Passes bound timed)
    (cuts : CutsShort bound body.ending later fault) :
    (gather bound body).result = .error fault := by
  rw [gather, frames, gatherFrom_append passes, Gathered.after, result_of_cutsShort cuts]
  rfl

/-- The bound is for each wait alone. -/
example : (gather (some 20) (.ofFrames [⟨20, .data [97]⟩, ⟨20, .trailers .empty⟩,
    ⟨20, .data [98]⟩])).result = .ok [97, 98] := rfl

end Bodies

end Body
end RemoteCall
