import Mathlib.Logic.Function.Basic
import RemoteCall.Proofs.Service.Application
import RemoteCall.Sample.Objects

/-!
# Registrations that compete

Any number of registrations may have found one name free before the first of them is stored.
Nothing is said about whose step is next, so a fact about all sequences of steps holds however the
registrations are interleaved, with each other and with the calls that are served meanwhile.  What
carries over from one move to the next is that a name is taken only by a step that wins it, and
that whoever has won a name is stored under it.
-/

namespace RemoteCall

open Application

/-- A registry, and the registrations that compete for its names. -/
structure Contest (Applicant : Type) where
  registry : Registry
  progress : Applicant → Progress

namespace Contest

/-- What can happen in a contest. -/
inductive Move (Applicant : Type) where
  /-- A registration takes its next step. -/
  | step (applicant : Applicant)
  | lookUp (name : String)
  /-- An object is made for a call. -/
  | instantiate (name : String)

variable {Applicant : Type}

/-- No registration has taken a step. -/
def start (registry : Registry) : Contest Applicant := ⟨registry, fun _ => .begun⟩

/-- The registration of an applicant has been stored. -/
def Wins (contest : Contest Applicant) (applicant : Applicant) : Prop :=
  contest.progress applicant = .ended (.ok ())

/-- The name that a move looks up and what is found, if it is a look-up. -/
def finding (contest : Contest Applicant) : Move Applicant → List (String × Option Registration)
  | .lookUp name => [(name, contest.registry.find? name)]
  | .step _ | .instantiate _ => []

/-- A contest as it can be some time after it started with a registry. -/
structure Fair (applications : Applicant → Application) (initial : Registry)
    (contest : Contest Applicant) : Prop where
  sound : contest.registry.Sound
  honest : ∀ applicant,
    (applications applicant).Honest contest.registry (contest.progress applicant)
  single : ∀ first second,
    (applications first).interface.answersTo (applications second).interface.name = true →
      contest.Wins first → contest.Wins second → first = second
  earned : ∀ name, initial.find? name = none → contest.registry.find? name ≠ none →
    ∃ applicant, (applications applicant).interface.answersTo name = true ∧
      contest.Wins applicant

variable {applications : Applicant → Application} {contest : Contest Applicant}
  {initial : Registry}

theorem fair_start (applications : Applicant → Application) (sound : initial.Sound) :
    Fair applications initial (start initial) where
  sound := sound
  honest _ := trivial
  single _ _ _ wins := by cases wins
  earned _ free taken := absurd free taken

/-- A name that has been won is taken. -/
theorem Fair.taken (fair : Fair applications initial contest) {applicant : Applicant}
    (wins : contest.Wins applicant) :
    contest.registry.find? (applications applicant).interface.name ≠ none := by
  have honest := fair.honest applicant
  rw [wins] at honest
  obtain ⟨registration, runs, _, found⟩ := honest
  rw [found]
  nofun

variable [DecidableEq Applicant]

def advance (applications : Applicant → Application) (contest : Contest Applicant) :
    Move Applicant → Contest Applicant
  | .step applicant =>
      let next := (applications applicant).step contest.registry (contest.progress applicant)
      ⟨next.2, Function.update contest.progress applicant next.1⟩
  | .lookUp _ => contest
  | .instantiate name => { contest with registry := contest.registry.perform (.instantiate name) }

def run (applications : Applicant → Application) (contest : Contest Applicant)
    (moves : List (Move Applicant)) : Contest Applicant :=
  moves.foldl (advance applications) contest

/-- The names that are looked up in the course of some moves, each with what is found. -/
def findings (applications : Applicant → Application) (contest : Contest Applicant) :
    List (Move Applicant) → List (String × Option Registration)
  | [] => []
  | move :: later =>
      contest.finding move ++ findings applications (contest.advance applications move) later

/-- How many steps a registration takes in some moves. -/
def turns (applicant : Applicant) (moves : List (Move Applicant)) : Nat :=
  moves.countP fun
    | .step other => other = applicant
    | .lookUp _ | .instantiate _ => false

section Moves

@[simp]
theorem progress_advance_self (applicant : Applicant) :
    (contest.advance applications (.step applicant)).progress applicant =
      ((applications applicant).step contest.registry (contest.progress applicant)).1 :=
  Function.update_self _ _ _

theorem progress_advance_of_ne {applicant other : Applicant} (differs : other ≠ applicant) :
    (contest.advance applications (.step applicant)).progress other = contest.progress other :=
  Function.update_of_ne differs _ _

/-- A name that has been won stays won. -/
theorem Wins.advance {applicant : Applicant} (wins : contest.Wins applicant)
    (move : Move Applicant) : (contest.advance applications move).Wins applicant := by
  cases move with
  | step other =>
      by_cases same : applicant = other
      · subst same
        rw [Wins, progress_advance_self, wins]
        rfl
      · rw [Wins, progress_advance_of_ne same]
        exact wins
  | lookUp | instantiate => exact wins

variable (fair : Fair applications initial contest)

include fair

theorem Fair.grows (move : Move Applicant) :
    Registry.Grows contest.registry (contest.advance applications move).registry := by
  cases move with
  | step applicant =>
      exact (goes (applications applicant) contest.registry (contest.progress applicant)).grows
        fair.sound (fair.honest applicant)
  | lookUp name => exact .refl _
  | instantiate name => exact ⟨.instantiate name, nofun, fair.sound.changes (.instantiate name)⟩

/-- Whoever wins by a move has found the name free. -/
theorem Fair.wins_advance {move : Move Applicant} {applicant : Applicant}
    (wins : (contest.advance applications move).Wins applicant) :
    contest.Wins applicant ∨ move = .step applicant ∧
      contest.registry.find? (applications applicant).interface.name = none := by
  cases move with
  | step other =>
      by_cases same : applicant = other
      · subst same
        rw [Wins, progress_advance_self] at wins
        rcases (goes _ _ _).won (fair.honest applicant) wins with won | free
        · exact Or.inl won
        · exact Or.inr ⟨rfl, free⟩
      · rw [Wins, progress_advance_of_ne same] at wins
        exact Or.inl wins
  | lookUp | instantiate => exact Or.inl wins

theorem Fair.honest_advance (move : Move Applicant) (applicant : Applicant) :
    (applications applicant).Honest (contest.advance applications move).registry
      ((contest.advance applications move).progress applicant) := by
  have grown := (fair.honest applicant).grows (fair.grows move)
  cases move with
  | step other =>
      by_cases same : applicant = other
      · subst same
        rw [progress_advance_self]
        exact (goes _ _ _).honest (fair.honest applicant)
      · rw [progress_advance_of_ne same]
        exact grown
  | lookUp | instantiate => exact grown

/-- Two that have won one name are one. -/
theorem Fair.single_advance (move : Move Applicant) {first second : Applicant}
    (named : (applications first).interface.answersTo (applications second).interface.name = true)
    (firstWins : (contest.advance applications move).Wins first)
    (secondWins : (contest.advance applications move).Wins second) : first = second := by
  have shared : contest.registry.find? (applications first).interface.name =
      contest.registry.find? (applications second).interface.name :=
    Registry.find?_of_answersTo named
  rcases fair.wins_advance firstWins with firstWon | ⟨isFirst, firstFree⟩
  · rcases fair.wins_advance secondWins with secondWon | ⟨_, free⟩
    · exact fair.single first second named firstWon secondWon
    · exact absurd (shared.trans free) (fair.taken firstWon)
  · rcases fair.wins_advance secondWins with secondWon | ⟨isSecond, _⟩
    · exact absurd (shared.symm.trans firstFree) (fair.taken secondWon)
    · rw [isFirst] at isSecond
      cases isSecond
      rfl

/-- A name is taken only by one that wins it. -/
theorem Fair.earned_advance (move : Move Applicant) {name : String}
    (free : contest.registry.find? name = none)
    (taken : (contest.advance applications move).registry.find? name ≠ none) :
    ∃ applicant, (applications applicant).interface.answersTo name = true ∧
      (contest.advance applications move).Wins applicant := by
  cases move with
  | step applicant =>
      obtain ⟨named, won⟩ := (goes _ _ _).earned (fair.honest applicant) free taken
      exact ⟨applicant, named, (progress_advance_self applicant).trans won⟩
  | lookUp => exact absurd free taken
  | instantiate other => exact absurd (Registry.find?_perform_instantiate free other) taken

theorem Fair.advance (move : Move Applicant) :
    Fair applications initial (contest.advance applications move) where
  sound := (fair.grows move).sound fair.sound
  honest := fair.honest_advance move
  single _ _ := fair.single_advance move
  earned name wasFree taken := by
    by_cases free : contest.registry.find? name = none
    · exact fair.earned_advance move free taken
    · obtain ⟨applicant, named, won⟩ := fair.earned name wasFree free
      exact ⟨applicant, named, won.advance move⟩

end Moves

section Runs

variable {name : String} {registration : Registration}

@[simp]
theorem run_nil : contest.run applications [] = contest := rfl

@[simp]
theorem run_cons (move : Move Applicant) (later : List (Move Applicant)) :
    contest.run applications (move :: later) =
      (contest.advance applications move).run applications later := rfl

theorem Fair.run (fair : Fair applications initial contest) (moves : List (Move Applicant)) :
    Fair applications initial (contest.run applications moves) := by
  induction moves generalizing contest with
  | nil => exact fair
  | cons move later ih => exact ih (fair.advance move)

/-- What is stored under a name stays stored. -/
theorem Fair.keeps (fair : Fair applications initial contest)
    (found : contest.registry.find? name = some registration) (moves : List (Move Applicant)) :
    ∃ runs, (contest.run applications moves).registry.find? name =
      some { registration with runs := runs } := by
  induction moves generalizing contest registration with
  | nil => exact ⟨registration.runs, found⟩
  | cons move later ih =>
      obtain ⟨runs, kept⟩ := (fair.grows move).keeps found
      obtain ⟨total, stays⟩ := ih (fair.advance move) kept
      exact ⟨total, stays⟩

/-- What has been found under a name is found at every later look-up of the name. -/
theorem Fair.found_later (fair : Fair applications initial contest)
    (found : contest.registry.find? name = some registration) (moves : List (Move Applicant)) :
    ∀ finding ∈ contest.findings applications moves,
      Text.sameIgnoringCase name finding.1 = true →
        ∃ runs, finding.2 = some { registration with runs := runs } := by
  induction moves generalizing contest registration with
  | nil => exact nofun
  | cons move later ih =>
      intro finding member same
      rcases List.mem_append.mp member with now | afterwards
      · cases move with
        | lookUp other =>
            cases List.mem_singleton.mp now
            refine ⟨registration.runs, ?_⟩
            rw [← found, Registry.find?, Registry.find?, Registry.storedName,
              Registry.storedName, Text.sameIgnoringCase_iff.mp same]
        | step | instantiate => cases now
      · obtain ⟨runs, kept⟩ := (fair.grows move).keeps found
        obtain ⟨total, stays⟩ := ih (fair.advance move) kept finding afterwards same
        exact ⟨total, stays⟩

theorem Fair.pairwise_findings (fair : Fair applications initial contest)
    (moves : List (Move Applicant)) :
    (contest.findings applications moves).Pairwise fun earlier later =>
      Text.sameIgnoringCase earlier.1 later.1 = true → ∀ registration,
        earlier.2 = some registration →
          ∃ runs, later.2 = some { registration with runs := runs } := by
  induction moves generalizing contest with
  | nil => exact .nil
  | cons move later ih =>
      have rest := ih (fair.advance move)
      cases move with
      | lookUp name =>
          refine List.pairwise_cons.mpr ⟨?_, rest⟩
          intro finding member same registration found
          exact (fair.advance (.lookUp name)).found_later found later finding member same
      | step | instantiate => exact rest

theorem turns_cons_self (applicant : Applicant) (later : List (Move Applicant)) :
    turns applicant (.step applicant :: later) = turns applicant later + 1 :=
  List.countP_cons_of_pos (decide_eq_true rfl)

theorem remaining_run (applicant : Applicant) (moves : List (Move Applicant)) :
    ((contest.run applications moves).progress applicant).remaining ≤
      (contest.progress applicant).remaining - turns applicant moves := by
  induction moves generalizing contest with
  | nil => exact Nat.le_refl _
  | cons move later ih =>
      refine Nat.le_trans ih ?_
      cases move with
      | step other =>
          by_cases same : other = applicant
          · subst same
            have fewer := (goes (applications other) contest.registry
              (contest.progress other)).remaining
            rw [progress_advance_self, turns_cons_self]
            omega
          · rw [progress_advance_of_ne (Ne.symm same)]
            simp [turns, same]
      | lookUp | instantiate => simp [turns, advance]

end Runs

section Outcomes

variable {name : String} {result : Except RegistryFault Unit} {applicant : Applicant}

omit [DecidableEq Applicant]

/-- The registration of a winner is the one that is found. -/
theorem Fair.stored (fair : Fair applications initial contest) (wins : contest.Wins applicant) :
    ∃ registration runs, (applications applicant).prepare = .ok registration ∧
      contest.registry.find? (applications applicant).interface.name =
        some { registration with runs := runs } := by
  have honest := fair.honest applicant
  rw [wins] at honest
  exact honest

/-- A registration ends with what its checks say or with its name being taken. -/
theorem Fair.ended_eq (fair : Fair applications initial contest)
    (ended : contest.progress applicant = .ended result) :
    result = (applications applicant).prepare.map (fun _ => ()) ∨
      result = .error (applications applicant).opposition := by
  have honest := fair.honest applicant
  rw [ended] at honest
  cases result with
  | ok stored =>
      obtain ⟨registration, _, prepared, _⟩ := honest
      rw [prepared]
      exact Or.inl rfl
  | error fault =>
      rcases honest with unfit | ⟨isFault, _⟩
      · rw [unfit]
        exact Or.inl rfl
      · exact Or.inr (congrArg _ isFault)

/-- Once one that passes its checks has ended, its name has been won. -/
theorem Fair.exists_winner (fair : Fair applications initial contest)
    (free : initial.find? name = none)
    (named : (applications applicant).interface.answersTo name = true)
    {registration : Registration} (fit : (applications applicant).prepare = .ok registration)
    (ended : contest.progress applicant = .ended result) :
    ∃ winner, (applications winner).interface.answersTo name = true ∧ contest.Wins winner := by
  have honest := fair.honest applicant
  rw [ended] at honest
  cases result with
  | ok stored => exact ⟨applicant, named, ended⟩
  | error fault =>
      rcases honest with unfit | ⟨_, taken⟩
      · rw [fit] at unfit
        cases unfit
      · rw [Registry.find?_of_answersTo named] at taken
        exact fair.earned name free taken

end Outcomes

/-- However registrations are interleaved, with each other, with look-ups and with the making of
objects, a name is won once at most.  What is stored stays and is found at every later look-up.
The winner is the one that is found, and whoever comes too late is told that the name is taken.  A
name that is free is won if one of its registrations passes its checks, and each of them ends with
its third step. -/
theorem one_registration_wins (applications : Applicant → Application)
    (operations : List Registry.Operation) (moves : List (Move Applicant)) :
    let initial := Registry.empty.run operations
    let contest := (start initial).run applications moves
    (∀ first second, (applications first).interface.answersTo
        (applications second).interface.name = true →
      contest.Wins first → contest.Wins second → first = second) ∧
    (∀ name registration, initial.find? name = some registration →
      ∃ runs, contest.registry.find? name = some { registration with runs := runs }) ∧
    (((start initial).findings applications moves).Pairwise fun earlier later =>
      Text.sameIgnoringCase earlier.1 later.1 = true → ∀ registration,
        earlier.2 = some registration →
          ∃ runs, later.2 = some { registration with runs := runs }) ∧
    (∀ applicant, contest.Wins applicant →
      ∃ registration runs, (applications applicant).prepare = .ok registration ∧
        contest.registry.find? (applications applicant).interface.name =
          some { registration with runs := runs }) ∧
    (∀ applicant result, contest.progress applicant = .ended result →
      result = (applications applicant).prepare.map (fun _ => ()) ∨
        result = .error (.alreadyRegistered (applications applicant).interface.name)) ∧
    (∀ applicant result, contest.progress applicant = .ended result →
      ¬contest.Wins applicant → ∀ registration,
        (applications applicant).prepare = .ok registration →
          result = .error (.alreadyRegistered (applications applicant).interface.name)) ∧
    (∀ name, initial.find? name = none →
      (∀ applicant, (applications applicant).interface.answersTo name = true →
        ∃ result, contest.progress applicant = .ended result) →
      (∃ applicant registration, (applications applicant).interface.answersTo name = true ∧
        (applications applicant).prepare = .ok registration) →
      ∃! applicant, (applications applicant).interface.answersTo name = true ∧
        contest.Wins applicant) ∧
    ∀ applicant, 3 ≤ turns applicant moves →
      ∃ result, contest.progress applicant = .ended result := by
  intro initial contest
  have started : Fair applications initial (start initial) :=
    fair_start applications (Registry.sound_empty.run operations)
  have fair : Fair applications initial contest := started.run moves
  refine ⟨fair.single, ?_, started.pairwise_findings moves, fun _ => fair.stored,
    fun _ _ => fair.ended_eq, ?_, ?_, ?_⟩
  · exact fun name registration found => started.keeps found moves
  · intro applicant result ended loses registration fit
    rcases fair.ended_eq ended with isOwn | opposed
    · rw [fit] at isOwn
      exact absurd (ended.trans (congrArg _ isOwn)) loses
    · exact opposed
  · rintro name free ended ⟨applicant, registration, named, fit⟩
    obtain ⟨result, finished⟩ := ended applicant named
    obtain ⟨winner, winnerNamed, wins⟩ := fair.exists_winner free named fit finished
    refine ⟨winner, ⟨winnerNamed, wins⟩, ?_⟩
    rintro other ⟨otherNamed, otherWins⟩
    have same : Registry.storedName (applications other).interface.name =
        Registry.storedName (applications winner).interface.name :=
      (Registry.storedName_eq_iff.mpr otherNamed).symm.trans
        (Registry.storedName_eq_iff.mpr winnerNamed)
    exact fair.single other winner (Registry.storedName_eq_iff.mp same.symm) otherWins wins
  · intro applicant enough
    have spent : (contest.progress applicant).remaining ≤ 3 - turns applicant moves :=
      remaining_run applicant moves
    exact Progress.exists_of_remaining (by omega)

/-- Two registrations whose names differ in case. -/
def rivals (capital : Bool) : Application :=
  ⟨Sample.interfaceOf (if capital then "ECHO" else "Echo") ["say"],
    Sample.always (Sample.objectOf "Echo" fun _ _ => none)⟩

/-- Both have found the name free before either is stored. -/
def rivalMoves : List (Move Bool) :=
  [.step false, .step true, .step false, .step true, .step true, .lookUp "echo", .step false]

/-- The one that is stored first wins though the other has begun first. -/
theorem one_registration_wins_rivals :
    (∀ capital, 3 ≤ turns capital rivalMoves) ∧
      (∃! capital, (rivals capital).interface.answersTo "echo" = true ∧
        ((start Registry.empty).run rivals rivalMoves).Wins capital) ∧
      ((start Registry.empty).run rivals rivalMoves).Wins true ∧
      ((start Registry.empty).run rivals rivalMoves).progress false =
        .ended (.error (.alreadyRegistered "Echo")) := by
  have enough : ∀ capital, 3 ≤ turns capital rivalMoves := by decide
  obtain ⟨single, _, _, _, _, late, won, ended⟩ := one_registration_wins rivals [] rivalMoves
  have wins : ((start Registry.empty).run rivals rivalMoves).Wins true := rfl
  have loses : ¬((start Registry.empty).run rivals rivalMoves).Wins false :=
    fun both => nomatch single true false (by decide) wins both
  obtain ⟨result, finished⟩ := ended false (enough false)
  refine ⟨enough, ?_, wins, finished.trans (congrArg _ (late false result finished loses _ rfl))⟩
  exact won "echo" rfl (fun capital _ => ended capital (enough capital)) ⟨true, _, rfl, rfl⟩

end Contest
end RemoteCall
