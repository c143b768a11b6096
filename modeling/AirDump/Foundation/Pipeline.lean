import AirDump.Foundation.Fairness
import Mathlib.Order.MinMax
import Mathlib.Order.Monotone.Basic
import Mathlib.Order.Nat

namespace AirDump
namespace Foundation

/-!
# A producer and a consumer that share nothing but a stream

The producer works in rounds, and what a round yields depends on the number of
the round alone.  The consumer takes the yield one item at a time.  All that
can then be said about a moment is how many rounds were made and how many
items were taken.

The two numbers are kept together with the proof that they are possible.
Every such pair is reached by some interleaving, any two have a common
continuation, and under fairness every one of them is passed.
-/

/-- Whether there is a further round, and how many items the first rounds
yield together. -/
structure Pipeline where
  more : Nat -> Bool
  size : Nat -> Nat
  grows : forall made, size made ≤ size (made + 1)

namespace Pipeline

theorem size_mono (pipeline : Pipeline) {first second : Nat} (ordered : first ≤ second) :
    pipeline.size first ≤ pipeline.size second :=
  monotone_nat_of_le_succ pipeline.grows ordered

/-- How far the two parties are, with the proof that this is possible. -/
@[ext] structure Progress (pipeline : Pipeline) where
  made : Nat
  taken : Nat
  possible : forall round, round < made -> pipeline.more round = true
  within : taken ≤ pipeline.size made

/-- The producer makes a round, or the consumer takes an item. -/
inductive Move where
  | make
  | take

variable {pipeline : Pipeline}

namespace Progress

def start : Progress pipeline where
  made := 0
  taken := 0
  possible := fun _ below => absurd below (Nat.not_lt_zero _)
  within := Nat.zero_le _

/-- Without a further round nothing happens. -/
def make (progress : Progress pipeline) : Progress pipeline :=
  if further : pipeline.more progress.made = true then
    { made := progress.made + 1
      taken := progress.taken
      possible := Nat.forall_lt_succ_right.mpr ⟨progress.possible, further⟩
      within := progress.within.trans (pipeline.grows progress.made) }
  else
    progress

/-- Without an item the consumer waits. -/
def take (progress : Progress pipeline) : Progress pipeline :=
  if ready : progress.taken < pipeline.size progress.made then
    { progress with
      taken := progress.taken + 1
      within := ready }
  else
    progress

def step (progress : Progress pipeline) : Move -> Progress pipeline
  | .make => progress.make
  | .take => progress.take

theorem make_of_more {progress : Progress pipeline}
    (further : pipeline.more progress.made = true) :
    progress.make.made = progress.made + 1 ∧ progress.make.taken = progress.taken := by
  rw [make, dif_pos further]
  exact ⟨rfl, rfl⟩

theorem take_of_lt {progress : Progress pipeline}
    (ready : progress.taken < pipeline.size progress.made) :
    progress.take.made = progress.made ∧ progress.take.taken = progress.taken + 1 := by
  rw [take, dif_pos ready]
  exact ⟨rfl, rfl⟩

/-- At least as far on both sides. -/
def Before (first second : Progress pipeline) : Prop :=
  first.made ≤ second.made ∧ first.taken ≤ second.taken

theorem before_step (progress : Progress pipeline) (move : Move) :
    progress.Before (progress.step move) := by
  cases move with
  | make =>
      change progress.Before progress.make
      by_cases further : pipeline.more progress.made = true
      · have next := make_of_more further
        exact ⟨by omega, by omega⟩
      · rw [make, dif_neg further]
        exact ⟨Nat.le_refl _, Nat.le_refl _⟩
  | take =>
      change progress.Before progress.take
      by_cases ready : progress.taken < pipeline.size progress.made
      · have next := take_of_lt ready
        exact ⟨by omega, by omega⟩
      · rw [take, dif_neg ready]
        exact ⟨Nat.le_refl _, Nat.le_refl _⟩

theorem before_steps (progress : Progress pipeline) (moves : List Move) :
    progress.Before (moves.foldl step progress) := by
  induction moves generalizing progress with
  | nil => exact ⟨Nat.le_refl _, Nat.le_refl _⟩
  | cons move rest inductionHypothesis =>
      have first := before_step progress move
      have later := inductionHypothesis (progress.step move)
      exact ⟨first.1.trans later.1, first.2.trans later.2⟩

end Progress

def machine (pipeline : Pipeline) : Machine (Progress pipeline) Move where
  start := Progress.start
  step := Progress.step

/-! ## What can be reached -/

theorem makes_reach (goal : Progress pipeline) (rounds : Nat) :
    forall progress : Progress pipeline, progress.made + rounds = goal.made ->
      Exists fun moves : List Move =>
        (moves.foldl Progress.step progress).made = goal.made ∧
        (moves.foldl Progress.step progress).taken = progress.taken := by
  induction rounds with
  | zero => exact fun progress there => ⟨[], there, rfl⟩
  | succ rounds inductionHypothesis =>
      intro progress away
      have next := Progress.make_of_more (goal.possible progress.made (by omega))
      rcases inductionHypothesis progress.make (by omega) with ⟨moves, made, taken⟩
      exact ⟨.make :: moves, made, taken.trans next.2⟩

theorem takes_reach (goal : Progress pipeline) (items : Nat) :
    forall progress : Progress pipeline, progress.made = goal.made ->
      progress.taken + items = goal.taken ->
        Exists fun moves : List Move => moves.foldl Progress.step progress = goal := by
  induction items with
  | zero => exact fun progress made taken => ⟨[], Progress.ext made taken⟩
  | succ items inductionHypothesis =>
      intro progress made away
      have ready : progress.taken < pipeline.size progress.made := by
        have within := goal.within
        rw [made]
        omega
      have next := Progress.take_of_lt ready
      rcases inductionHypothesis progress.take (by omega) (by omega) with ⟨moves, there⟩
      exact ⟨.take :: moves, there⟩

/-- Exactly what is at least as far can still be reached. -/
theorem reaches_iff (progress goal : Progress pipeline) :
    (Exists fun moves : List Move => moves.foldl Progress.step progress = goal) ↔
      progress.Before goal := by
  constructor
  · rintro ⟨moves, there⟩
    rw [← there]
    exact progress.before_steps moves
  · intro before
    rcases makes_reach goal (goal.made - progress.made) progress
      (Nat.add_sub_cancel' before.1) with ⟨makes, made, taken⟩
    rcases takes_reach goal (goal.taken - progress.taken) (makes.foldl Progress.step progress) made
      (by rw [taken]; exact Nat.add_sub_cancel' before.2) with ⟨takes, there⟩
    refine ⟨makes ++ takes, ?_⟩
    rw [List.foldl_append]
    exact there

/-- Every possible progress is reached from the start. -/
theorem exists_run (goal : Progress pipeline) :
    Exists fun moves : List Move => pipeline.machine.run moves = goal :=
  (reaches_iff Progress.start goal).mpr ⟨Nat.zero_le _, Nat.zero_le _⟩

theorem moment_mono (pipeline : Pipeline) (moves : Nat -> Move) {first later : Nat} (ordered : first ≤ later) :
    (pipeline.machine.moment moves first).Before (pipeline.machine.moment moves later) := by
  induction ordered with
  | refl => exact ⟨Nat.le_refl _, Nat.le_refl _⟩
  | @step later _ inductionHypothesis =>
      rw [Machine.moment_succ]
      have next := Progress.before_step (pipeline.machine.moment moves later) (moves later)
      exact ⟨inductionHypothesis.1.trans next.1, inductionHypothesis.2.trans next.2⟩

/-- When both parties move again and again, every possible progress is passed. -/
theorem fair_passes {moves : Nat -> Move}
    (makes : InfinitelyOften (fun time => moves time = .make))
    (takes : InfinitelyOften (fun time => moves time = .take)) (goal : Progress pipeline) :
    Exists fun time : Nat => goal.Before (pipeline.machine.moment moves time) := by
  have step_mono : forall time : Nat, (pipeline.machine.moment moves time).Before
      (pipeline.machine.moment moves (time + 1)) :=
    fun time => pipeline.moment_mono moves (Nat.le_succ time)
  have all_made := makes.reaches
    (fun time => (pipeline.machine.moment moves time).made) 0 goal.made
    (fun _ _ reached => reached) (fun time _ _ => (step_mono time).1) (by
      intro time _ missing now
      have next := Progress.make_of_more
        (goal.possible (pipeline.machine.moment moves time).made (Nat.lt_of_not_le missing))
      rw [Machine.moment_succ, now]
      change _ < (Progress.make _).made
      omega)
  rcases all_made with ⟨first, _, made⟩
  have all_taken := takes.reaches
    (fun time => (pipeline.machine.moment moves time).taken) first goal.taken
    (fun _ _ reached => reached) (fun time _ _ => (step_mono time).2) (by
      intro time after missing now
      have enough := pipeline.size_mono (made.trans (pipeline.moment_mono moves after).1)
      have ready := (Nat.lt_of_not_le missing).trans_le (goal.within.trans enough)
      have next := Progress.take_of_lt ready
      rw [Machine.moment_succ, now]
      change _ < (Progress.take _).taken
      omega)
  rcases all_taken with ⟨later, after, taken⟩
  exact ⟨later, made.trans (pipeline.moment_mono moves after).1, taken⟩

end Pipeline

end Foundation
end AirDump
