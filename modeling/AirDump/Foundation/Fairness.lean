import AirDump.Foundation.Runs

namespace AirDump
namespace Foundation

universe u v

/-!
# Infinite runs and progress under fairness

An infinite run is a machine with one label for every moment.  Fairness of a
party says that labels of that party occur again and again, and says nothing
about how long it takes or what happens in between.

One progress rule is proved.  A number that never falls, that rises whenever a
chosen label occurs, and that cannot pass a bound before the goal is reached,
leads to the goal.
-/

/-- It happens at some moment from every moment on. -/
def InfinitelyOften (happens : Nat -> Prop) : Prop :=
  forall time, Exists fun later : Nat => time ≤ later ∧ happens later

/-- While the goal is not reached the measure never falls, and it rises at
every chosen moment.  If it cannot reach the bound without the goal, the goal
is reached. -/
theorem InfinitelyOften.reaches {chosen goal : Nat -> Prop} (often : InfinitelyOften chosen)
    (measure : Nat -> Nat) (start bound : Nat)
    (bounded : forall time, start ≤ time -> bound ≤ measure time -> goal time)
    (keeps : forall time, start ≤ time -> ¬ goal time -> measure time ≤ measure (time + 1))
    (rises : forall time, start ≤ time -> ¬ goal time -> chosen time ->
      measure time < measure (time + 1)) :
    Exists fun time : Nat => start ≤ time ∧ goal time := by
  by_contra never
  have open_at : forall time, start ≤ time -> ¬ goal time :=
    fun time later reached => never ⟨time, later, reached⟩
  have grows : forall first extra, start ≤ first -> measure first ≤ measure (first + extra) := by
    intro first extra later
    induction extra with
    | zero => exact Nat.le_refl _
    | succ extra inductionHypothesis =>
        have further := keeps (first + extra) (by omega) (open_at _ (by omega))
        exact Nat.le_trans inductionHypothesis further
  have high : forall value, Exists fun time : Nat => start ≤ time ∧ value ≤ measure time := by
    intro value
    induction value with
    | zero => exact ⟨start, Nat.le_refl start, Nat.zero_le _⟩
    | succ value inductionHypothesis =>
        rcases inductionHypothesis with ⟨time, later, reached⟩
        rcases often time with ⟨next, afterwards, happens⟩
        have before := grows time (next - time) later
        rw [Nat.add_sub_cancel' afterwards] at before
        have above := rises next (by omega) (open_at _ (by omega)) happens
        exact ⟨next + 1, by omega, by omega⟩
  rcases high bound with ⟨time, later, reached⟩
  exact open_at time later (bounded time later reached)

/-- While the goal is not reached the number that remains never grows, and it
falls at every chosen moment.  Nothing falls for ever, so the goal is
reached. -/
theorem InfinitelyOften.exhausts {chosen goal : Nat -> Prop} (often : InfinitelyOften chosen)
    (remaining : Nat -> Nat) (start : Nat)
    (keeps : forall time, start ≤ time -> remaining (time + 1) ≤ remaining time)
    (falls : forall time, start ≤ time -> ¬ goal time -> chosen time ->
      remaining (time + 1) < remaining time) :
    Exists fun time : Nat => start ≤ time ∧ goal time := by
  have least : forall time, start ≤ time -> remaining time ≤ remaining start := by
    intro time later
    induction later with
    | refl => exact Nat.le_refl _
    | step further inductionHypothesis => exact Nat.le_trans (keeps _ further) inductionHypothesis
  apply often.reaches (fun time => remaining start - remaining time) start (remaining start + 1)
  · intro time later impossible
    omega
  · intro time later _
    exact Nat.sub_le_sub_left (keeps time later) _
  · intro time later unreached happens
    have bound := least time later
    have smaller := falls time later unreached happens
    omega

namespace Machine

variable {State : Type u} {Label : Type v}

/-- The state of an infinite run at this moment. -/
def moment (machine : Machine State Label) (labels : Nat -> Label) (time : Nat) : State :=
  machine.run ((List.range time).map labels)

theorem moment_succ (machine : Machine State Label) (labels : Nat -> Label) (time : Nat) :
    machine.moment labels (time + 1) =
      machine.step (machine.moment labels time) (labels time) := by
  simp only [moment, List.range_succ, List.map_append, List.map_cons, List.map_nil, run_snoc]

/-- A later moment is reached through the label of an earlier one. -/
theorem moment_split (machine : Machine State Label) (labels : Nat -> Label) {first later : Nat}
    (before : first < later) :
    Exists fun after : List Label => machine.moment labels later =
      machine.run ((List.range first).map labels ++ labels first :: after) := by
  induction before with
  | refl => exact ⟨[], (machine.moment_succ labels first).trans (machine.run_snoc _ _).symm⟩
  | @step later _ inductionHypothesis =>
      rcases inductionHypothesis with ⟨after, same⟩
      refine ⟨after ++ [labels later], ?_⟩
      rw [moment_succ, same, ← run_snoc, List.append_assoc, List.cons_append]

theorem Preserves.moment {machine : Machine State Label} {invariant : State -> Prop}
    (preserves : machine.Preserves invariant) (labels : Nat -> Label) (time : Nat) :
    invariant (machine.moment labels time) :=
  preserves.run _

/-- What every step keeps, once it holds, holds from then on. -/
theorem moment_stable {machine : Machine State Label} (stable : State -> Prop)
    (keeps : forall state label, stable state -> stable (machine.step state label))
    (labels : Nat -> Label) {first later : Nat} (ordered : first ≤ later)
    (holds : stable (machine.moment labels first)) : stable (machine.moment labels later) := by
  induction ordered with
  | refl => exact holds
  | step _ inductionHypothesis =>
      rw [moment_succ]
      exact keeps _ _ inductionHypothesis

/-- An infinite run is the image of the infinite run with the abstract
labels. -/
theorem Represents.moment {Shadow : Type u} {Move : Type v} {concrete : Machine State Label}
    {abstract : Machine Shadow Move} {image : Shadow -> State} {relabel : Label -> Move}
    (represents : concrete.Represents abstract image relabel) (labels : Nat -> Label)
    (time : Nat) :
    concrete.moment labels time =
      image (abstract.moment (fun index => relabel (labels index)) time) := by
  rw [Machine.moment, represents.run, List.map_map]
  rfl

end Machine

end Foundation
end AirDump
