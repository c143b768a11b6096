import Mathlib.Data.List.Induction

namespace AirDump
namespace Foundation

universe u v

/-!
# Deterministic machines driven by labels

A machine has one starting state and exactly one successor for every label.
Whatever an environment may choose is carried by the labels, so a statement
about every interleaving of several parties is a statement about every list
of labels.  A party whose turn comes while it cannot move keeps the state.

Two rules are proved once here.  An invariant of one step is an invariant of
every run.  When a property of states is preserved by a step *exactly* under
some condition on the state before it, the property holds along a whole run
exactly when every step of that run meets the condition.
-/

/-- One starting state and one successor for every label. -/
structure Machine (State : Type u) (Label : Type v) where
  start : State
  step : State -> Label -> State

namespace Machine

variable {State : Type u} {Label : Type v}

/-- The state after a finite list of labels, the oldest label first. -/
def run (machine : Machine State Label) (labels : List Label) : State :=
  labels.foldl machine.step machine.start

@[simp] theorem run_snoc (machine : Machine State Label) (labels : List Label)
    (label : Label) :
    machine.run (labels ++ [label]) = machine.step (machine.run labels) label := by
  simp only [run, List.foldl_append, List.foldl_cons, List.foldl_nil]

theorem run_append (machine : Machine State Label) (first second : List Label) :
    machine.run (first ++ second) = second.foldl machine.step (machine.run first) := by
  simp only [run, List.foldl_append]

/-! ## Invariants of every run -/

/-- A property of the start that every single step keeps. -/
structure Preserves (machine : Machine State Label) (invariant : State -> Prop) : Prop where
  start : invariant machine.start
  step : forall state label, invariant state -> invariant (machine.step state label)

/-- What every step keeps holds in every state that a run reaches. -/
theorem Preserves.run {machine : Machine State Label} {invariant : State -> Prop}
    (preserves : machine.Preserves invariant) (labels : List Label) :
    invariant (machine.run labels) := by
  induction labels using List.reverseRecOn with
  | nil => exact preserves.start
  | append_singleton earlier label inductionHypothesis =>
      rw [run_snoc]
      exact preserves.step _ label inductionHypothesis

/-- What every single step keeps, once it holds, holds from then on. -/
theorem run_stable {machine : Machine State Label} (stable : State -> Prop)
    (keeps : forall state label, stable state -> stable (machine.step state label))
    {earlier : List Label} (holds : stable (machine.run earlier)) (later : List Label) :
    stable (machine.run (earlier ++ later)) := by
  rw [run_append]
  exact (Preserves.mk holds keeps :
    (Machine.mk (machine.run earlier) machine.step).Preserves stable).run later

/-- The exact condition of one step is the exact condition of a whole run.

The property is required at every moment of the run, the start included.
The invariant is available in the step law, and is itself no part of what is
being characterized. -/
theorem Preserves.along_iff {machine : Machine State Label} {invariant : State -> Prop}
    (preserves : machine.Preserves invariant) {property : State -> Prop}
    {condition : State -> Label -> Prop} (start : property machine.start)
    (exact_step : forall state label, invariant state -> property state ->
      (property (machine.step state label) ↔ condition state label))
    (labels : List Label) :
    (forall earlier, earlier <+: labels -> property (machine.run earlier)) ↔
      forall earlier label, earlier ++ [label] <+: labels ->
        condition (machine.run earlier) label := by
  constructor
  · intro always earlier label within
    have before := always earlier ((List.prefix_append earlier [label]).trans within)
    have after := always _ within
    rw [run_snoc] at after
    exact (exact_step _ label (preserves.run earlier) before).mp after
  · intro conditions earlier
    induction earlier using List.reverseRecOn with
    | nil => exact fun _ => start
    | append_singleton earlier label inductionHypothesis =>
        intro within
        have before := inductionHypothesis ((List.prefix_append earlier [label]).trans within)
        rw [run_snoc]
        exact (exact_step _ label (preserves.run earlier) before).mpr
          (conditions earlier label within)

/-! ## What the other labels do not touch -/

/-- A view of the states that only the chosen labels change, and in the same way
in two machines, is not changed by leaving all other labels out. -/
theorem run_filter {Shadow : Type u} {View : Type v} {machine : Machine State Label}
    {other : Machine Shadow Label} (view : State -> View) (sight : Shadow -> View)
    (chosen : Label -> Bool) (start : view machine.start = sight other.start)
    (acts : forall state shadow label, chosen label = true -> view state = sight shadow ->
      view (machine.step state label) = sight (other.step shadow label))
    (ignores : forall state label, chosen label = false ->
      view (machine.step state label) = view state)
    (labels : List Label) :
    view (machine.run labels) = sight (other.run (labels.filter chosen)) := by
  induction labels using List.reverseRecOn with
  | nil => exact start
  | append_singleton earlier label inductionHypothesis =>
      rw [run_snoc, List.filter_append, List.filter_cons, List.filter_nil]
      cases choice : chosen label with
      | true =>
          rw [if_pos rfl, run_snoc]
          exact acts _ _ label choice inductionHypothesis
      | false =>
          rw [if_neg Bool.false_ne_true, List.append_nil]
          exact (ignores _ label choice).trans inductionHypothesis

/-! ## Simulation by a more abstract machine -/

/-- Each concrete step is matched by some finite number of abstract steps.
Zero moves are allowed, so the abstract machine may ignore a concrete step. -/
structure Simulates {Shadow : Type u} {Move : Type v} (concrete : Machine State Label)
    (abstract : Machine Shadow Move) (related : State -> Shadow -> Prop) : Prop where
  start : related concrete.start abstract.start
  step : forall state shadow label, related state shadow ->
    Exists fun moves : List Move =>
      related (concrete.step state label) (moves.foldl abstract.step shadow)

/-- From related states on, every concrete continuation is matched by an
abstract one. -/
theorem Simulates.continues {Shadow : Type u} {Move : Type v}
    {concrete : Machine State Label} {abstract : Machine Shadow Move}
    {related : State -> Shadow -> Prop} (simulates : concrete.Simulates abstract related)
    (labels : List Label) :
    forall state shadow, related state shadow ->
      Exists fun moves : List Move =>
        related (labels.foldl concrete.step state) (moves.foldl abstract.step shadow) := by
  induction labels with
  | nil => exact fun _ _ matched => ⟨[], matched⟩
  | cons label rest inductionHypothesis =>
      intro state shadow matched
      rcases simulates.step state shadow label matched with ⟨moves, next⟩
      rcases inductionHypothesis _ _ next with ⟨further, after⟩
      refine ⟨moves ++ further, ?_⟩
      rw [List.foldl_append]
      exact after

/-- Every concrete run ends in a state related to the end of an abstract run. -/
theorem Simulates.run {Shadow : Type u} {Move : Type v} {concrete : Machine State Label}
    {abstract : Machine Shadow Move} {related : State -> Shadow -> Prop}
    (simulates : concrete.Simulates abstract related) (labels : List Label) :
    Exists fun moves : List Move => related (concrete.run labels) (abstract.run moves) :=
  simulates.continues labels _ _ simulates.start

/-- An abstract invariant is observed, through the relation, along every
concrete run. -/
theorem Simulates.transfer {Shadow : Type u} {Move : Type v}
    {concrete : Machine State Label} {abstract : Machine Shadow Move}
    {related : State -> Shadow -> Prop} (simulates : concrete.Simulates abstract related)
    {invariant : Shadow -> Prop} (preserves : abstract.Preserves invariant)
    (labels : List Label) :
    Exists fun shadow : Shadow => related (concrete.run labels) shadow ∧ invariant shadow := by
  rcases simulates.run labels with ⟨moves, matched⟩
  exact ⟨abstract.run moves, matched, preserves.run moves⟩

/-! ## A machine that is the image of another one -/

/-- Every state that occurs is the image of an abstract one, and each label
acts as one abstract label does.  Nothing is left out and nothing is added. -/
structure Represents {Shadow : Type u} {Move : Type v} (concrete : Machine State Label)
    (abstract : Machine Shadow Move) (image : Shadow -> State) (relabel : Label -> Move) :
    Prop where
  start : concrete.start = image abstract.start
  step : forall shadow label,
    concrete.step (image shadow) label = image (abstract.step shadow (relabel label))

theorem Represents.continues {Shadow : Type u} {Move : Type v} {concrete : Machine State Label}
    {abstract : Machine Shadow Move} {image : Shadow -> State} {relabel : Label -> Move}
    (represents : concrete.Represents abstract image relabel) (shadow : Shadow)
    (labels : List Label) :
    labels.foldl concrete.step (image shadow) =
      image ((labels.map relabel).foldl abstract.step shadow) := by
  induction labels generalizing shadow with
  | nil => rfl
  | cons label rest inductionHypothesis =>
      rw [List.foldl_cons, represents.step, inductionHypothesis, List.map_cons, List.foldl_cons]

/-- A run is the image of the run with the abstract labels. -/
theorem Represents.run {Shadow : Type u} {Move : Type v} {concrete : Machine State Label}
    {abstract : Machine Shadow Move} {image : Shadow -> State} {relabel : Label -> Move}
    (represents : concrete.Represents abstract image relabel) (labels : List Label) :
    concrete.run labels = image (abstract.run (labels.map relabel)) := by
  rw [Machine.run, represents.start, represents.continues]
  rfl

end Machine

end Foundation
end AirDump
