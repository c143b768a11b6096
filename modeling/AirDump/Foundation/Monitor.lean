import AirDump.Foundation.Blocks

namespace AirDump
namespace Foundation
namespace Monitor

universe u v

/-!
# Watching a trace of actions

A watcher reads a trace from the oldest action on and keeps a state of its
own.  At each action it either moves on or objects.  What a watcher that never
objects says about the trace is proved once for the watcher.  That a program
never makes it object is then a matter of one block of the program at a time.
-/

variable {State : Type u} {Action : Type v}

/-- The state of the watcher after a trace to which it did not object. -/
def watch (allow : State -> Action -> Option State) : State -> List Action -> Option State
  | state, [] => some state
  | state, action :: rest => (allow state action).bind (fun next => watch allow next rest)

theorem watch_append (allow : State -> Action -> Option State) (state : State)
    (first second : List Action) :
    watch allow state (first ++ second) =
      (watch allow state first).bind (fun middle => watch allow middle second) := by
  induction first generalizing state with
  | nil => rfl
  | cons action rest inductionHypothesis =>
      rw [List.cons_append, watch, watch]
      cases allow state action with
      | none => rfl
      | some next => exact inductionHypothesis next

/-- A watched trace was watched at every point of it. -/
theorem watch_split {allow : State -> Action -> Option State} {state final : State}
    {first second : List Action}
    (watched : watch allow state (first ++ second) = some final) :
    Exists fun middle : State =>
      watch allow state first = some middle ∧ watch allow middle second = some final := by
  rw [watch_append] at watched
  exact Option.bind_eq_some_iff.mp watched

theorem watch_cons {allow : State -> Action -> Option State} {state final : State}
    {action : Action} {rest : List Action}
    (watched : watch allow state (action :: rest) = some final) :
    Exists fun next : State =>
      allow state action = some next ∧ watch allow next rest = some final :=
  Option.bind_eq_some_iff.mp watched

/-- A relation between the states before and after a part of the trace holds
of every part when it holds of nothing, of single actions, and of two parts
one after the other. -/
theorem related_of_watch {allow : State -> Action -> Option State}
    {related : State -> List Action -> State -> Prop} (empty : forall state, related state [] state)
    (append : forall {state action next rest final}, allow state action = some next ->
      related next rest final -> related state (action :: rest) final)
    (trace : List Action) :
    forall {state final}, watch allow state trace = some final -> related state trace final := by
  induction trace with
  | nil =>
      intro state final watched
      rw [← Option.some.inj watched]
      exact empty state
  | cons action rest inductionHypothesis =>
      intro state final watched
      rcases watch_cons watched with ⟨next, allowed, later⟩
      exact append allowed (inductionHypothesis later)

/-- Blocks that each leave the watcher ready for the next one can be watched
one after the other. -/
theorem watch_joined {allow : State -> Action -> Option State} {block : Nat -> List Action}
    {ready : State -> Prop}
    (keeps : forall index state, ready state ->
      Exists fun next : State => watch allow state (block index) = some next ∧ ready next)
    (count : Nat) {state : State} (start : ready state) :
    Exists fun final : State =>
      watch allow state (Blocks.joined block count) = some final ∧ ready final := by
  induction count with
  | zero => exact ⟨state, rfl, start⟩
  | succ count inductionHypothesis =>
      rcases inductionHypothesis with ⟨middle, watched, before⟩
      rcases keeps count middle before with ⟨final, further, after⟩
      refine ⟨final, ?_, after⟩
      rw [Blocks.joined_succ, watch_append, watched]
      exact further

end Monitor
end Foundation
end AirDump
