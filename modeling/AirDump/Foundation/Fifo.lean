import AirDump.Foundation.Runs

namespace AirDump
namespace Foundation

universe u

/-!
# A lossless first-in first-out link with a recorder at its end

The abstract purpose of a byte link: items are pushed at one end, in groups of
any size, and taken one at a time at the other end, where they are recorded.
The state remembers everything ever pushed, which no implementation keeps.
The single invariant says that what was recorded, followed by what is still
under way, is everything that was pushed, in the same order.
-/

/-- Everything pushed so far, the part still under way, and the part recorded. -/
structure Fifo (Item : Type u) where
  pushed : List Item
  queue : List Item
  record : List Item

namespace Fifo

variable {Item : Type u}

/-- A sender pushes a group of items, or the recorder takes the oldest one. -/
inductive Move (Item : Type u) where
  | push (items : List Item)
  | pop

def empty : Fifo Item :=
  ⟨[], [], []⟩

def push (fifo : Fifo Item) (items : List Item) : Fifo Item where
  pushed := fifo.pushed ++ items
  queue := fifo.queue ++ items
  record := fifo.record

/-- Taking from an empty link waits, which leaves the state as it is. -/
def pop (fifo : Fifo Item) : Fifo Item :=
  match fifo.queue with
  | [] => fifo
  | oldest :: rest => { fifo with queue := rest, record := fifo.record ++ [oldest] }

def step (fifo : Fifo Item) : Move Item -> Fifo Item
  | .push items => fifo.push items
  | .pop => fifo.pop

def machine (Item : Type u) : Machine (Fifo Item) (Move Item) where
  start := empty
  step := step

/-- Nothing lost, nothing duplicated, nothing reordered. -/
def Lossless (fifo : Fifo Item) : Prop :=
  fifo.record ++ fifo.queue = fifo.pushed

theorem push_lossless (fifo : Fifo Item) (items : List Item) (lossless : fifo.Lossless) :
    (fifo.push items).Lossless := by
  unfold Lossless push at *
  rw [← List.append_assoc, lossless]

theorem pop_lossless (fifo : Fifo Item) (lossless : fifo.Lossless) :
    fifo.pop.Lossless := by
  unfold Lossless at *
  cases queued : fifo.queue with
  | nil =>
      simp only [pop, queued]
      simpa only [queued] using lossless
  | cons oldest rest =>
      simp only [pop, queued]
      rw [List.append_assoc, List.singleton_append, ← queued]
      exact lossless

theorem machine_lossless : (machine Item).Preserves Lossless where
  start := rfl
  step := by
    intro fifo move lossless
    cases move with
    | push items => exact push_lossless fifo items lossless
    | pop => exact pop_lossless fifo lossless

/-- Taking several times moves that many of the oldest items, or all of them
when there are fewer. -/
theorem foldl_pops (count : Nat) :
    forall fifo : Fifo Item,
      (List.replicate count Move.pop).foldl step fifo =
        ⟨fifo.pushed, fifo.queue.drop count, fifo.record ++ fifo.queue.take count⟩ := by
  induction count with
  | zero =>
      intro fifo
      rw [List.drop_zero, List.take_zero, List.append_nil]
      rfl
  | succ count inductionHypothesis =>
      intro fifo
      rw [List.replicate_succ, List.foldl_cons, inductionHypothesis]
      cases queued : fifo.queue with
      | nil => simp only [step, pop, queued, List.drop_nil, List.take_nil]
      | cons oldest rest =>
          simp only [step, pop, queued, List.drop_succ_cons, List.take_succ_cons,
            List.append_assoc, List.singleton_append]

end Fifo

end Foundation
end AirDump
