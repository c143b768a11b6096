import Mathlib.Data.Nat.Init
import Mathlib.Data.List.Basic

namespace AirDump
namespace Foundation
namespace Blocks

universe u v

/-!
# Blocks of different lengths, one after the other

A stream is made of one block for every index, and a block may be empty.  No
marker separates the blocks, so a reader sees positions only.  A position lies
at exactly one offset of exactly one block, and which one is decided by the
lengths of all the blocks before it.
-/

variable {Item : Type u}

/-- The first blocks, one after the other. -/
def joined (block : Nat -> List Item) (count : Nat) : List Item :=
  (List.range count).flatMap block

theorem joined_succ (block : Nat -> List Item) (count : Nat) :
    joined block (count + 1) = joined block count ++ block count := by
  simp only [joined, List.range_succ, List.flatMap_append, List.flatMap_cons, List.flatMap_nil,
    List.append_nil]

theorem joined_prefix_of_le (block : Nat -> List Item) {first second : Nat}
    (ordered : first ≤ second) : joined block first <+: joined block second := by
  induction ordered with
  | refl => exact List.prefix_rfl
  | step _ inductionHypothesis =>
      rw [joined_succ]
      exact inductionHypothesis.trans (List.prefix_append _ _)

/-- The blocks from `first` on, this many of them. -/
def segment (block : Nat -> List Item) (first count : Nat) : List Item :=
  joined (fun index => block (first + index)) count

theorem joined_add (block : Nat -> List Item) (first count : Nat) :
    joined block (first + count) = joined block first ++ segment block first count := by
  induction count with
  | zero => exact (List.append_nil _).symm
  | succ count inductionHypothesis =>
      rw [← Nat.add_assoc, joined_succ, inductionHypothesis, segment, segment, joined_succ,
        List.append_assoc]

/-- A function applied to every entry is applied block by block. -/
theorem map_joined {Image : Type v} (convert : Item -> Image) (block : Nat -> List Item)
    (count : Nat) :
    (joined block count).map convert = joined (fun index => (block index).map convert) count :=
  List.map_flatMap

/-- What is left of blocks that are cut off at any point: some whole blocks,
and a first part of the next one. -/
theorem prefix_joined {block : Nat -> List Item} {count : Nat} {items : List Item}
    (within : items <+: joined block count) :
    Exists fun index : Nat => Exists fun part : List Item =>
      items = joined block index ++ part ∧ part <+: block index := by
  induction count with
  | zero =>
      refine ⟨0, [], ?_, List.nil_prefix⟩
      exact List.prefix_nil.mp within
  | succ count inductionHypothesis =>
      rcases List.prefix_or_prefix_of_prefix within
        (joined_prefix_of_le block (Nat.le_succ count)) with earlier | ⟨part, same⟩
      · exact inductionHypothesis earlier
      · rw [← same, joined_succ, List.prefix_append_right_inj] at within
        exact ⟨count, part, same.symm, within⟩

/-! ## Two families of blocks -/

/-- Blocks that are as long as each other, one by one, are as long together. -/
theorem length_joined_eq {First : Type u} {Second : Type v} {first : Nat -> List First}
    {second : Nat -> List Second}
    (lengths : forall index, (first index).length = (second index).length) (count : Nat) :
    (joined first count).length = (joined second count).length := by
  induction count with
  | zero => rfl
  | succ count inductionHypothesis =>
      rw [joined_succ, joined_succ, List.length_append, List.length_append, inductionHypothesis,
        lengths]

/-- Such blocks agree together exactly when they agree one by one. -/
theorem joined_eq_joined_iff {first second : Nat -> List Item}
    (lengths : forall index, (first index).length = (second index).length) (count : Nat) :
    joined first count = joined second count ↔
      forall index, index < count -> first index = second index := by
  induction count with
  | zero => exact iff_of_true rfl (fun index below => absurd below (Nat.not_lt_zero index))
  | succ count inductionHypothesis =>
      rw [Nat.forall_lt_succ_right, ← inductionHypothesis, joined_succ, joined_succ]
      constructor
      · intro same
        exact List.append_inj same (length_joined_eq lengths count)
      · intro same
        rw [same.1, same.2]

/-! ## Positions -/

/-- What a position holds is an entry of one of the blocks, at the offset that
is left after all earlier blocks. -/
theorem joined_getElem?_iff (block : Nat -> List Item) (count position : Nat) (item : Item) :
    (joined block count)[position]? = some item ↔
      Exists fun index : Nat => Exists fun offset : Nat =>
        index < count ∧ position = (joined block index).length + offset ∧
          (block index)[offset]? = some item := by
  induction count with
  | zero =>
      constructor
      · intro impossible
        cases impossible
      · rintro ⟨index, _, below, _⟩
        exact absurd below (Nat.not_lt_zero index)
  | succ count inductionHypothesis =>
      rw [joined_succ]
      by_cases earlier : position < (joined block count).length
      · rw [List.getElem?_append_left earlier, inductionHypothesis]
        constructor
        · rintro ⟨index, offset, below, place, here⟩
          exact ⟨index, offset, Nat.lt_succ_of_lt below, place, here⟩
        · rintro ⟨index, offset, below, place, here⟩
          rcases Nat.lt_succ_iff_lt_or_eq.mp below with before | same
          · exact ⟨index, offset, before, place, here⟩
          · rw [same] at place
            omega
      · rw [List.getElem?_append_right (Nat.le_of_not_lt earlier)]
        constructor
        · intro here
          exact ⟨count, position - (joined block count).length, Nat.lt_succ_self count,
            by omega, here⟩
        · rintro ⟨index, offset, below, place, here⟩
          rcases Nat.lt_succ_iff_lt_or_eq.mp below with before | same
          · have inside := (List.getElem?_eq_some_iff.mp here).1
            have end_of_block : (joined block (index + 1)).length ≤ (joined block count).length :=
              (joined_prefix_of_le block before).length_le
            rw [joined_succ, List.length_append] at end_of_block
            omega
          · rw [same] at place here
            rw [place, Nat.add_sub_cancel_left]
            exact here

/-- No position lies in two blocks. -/
theorem place_unique (block : Nat -> List Item) {first second firstOffset secondOffset : Nat}
    (firstInside : firstOffset < (block first).length)
    (secondInside : secondOffset < (block second).length)
    (same : (joined block first).length + firstOffset =
      (joined block second).length + secondOffset) :
    first = second ∧ firstOffset = secondOffset := by
  have ends : forall index later : Nat, index < later ->
      (joined block index).length + (block index).length ≤ (joined block later).length := by
    intro index later before
    have within := (joined_prefix_of_le block before).length_le
    rw [joined_succ, List.length_append] at within
    exact within
  rcases Nat.lt_trichotomy first second with less | equal | more
  · have bound := ends first second less
    omega
  · rw [equal] at same
    exact ⟨equal, by omega⟩
  · have bound := ends second first more
    omega

end Blocks
end Foundation
end AirDump
