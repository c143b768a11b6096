import Mathlib.Data.Nat.Init
import Mathlib.Data.List.Basic

namespace AirDump
namespace Foundation
namespace ByteStream

universe u

/-!
# A stream handed out in arbitrary pieces, and its fixed-size blocks

A reader that asks for at most `size` items is handed some nonempty prefix of
what remains, and nothing only when nothing remains.  How much is available at
each read is decided outside, by the `granted` numbers; every such number is
allowed, so every way of splitting the stream is covered.

A reader which keeps every piece as it comes sees the consecutive blocks of
the stream exactly when no piece was short.  The result is stated for one
splitting at a time, so it also says which splittings agree.
-/

variable {Item : Type u}

/-- One read of at most `size` items.  At least one item is handed out when
any remains, whatever the granted number is. -/
def chunk (size granted : Nat) (remaining : List Item) : List Item :=
  remaining.take (min size (max 1 granted))

/-- The block with this index when the stream is cut every `size` items. -/
def block (size index : Nat) (stream : List Item) : List Item :=
  (stream.drop (index * size)).take size

/-- The pieces handed to this many successive reads. -/
def reads (size : Nat) : (Nat -> Nat) -> List Item -> Nat -> List (List Item)
  | _, _, 0 => []
  | granted, stream, count + 1 =>
      chunk size (granted 0) stream ::
        reads size (fun index => granted (index + 1))
          (stream.drop (chunk size (granted 0) stream).length) count

@[simp] theorem length_reads (size count : Nat) (granted : Nat -> Nat) (stream : List Item) :
    (reads size granted stream count).length = count := by
  induction count generalizing granted stream with
  | zero => rfl
  | succ count inductionHypothesis => rw [reads, List.length_cons, inductionHypothesis]

/-- A read is full when enough remains and enough is granted. -/
theorem length_chunk_eq_iff (size granted : Nat) (remaining : List Item) :
    (chunk size granted remaining).length = size ↔
      size ≤ remaining.length ∧ size ≤ max 1 granted := by
  simp only [chunk, List.length_take]
  omega

theorem chunk_of_le {size granted : Nat} (enough : size ≤ max 1 granted)
    (remaining : List Item) : chunk size granted remaining = remaining.take size := by
  rw [chunk, Nat.min_eq_left enough]

theorem block_zero (size : Nat) (stream : List Item) :
    block size 0 stream = stream.take size := by
  rw [block, Nat.zero_mul, List.drop_zero]

theorem block_succ (size index : Nat) (stream : List Item) :
    block size (index + 1) stream = block size index (stream.drop size) := by
  rw [block, block, List.drop_drop, Nat.succ_mul, Nat.add_comm]

/-- The reads are the consecutive blocks, each of the full size, exactly when
every read came while a whole block remained and was granted. -/
theorem reads_eq_blocks_iff (size count : Nat) (granted : Nat -> Nat) (stream : List Item) :
    (forall index, index < count ->
      (reads size granted stream count)[index]? = some (block size index stream) ∧
        (block size index stream).length = size) ↔
      forall index, index < count ->
        (index + 1) * size ≤ stream.length ∧ size ≤ max 1 (granted index) := by
  induction count generalizing granted stream with
  | zero =>
      constructor <;> exact fun _ index below => absurd below (Nat.not_lt_zero index)
  | succ count inductionHypothesis =>
      rw [Nat.forall_lt_succ_left, Nat.forall_lt_succ_left]
      simp only [reads, List.getElem?_cons_zero, List.getElem?_cons_succ, block_zero,
        block_succ, Option.some.injEq, Nat.zero_add, Nat.one_mul]
      by_cases full : size ≤ stream.length ∧ size ≤ max 1 (granted 0)
      · have taken : (stream.take size).length = size := by
          rw [List.length_take, Nat.min_eq_left full.1]
        rw [chunk_of_le full.2, taken, inductionHypothesis]
        simp only [full, and_self, true_and, List.length_drop]
        apply forall_congr'
        intro index
        apply imp_congr_right
        intro _
        apply and_congr_left'
        have whole := full.1
        rw [Nat.succ_mul (index + 1)]
        omega
      · constructor
        · intro blocks
          have length := (congrArg List.length blocks.1.1).trans blocks.1.2
          exact absurd ((length_chunk_eq_iff _ _ _).mp length) full
        · intro enough
          exact absurd enough.1 full

end ByteStream
end Foundation
end AirDump
