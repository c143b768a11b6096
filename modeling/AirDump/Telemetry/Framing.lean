import AirDump.Foundation.ByteStream
import AirDump.Telemetry.Receiver

namespace AirDump
namespace Telemetry

open Foundation Connection

/-!
# Words that the receiver takes from a stream that ends

A word is whatever a single `recv` returns.  The loop of `main.py` indexes it
without looking at its length, and nothing collects the rest of a short one.

Here the peer has sent a finite stream and closed.  The `granted` numbers say
how much of the stream is at hand in each call, so they stand for every way in
which the stream arrives in pieces.  A call should return the next block of
the word size while one remains, and should not return bytes as a word
otherwise.  That happens exactly when every call comes while a whole block
remains and is at hand.

The loop of `main.py` uses words of a single byte, which cannot be short.  At
the end of the stream it takes the index of an empty list.
-/

/-- What this many successive calls of `getPressedFromBT` return. -/
def pressed : (Nat -> Nat) -> BluetoothConnection -> Nat -> List Socket.Received
  | _, _, 0 => []
  | granted, btconn, count + 1 =>
      (btconn.getPressedFromBT (granted 0)).1 ::
        pressed (fun index => granted (index + 1)) (btconn.getPressedFromBT (granted 0)).2 count

/-- These bytes are the block of the stream with this index, and they are of
the full size, so that their first byte can be taken. -/
structure WordAt (wordSize : Nat) (stream : List UInt8) (index : Nat) (word : List UInt8) :
    Prop where
  block : word = ByteStream.block wordSize index stream
  full : word.length = wordSize
  note : Exists fun note : Int => noteESP word = .ok note

/-- Every call returns its block while one remains, and whatever bytes a call
returns are such a block. -/
def Framed (granted : Nat -> Nat) (btconn : BluetoothConnection) (count : Nat) : Prop :=
  forall index, index < count ->
    ((index + 1) * btconn.wordSize ≤ btconn.socket.incoming.length ->
      (pressed granted btconn count)[index]? =
        some (.bytes (ByteStream.block btconn.wordSize index btconn.socket.incoming))) ∧
    forall word, (pressed granted btconn count)[index]? = some (.bytes word) ->
      WordAt btconn.wordSize btconn.socket.incoming index word

/-! ## Calls after the peer has closed -/

theorem getPressedFromBT_of_closed {btconn : BluetoothConnection}
    (linked : btconn.socket.isConnected = true) (closed : btconn.socket.closed = true)
    (granted : Nat) :
    btconn.getPressedFromBT granted =
      (.bytes (ByteStream.chunk btconn.wordSize granted btconn.socket.incoming),
        btconn.holding (btconn.socket.incoming.drop
          (ByteStream.chunk btconn.wordSize granted btconn.socket.incoming).length)) := by
  by_cases nothing : btconn.wordSize = 0
  · have none_taken : ByteStream.chunk btconn.wordSize granted btconn.socket.incoming = [] := by
      rw [ByteStream.chunk, nothing, Nat.zero_min, List.take_zero]
    simp only [BluetoothConnection.getPressedFromBT, Socket.recv, if_pos nothing, none_taken,
      List.length_nil, List.drop_zero, BluetoothConnection.holding]
  · simp only [BluetoothConnection.getPressedFromBT, Socket.recv, if_neg nothing, linked, closed,
      Bool.not_true, Bool.and_false, Bool.false_eq_true, if_false, if_true,
      BluetoothConnection.holding]

/-- The calls return the pieces of the stream as they come. -/
theorem pressed_eq_reads (granted : Nat -> Nat) (count : Nat) :
    forall btconn : BluetoothConnection,
      btconn.socket.isConnected = true -> btconn.socket.closed = true ->
        pressed granted btconn count =
          (ByteStream.reads btconn.wordSize granted btconn.socket.incoming count).map
            Socket.Received.bytes := by
  induction count generalizing granted with
  | zero => exact fun _ _ _ => rfl
  | succ count inductionHypothesis =>
      intro btconn linked closed
      rw [pressed, getPressedFromBT_of_closed linked closed, ByteStream.reads, List.map_cons]
      congr 1
      exact inductionHypothesis _ _ linked closed

/-- The words are framed exactly when the pieces are the full blocks. -/
theorem framed_iff_reads {btconn : BluetoothConnection}
    (linked : btconn.socket.isConnected = true) (closed : btconn.socket.closed = true)
    (sized : 1 ≤ btconn.wordSize) (granted : Nat -> Nat) (count : Nat) :
    Framed granted btconn count ↔
      forall index, index < count ->
        (ByteStream.reads btconn.wordSize granted btconn.socket.incoming count)[index]? =
          some (ByteStream.block btconn.wordSize index btconn.socket.incoming) ∧
        (ByteStream.block btconn.wordSize index btconn.socket.incoming).length =
          btconn.wordSize := by
  rw [Framed, pressed_eq_reads granted count btconn linked closed]
  apply forall_congr'
  intro index
  apply imp_congr_right
  intro below
  have within : index <
      (ByteStream.reads btconn.wordSize granted btconn.socket.incoming count).length := by
    rw [ByteStream.length_reads]
    exact below
  rw [List.getElem?_map, List.getElem?_eq_getElem within, Option.map_some]
  constructor
  · intro framed
    have word := framed.2 _ rfl
    exact ⟨congrArg some word.block, word.block ▸ word.full⟩
  · rintro ⟨same, full⟩
    rw [Option.some.inj same]
    refine ⟨fun _ => rfl, ?_⟩
    intro word returned
    cases returned
    refine ⟨rfl, full, ?_⟩
    cases bytes : ByteStream.block btconn.wordSize index btconn.socket.incoming with
    | nil =>
        rw [bytes, List.length_nil] at full
        omega
    | cons first rest => exact ⟨_, rfl⟩

/-- On a stream that ends, the calls return the consecutive blocks and nothing
else exactly when a whole block remains and is at hand in every call. -/
theorem framed_iff_full_reads (btconn : BluetoothConnection)
    (linked : btconn.socket.isConnected = true) (closed : btconn.socket.closed = true)
    (sized : 1 ≤ btconn.wordSize) (granted : Nat -> Nat) (count : Nat) :
    Framed granted btconn count ↔
      forall index, index < count ->
        (index + 1) * btconn.wordSize ≤ btconn.socket.incoming.length ∧
          btconn.wordSize ≤ max 1 (granted index) :=
  (framed_iff_reads linked closed sized granted count).trans
    (ByteStream.reads_eq_blocks_iff _ _ _ _)

/-- An object of the given word size, connected on channel 1 to a peer that
sent these bytes and closed. -/
def closedPeer (wordSize : Nat) (stream : List UInt8) : BluetoothConnection :=
  let btconn := (BluetoothConnection.init bluetoothAddress (some 1) wordSize).after
    [⟨bluetoothAddress, 1, true⟩]
  { btconn with socket := { btconn.socket with incoming := stream, closed := true } }

/-- Two words of two bytes, each of which is at hand in its call. -/
theorem framed_of_pairs :
    Framed (fun _ => 2) (closedPeer 2 [50, 20, 60, 21]) 2 :=
  (framed_iff_full_reads (closedPeer 2 [50, 20, 60, 21]) rfl rfl (by decide) (fun _ => 2) 2).mpr
    (by decide)

/-- Four bytes that arrive one at a time give short words, and so does a
stream that ends inside a word or before it. -/
theorem short_words_are_returned :
    ¬ Framed (fun _ => 1) (closedPeer 2 [50, 20, 60, 21]) 2 ∧
    ¬ Framed (fun _ => 2) (closedPeer 2 [50, 20, 60]) 2 ∧
    ¬ Framed (fun _ => 1) (closedPeer 1 [50]) 2 := by
  refine ⟨?_, ?_, ?_⟩
  · intro framed
    have full := ((framed 0 (by decide)).2 [50] rfl).full
    cases full
  · intro framed
    have full := ((framed 1 (by decide)).2 [60] rfl).full
    cases full
  · intro framed
    have full := ((framed 1 (by decide)).2 [] rfl).full
    cases full

/-- Only words of one byte are framed however the stream arrives. -/
theorem framed_always_iff {btconn : BluetoothConnection}
    (linked : btconn.socket.isConnected = true) (closed : btconn.socket.closed = true)
    (sized : 1 ≤ btconn.wordSize) (count : Nat) :
    (forall granted : Nat -> Nat, Framed granted btconn count) ↔
      count = 0 ∨ btconn.wordSize = 1 ∧ count ≤ btconn.socket.incoming.length := by
  simp only [framed_iff_reads linked closed sized, ByteStream.reads_eq_blocks_iff]
  constructor
  · intro framed
    rcases Nat.eq_zero_or_pos count with none_called | called
    · exact Or.inl none_called
    · have first := (framed (fun _ => 1) 0 called).2
      have single : btconn.wordSize = 1 := by
        omega
      have last := (framed (fun _ => 1) (count - 1) (by omega)).1
      rw [single, Nat.mul_one] at last
      exact Or.inr ⟨single, by omega⟩
  · rintro (none_called | ⟨single, enough⟩) granted index below
    · omega
    · rw [single]
      omega

/-- The two bytes of one reading, taken byte by byte. -/
theorem framed_always_of_singles : Framed (fun _ => 1) (closedPeer 1 [50, 20]) 2 :=
  (framed_always_iff rfl rfl (by decide) 2).mpr (Or.inr ⟨rfl, by decide⟩) (fun _ => 1)

/-! ## The loop of the program on a stream that ends -/

namespace Receiver

theorem iterate_of_failure {receiver : Receiver} {error : PythonError}
    (ended : receiver.failure = some error) (granted : Nat) :
    receiver.iterate granted = receiver := by
  simp only [iterate, ended]

/-- At the end of the stream the loop takes the index of an empty list. -/
theorem iterate_of_end {receiver : Receiver} (reading : receiver.Reading)
    (closed : receiver.btconn.socket.closed = true) (empty : receiver.pending = [])
    (granted : Nat) :
    receiver.iterate granted = { receiver with failure := some .indexError } := by
  have nothing : receiver.btconn.socket.incoming = [] := empty
  have word : ByteStream.chunk receiver.btconn.wordSize granted ([] : List UInt8) = [] := by
    rw [ByteStream.chunk, List.take_nil]
  simp only [iterate, reading.alive, getPressedFromBT_of_closed reading.linked closed, nothing,
    word, noteESP, List.drop_nil, BluetoothConnection.holding]
  rw [← nothing]

end Receiver

end Telemetry
end AirDump
