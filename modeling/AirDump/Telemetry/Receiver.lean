import AirDump.Connection.Calls
import Mathlib.Data.List.Infix

namespace AirDump
namespace Telemetry

open Connection

/-!
# The receiving program

This is `main.py`.  It connects once, prints the status line, and then takes
one word from the connection in every iteration of an endless loop, keeps the
first byte of the word, and prints the list of everything kept so far.

An iteration either waits for the peer, or ends the program with an exception,
or goes on.  Indexing an empty word is one of the two exceptions that the loop
can meet.
-/

/-- The exceptions that can end the loop: a failing `recv`, and the index of
an empty list. -/
inductive PythonError where
  | osError
  | indexError
deriving DecidableEq

/-- The state of the program: the connection, the list, the lines printed so
far, and the exception that ended it, if any. -/
structure Receiver where
  btconn : BluetoothConnection
  listaa : List Int
  stdout : List String
  failure : Option PythonError
deriving DecidableEq

/-- `list(word)[0]`. -/
def noteESP : List UInt8 -> Except PythonError Int
  | [] => .error .indexError
  | first :: _ => .ok (first.toNat : Int)

def bluetoothAddress : String :=
  "E0:5A:1B:C7:FF:56"

namespace Receiver

/-- The statements before the loop. -/
def start (answers : Answers) : Except ConnectionError Receiver :=
  let outcome := (BluetoothConnection.init bluetoothAddress (some 1) 1).connect answers
  match outcome.result with
  | .error error => .error error
  | .ok () => .ok ⟨outcome.object, [], [outcome.object.connection], none⟩

/-- One iteration of the loop, when this many bytes can be handed out at once.
A program that waits or has ended stays as it is. -/
def iterate (receiver : Receiver) (granted : Nat) : Receiver :=
  match receiver.failure with
  | some _ => receiver
  | none =>
      match receiver.btconn.getPressedFromBT granted with
      | (.blocked, _) => receiver
      | (.notConnected, btconn) =>
          { receiver with btconn := btconn, failure := some .osError }
      | (.bytes word, btconn) =>
          match noteESP word with
          | .error error => { receiver with btconn := btconn, failure := some error }
          | .ok note =>
              { receiver with
                btconn := btconn
                listaa := receiver.listaa ++ [note]
                stdout := receiver.stdout ++ [toString (receiver.listaa ++ [note])] }

/-- Bytes of the peer arrive at the socket. -/
def deliver (receiver : Receiver) (bytes : List UInt8) : Receiver :=
  { receiver with btconn := receiver.btconn.deliver bytes }

/-- The bytes that have arrived and were not taken yet. -/
def pending (receiver : Receiver) : List UInt8 :=
  receiver.btconn.socket.incoming

/-- The program as it enters its loop, connected on channel 1. -/
def ready : Receiver where
  btconn := (BluetoothConnection.init bluetoothAddress (some 1) 1).after
    [⟨bluetoothAddress, 1, true⟩]
  listaa := []
  stdout := ["Connected to: E0:5A:1B:C7:FF:56 : 1"]
  failure := none

/-- The program enters its loop, or ends with the exception of `connect`. -/
theorem start_eq (answers : Answers) :
    start answers = if answers [] bluetoothAddress 1 then .ok ready
      else .error (.addressNotFound "Couldn't connect to the given address.") := by
  rw [start, BluetoothConnection.connect_init]
  cases answers [] bluetoothAddress 1 with
  | true => rfl
  | false => rfl

/-! ## What the program has printed -/

/-- The status line, and after it the list as it was after each byte. -/
def Printed (receiver : Receiver) : Prop :=
  receiver.stdout = "Connected to: E0:5A:1B:C7:FF:56 : 1" ::
    receiver.listaa.inits.tail.map toString

theorem tail_inits_snoc (notes : List Int) (note : Int) :
    (notes ++ [note]).inits.tail = notes.inits.tail ++ [notes ++ [note]] := by
  have nonempty : notes.inits ≠ [] := by
    cases notes <;> exact List.cons_ne_nil _ _
  rw [List.inits_append, List.tail_append_of_ne_nil nonempty]
  rfl

/-- An iteration adds one entry to the list and prints it, or does neither. -/
theorem iterate_cases (receiver : Receiver) (granted : Nat) :
    ((receiver.iterate granted).listaa = receiver.listaa ∧
        (receiver.iterate granted).stdout = receiver.stdout) ∨
      Exists fun note : Int =>
        (receiver.iterate granted).listaa = receiver.listaa ++ [note] ∧
        (receiver.iterate granted).stdout =
          receiver.stdout ++ [toString (receiver.listaa ++ [note])] := by
  unfold iterate
  split
  · exact Or.inl ⟨rfl, rfl⟩
  · split
    · exact Or.inl ⟨rfl, rfl⟩
    · exact Or.inl ⟨rfl, rfl⟩
    · split
      · exact Or.inl ⟨rfl, rfl⟩
      · exact Or.inr ⟨_, rfl, rfl⟩

theorem iterate_printed {receiver : Receiver} (printed : receiver.Printed) (granted : Nat) :
    (receiver.iterate granted).Printed := by
  unfold Printed at *
  rcases receiver.iterate_cases granted with ⟨same, silent⟩ | ⟨note, added, shown⟩
  · rw [same, silent]
    exact printed
  · rw [added, shown, tail_inits_snoc, printed, List.map_append]
    rfl

/-! ## The loop while it is running -/

/-- The program has not ended, and takes one byte at a time from a connected
socket. -/
structure Reading (receiver : Receiver) : Prop where
  alive : receiver.failure = none
  linked : receiver.btconn.socket.isConnected = true
  single : receiver.btconn.wordSize = 1

/-- Such a program while its peer has not closed. -/
structure Running (receiver : Receiver) : Prop extends receiver.Reading where
  opened : receiver.btconn.socket.closed = false

theorem ready_running : ready.Running :=
  ⟨⟨rfl, rfl, rfl⟩, rfl⟩

theorem deliver_running {receiver : Receiver} (running : receiver.Running)
    (bytes : List UInt8) : (receiver.deliver bytes).Running :=
  ⟨⟨running.alive, running.linked, running.single⟩, running.opened⟩

/-- With nothing to take, an iteration waits. -/
theorem iterate_of_empty {receiver : Receiver} (running : receiver.Running)
    (empty : receiver.pending = []) (granted : Nat) : receiver.iterate granted = receiver := by
  have nothing : receiver.btconn.socket.incoming = [] := empty
  simp only [iterate, running.alive, BluetoothConnection.getPressedFromBT, Socket.recv,
    running.single, Nat.one_ne_zero, if_false, running.linked, nothing, running.opened,
    List.isEmpty_nil, Bool.not_false, Bool.and_self, if_true]

/-- Otherwise an iteration takes exactly the oldest byte, whatever number of
bytes could be handed out. -/
theorem iterate_of_cons {receiver : Receiver} (reading : receiver.Reading) {oldest : UInt8}
    {rest : List UInt8} (queued : receiver.pending = oldest :: rest) (granted : Nat) :
    receiver.iterate granted =
      { receiver with
        btconn := receiver.btconn.holding rest
        listaa := receiver.listaa ++ [(oldest.toNat : Int)]
        stdout := receiver.stdout ++
          [toString (receiver.listaa ++ [(oldest.toNat : Int)])] } := by
  have incoming : receiver.btconn.socket.incoming = oldest :: rest := queued
  have one : min 1 (max 1 granted) = 0 + 1 := by
    omega
  have taken : Foundation.ByteStream.chunk 1 granted (oldest :: rest) = [oldest] := by
    rw [Foundation.ByteStream.chunk, one, List.take_succ_cons, List.take_zero]
  simp only [iterate, reading.alive, BluetoothConnection.getPressedFromBT, Socket.recv,
    reading.linked, reading.single, Nat.one_ne_zero, incoming, List.isEmpty_cons, Bool.false_and,
    Bool.false_eq_true, if_false, if_true, taken, noteESP, List.length_singleton,
    List.drop_succ_cons, List.drop_zero, BluetoothConnection.holding]

/-- Taking a byte keeps the program reading, and takes nothing else. -/
theorem iterate_keeps {receiver : Receiver} (reading : receiver.Reading) {oldest : UInt8}
    {rest : List UInt8} (queued : receiver.pending = oldest :: rest) (granted : Nat) :
    (receiver.iterate granted).Reading ∧ (receiver.iterate granted).pending = rest ∧
      (receiver.iterate granted).listaa = receiver.listaa ++ [(oldest.toNat : Int)] ∧
      (receiver.iterate granted).btconn.socket.closed = receiver.btconn.socket.closed := by
  rw [iterate_of_cons reading queued]
  exact ⟨⟨reading.alive, reading.linked, reading.single⟩, rfl, rfl, rfl⟩

end Receiver

end Telemetry
end AirDump
