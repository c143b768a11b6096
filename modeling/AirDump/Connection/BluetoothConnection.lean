import AirDump.Connection.Socket

namespace AirDump
namespace Connection

open Foundation

/-!
# The connection object of the receiving computer

This is `bluetoothConnection.py`, method by method.  A method that raises
keeps the changes it made before, so every outcome carries the object as well
as the result.  The scan over the channels is one structural recursion over
the iterations that are left, and its exceptions are swallowed as the source
swallows them.

What a call can do is then said once, in `Performed`: which attempts it made
on the socket, what they were answered, what it returned or raised, and the
object it left.  All later results about calls go through that case analysis.
-/

/-- The two exception classes of the module, with their messages. -/
inductive ConnectionError where
  | addressNotFound (message : String)
  | alreadyConnected (message : String)
deriving DecidableEq

/-- The fields that the constructor sets. -/
structure BluetoothConnection where
  address : String
  port : Option Int
  socket : Socket
  connected : Bool
  wordSize : Nat
deriving DecidableEq

/-- What a method returned or raised, and the object afterwards. -/
structure Outcome (Result : Type) where
  result : Except ConnectionError Result
  object : BluetoothConnection

def Outcome.map {First Second : Type} (convert : First -> Second) (outcome : Outcome First) :
    Outcome Second :=
  ⟨outcome.result.map convert, outcome.object⟩

/-- The bound of `range(99999)`. -/
def channelCount : Nat :=
  99999

namespace BluetoothConnection

/-- `__init__(address, port, wordSize)`, with its defaults. -/
def init (address : String) (port : Option Int := none) (wordSize : Nat := 1) :
    BluetoothConnection where
  address := address
  port := port
  socket := Socket.fresh
  connected := false
  wordSize := wordSize

/-- The loop of `tryFindPort`, with this many iterations left, from channel
`i` on.  A refused attempt is swallowed and the loop goes on. -/
def tryFindPortFrom (answers : Answers) : Nat -> Nat -> BluetoothConnection -> Outcome Int
  | 0, _, self =>
      ⟨.error (.addressNotFound "Couldn't connect to the given address."), self⟩
  | remaining + 1, i, self =>
      match self.socket.connect answers self.address i with
      | (true, socket) => ⟨.ok i, { self with socket := socket, connected := true }⟩
      | (false, socket) =>
          tryFindPortFrom answers remaining (i + 1) { self with socket := socket }

def tryFindPort (self : BluetoothConnection) (answers : Answers) : Outcome Int :=
  tryFindPortFrom answers channelCount 0 self

def connect (self : BluetoothConnection) (answers : Answers) : Outcome Unit :=
  if self.connected then
    ⟨.error (.alreadyConnected "Device already connected."), self⟩
  else
    match self.port with
    | some port =>
        match self.socket.connect answers self.address port with
        | (true, socket) => ⟨.ok (), { self with socket := socket, connected := true }⟩
        | (false, socket) =>
            ⟨.error (.addressNotFound "Couldn't connect to the given address."),
              { self with socket := socket }⟩
    | none =>
        ⟨.error (.addressNotFound "Bluetooth connection does not have any port."), self⟩

/-- `str(port)` of a port that is an integer or `None`. -/
def portText : Option Int -> String
  | some port => toString port
  | none => "None"

def connection (self : BluetoothConnection) : String :=
  if self.connected then
    "Connected to: " ++ self.address ++ " : " ++ portText self.port
  else
    "not connected yet."

/-- One `recv` of the word size, returned as it comes. -/
def getPressedFromBT (self : BluetoothConnection) (granted : Nat) :
    Socket.Received × BluetoothConnection :=
  match self.socket.recv granted self.wordSize with
  | (received, socket) => (received, { self with socket := socket })

/-- The object when its socket holds these bytes of the peer. -/
def holding (self : BluetoothConnection) (incoming : List UInt8) : BluetoothConnection :=
  { self with socket := { self.socket with incoming := incoming } }

/-- Bytes of the peer arrive at the socket. -/
def deliver (self : BluetoothConnection) (bytes : List UInt8) : BluetoothConnection :=
  self.holding (self.socket.incoming ++ bytes)

/-- Receiving takes bytes from the socket and touches nothing else. -/
theorem getPressedFromBT_eq_holding (self : BluetoothConnection) (granted : Nat) :
    Exists fun incoming : List UInt8 =>
      (self.getPressedFromBT granted).2 = self.holding incoming := by
  unfold getPressedFromBT Socket.recv
  split_ifs
  · exact ⟨self.socket.incoming, rfl⟩
  · exact ⟨self.socket.incoming, rfl⟩
  · exact ⟨_, rfl⟩
  · exact ⟨self.socket.incoming, rfl⟩

/-! ## The object after some attempts -/

/-- The object after these attempts on its socket.  The flag is raised by an
attempt that succeeded, and nothing else is written. -/
def after (self : BluetoothConnection) (made : List Attempt) : BluetoothConnection :=
  { self with
    socket := self.socket.tried made
    connected := self.connected || made.any Attempt.accepted }

@[simp] theorem after_nil (self : BluetoothConnection) : self.after [] = self := by
  cases self
  simp only [after, Socket.tried_nil, List.any_nil, Bool.or_false]

theorem after_after (self : BluetoothConnection) (first second : List Attempt) :
    (self.after first).after second = self.after (first ++ second) := by
  simp only [after, Socket.tried_tried, List.any_append, Bool.or_assoc]

@[simp] theorem address_after (self : BluetoothConnection) (made : List Attempt) :
    (self.after made).address = self.address :=
  rfl

@[simp] theorem port_after (self : BluetoothConnection) (made : List Attempt) :
    (self.after made).port = self.port :=
  rfl

@[simp] theorem socket_after (self : BluetoothConnection) (made : List Attempt) :
    (self.after made).socket = self.socket.tried made :=
  rfl

@[simp] theorem connected_after (self : BluetoothConnection) (made : List Attempt) :
    (self.after made).connected = (self.connected || made.any Attempt.accepted) :=
  rfl

/-- Refused attempts leave the flag as it is. -/
theorem connected_after_refused (self : BluetoothConnection) {made : List Attempt}
    (refused : forall attempt, attempt ∈ made -> attempt.accepted = false) :
    (self.after made).connected = self.connected := by
  rw [connected_after, any_accepted_of_refused refused, Bool.or_false]

/-- An attempt that succeeded raises the flag. -/
theorem connected_after_accepted (self : BluetoothConnection) (made : List Attempt)
    (address : String) (channel : Int) :
    (self.after (made ++ [⟨address, channel, true⟩])).connected = true := by
  simp only [connected_after, List.any_append, List.any_cons, Bool.true_or, Bool.or_true]

theorem connect_accepted (self : BluetoothConnection) (address : String) (channel : Int) :
    { self with
      socket := self.socket.tried [⟨address, channel, true⟩]
      connected := true } = self.after [⟨address, channel, true⟩] := by
  simp only [after, List.any_cons, Bool.true_or, Bool.or_true]

theorem connect_refused (self : BluetoothConnection) (address : String) (channel : Int) :
    { self with socket := self.socket.tried [⟨address, channel, false⟩] } =
      self.after [⟨address, channel, false⟩] := by
  simp only [after, List.any_cons, List.any_nil, Bool.or_false]

/-! ## What a scan over the channels does -/

/-- The refused attempts of a scan that has passed this many channels. -/
def refusals (address : String) (count : Nat) : List Attempt :=
  (List.range count).map (fun i : Nat => ⟨address, (i : Int), false⟩)

@[simp] theorem refusals_zero (address : String) : refusals address 0 = [] :=
  rfl

theorem refusals_succ (address : String) (count : Nat) :
    refusals address (count + 1) = refusals address count ++ [⟨address, (count : Int), false⟩] := by
  simp only [refusals, List.range_succ, List.map_append, List.map_cons, List.map_nil]

@[simp] theorem length_refusals (address : String) (count : Nat) :
    (refusals address count).length = count := by
  rw [refusals, List.length_map, List.length_range]

theorem refusals_refused {address : String} {count : Nat} :
    forall attempt, attempt ∈ refusals address count -> attempt.accepted = false := by
  intro attempt member
  rcases List.mem_map.mp member with ⟨i, _, same⟩
  rw [← same]

/-- The answer to channel `i` of a scan that was refused on every channel
before it. -/
def probe (self : BluetoothConnection) (answers : Answers) (i : Nat) : Bool :=
  (self.socket.tried (refusals self.address i)).accepts answers self.address i

/-- The scan stops at the first channel that answers, or passes all of them. -/
theorem tryFindPortFrom_eq (self : BluetoothConnection) (answers : Answers) (remaining : Nat) :
    forall i : Nat, (forall j, j < i -> self.probe answers j = false) ->
      (Exists fun channel : Nat => channel < i + remaining ∧
        (forall j, j < channel -> self.probe answers j = false) ∧
        self.probe answers channel = true ∧
        tryFindPortFrom answers remaining i (self.after (refusals self.address i)) =
          ⟨.ok channel, self.after
            (refusals self.address channel ++ [⟨self.address, (channel : Int), true⟩])⟩) ∨
      ((forall j, j < i + remaining -> self.probe answers j = false) ∧
        tryFindPortFrom answers remaining i (self.after (refusals self.address i)) =
          ⟨.error (.addressNotFound "Couldn't connect to the given address."),
            self.after (refusals self.address (i + remaining))⟩) := by
  induction remaining with
  | zero => exact fun i earlier => Or.inr ⟨earlier, rfl⟩
  | succ remaining inductionHypothesis =>
      intro i earlier
      cases answer : self.probe answers i with
      | true =>
          have accepted : (self.socket.tried (refusals self.address i)).accepts answers
              self.address i = true := answer
          refine Or.inl ⟨i, by omega, earlier, answer, ?_⟩
          simp only [tryFindPortFrom, Socket.connect, socket_after, address_after, accepted]
          rw [← after_after, ← connect_accepted]
          rfl
      | false =>
          have refused : (self.socket.tried (refusals self.address i)).accepts answers
              self.address i = false := answer
          have further : forall j, j < i + 1 -> self.probe answers j = false := by
            intro j below
            rcases Nat.lt_succ_iff_lt_or_eq.mp below with before | same
            · exact earlier j before
            · rw [same]
              exact answer
          have next := inductionHypothesis (i + 1) further
          rw [Nat.add_right_comm, refusals_succ, ← after_after, ← connect_refused] at next
          simp only [tryFindPortFrom, Socket.connect, socket_after, address_after, refused]
          exact next

end BluetoothConnection

end Connection
end AirDump
