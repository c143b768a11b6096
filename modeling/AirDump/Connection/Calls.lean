import AirDump.Connection.BluetoothConnection

namespace AirDump
namespace Connection

open Foundation

/-!
# Calls on a connection object, and whole sequences of them

The two ways of connecting share no code, so what one call can do is listed
case by case.  A sequence of calls, with the exceptions caught between them,
is a run of a machine whose labels are the calls.

Two facts hold after every sequence.  The flag of the object says whether the
socket is connected, and the address, the port and the word size are those of
the constructor.  The socket itself moves as an abstract session: it is linked
at most once, and is never moved to another channel.
-/

/-- The two ways of connecting. -/
inductive Entry where
  | connect
  | tryFindPort
deriving DecidableEq

/-- The calls that a client makes.  What the peer has sent since the last
call, and how much of it can be handed out at once, is decided outside. -/
inductive Call where
  | entry (entry : Entry)
  | connection
  | getPressedFromBT (arrived : List UInt8) (granted : Nat)
deriving DecidableEq

namespace BluetoothConnection

/-- One call of an entry point.  `connect` returns `None` and `tryFindPort`
returns a channel. -/
def perform (self : BluetoothConnection) (answers : Answers) : Entry -> Outcome (Option Int)
  | .connect => (self.connect answers).map (fun _ => none)
  | .tryFindPort => (self.tryFindPort answers).map some

/-- The object after one call.  `connection` only reads it. -/
def call (self : BluetoothConnection) (answers : Answers) : Call -> BluetoothConnection
  | .entry entry => (self.perform answers entry).object
  | .connection => self
  | .getPressedFromBT arrived granted => ((self.deliver arrived).getPressedFromBT granted).2

/-- All sequences of calls on one object. -/
def calls (self : BluetoothConnection) (answers : Answers) :
    Machine BluetoothConnection Call where
  start := self
  step := fun object label => object.call answers label

/-! ## What one call can do -/

/-- Every possible course of one call: its guard, the attempts that it made
and their answers, its result, and the object that it left. -/
inductive Performed (self : BluetoothConnection) (answers : Answers) :
    Entry -> Outcome (Option Int) -> Prop where
  | alreadyConnected (connected : self.connected = true) :
      Performed self answers .connect
        ⟨.error (.alreadyConnected "Device already connected."), self⟩
  | noPort (unconnected : self.connected = false) (noPort : self.port = none) :
      Performed self answers .connect
        ⟨.error (.addressNotFound "Bluetooth connection does not have any port."), self⟩
  | portAccepted (port : Int) (unconnected : self.connected = false)
      (hasPort : self.port = some port)
      (accepted : self.socket.accepts answers self.address port = true) :
      Performed self answers .connect
        ⟨.ok none, self.after [⟨self.address, port, true⟩]⟩
  | portRefused (port : Int) (unconnected : self.connected = false)
      (hasPort : self.port = some port)
      (refused : self.socket.accepts answers self.address port = false) :
      Performed self answers .connect
        ⟨.error (.addressNotFound "Couldn't connect to the given address."),
          self.after [⟨self.address, port, false⟩]⟩
  | scanAccepted (channel : Nat) (below : channel < channelCount)
      (earlier : forall j, j < channel -> self.probe answers j = false)
      (accepted : self.probe answers channel = true) :
      Performed self answers .tryFindPort
        ⟨.ok (some (channel : Int)), self.after
          (refusals self.address channel ++ [⟨self.address, (channel : Int), true⟩])⟩
  | scanRefused (refused : forall j, j < channelCount -> self.probe answers j = false) :
      Performed self answers .tryFindPort
        ⟨.error (.addressNotFound "Couldn't connect to the given address."),
          self.after (refusals self.address channelCount)⟩

/-- `connect` on an unconnected object with a port is one attempt. -/
theorem connect_of_port {self : BluetoothConnection} (answers : Answers) {port : Int}
    (unconnected : self.connected = false) (hasPort : self.port = some port) :
    self.connect answers =
      if self.socket.accepts answers self.address port then
        ⟨.ok (), self.after [⟨self.address, port, true⟩]⟩
      else
        ⟨.error (.addressNotFound "Couldn't connect to the given address."),
          self.after [⟨self.address, port, false⟩]⟩ := by
  rw [← connect_accepted, ← connect_refused]
  cases answer : self.socket.accepts answers self.address port with
  | true =>
      simp only [connect, unconnected, Bool.false_eq_true, if_false, hasPort, Socket.connect,
        answer, if_true]
  | false =>
      simp only [connect, unconnected, Bool.false_eq_true, if_false, hasPort, Socket.connect,
        answer]

theorem performed_connect (self : BluetoothConnection) (answers : Answers) :
    self.Performed answers .connect (self.perform answers .connect) := by
  cases flag : self.connected with
  | true =>
      simp only [perform, connect, flag, if_true]
      exact .alreadyConnected flag
  | false =>
      cases stored : self.port with
      | none =>
          simp only [perform, connect, flag, Bool.false_eq_true, if_false, stored]
          exact .noPort flag stored
      | some port =>
          rw [perform, connect_of_port answers flag stored]
          cases answer : self.socket.accepts answers self.address port with
          | true => exact .portAccepted port flag stored answer
          | false => exact .portRefused port flag stored answer

theorem performed_tryFindPort (self : BluetoothConnection) (answers : Answers) :
    self.Performed answers .tryFindPort (self.perform answers .tryFindPort) := by
  have scan := self.tryFindPortFrom_eq answers channelCount 0
    (fun j below => absurd below (Nat.not_lt_zero j))
  rw [refusals_zero, after_nil, Nat.zero_add] at scan
  rcases scan with ⟨channel, below, earlier, accepted, outcome⟩ | ⟨refused, outcome⟩
  · simp only [perform, tryFindPort, outcome]
    exact .scanAccepted channel below earlier accepted
  · simp only [perform, tryFindPort, outcome]
    exact .scanRefused refused

theorem performed (self : BluetoothConnection) (answers : Answers) (entry : Entry) :
    self.Performed answers entry (self.perform answers entry) := by
  cases entry with
  | connect => exact self.performed_connect answers
  | tryFindPort => exact self.performed_tryFindPort answers

/-- A call changes the object only through attempts on its socket. -/
theorem Performed.object_eq {self : BluetoothConnection} {answers : Answers} {entry : Entry}
    {outcome : Outcome (Option Int)} (course : self.Performed answers entry outcome) :
    Exists fun made : List Attempt => outcome.object = self.after made := by
  cases course with
  | alreadyConnected => exact ⟨[], self.after_nil.symm⟩
  | noPort => exact ⟨[], self.after_nil.symm⟩
  | portAccepted port => exact ⟨_, rfl⟩
  | portRefused port => exact ⟨_, rfl⟩
  | scanAccepted channel => exact ⟨_, rfl⟩
  | scanRefused => exact ⟨_, rfl⟩

/-- A call makes some attempts on the socket and leaves some bytes in it. -/
theorem call_eq_after (self : BluetoothConnection) (answers : Answers) (label : Call) :
    Exists fun made : List Attempt => Exists fun incoming : List UInt8 =>
      self.call answers label = (self.after made).holding incoming := by
  cases label with
  | entry entry =>
      rcases (self.performed answers entry).object_eq with ⟨made, same⟩
      exact ⟨made, self.socket.incoming, same⟩
  | connection =>
      refine ⟨[], self.socket.incoming, ?_⟩
      rw [after_nil]
      rfl
  | getPressedFromBT arrived granted =>
      rcases (self.deliver arrived).getPressedFromBT_eq_holding granted with ⟨incoming, same⟩
      refine ⟨[], incoming, ?_⟩
      rw [after_nil]
      exact same

/-- `connect` on a new object with a port is one attempt on a new socket. -/
theorem connect_init (answers : Answers) (address : String) (port : Int) (wordSize : Nat) :
    (init address (some port) wordSize).connect answers =
      if answers [] address port then
        ⟨.ok (), (init address (some port) wordSize).after [⟨address, port, true⟩]⟩
      else
        ⟨.error (.addressNotFound "Couldn't connect to the given address."),
          (init address (some port) wordSize).after [⟨address, port, false⟩]⟩ := by
  have untouched : (init address (some port) wordSize).socket.accepts answers address port =
      answers [] address port := Socket.accepts_of_unconnected rfl answers address port
  have unconnected : (init address (some port) wordSize).connected = false := rfl
  have attempt := connect_of_port answers unconnected rfl
  change _ = if (init address (some port) wordSize).socket.accepts answers address port then _
    else _ at attempt
  rw [untouched] at attempt
  exact attempt

/-! ## What every sequence of calls keeps -/

/-- The flag of the object says whether its socket is connected. -/
def Consistent (self : BluetoothConnection) : Prop :=
  self.connected = self.socket.isConnected

theorem init_consistent (address : String) (port : Option Int) (wordSize : Nat) :
    (init address port wordSize).Consistent :=
  rfl

theorem after_consistent {self : BluetoothConnection} (consistent : self.Consistent)
    (made : List Attempt) : (self.after made).Consistent := by
  unfold Consistent at *
  rw [connected_after, socket_after, Socket.isConnected_tried, consistent]

theorem calls_consistent {self : BluetoothConnection} (consistent : self.Consistent)
    (answers : Answers) : (self.calls answers).Preserves Consistent where
  start := consistent
  step := by
    intro object label before
    rcases object.call_eq_after answers label with ⟨made, incoming, same⟩
    change (object.call answers label).Consistent
    rw [same]
    exact after_consistent before made

/-- No call writes the address, the port or the word size. -/
theorem calls_fields (self : BluetoothConnection) (answers : Answers) :
    (self.calls answers).Preserves
      (fun object => object.address = self.address ∧ object.port = self.port ∧
        object.wordSize = self.wordSize) where
  start := ⟨rfl, rfl, rfl⟩
  step := by
    intro object label before
    rcases object.call_eq_after answers label with ⟨made, incoming, same⟩
    change (object.call answers label).address = _ ∧ (object.call answers label).port = _ ∧
      (object.call answers label).wordSize = _
    rw [same]
    exact before

/-- The socket of an object moves as the abstract session does, one session
move for every attempt that a call makes. -/
theorem calls_simulate_session (answers : Answers) (address : String) (port : Option Int)
    (wordSize : Nat) :
    ((init address port wordSize).calls answers).Simulates sessionMachine
      (fun object session => object.socket.peer = session) where
  start := rfl
  step := by
    intro object session label related
    rcases object.call_eq_after answers label with ⟨made, incoming, same⟩
    refine ⟨made, ?_⟩
    change (object.call answers label).socket.peer = _
    rw [same, ← related]
    exact Socket.peer_tried object.socket made

/-- Once the socket is connected to a channel, no further call moves it to
another one. -/
theorem peer_stays (answers : Answers) (address : String) (port : Option Int) (wordSize : Nat)
    (earlier later : List Call) {channel : Int}
    (linked :
      (((init address port wordSize).calls answers).run earlier).socket.peer = some channel) :
    (((init address port wordSize).calls answers).run (earlier ++ later)).socket.peer =
      some channel := by
  rcases (calls_simulate_session answers address port wordSize).continues later _ _ linked with
    ⟨moves, after⟩
  rw [Machine.run_append, after]
  exact foldl_sessionStep_some channel moves

end BluetoothConnection

end Connection
end AirDump
