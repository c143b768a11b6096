import AirDump.Connection.Calls

namespace AirDump
namespace Connection

open Foundation

/-!
# The object's view of its connection

Three things tell a client whether it is connected and to which channel: the
flag, the stored port, and the status line.  Here they are compared with the
socket, in every state that a sequence of calls reaches.

`connect` tries the stored port, so its success leaves the three in agreement.
`tryFindPort` returns the channel that it found and stores nothing, so after
it the agreement depends on whether the stored port happens to be that
channel.  The condition is stated on the answers that the scan will meet and
on the stored port before it, for one call and then for a whole sequence.
-/

namespace BluetoothConnection

/-- The status line that a socket connected to this channel calls for. -/
def describe (address : String) : Option Int -> String
  | some channel => "Connected to: " ++ address ++ " : " ++ toString channel
  | none => "not connected yet."

/-- The view of the object agrees with the real socket. -/
structure Agrees (object : BluetoothConnection) : Prop where
  flag : object.connected = true ↔
    Exists fun attempt : Attempt =>
      attempt ∈ object.socket.attempts ∧ attempt.accepted = true
  port : forall attempt, attempt ∈ object.socket.attempts -> attempt.accepted = true ->
    object.port = some attempt.channel
  report : object.connection = describe object.address object.socket.peer

/-- The first channel that answers a scan, if the scan starts unconnected, is
the stored port.  Every other call meets this condition. -/
def ScanFindsPort (answers : Answers) (self : BluetoothConnection) (label : Call) : Prop :=
  label = .entry .tryFindPort -> self.connected = false ->
    forall i : Nat, i < channelCount ->
      (forall j, j < i -> self.probe answers j = false) ->
      self.probe answers i = true -> self.port = some (i : Int)

/-! ## Attempts that are refused, and one that succeeds -/

theorem attempts_refused {self : BluetoothConnection} (consistent : self.Consistent)
    (unconnected : self.connected = false) :
    forall attempt, attempt ∈ self.socket.attempts -> attempt.accepted = false := by
  have none_accepted : self.socket.attempts.any Attempt.accepted = false :=
    consistent.symm.trans unconnected
  intro attempt member
  exact Bool.eq_false_iff.mpr (List.any_eq_false.mp none_accepted attempt member)

theorem peer_eq_none {self : BluetoothConnection} (consistent : self.Consistent)
    (unconnected : self.connected = false) : self.socket.peer = none :=
  foldl_sessionStep_of_refused none _ (attempts_refused consistent unconnected)

/-- An object that never connected agrees with its socket. -/
theorem agrees_of_unconnected {self : BluetoothConnection} (consistent : self.Consistent)
    (unconnected : self.connected = false) : self.Agrees where
  flag := by
    rw [consistent, Socket.isConnected_eq_true_iff]
  port := by
    intro attempt member accepted
    rw [attempts_refused consistent unconnected attempt member] at accepted
    cases accepted
  report := by
    rw [peer_eq_none consistent unconnected, connection, unconnected]
    rfl

/-- Refused attempts do not change what the object and the socket say. -/
theorem agrees_after_refused {self : BluetoothConnection} (agrees : self.Agrees)
    {made : List Attempt}
    (refused : forall attempt, attempt ∈ made -> attempt.accepted = false) :
    (self.after made).Agrees := by
  have flag_same := connected_after_refused self refused
  have earlier : forall attempt, attempt ∈ (self.after made).socket.attempts ->
      attempt.accepted = true -> attempt ∈ self.socket.attempts := by
    intro attempt member accepted
    rcases List.mem_append.mp member with old | new
    · exact old
    · rw [refused attempt new] at accepted
      cases accepted
  refine ⟨?_, ?_, ?_⟩
  · rw [flag_same, agrees.flag]
    constructor
    · rintro ⟨attempt, member, accepted⟩
      exact ⟨attempt, List.mem_append_left made member, accepted⟩
    · rintro ⟨attempt, member, accepted⟩
      exact ⟨attempt, earlier attempt member accepted, accepted⟩
  · intro attempt member accepted
    exact agrees.port attempt (earlier attempt member accepted) accepted
  · have line_same : (self.after made).connection = self.connection := by
      unfold connection
      rw [flag_same]
      rfl
    rw [line_same, agrees.report, socket_after, Socket.peer_tried,
      foldl_sessionStep_of_refused _ made refused, address_after]

/-- After the first attempt that succeeds, agreement is a matter of the stored
port alone. -/
theorem agrees_after_accepted_iff {self : BluetoothConnection} (consistent : self.Consistent)
    (unconnected : self.connected = false) (made : List Attempt)
    (refused : forall attempt, attempt ∈ made -> attempt.accepted = false) (channel : Int) :
    (self.after (made ++ [⟨self.address, channel, true⟩])).Agrees ↔
      self.port = some channel := by
  have last : ⟨self.address, channel, true⟩ ∈
      (self.after (made ++ [⟨self.address, channel, true⟩])).socket.attempts :=
    List.mem_append_right _ (List.mem_append_right made (List.mem_singleton.mpr rfl))
  have raised := self.connected_after_accepted made self.address channel
  constructor
  · intro agrees
    exact agrees.port _ last rfl
  · intro stored
    refine ⟨?_, ?_, ?_⟩
    · exact iff_of_true raised ⟨_, last, rfl⟩
    · intro attempt member accepted
      rcases List.mem_append.mp member with old | new
      · rw [attempts_refused consistent unconnected attempt old] at accepted
        cases accepted
      · rcases List.mem_append.mp new with before | same
        · rw [refused attempt before] at accepted
          cases accepted
        · rw [List.mem_singleton.mp same]
          exact stored
    · have linked : (self.after (made ++ [⟨self.address, channel, true⟩])).socket.peer =
          some channel := by
        rw [socket_after, Socket.peer_tried, peer_eq_none consistent unconnected,
          List.foldl_append, foldl_sessionStep_of_refused none made refused]
        rfl
      rw [linked, connection, raised, port_after, stored]
      rfl

/-! ## One call, and every sequence of calls -/

theorem unconnected_of_probe {self : BluetoothConnection} (consistent : self.Consistent)
    {answers : Answers} {i : Nat} (accepted : self.probe answers i = true) :
    self.connected = false := by
  rw [consistent]
  apply Bool.eq_false_iff.mpr
  intro connected
  have still : (self.socket.tried (refusals self.address i)).isConnected = true := by
    rw [Socket.isConnected_tried, connected, Bool.true_or]
  have refused := Socket.accepts_of_connected still answers self.address i
  exact Bool.false_ne_true (refused.symm.trans accepted)

/-- At most one channel is the first that answers a scan. -/
theorem first_probe_unique {self : BluetoothConnection} {answers : Answers} {i k : Nat}
    (earlier : forall j, j < i -> self.probe answers j = false)
    (accepted : self.probe answers i = true)
    (before : forall j, j < k -> self.probe answers j = false)
    (answered : self.probe answers k = true) : i = k := by
  rcases Nat.lt_trichotomy i k with less | same | more
  · exact absurd ((before i less).symm.trans accepted) Bool.false_ne_true
  · exact same
  · exact absurd ((earlier k more).symm.trans answered) Bool.false_ne_true

/-- One call keeps the agreement exactly under its condition. -/
theorem call_agrees_iff (answers : Answers) {self : BluetoothConnection}
    (consistent : self.Consistent) (agrees : self.Agrees) (label : Call) :
    (self.call answers label).Agrees ↔ ScanFindsPort answers self label := by
  cases label with
  | connection => exact iff_of_true agrees (fun impossible => by cases impossible)
  | getPressedFromBT arrived granted =>
      rcases (self.deliver arrived).getPressedFromBT_eq_holding granted with ⟨incoming, same⟩
      refine iff_of_true ?_ (fun impossible => by cases impossible)
      change ((self.deliver arrived).getPressedFromBT granted).2.Agrees
      rw [same]
      exact ⟨agrees.flag, agrees.port, agrees.report⟩
  | entry entry =>
      have course := self.performed answers entry
      change (self.perform answers entry).object.Agrees ↔ _
      generalize self.perform answers entry = outcome at course
      cases course with
      | alreadyConnected => exact iff_of_true agrees (fun impossible => by cases impossible)
      | noPort => exact iff_of_true agrees (fun impossible => by cases impossible)
      | portAccepted port unconnected hasPort =>
          refine iff_of_true ?_ (fun impossible => by cases impossible)
          exact (agrees_after_accepted_iff consistent unconnected []
            (fun _ member => absurd member List.not_mem_nil) port).mpr hasPort
      | portRefused port =>
          refine iff_of_true (agrees_after_refused agrees ?_) (fun impossible => by cases impossible)
          intro attempt member
          rw [List.mem_singleton.mp member]
      | scanAccepted channel below earlier accepted =>
          have unconnected := unconnected_of_probe consistent accepted
          rw [agrees_after_accepted_iff consistent unconnected _ refusals_refused]
          constructor
          · intro stored _ _ i _ before answered
            rw [first_probe_unique before answered earlier accepted]
            exact stored
          · intro finds
            exact finds rfl unconnected channel below earlier accepted
      | scanRefused refused =>
          apply iff_of_true (agrees_after_refused agrees refusals_refused)
          intro _ _ i below _ answered
          exact absurd ((refused i below).symm.trans answered) Bool.false_ne_true

/-- The view agrees with the socket after every call of a sequence exactly
when every scan of the sequence that succeeds finds the stored port. -/
theorem view_agrees_iff (answers : Answers) (address : String) (port : Option Int)
    (wordSize : Nat) (sequence : List Call) :
    (forall earlier, earlier <+: sequence ->
      (((init address port wordSize).calls answers).run earlier).Agrees) ↔
      forall earlier label, earlier ++ [label] <+: sequence ->
        ScanFindsPort answers (((init address port wordSize).calls answers).run earlier) label :=
  (calls_consistent (init_consistent address port wordSize) answers).along_iff
    (agrees_of_unconnected (init_consistent address port wordSize) rfl)
    (fun _ label consistent agrees => call_agrees_iff answers consistent agrees label) sequence

/-- A device that answers on channel 1, an object without a port, and one
scan: the object is connected to channel 1 and its port is still `None`. -/
theorem scan_leaves_view_without_port :
    ¬ forall earlier, earlier <+: [Call.entry .tryFindPort] ->
      (((init "E0:5A:1B:C7:FF:56" none 1).calls
        (fun _ _ channel => channel == 1)).run earlier).Agrees := by
  intro always
  have after := always _ (List.prefix_refl _)
  have stored := after.port ⟨"E0:5A:1B:C7:FF:56", 1, true⟩ (by decide) rfl
  exact absurd stored (by decide)

end BluetoothConnection

end Connection
end AirDump
