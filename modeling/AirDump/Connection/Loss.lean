import AirDump.Connection.Receiving
import AirDump.Connection.View

namespace AirDump
namespace Connection

open Foundation

/-!
# A link that is lost

The object has no method that closes its socket or clears its flag.  So after
its peer has hung up, nothing that a client can do leads to another link with
the same object.  The object goes on to say that it is connected.  `connect`
refuses because it is, and `tryFindPort` because no attempt on the old socket
succeeds.  The words that are still returned are made of bytes that had
arrived before.

This is what becomes of every connected object whose peer hangs up, and of no
other object.
-/

/-- How an entry point refuses a connected object. -/
def Entry.refusal : Entry -> ConnectionError
  | .connect => .alreadyConnected "Device already connected."
  | .tryFindPort => .addressNotFound "Couldn't connect to the given address."

namespace Client

/-- What a connected client has become after its peer hung up. -/
structure Lost (client lost : Client) : Prop where
  line : lost.object.connection =
    "Connected to: " ++ client.object.address ++ " : " ++
      BluetoothConnection.portText client.object.port
  refuses : forall (others : Answers) (entry : Entry),
    (lost.object.perform others entry).result = .error entry.refusal
  silent : lost.arrived = client.arrived
  within : handed lost.results <+: client.arrived

/-- A client whose flag follows its socket, with this address and port. -/
structure Founded (address : String) (port : Option Int) (client : Client) : Prop where
  consistent : client.object.Consistent
  address : client.object.address = address
  port : client.object.port = port

/-- Such a client whose flag is raised and whose peer is gone. -/
structure Gone (address : String) (port : Option Int) (arrived : List UInt8)
    (client : Client) : Prop extends Founded address port client where
  connected : client.object.connected = true
  closed : client.object.socket.closed = true
  arrived : client.arrived = arrived

end Client

/-! ## One call on a connected object -/

namespace BluetoothConnection

/-- Either entry point refuses a connected object in its own way. -/
theorem refused_of_connected {self : BluetoothConnection} (consistent : self.Consistent)
    (connected : self.connected = true) (answers : Answers) (entry : Entry) :
    (self.perform answers entry).result = .error entry.refusal := by
  have course := self.performed answers entry
  generalize self.perform answers entry = outcome at course
  cases course with
  | alreadyConnected => rfl
  | noPort unconnected => exact absurd (unconnected.symm.trans connected) Bool.false_ne_true
  | portAccepted _ unconnected =>
      exact absurd (unconnected.symm.trans connected) Bool.false_ne_true
  | portRefused _ unconnected =>
      exact absurd (unconnected.symm.trans connected) Bool.false_ne_true
  | scanAccepted _ _ _ accepted =>
      have unconnected := unconnected_of_probe consistent accepted
      exact absurd (unconnected.symm.trans connected) Bool.false_ne_true
  | scanRefused => rfl

/-- `connect` says that an object is connected only when it is. -/
theorem connected_of_refusal {self : BluetoothConnection} {answers : Answers}
    (refused : (self.perform answers .connect).result = .error Entry.connect.refusal) :
    self.connected = true := by
  have course := self.performed answers .connect
  generalize self.perform answers .connect = outcome at course refused
  cases course with
  | alreadyConnected connected => exact connected
  | _ => cases refused

end BluetoothConnection

/-! ## Whole histories -/

namespace Client

/-- A call of an entry point keeps the flag with the socket, and what the
constructor was given. -/
theorem entry_founded (answers : Answers) {address : String} {port : Option Int} {client : Client}
    (entry : Entry) (founded : Founded address port client) :
    Founded address port (step answers client (.entry entry)) := by
  rcases (client.object.performed answers entry).object_eq with ⟨made, same⟩
  change Founded _ _ { client with object := (client.object.perform answers entry).object }
  rw [same]
  exact ⟨BluetoothConnection.after_consistent founded.consistent made, founded.address,
    founded.port⟩

theorem receive_founded {address : String} {port : Option Int} {client : Client} (granted : Nat)
    (founded : Founded address port client) : Founded address port (client.receive granted) := by
  rcases client.object.getPressedFromBT_eq_holding granted with ⟨incoming, same⟩
  rw [receive, same]
  exact ⟨founded.consistent, founded.address, founded.port⟩

/-- Whatever the client and the peer do. -/
theorem machine_founded (answers : Answers) (address : String) (port : Option Int)
    (wordSize : Nat) :
    (machine answers address port wordSize).Preserves (Founded address port) where
  start := ⟨BluetoothConnection.init_consistent address port wordSize, rfl, rfl⟩
  step := by
    intro client happening before
    cases happening with
    | entry entry => exact entry_founded answers entry before
    | connection => exact before
    | getPressedFromBT granted => exact receive_founded granted before
    | arrive bytes =>
        change Founded address port (client.arrive bytes)
        unfold arrive
        split
        · exact ⟨before.consistent, before.address, before.port⟩
        · exact before
    | hangUp =>
        change Founded address port client.hangUp
        unfold hangUp
        split
        · exact ⟨before.consistent, before.address, before.port⟩
        · exact before

/-- Nothing happens any more to the flag of an object whose peer is gone, and
nothing arrives for it. -/
theorem step_gone (answers : Answers) {address : String} {port : Option Int}
    {arrived : List UInt8} {client : Client} (happening : Happening)
    (gone : Gone address port arrived client) :
    Gone address port arrived (step answers client happening) := by
  have shut : ¬ client.object.isOpen = true := by
    rw [BluetoothConnection.isOpen, gone.closed, Bool.not_true, Bool.and_false]
    exact Bool.false_ne_true
  cases happening with
  | entry entry =>
      have founded := entry_founded answers entry gone.toFounded
      have kept := client.object.perform_keeps answers entry
      rcases (client.object.performed answers entry).object_eq with ⟨made, same⟩
      have raised : (client.object.perform answers entry).object.connected = true := by
        rw [same, BluetoothConnection.connected_after, gone.connected, Bool.true_or]
      exact ⟨founded, raised, kept.2.1.trans gone.closed, gone.arrived⟩
  | connection => exact gone
  | getPressedFromBT granted =>
      have founded := receive_founded granted gone.toFounded
      rcases client.object.getPressedFromBT_takes granted with ⟨count, _, _, left⟩
      have raised : (client.receive granted).object.connected = true := by
        rw [receive, left]
        exact gone.connected
      have closed : (client.receive granted).object.socket.closed = true := by
        rw [receive, left]
        exact gone.closed
      exact ⟨founded, raised, closed, gone.arrived⟩
  | arrive bytes =>
      change Gone _ _ _ (client.arrive bytes)
      rw [arrive, if_neg shut]
      exact gone
  | hangUp =>
      change Gone _ _ _ client.hangUp
      rw [hangUp, if_neg shut]
      exact gone

/-- The peer of a connected object is gone after it hung up. -/
theorem hangUp_gone {address : String} {port : Option Int} {client : Client}
    (founded : Founded address port client) (connected : client.object.connected = true) :
    Gone address port client.arrived client.hangUp := by
  unfold hangUp
  split
  · exact ⟨⟨founded.consistent, founded.address, founded.port⟩, connected, rfl, rfl⟩
  · rename_i shut
    have closed : client.object.socket.closed = true := by
      rw [BluetoothConnection.isOpen, ← founded.consistent, connected, Bool.true_and] at shut
      simpa only [Bool.not_eq_true', Bool.not_eq_false] using shut
    exact ⟨founded, connected, closed, rfl⟩

/-- After the peer of an object has hung up, the object says that it is
connected, refuses to connect, and returns only what had arrived before, for
ever and whatever happens, exactly when it was connected. -/
theorem lost_iff (answers : Answers) (address : String) (port : Option Int) (wordSize : Nat)
    (happenings : List Happening) :
    (forall further : List Happening,
      Lost ((machine answers address port wordSize).run happenings)
        ((machine answers address port wordSize).run (happenings ++ .hangUp :: further))) ↔
      ((machine answers address port wordSize).run happenings).object.connected = true := by
  constructor
  · intro always
    have refused := (always []).refuses answers .connect
    have connected := BluetoothConnection.connected_of_refusal refused
    rw [Machine.run_snoc] at connected
    change (hangUp _).object.connected = true at connected
    unfold hangUp at connected
    split at connected <;> exact connected
  · intro connected further
    have past := (machine_founded answers address port wordSize).run happenings
    have lost : Gone address port
        ((machine answers address port wordSize).run happenings).arrived
        ((machine answers address port wordSize).run (happenings ++ [.hangUp] ++ further)) := by
      apply Machine.run_stable (Gone address port _)
        (fun _ happening => step_gone answers happening)
      rw [Machine.run_snoc]
      exact hangUp_gone past connected
    rw [List.append_cons]
    refine ⟨?_, ?_, lost.arrived, ?_⟩
    · rw [BluetoothConnection.connection, lost.connected, lost.address, lost.port, past.address,
        past.port]
      rfl
    · exact BluetoothConnection.refused_of_connected lost.consistent lost.connected
    · rw [← lost.arrived, ← bytes_conserved answers address port wordSize]
      exact List.prefix_append _ _

end Client

end Connection
end AirDump
