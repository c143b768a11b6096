import AirDump.Connection.View

namespace AirDump
namespace Connection

open Foundation

/-!
# What the two ways of connecting report

Both ways of connecting should say truthfully what happened: that the object
was connected already, in which case nothing is attempted; that no attempt
succeeded; or that exactly one did, as the last one.  An exception should
leave the object's flag, address and port as they were.

`connect` tests the flag first.  `tryFindPort` does not, and on a connected
object it runs through all of its attempts before it raises the exception that
belongs to an unreachable device.  This is the only way in which a report goes
wrong, in any state that a sequence of calls reaches.
-/

/-- The attempts that a call made on the socket, the oldest first. -/
def Outcome.made {Result : Type} (outcome : Outcome Result) (before : BluetoothConnection) :
    List Attempt :=
  outcome.object.socket.attempts.drop before.socket.attempts.length

theorem Outcome.made_after {Result : Type} (result : Except ConnectionError Result)
    (object : BluetoothConnection) (made : List Attempt) :
    Outcome.made ⟨result, object.after made⟩ object = made :=
  List.drop_left

namespace BluetoothConnection

/-- A truthful and atomic report of one call that started in this object. -/
structure Truthful (object : BluetoothConnection) (entry : Entry)
    (outcome : Outcome (Option Int)) : Prop where
  already_iff : (Exists fun message : String =>
    outcome.result = .error (.alreadyConnected message)) ↔ object.connected = true
  already_silent : forall message, outcome.result = .error (.alreadyConnected message) ->
    outcome.made object = []
  notFound_iff : (Exists fun message : String =>
    outcome.result = .error (.addressNotFound message)) ↔
      object.connected = false ∧
        ((forall attempt, attempt ∈ outcome.made object -> attempt.accepted = false) ∨
          (entry = .connect ∧ object.port = none))
  returns : forall value, outcome.result = .ok value ->
    Exists fun refused : List Attempt => Exists fun last : Attempt =>
      outcome.made object = refused ++ [last] ∧ last.accepted = true ∧
        forall attempt, attempt ∈ refused -> attempt.accepted = false
  raises : forall error, outcome.result = .error error ->
    outcome.object.connected = object.connected ∧
      outcome.object.address = object.address ∧ outcome.object.port = object.port

/-- A call on a connected object that made no attempt and said so. -/
theorem truthful_of_already {object : BluetoothConnection} (connected : object.connected = true)
    (entry : Entry) (message : String) :
    object.Truthful entry ⟨.error (.alreadyConnected message), object⟩ where
  already_iff := iff_of_true ⟨message, rfl⟩ connected
  already_silent := fun _ _ => List.drop_length
  notFound_iff := by
    constructor
    · rintro ⟨_, impossible⟩
      cases impossible
    · intro unconnected
      exact absurd (unconnected.1.symm.trans connected) Bool.false_ne_true
  returns := by
    intro value impossible
    cases impossible
  raises := fun _ _ => ⟨rfl, rfl, rfl⟩

/-- A call on an unconnected object whose attempts were all refused. -/
theorem truthful_of_refused {object : BluetoothConnection}
    (unconnected : object.connected = false) (entry : Entry) (message : String)
    (made : List Attempt)
    (refused : forall attempt, attempt ∈ made -> attempt.accepted = false) :
    object.Truthful entry ⟨.error (.addressNotFound message), object.after made⟩ where
  already_iff := by
    constructor
    · rintro ⟨_, impossible⟩
      cases impossible
    · intro connected
      exact absurd (unconnected.symm.trans connected) Bool.false_ne_true
  already_silent := by
    intro _ impossible
    cases impossible
  notFound_iff := by
    rw [Outcome.made_after]
    exact iff_of_true ⟨message, rfl⟩ ⟨unconnected, Or.inl refused⟩
  returns := by
    intro value impossible
    cases impossible
  raises := by
    intro _ _
    exact ⟨connected_after_refused object refused, rfl, rfl⟩

/-- A call on an unconnected object that returned after its last attempt. -/
theorem truthful_of_accepted {object : BluetoothConnection}
    (unconnected : object.connected = false) {entry : Entry}
    (hasPort : entry = .connect -> object.port ≠ none) (value : Option Int)
    (made : List Attempt)
    (refused : forall attempt, attempt ∈ made -> attempt.accepted = false)
    {last : Attempt} (accepted : last.accepted = true) :
    object.Truthful entry ⟨.ok value, object.after (made ++ [last])⟩ where
  already_iff := by
    constructor
    · rintro ⟨_, impossible⟩
      cases impossible
    · intro connected
      exact absurd (unconnected.symm.trans connected) Bool.false_ne_true
  already_silent := by
    intro _ impossible
    cases impossible
  notFound_iff := by
    rw [Outcome.made_after]
    constructor
    · rintro ⟨_, impossible⟩
      cases impossible
    · rintro ⟨_, all_refused | ⟨isConnect, noPort⟩⟩
      · have last_refused := all_refused last (List.mem_append_right made (List.mem_singleton.mpr rfl))
        exact absurd (last_refused.symm.trans accepted) Bool.false_ne_true
      · exact absurd noPort (hasPort isConnect)
  returns := by
    intro _ _
    exact ⟨made, last, Outcome.made_after _ _ _, accepted, refused⟩
  raises := by
    intro error impossible
    cases impossible

/-- A scan never raises the exception for a connected object. -/
theorem tryFindPort_ne_already (self : BluetoothConnection) (answers : Answers)
    (message : String) :
    (self.perform answers .tryFindPort).result ≠ .error (.alreadyConnected message) := by
  have course := self.performed_tryFindPort answers
  generalize self.perform answers .tryFindPort = outcome at course
  intro raised
  cases course with
  | scanAccepted => cases raised
  | scanRefused => cases raised

/-- One call reports truthfully exactly when it tests the flag, or when there
is nothing to test. -/
theorem perform_truthful_iff (answers : Answers) {self : BluetoothConnection}
    (consistent : self.Consistent) (entry : Entry) :
    self.Truthful entry (self.perform answers entry) ↔
      entry = .connect ∨ self.connected = false := by
  constructor
  · intro truthful
    cases entry with
    | connect => exact Or.inl rfl
    | tryFindPort =>
        apply Or.inr
        apply Bool.eq_false_iff.mpr
        intro connected
        rcases truthful.already_iff.mpr connected with ⟨message, raised⟩
        exact self.tryFindPort_ne_already answers message raised
  · intro guarded
    have course := self.performed answers entry
    generalize self.perform answers entry = outcome at course
    cases course with
    | alreadyConnected connected => exact truthful_of_already connected _ _
    | noPort unconnected =>
        have silent := truthful_of_refused unconnected .connect
          "Bluetooth connection does not have any port." []
          (fun _ member => absurd member List.not_mem_nil)
        rw [after_nil] at silent
        exact silent
    | portAccepted port unconnected hasPort =>
        exact truthful_of_accepted unconnected
          (fun _ => by rw [hasPort]; exact Option.some_ne_none port) none []
          (fun _ member => absurd member List.not_mem_nil) rfl
    | portRefused port unconnected =>
        apply truthful_of_refused unconnected
        intro attempt member
        rw [List.mem_singleton.mp member]
    | scanAccepted channel below earlier accepted =>
        exact truthful_of_accepted (unconnected_of_probe consistent accepted)
          (fun impossible => by cases impossible) _ _ refusals_refused rfl
    | scanRefused =>
        have unconnected := guarded.resolve_left (fun impossible => by cases impossible)
        exact truthful_of_refused unconnected _ _ _ refusals_refused

/-- In every state that a sequence of calls reaches, a further call reports
truthfully and atomically exactly when it is `connect` or when the object was
not connected before. -/
theorem reports_truthfully_iff (answers : Answers) (address : String) (port : Option Int)
    (wordSize : Nat) (sequence : List Call) (entry : Entry) :
    (((init address port wordSize).calls answers).run sequence).Truthful entry
        ((((init address port wordSize).calls answers).run sequence).perform answers entry) ↔
      entry = .connect ∨
        (((init address port wordSize).calls answers).run sequence).connected = false :=
  perform_truthful_iff answers
    ((calls_consistent (init_consistent address port wordSize) answers).run sequence) entry

/-- A device that accepts everything, `connect` on port 1, and then a scan:
the object is connected, and the scan does not say so. -/
theorem scan_after_connect_misreports :
    ¬ forall entry,
      (((init "E0:5A:1B:C7:FF:56" (some 1) 1).calls (fun _ _ _ => true)).run
          [.entry .connect]).Truthful entry
        ((((init "E0:5A:1B:C7:FF:56" (some 1) 1).calls (fun _ _ _ => true)).run
          [.entry .connect]).perform (fun _ _ _ => true) entry) := by
  intro always
  rcases (always .tryFindPort).already_iff.mpr (by decide) with ⟨message, raised⟩
  exact tryFindPort_ne_already _ _ message raised

end BluetoothConnection

end Connection
end AirDump
