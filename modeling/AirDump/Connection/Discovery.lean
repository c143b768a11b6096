import AirDump.Connection.View

namespace AirDump
namespace Connection

open Foundation

/-!
# What is tried, and what a scan finds

Every attempt that the calls of an object make goes to the address of the
constructor, on the stored port or on one of the channels of a scan, and at
most one of them ever succeeds, whatever the far side answers.

A scan is there to find the port for an object that has none.  It needs more
than `Socket` promises, and more than any caller can know: an attempt on an
unconnected socket must be answered by the address and the channel alone, so
the socket recovers from every refusal.  Then the scan of any unconnected
object, with whatever past, returns the least channel that is of use as a
port: a new object with this port connects, and its view agrees with its
socket.  `Refusal` is about the sockets that do not recover.
-/

/-- The attempts that an object of this address and port can have made. -/
structure History (address : String) (port : Option Int) (attempts : List Attempt) : Prop where
  addressed : forall attempt, attempt ∈ attempts -> attempt.address = address
  channels : forall attempt, attempt ∈ attempts ->
    port = some attempt.channel ∨
      Exists fun i : Nat => i < channelCount ∧ attempt.channel = i
  single : attempts.Pairwise
    (fun earlier later => ¬ (earlier.accepted = true ∧ later.accepted = true))

/-! ## The attempts of one call -/

namespace History

theorem nil (address : String) (port : Option Int) : History address port [] :=
  ⟨fun _ member => absurd member List.not_mem_nil,
    fun _ member => absurd member List.not_mem_nil, List.Pairwise.nil⟩

theorem refusals {address : String} {port : Option Int} {count : Nat}
    (within : count ≤ channelCount) :
    History address port (BluetoothConnection.refusals address count) := by
  refine ⟨?_, ?_, ?_⟩
  · intro attempt member
    rcases List.mem_map.mp member with ⟨i, _, same⟩
    rw [← same]
  · intro attempt member
    rcases List.mem_map.mp member with ⟨i, below, same⟩
    rw [← same]
    exact Or.inr ⟨i, Nat.lt_of_lt_of_le (List.mem_range.mp below) within, rfl⟩
  · apply List.pairwise_of_forall_mem_list
    intro earlier member later _ both
    rw [BluetoothConnection.refusals_refused earlier member] at both
    exact Bool.false_ne_true both.1

theorem singleton {address : String} {port : Option Int} {channel : Int} (accepted : Bool)
    (known : port = some channel ∨
      Exists fun i : Nat => i < channelCount ∧ channel = i) :
    History address port [⟨address, channel, accepted⟩] := by
  refine ⟨?_, ?_, List.pairwise_singleton _ _⟩
  · intro attempt member
    rw [List.mem_singleton.mp member]
  · intro attempt member
    rw [List.mem_singleton.mp member]
    exact known

/-- Two histories are one when nothing succeeds in the first, or nothing in
the second. -/
theorem append {address : String} {port : Option Int} {first second : List Attempt}
    (earlier : History address port first) (later : History address port second)
    (refused : first.any Attempt.accepted = false ∨ second.any Attempt.accepted = false) :
    History address port (first ++ second) := by
  refine ⟨?_, ?_, List.pairwise_append.mpr ⟨earlier.single, later.single, ?_⟩⟩
  · intro attempt member
    rcases List.mem_append.mp member with old | new
    · exact earlier.addressed attempt old
    · exact later.addressed attempt new
  · intro attempt member
    rcases List.mem_append.mp member with old | new
    · exact earlier.channels attempt old
    · exact later.channels attempt new
  · intro old before new after both
    rcases refused with none_before | none_after
    · exact absurd both.1 (List.any_eq_false.mp none_before old before)
    · exact absurd both.2 (List.any_eq_false.mp none_after new after)

end History

namespace BluetoothConnection

/-- A call makes a history of its own, and succeeds only on an unconnected
socket. -/
theorem Performed.history {self : BluetoothConnection} {answers : Answers} {entry : Entry}
    {outcome : Outcome (Option Int)} (consistent : self.Consistent)
    (course : self.Performed answers entry outcome) :
    Exists fun made : List Attempt =>
      outcome.object = self.after made ∧ History self.address self.port made ∧
        (self.socket.isConnected = false ∨ made.any Attempt.accepted = false) := by
  cases course with
  | alreadyConnected => exact ⟨[], self.after_nil.symm, .nil _ _, Or.inr rfl⟩
  | noPort => exact ⟨[], self.after_nil.symm, .nil _ _, Or.inr rfl⟩
  | portAccepted port unconnected hasPort =>
      exact ⟨_, rfl, .singleton true (Or.inl hasPort), Or.inl (consistent.symm.trans unconnected)⟩
  | portRefused port unconnected hasPort =>
      exact ⟨_, rfl, .singleton false (Or.inl hasPort), Or.inr rfl⟩
  | scanAccepted channel below earlier accepted =>
      have refused : (refusals self.address channel).any Attempt.accepted = false :=
        any_accepted_of_refused refusals_refused
      have unconnected := unconnected_of_probe consistent accepted
      exact ⟨_, rfl, (History.refusals (Nat.le_of_lt below)).append
        (.singleton true (Or.inr ⟨channel, below, rfl⟩)) (Or.inl refused),
        Or.inl (consistent.symm.trans unconnected)⟩
  | scanRefused =>
      exact ⟨_, rfl, .refusals (Nat.le_refl _), Or.inr (any_accepted_of_refused refusals_refused)⟩

/-! ## The attempts of a sequence of calls -/

theorem call_history (answers : Answers) {address : String} {port : Option Int}
    {object : BluetoothConnection} (consistent : object.Consistent)
    (fields : object.address = address ∧ object.port = port)
    (history : History address port object.socket.attempts) (label : Call) :
    History address port (object.call answers label).socket.attempts := by
  cases label with
  | connection => exact history
  | getPressedFromBT arrived granted =>
      rcases (object.deliver arrived).getPressedFromBT_eq_holding granted with ⟨incoming, same⟩
      change History address port
        ((object.deliver arrived).getPressedFromBT granted).2.socket.attempts
      rw [same]
      exact history
  | entry entry =>
      rcases (object.performed answers entry).history consistent with ⟨made, same, new, once⟩
      change History address port (object.perform answers entry).object.socket.attempts
      rw [same, socket_after, Socket.attempts_tried]
      rw [fields.1, fields.2] at new
      exact history.append new once

/-- Whatever is called, and whatever is answered: every attempt goes to the
address of the constructor, on its port or on a channel of the scan, and at
most one attempt ever succeeds. -/
theorem run_history (answers : Answers) (address : String) (port : Option Int) (wordSize : Nat)
    (sequence : List Call) :
    History address port
      (((init address port wordSize).calls answers).run sequence).socket.attempts := by
  have consistent := calls_consistent (init_consistent address port wordSize) answers
  have fields := calls_fields (init address port wordSize) answers
  induction sequence using List.reverseRecOn with
  | nil => exact .nil address port
  | append_singleton earlier label inductionHypothesis =>
      rw [Machine.run_snoc]
      exact call_history answers (consistent.run earlier)
        ⟨(fields.run earlier).1, (fields.run earlier).2.1⟩ inductionHypothesis label

/-! ## Finding a port -/

/-- A new object with this port connects to it, and says so. -/
def ConnectsTo (reply : String -> Int -> Bool) (address : String) (wordSize : Nat)
    (channel : Int) : Prop :=
  ((init address (some channel) wordSize).connect (fun _ => reply)).result = .ok () ∧
    ((init address (some channel) wordSize).connect (fun _ => reply)).object.Agrees ∧
    ((init address (some channel) wordSize).connect (fun _ => reply)).object.socket.peer =
      some channel

theorem connectsTo_iff (reply : String -> Int -> Bool) (address : String) (wordSize : Nat)
    (channel : Int) :
    ConnectsTo reply address wordSize channel ↔ reply address channel = true := by
  have course := connect_init (fun _ => reply) address channel wordSize
  unfold ConnectsTo
  rw [course]
  cases answer : reply address channel with
  | false =>
      rw [if_neg Bool.false_ne_true]
      refine iff_of_false ?_ Bool.false_ne_true
      rintro ⟨returned, _⟩
      cases returned
  | true =>
      rw [if_pos rfl]
      refine iff_of_true ⟨rfl, ?_, rfl⟩ rfl
      exact (agrees_after_accepted_iff (init_consistent address (some channel) wordSize) rfl []
        (fun _ member => absurd member List.not_mem_nil) channel).mpr rfl

/-- When answers depend on the address and the channel alone, a scan is given
the same one whatever was tried before, as long as the object is unconnected. -/
theorem probe_of_reply {self : BluetoothConnection} (consistent : self.Consistent)
    (reply : String -> Int -> Bool) (i : Nat) :
    self.probe (fun _ => reply) i = (!self.connected && reply self.address i) := by
  have refused : (refusals self.address i).any Attempt.accepted = false :=
    any_accepted_of_refused refusals_refused
  rw [probe, Socket.accepts, Socket.isConnected_tried, refused, Bool.or_false, consistent]

/-- Such a scan finds the least channel that is of use as a port, or it finds
the object connected or no such channel. -/
theorem scan_of_reply {self : BluetoothConnection} (consistent : self.Consistent)
    (reply : String -> Int -> Bool) (wordSize : Nat) :
    (Exists fun found : Nat => found < channelCount ∧ self.connected = false ∧
      ConnectsTo reply self.address wordSize found ∧
      (forall j : Nat, j < found -> ¬ ConnectsTo reply self.address wordSize j) ∧
      (self.tryFindPort (fun _ => reply)).result = .ok found) ∨
    ((self.connected = true ∨
        forall j : Nat, j < channelCount -> ¬ ConnectsTo reply self.address wordSize j) ∧
      (self.tryFindPort (fun _ => reply)).result =
        .error (.addressNotFound "Couldn't connect to the given address.")) := by
  have probes : forall i : Nat, self.probe (fun _ => reply) i = true ↔
      self.connected = false ∧ ConnectsTo reply self.address wordSize i := by
    intro i
    rw [probe_of_reply consistent, connectsTo_iff, Bool.and_eq_true_iff, Bool.not_eq_true']
  have useless : forall i : Nat, self.connected = false ->
      self.probe (fun _ => reply) i = false -> ¬ ConnectsTo reply self.address wordSize i := by
    intro i unconnected refused connects
    exact Bool.false_ne_true (refused.symm.trans ((probes i).mpr ⟨unconnected, connects⟩))
  have scan := self.tryFindPortFrom_eq (fun _ => reply) channelCount 0
    (fun j below => absurd below (Nat.not_lt_zero j))
  rw [refusals_zero, after_nil, Nat.zero_add] at scan
  rcases scan with ⟨found, below, earlier, accepted, outcome⟩ | ⟨refused, outcome⟩
  · have finds := (probes found).mp accepted
    refine Or.inl ⟨found, below, finds.1, finds.2, ?_, congrArg Outcome.result outcome⟩
    exact fun j less => useless j finds.1 (earlier j less)
  · refine Or.inr ⟨?_, congrArg Outcome.result outcome⟩
    cases connected : self.connected with
    | true => exact Or.inl rfl
    | false => exact Or.inr (fun j below => useless j connected (refused j below))

/-- The scan of an object with whatever past, when every attempt on an
unconnected socket is answered by the address and the channel alone: it returns a channel exactly when the object is unconnected and
this is the least channel of the range that a new object can connect to as its
port, and raises exactly when the object is connected or there is no such
channel. -/
theorem tryFindPort_finds_iff (reply : String -> Int -> Bool) (answers : Answers)
    (address : String) (port : Option Int) (wordSize : Nat) (sequence : List Call) :
    (forall channel : Int,
      ((((init address port wordSize).calls answers).run sequence).tryFindPort
        (fun _ => reply)).result = .ok channel ↔
        (((init address port wordSize).calls answers).run sequence).connected = false ∧
        Exists fun i : Nat => i < channelCount ∧ channel = i ∧
          ConnectsTo reply address wordSize i ∧
          forall j : Nat, j < i -> ¬ ConnectsTo reply address wordSize j) ∧
    (forall error : ConnectionError,
      ((((init address port wordSize).calls answers).run sequence).tryFindPort
        (fun _ => reply)).result = .error error ↔
        error = .addressNotFound "Couldn't connect to the given address." ∧
        ((((init address port wordSize).calls answers).run sequence).connected = true ∨
          forall j : Nat, j < channelCount -> ¬ ConnectsTo reply address wordSize j)) := by
  have consistent := (calls_consistent (init_consistent address port wordSize) answers).run
    sequence
  have same := ((calls_fields (init address port wordSize) answers).run sequence).1
  change _ = address at same
  have scan := scan_of_reply consistent reply wordSize
  rw [same] at scan
  rcases scan with ⟨found, below, unconnected, connects, least, outcome⟩ | ⟨nothing, outcome⟩
  · rw [outcome]
    constructor
    · intro channel
      constructor
      · intro returned
        exact ⟨unconnected, found, below, (Except.ok.inj returned).symm, connects, least⟩
      · rintro ⟨_, i, _, named, useful, first⟩
        have notLess : ¬ found < i := fun less => first found less connects
        have notMore : ¬ i < found := fun more => least i more useful
        rw [named, Nat.le_antisymm (Nat.le_of_not_lt notLess) (Nat.le_of_not_lt notMore)]
    · intro error
      refine iff_of_false (fun impossible => by cases impossible) ?_
      rintro ⟨_, connected | nothing⟩
      · exact Bool.false_ne_true (unconnected.symm.trans connected)
      · exact nothing found below connects
  · rw [outcome]
    constructor
    · intro channel
      refine iff_of_false (fun impossible => by cases impossible) ?_
      rintro ⟨unconnected, i, below, _, connects, _⟩
      rcases nothing with connected | useless
      · exact Bool.false_ne_true (unconnected.symm.trans connected)
      · exact useless i below connects
    · intro error
      constructor
      · intro raised
        exact ⟨(Except.error.inj raised).symm, nothing⟩
      · rintro ⟨named, _⟩
        rw [named]

end BluetoothConnection

end Connection
end AirDump
