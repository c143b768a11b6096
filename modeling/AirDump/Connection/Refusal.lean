import AirDump.Connection.View

namespace AirDump
namespace Connection

open Foundation

/-!
# Attempts after a refused attempt

The device is an arbitrary predicate: at each moment, counted in attempts, it
accepts some channels and not others.  What the operating system promises is
much less.  The first attempt on a new socket succeeds exactly when the device
accepts the channel.  After a refused attempt the state of that socket is
unspecified, so a later attempt on it may fail whatever the device accepts.

All attempts of a connection object share the one socket of its constructor.
The results below say exactly for which devices, stored ports and earlier
calls this does no harm to the next call, whatever the operating system makes
of the freedom it has.  One environment, which never recovers, decides every
other case.
-/

/-- What the operating system promises about connecting one socket to a device
that accepts these channels at these moments. -/
structure Posix (device : Nat -> Int -> Bool) (answers : Answers) : Prop where
  fresh : forall address channel, answers [] address channel = device 0 channel
  refusing : forall attempts address channel,
    answers attempts address channel = true -> device attempts.length channel = true

/-- The environment in which a refused socket never connects again. -/
def spoiled (device : Nat -> Int -> Bool) : Answers :=
  fun attempts _ channel => attempts.isEmpty && device 0 channel

theorem spoiled_posix (device : Nat -> Int -> Bool) : Posix device (spoiled device) where
  fresh := fun _ _ => rfl
  refusing := by
    intro attempts _ channel accepted
    have parts := Bool.and_eq_true_iff.mp accepted
    rw [List.isEmpty_iff.mp parts.1]
    exact parts.2

namespace BluetoothConnection

/-- Earlier refusals did no harm to this object: `connect` returns and raises
the flag when the device now accepts the stored port, and a scan finds the
first channel that the device accepts when it is tried. -/
structure Unspoilt (device : Nat -> Int -> Bool) (answers : Answers)
    (object : BluetoothConnection) : Prop where
  connect_returns : forall port : Int, object.port = some port ->
    device object.socket.attempts.length port = true ->
    (object.perform answers .connect).result = .ok none ∧
      (object.perform answers .connect).object.connected = true
  scan_returns : forall i : Nat, i < channelCount ->
    (forall j : Nat, j < i -> device (object.socket.attempts.length + j) j = false) ->
    device (object.socket.attempts.length + i) i = true ->
    (object.perform answers .tryFindPort).result = .ok (some (i : Int)) ∧
      (object.perform answers .tryFindPort).object.connected = true
  scan_raises : (Exists fun message : String =>
    (object.perform answers .tryFindPort).result = .error (.addressNotFound message)) ->
    forall i : Nat, i < channelCount ->
      device (object.socket.attempts.length + i) i = false

/-- The channels that a call tries when it is refused throughout. -/
def channelsOf (port : Option Int) : Call -> List Int
  | .entry .connect => port.toList
  | .entry .tryFindPort => (List.range channelCount).map Int.ofNat
  | .connection => []
  | .getPressedFromBT _ _ => []

def channelsTried (port : Option Int) (sequence : List Call) : List Int :=
  sequence.flatMap (channelsOf port)

/-- The exact condition, on the device, the stored port, and the channels tried
before.

Either the first of them was accepted, and nothing was refused; or the socket
is still new and a scan is accepted at once; or a scan would try nothing that
the device accepts, and the socket is still new or `connect` would not try
anything either. -/
def Harmless (device : Nat -> Int -> Bool) (port : Option Int) (channels : List Int) : Prop :=
  (Exists fun first : Int => channels.head? = some first ∧ device 0 first = true) ∨
    (channels = [] ∧ device 0 0 = true) ∨
    ((channels = [] ∨ forall stored, port = some stored ->
        device channels.length stored = false) ∧
      forall i : Nat, i < channelCount -> device (channels.length + i) i = false)

/-! ## Calls that leave the object unconnected -/

@[simp] theorem channelsTried_snoc (port : Option Int) (earlier : List Call) (label : Call) :
    channelsTried port (earlier ++ [label]) =
      channelsTried port earlier ++ channelsOf port label := by
  simp only [channelsTried, List.flatMap_append, List.flatMap_cons, List.flatMap_nil,
    List.append_nil]

theorem map_channel_refusals (address : String) (count : Nat) :
    (refusals address count).map Attempt.channel = (List.range count).map Int.ofNat := by
  rw [refusals, List.map_map]
  rfl

/-- The first channel of a scan is channel zero. -/
theorem head?_scan : ((List.range channelCount).map Int.ofNat).head? = some 0 := by
  rw [List.head?_map, List.head?_range, if_neg (by decide)]
  rfl

theorem probe_zero (self : BluetoothConnection) (answers : Answers) :
    self.probe answers 0 = self.socket.accepts answers self.address 0 := by
  rw [probe, refusals_zero, Socket.tried_nil]
  rfl

/-- A call that leaves the object unconnected tried all of its channels and
was refused on each. -/
theorem call_unconnected {self : BluetoothConnection} (answers : Answers) (label : Call)
    (unconnected : (self.call answers label).connected = false) :
    self.connected = false ∧
      (self.call answers label).socket.attempts.map Attempt.channel =
        self.socket.attempts.map Attempt.channel ++ channelsOf self.port label ∧
      forall first, (channelsOf self.port label).head? = some first ->
        self.socket.accepts answers self.address first = false := by
  cases label with
  | connection =>
      refine ⟨unconnected, (List.append_nil _).symm, ?_⟩
      intro first impossible
      cases impossible
  | getPressedFromBT arrived granted =>
      rcases (self.deliver arrived).getPressedFromBT_eq_holding granted with ⟨incoming, same⟩
      change ((self.deliver arrived).getPressedFromBT granted).2.connected = false at unconnected
      change self.connected = false ∧
        ((self.deliver arrived).getPressedFromBT granted).2.socket.attempts.map
          Attempt.channel = _ ∧ _
      rw [same] at unconnected ⊢
      refine ⟨unconnected, (List.append_nil _).symm, ?_⟩
      intro first impossible
      cases impossible
  | entry entry =>
      have course := self.performed answers entry
      change (self.perform answers entry).object.connected = false at unconnected
      change self.connected = false ∧
        (self.perform answers entry).object.socket.attempts.map Attempt.channel = _ ∧ _
      generalize self.perform answers entry = outcome at course unconnected
      cases course with
      | alreadyConnected connected =>
          exact absurd (unconnected.symm.trans connected) Bool.false_ne_true
      | noPort free noPort =>
          refine ⟨free, ?_, ?_⟩
          · rw [noPort]
            exact (List.append_nil _).symm
          · intro first impossible
            rw [noPort] at impossible
            cases impossible
      | portAccepted port =>
          have raised := self.connected_after_accepted [] self.address port
          exact absurd (unconnected.symm.trans raised) Bool.false_ne_true
      | portRefused port free hasPort refused =>
          rw [hasPort]
          refine ⟨free, ?_, ?_⟩
          · rw [socket_after, Socket.attempts_tried, List.map_append]
            rfl
          · intro first same
            rw [← Option.some.inj same]
            exact refused
      | scanAccepted channel =>
          have raised := self.connected_after_accepted (refusals self.address channel)
            self.address channel
          exact absurd (unconnected.symm.trans raised) Bool.false_ne_true
      | scanRefused refused =>
          rw [connected_after_refused self refusals_refused] at unconnected
          refine ⟨unconnected, ?_, ?_⟩
          · rw [socket_after, Socket.attempts_tried, List.map_append, map_channel_refusals]
            rfl
          · intro first same
            have zero : some (0 : Int) = some first := head?_scan.symm.trans same
            rw [← Option.some.inj zero, ← probe_zero]
            exact refused 0 (by decide)

/-- In an unconnected object that a sequence of calls reaches, the socket has
seen every channel of the sequence, and the device refused the first. -/
theorem run_unconnected {device : Nat -> Int -> Bool} {answers : Answers}
    (posix : Posix device answers) (address : String) (port : Option Int) (wordSize : Nat)
    (sequence : List Call)
    (unconnected :
      (((init address port wordSize).calls answers).run sequence).connected = false) :
    (((init address port wordSize).calls answers).run sequence).socket.attempts.map
        Attempt.channel = channelsTried port sequence ∧
      forall first, (channelsTried port sequence).head? = some first ->
        device 0 first = false := by
  induction sequence using List.reverseRecOn with
  | nil =>
      refine ⟨rfl, ?_⟩
      intro first impossible
      cases impossible
  | append_singleton earlier label inductionHypothesis =>
      have consistent := (calls_consistent (init_consistent address port wordSize) answers).run
        earlier
      have fields := ((init address port wordSize).calls_fields answers).run earlier
      rw [Machine.run_snoc] at unconnected ⊢
      rw [channelsTried_snoc]
      generalize ((init address port wordSize).calls answers).run earlier = object at *
      have last := call_unconnected answers label unconnected
      have before := inductionHypothesis last.1
      rw [fields.2.1] at last
      refine ⟨last.2.1.trans (congrArg (· ++ _) before.1), ?_⟩
      intro first same
      cases tried : channelsTried port earlier with
      | cons head rest =>
          rw [tried, List.cons_append, List.head?_cons] at same
          exact before.2 first (by rw [tried, List.head?_cons, same])
      | nil =>
          rw [tried, List.nil_append] at same
          have untouched : object.socket.attempts = [] := by
            apply List.map_eq_nil_iff.mp
            exact before.1.trans tried
          have refused := last.2.2 first same
          rw [Socket.accepts_of_unconnected (consistent.symm.trans last.1), untouched,
            posix.fresh] at refused
          exact refused

/-! ## The condition is enough -/

/-- A scan of a new socket is accepted at once when the device accepts
channel zero. -/
theorem scan_accepted_at_once {self : BluetoothConnection} {answers : Answers}
    (accepted : self.probe answers 0 = true) :
    (self.perform answers .tryFindPort).result = .ok (some 0) ∧
      (self.perform answers .tryFindPort).object.connected = true := by
  have course := self.performed_tryFindPort answers
  generalize self.perform answers .tryFindPort = outcome at course
  cases course with
  | scanAccepted channel _ earlier answered =>
      have zero := first_probe_unique earlier answered
        (fun j below => absurd below (Nat.not_lt_zero j)) accepted
      subst channel
      exact ⟨rfl, self.connected_after_accepted _ self.address _⟩
  | scanRefused refused =>
      exact absurd ((refused 0 (by decide)).symm.trans accepted) Bool.false_ne_true

/-- `connect` returns and raises the flag when its attempt is accepted. -/
theorem connect_of_accepted {self : BluetoothConnection} {answers : Answers} {port : Int}
    (unconnected : self.connected = false) (hasPort : self.port = some port)
    (accepted : self.socket.accepts answers self.address port = true) :
    (self.perform answers .connect).result = .ok none ∧
      (self.perform answers .connect).object.connected = true := by
  rw [perform, connect_of_port answers unconnected hasPort, accepted, if_pos rfl]
  exact ⟨rfl, self.connected_after_accepted [] self.address port⟩

/-- `connect` returns only when its attempt was accepted. -/
theorem accepted_of_connect {self : BluetoothConnection} {answers : Answers} {port : Int}
    (unconnected : self.connected = false) (hasPort : self.port = some port)
    (returned : (self.perform answers .connect).result = .ok none) :
    self.socket.accepts answers self.address port = true := by
  rw [perform, connect_of_port answers unconnected hasPort] at returned
  cases answer : self.socket.accepts answers self.address port with
  | true => rfl
  | false =>
      rw [answer] at returned
      cases returned

theorem unspoilt_of_harmless {device : Nat -> Int -> Bool} {answers : Answers}
    (posix : Posix device answers) {self : BluetoothConnection} (consistent : self.Consistent)
    (unconnected : self.connected = false)
    (refused : forall first, (self.socket.attempts.map Attempt.channel).head? = some first ->
      device 0 first = false)
    (harmless : Harmless device self.port (self.socket.attempts.map Attempt.channel)) :
    self.Unspoilt device answers := by
  have first_attempt : self.socket.attempts = [] -> forall channel,
      self.socket.accepts answers self.address channel = device 0 channel := by
    intro untouched channel
    rw [Socket.accepts_of_unconnected (consistent.symm.trans unconnected), untouched,
      posix.fresh]
  have connects : self.socket.attempts = [] -> forall port : Int, self.port = some port ->
      device self.socket.attempts.length port = true ->
      (self.perform answers .connect).result = .ok none ∧
        (self.perform answers .connect).object.connected = true := by
    intro untouched port hasPort accepts
    rw [untouched] at accepts
    exact connect_of_accepted unconnected hasPort
      ((first_attempt untouched port).trans accepts)
  rcases harmless with ⟨first, head, accepted⟩ | ⟨none_tried, zero⟩ | ⟨nothing, none_found⟩
  · exact absurd ((refused first head).symm.trans accepted) Bool.false_ne_true
  · have untouched := List.map_eq_nil_iff.mp none_tried
    have probed : self.probe answers 0 = true := by
      rw [probe_zero, first_attempt untouched]
      exact zero
    have found := scan_accepted_at_once probed
    refine ⟨connects untouched, ?_, ?_⟩
    · intro i _ earlier _
      cases i with
      | zero => exact found
      | succ i =>
          have contradiction := earlier 0 (Nat.succ_pos i)
          rw [untouched] at contradiction
          exact absurd (contradiction.symm.trans zero) Bool.false_ne_true
    · rintro ⟨message, raised⟩
      rw [found.1] at raised
      cases raised
  · rw [List.length_map] at nothing none_found
    refine ⟨?_, ?_, fun _ => none_found⟩
    · intro port hasPort accepts
      rcases nothing with none_tried | refuses
      · exact connects (List.map_eq_nil_iff.mp none_tried) port hasPort accepts
      · exact absurd ((refuses port hasPort).symm.trans accepts) Bool.false_ne_true
    · intro i below _ accepts
      exact absurd ((none_found i below).symm.trans accepts) Bool.false_ne_true

/-! ## The condition is necessary -/

theorem spoiled_accepts_iff {self : BluetoothConnection} (consistent : self.Consistent)
    (unconnected : self.connected = false) (device : Nat -> Int -> Bool) (address : String)
    (channel : Int) :
    self.socket.accepts (spoiled device) address channel = true ↔
      self.socket.attempts = [] ∧ device 0 channel = true := by
  rw [Socket.accepts_of_unconnected (consistent.symm.trans unconnected), spoiled,
    Bool.and_eq_true_iff, List.isEmpty_iff]

/-- In the environment that never recovers, a scan is accepted at once or not
at all. -/
theorem spoiled_probe_iff {self : BluetoothConnection} (consistent : self.Consistent)
    (unconnected : self.connected = false) (device : Nat -> Int -> Bool) (i : Nat) :
    self.probe (spoiled device) i = true ↔
      self.socket.attempts = [] ∧ i = 0 ∧ device 0 0 = true := by
  have passed : (self.after (refusals self.address i)).connected = false :=
    (connected_after_refused self refusals_refused).trans unconnected
  have accepts := spoiled_accepts_iff (after_consistent consistent (refusals self.address i))
    passed device self.address i
  rw [socket_after, Socket.attempts_tried, List.append_eq_nil_iff] at accepts
  have untouched : refusals self.address i = [] ↔ i = 0 := by
    rw [← List.length_eq_zero_iff, length_refusals]
  rw [probe, accepts, untouched, and_assoc]
  refine and_congr_right (fun _ => and_congr_right (fun zero => ?_))
  rw [zero]
  rfl

/-- A call in that environment succeeds only on a new socket, with its first
channel. -/
theorem spoiled_call_unconnected {self : BluetoothConnection} (consistent : self.Consistent)
    (unconnected : self.connected = false) (device : Nat -> Int -> Bool) (label : Call)
    (refused : self.socket.attempts = [] ->
      forall first, (channelsOf self.port label).head? = some first -> device 0 first = false) :
    (self.call (spoiled device) label).connected = false := by
  cases label with
  | connection => exact unconnected
  | getPressedFromBT arrived granted =>
      rcases (self.deliver arrived).getPressedFromBT_eq_holding granted with ⟨incoming, same⟩
      change ((self.deliver arrived).getPressedFromBT granted).2.connected = false
      rw [same]
      exact unconnected
  | entry entry =>
      have course := self.performed (spoiled device) entry
      change (self.perform (spoiled device) entry).object.connected = false
      generalize self.perform (spoiled device) entry = outcome at course
      cases course with
      | alreadyConnected connected =>
          exact absurd (unconnected.symm.trans connected) Bool.false_ne_true
      | noPort => exact unconnected
      | portAccepted port _ hasPort accepted =>
          have first := (spoiled_accepts_iff consistent unconnected device _ _).mp accepted
          have contradiction := refused first.1 port (by rw [hasPort]; rfl)
          exact absurd (contradiction.symm.trans first.2) Bool.false_ne_true
      | portRefused port =>
          rw [connected_after, unconnected]
          rfl
      | scanAccepted channel _ _ accepted =>
          have first := (spoiled_probe_iff consistent unconnected device channel).mp accepted
          have contradiction := refused first.1 0 head?_scan
          exact absurd (contradiction.symm.trans first.2.2) Bool.false_ne_true
      | scanRefused =>
          rw [connected_after_refused self refusals_refused]
          exact unconnected

theorem spoiled_run_unconnected (device : Nat -> Int -> Bool) (address : String)
    (port : Option Int) (wordSize : Nat) (sequence : List Call)
    (refused : forall first, (channelsTried port sequence).head? = some first ->
      device 0 first = false) :
    (((init address port wordSize).calls (spoiled device)).run sequence).connected = false := by
  induction sequence using List.reverseRecOn with
  | nil => rfl
  | append_singleton earlier label inductionHypothesis =>
      rw [channelsTried_snoc] at refused
      have before := inductionHypothesis (by
        intro first head
        exact refused first (by rw [List.head?_append, head, Option.some_or]))
      have consistent := (calls_consistent (init_consistent address port wordSize)
        (spoiled device)).run earlier
      have fields := ((init address port wordSize).calls_fields (spoiled device)).run earlier
      have tried := (run_unconnected (spoiled_posix device) address port wordSize earlier before).1
      rw [Machine.run_snoc]
      apply spoiled_call_unconnected consistent before device label
      intro untouched first head
      rw [untouched, List.map_nil] at tried
      rw [fields.2.1] at head
      exact refused first (by rw [← tried, List.nil_append]; exact head)

/-- A scan that is refused on every channel raises. -/
theorem scan_raises_of_refused (self : BluetoothConnection) (answers : Answers)
    (refused : forall i, i < channelCount -> self.probe answers i = false) :
    (self.perform answers .tryFindPort).result =
      .error (.addressNotFound "Couldn't connect to the given address.") := by
  have course := self.performed_tryFindPort answers
  generalize self.perform answers .tryFindPort = outcome at course
  cases course with
  | scanAccepted channel below _ accepted =>
      exact absurd ((refused channel below).symm.trans accepted) Bool.false_ne_true
  | scanRefused => rfl

theorem harmless_of_unspoilt {device : Nat -> Int -> Bool} {self : BluetoothConnection}
    (consistent : self.Consistent) (unconnected : self.connected = false)
    (unspoilt : self.Unspoilt device (spoiled device)) :
    Harmless device self.port (self.socket.attempts.map Attempt.channel) := by
  by_cases at_once : self.socket.attempts = [] ∧ device 0 0 = true
  · exact Or.inr (Or.inl ⟨List.map_eq_nil_iff.mpr at_once.1, at_once.2⟩)
  · apply Or.inr
    apply Or.inr
    rw [List.length_map]
    have raised := self.scan_raises_of_refused (spoiled device) (by
      intro i _
      apply Bool.eq_false_iff.mpr
      intro answered
      have first := (spoiled_probe_iff consistent unconnected device i).mp answered
      exact at_once ⟨first.1, first.2.2⟩)
    refine ⟨?_, unspoilt.scan_raises ⟨_, raised⟩⟩
    by_cases untouched : self.socket.attempts = []
    · exact Or.inl (List.map_eq_nil_iff.mpr untouched)
    · apply Or.inr
      intro port hasPort
      apply Bool.eq_false_iff.mpr
      intro accepts
      have returned := (unspoilt.connect_returns port hasPort accepts).1
      have accepted := accepted_of_connect unconnected hasPort returned
      exact untouched ((spoiled_accepts_iff consistent unconnected device _ port).mp accepted).1

/-- For a device, a port and any sequence of earlier calls: earlier refusals
do no harm, under every behaviour that the operating system is allowed,
exactly under the condition. -/
theorem refusals_harmless_iff (device : Nat -> Int -> Bool) (address : String)
    (port : Option Int) (wordSize : Nat) (sequence : List Call) :
    (forall answers, Posix device answers ->
      (((init address port wordSize).calls answers).run sequence).connected = false ->
      (((init address port wordSize).calls answers).run sequence).Unspoilt device answers) ↔
      Harmless device port (channelsTried port sequence) := by
  have stored := fun answers =>
    (((init address port wordSize).calls_fields answers).run sequence).2.1
  change forall answers, _ = port at stored
  constructor
  · intro always
    by_cases accepted : Exists fun first : Int =>
        (channelsTried port sequence).head? = some first ∧ device 0 first = true
    · exact Or.inl accepted
    · have unconnected := spoiled_run_unconnected device address port wordSize sequence (by
        intro first head
        exact Bool.eq_false_iff.mpr (fun accepts => accepted ⟨first, head, accepts⟩))
      have consistent := (calls_consistent (init_consistent address port wordSize)
        (spoiled device)).run sequence
      have harmless := harmless_of_unspoilt consistent unconnected
        (always (spoiled device) (spoiled_posix device) unconnected)
      rw [stored, (run_unconnected (spoiled_posix device) address port wordSize sequence
        unconnected).1] at harmless
      exact harmless
  · intro harmless answers posix unconnected
    have reached := run_unconnected posix address port wordSize sequence unconnected
    have consistent := (calls_consistent (init_consistent address port wordSize) answers).run
      sequence
    apply unspoilt_of_harmless posix consistent unconnected
    · rw [reached.1]
      exact reached.2
    · rw [stored, reached.1]
      exact harmless

/-- A device that always accepts channel 1 and no other, and a new object:
the scan is refused on channel 0 and then never reaches channel 1. -/
theorem scan_spoils_its_own_socket :
    ¬ forall answers, Posix (fun _ channel => channel == 1) answers ->
      (((init "E0:5A:1B:C7:FF:56" none 1).calls answers).run []).connected = false ->
      (((init "E0:5A:1B:C7:FF:56" none 1).calls answers).run []).Unspoilt
        (fun _ channel => channel == 1) answers := by
  intro always
  have unspoilt := always _ (spoiled_posix _) rfl
  have found := unspoilt.scan_returns 1 (by decide) (by
    intro j below
    rw [Nat.lt_one_iff.mp below]
    rfl) rfl
  have raised := (init "E0:5A:1B:C7:FF:56" none 1).scan_raises_of_refused
    (spoiled (fun _ channel => channel == 1)) (by
      intro i _
      apply Bool.eq_false_iff.mpr
      intro answered
      have first := (spoiled_probe_iff (init_consistent _ _ _) rfl _ i).mp answered
      exact absurd first.2.2 (by decide))
  have contradiction := found.1.symm.trans raised
  cases contradiction

end BluetoothConnection

end Connection
end AirDump
