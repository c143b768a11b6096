import AirDump.Foundation.Fifo
import AirDump.Connection.Calls

namespace AirDump
namespace Connection

open Foundation

/-!
# Everything that a client is handed

A client may mix the calls of an object in any order, and the peer may send
and close at any time in between.  The peer sends only over an open link, and
what it sends arrives in order.  The record of the client keeps all results of
`getPressedFromBT`, the raised ones included.

Two facts hold after every such history.  No byte is lost, repeated or moved,
whatever the word size is and however the bytes are split.  And the results
come in three phases: the calls that raise come first, then those that wait or
return bytes, and then those that return the empty word.  An empty word is
hence the end of everything that the peer will ever have sent.
-/

namespace BluetoothConnection

/-- The peer closes its end. -/
def hangUp (self : BluetoothConnection) : BluetoothConnection :=
  { self with socket := { self.socket with closed := true } }

/-- The socket is connected, and its peer has not closed. -/
def isOpen (self : BluetoothConnection) : Bool :=
  self.socket.isConnected && !self.socket.closed

end BluetoothConnection

/-- A call of the client, or something that the peer does. -/
inductive Happening where
  | entry (entry : Entry)
  | connection
  | getPressedFromBT (granted : Nat)
  | arrive (bytes : List UInt8)
  | hangUp

/-- The object, all bytes that ever arrived, and the results of all calls of
`getPressedFromBT`. -/
structure Client where
  object : BluetoothConnection
  arrived : List UInt8
  results : List Socket.Received

/-- The bytes of some results, joined. -/
def handed (results : List Socket.Received) : List UInt8 :=
  results.flatMap (fun received =>
    match received with
    | .bytes data => data
    | _ => [])

theorem handed_snoc (results : List Socket.Received) (received : Socket.Received) :
    handed (results ++ [received]) = handed results ++ handed [received] :=
  List.flatMap_append

namespace Client

/-- A client that has just called the constructor. -/
def fresh (address : String) (port : Option Int) (wordSize : Nat) : Client :=
  ⟨BluetoothConnection.init address port wordSize, [], []⟩

def receive (client : Client) (granted : Nat) : Client where
  object := (client.object.getPressedFromBT granted).2
  arrived := client.arrived
  results := client.results ++ [(client.object.getPressedFromBT granted).1]

def arrive (client : Client) (bytes : List UInt8) : Client :=
  if client.object.isOpen then
    { client with object := client.object.deliver bytes, arrived := client.arrived ++ bytes }
  else
    client

def hangUp (client : Client) : Client :=
  if client.object.isOpen then { client with object := client.object.hangUp } else client

def step (answers : Answers) (client : Client) : Happening -> Client
  | .entry entry => { client with object := (client.object.perform answers entry).object }
  | .connection => client
  | .getPressedFromBT granted => client.receive granted
  | .arrive bytes => client.arrive bytes
  | .hangUp => client.hangUp

/-- All histories of one object. -/
def machine (answers : Answers) (address : String) (port : Option Int) (wordSize : Nat) :
    Machine Client Happening where
  start := fresh address port wordSize
  step := step answers

end Client

/-! ## What one call hands out -/

namespace BluetoothConnection

/-- A call that returns takes its bytes off the front of what has arrived, and
a call that does not return takes nothing. -/
theorem getPressedFromBT_takes (self : BluetoothConnection) (granted : Nat) :
    Exists fun count : Nat => count ≤ self.wordSize ∧
      handed [(self.getPressedFromBT granted).1] = self.socket.incoming.take count ∧
      (self.getPressedFromBT granted).2 = self.holding (self.socket.incoming.drop count) := by
  unfold getPressedFromBT Socket.recv
  split_ifs with nothing connected waits
  · exact ⟨0, Nat.zero_le _, rfl, rfl⟩
  · exact ⟨0, Nat.zero_le _, rfl, rfl⟩
  · have front := List.take_prefix (min self.wordSize (max 1 granted)) self.socket.incoming
    refine ⟨(ByteStream.chunk self.wordSize granted self.socket.incoming).length, ?_, ?_, rfl⟩
    · rw [ByteStream.chunk, List.length_take]
      exact Nat.le_trans (Nat.min_le_left _ _) (Nat.min_le_left _ _)
    · exact (List.append_nil _).trans (List.prefix_iff_eq_take.mp front)
  · exact ⟨0, Nat.zero_le _, rfl, rfl⟩

/-- An entry point touches neither the bytes that have arrived, nor the word
size, nor the end of the peer. -/
theorem perform_keeps (self : BluetoothConnection) (answers : Answers) (entry : Entry) :
    (self.perform answers entry).object.socket.incoming = self.socket.incoming ∧
      (self.perform answers entry).object.socket.closed = self.socket.closed ∧
      (self.perform answers entry).object.wordSize = self.wordSize := by
  rcases (self.performed answers entry).object_eq with ⟨made, same⟩
  rw [same]
  exact ⟨rfl, rfl, rfl⟩

end BluetoothConnection

/-! ## Nothing lost, nothing repeated, nothing moved -/

namespace Client

/-- How the bytes of a history show through an abstract link. -/
structure Shadows (client : Client) (fifo : Fifo UInt8) : Prop where
  pushed : fifo.pushed = client.arrived
  queue : fifo.queue = client.object.socket.incoming
  record : fifo.record = handed client.results

/-- A call takes as many bytes as it returns, and one move of the link takes
one byte. -/
theorem receive_shadows (granted : Nat) {client : Client} {fifo : Fifo UInt8}
    (matched : Shadows client fifo) :
    Exists fun moves : List (Fifo.Move UInt8) =>
      Shadows (client.receive granted) (moves.foldl (Fifo.machine UInt8).step fifo) := by
  rcases client.object.getPressedFromBT_takes granted with ⟨count, _, returned, left⟩
  refine ⟨List.replicate count .pop, ?_⟩
  change Shadows _ ((List.replicate count Fifo.Move.pop).foldl Fifo.step fifo)
  rw [Fifo.foldl_pops]
  refine ⟨matched.pushed, ?_, ?_⟩
  · change fifo.queue.drop count = (client.object.getPressedFromBT granted).2.socket.incoming
    rw [left, matched.queue]
    rfl
  · change fifo.record ++ fifo.queue.take count = handed (client.results ++ [_])
    rw [handed_snoc, returned, matched.queue, matched.record]

theorem machine_simulates_fifo (answers : Answers) (address : String) (port : Option Int)
    (wordSize : Nat) :
    (machine answers address port wordSize).Simulates (Fifo.machine UInt8) Shadows where
  start := ⟨rfl, rfl, rfl⟩
  step := by
    intro client fifo happening matched
    cases happening with
    | entry entry =>
        have kept := (client.object.perform_keeps answers entry).1
        exact ⟨[], matched.pushed, matched.queue.trans kept.symm, matched.record⟩
    | connection => exact ⟨[], matched⟩
    | getPressedFromBT granted => exact receive_shadows granted matched
    | arrive bytes =>
        change Exists fun moves => Shadows (client.arrive bytes) _
        unfold arrive
        split
        · exact ⟨[.push bytes], congrArg (· ++ bytes) matched.pushed,
            congrArg (· ++ bytes) matched.queue, matched.record⟩
        · exact ⟨[], matched⟩
    | hangUp =>
        change Exists fun moves => Shadows client.hangUp _
        unfold hangUp
        split
        · exact ⟨[], matched.pushed, matched.queue, matched.record⟩
        · exact ⟨[], matched⟩

/-- No happening changes the word size. -/
theorem machine_wordSize (answers : Answers) (address : String) (port : Option Int)
    (wordSize : Nat) :
    (machine answers address port wordSize).Preserves
      (fun client => client.object.wordSize = wordSize) where
  start := rfl
  step := by
    intro client happening before
    cases happening with
    | entry entry => exact (client.object.perform_keeps answers entry).2.2.trans before
    | connection => exact before
    | getPressedFromBT granted => exact before
    | arrive bytes =>
        change (client.arrive bytes).object.wordSize = wordSize
        unfold arrive
        split <;> exact before
    | hangUp =>
        change client.hangUp.object.wordSize = wordSize
        unfold hangUp
        split <;> exact before

/-- What a happening does to the record: nothing, or one more call. -/
theorem step_results (answers : Answers) (client : Client) (happening : Happening) :
    (step answers client happening).results = client.results ∨
      Exists fun granted : Nat =>
        (step answers client happening).results =
          client.results ++ [(client.object.getPressedFromBT granted).1] := by
  cases happening with
  | entry entry => exact Or.inl rfl
  | connection => exact Or.inl rfl
  | getPressedFromBT granted => exact Or.inr ⟨granted, rfl⟩
  | arrive bytes =>
      refine Or.inl ?_
      change (client.arrive bytes).results = client.results
      unfold arrive
      split <;> rfl
  | hangUp =>
      refine Or.inl ?_
      change client.hangUp.results = client.results
      unfold hangUp
      split <;> rfl

theorem words_bounded (answers : Answers) (address : String) (port : Option Int)
    (wordSize : Nat) :
    (machine answers address port wordSize).Preserves (fun client =>
      client.object.wordSize = wordSize ∧
        forall data, .bytes data ∈ client.results -> data.length ≤ wordSize) where
  start := ⟨rfl, fun _ member => absurd member List.not_mem_nil⟩
  step := by
    intro client happening before
    refine ⟨(machine_wordSize answers address port wordSize).step _ happening before.1, ?_⟩
    change forall data, .bytes data ∈ (step answers client happening).results -> _
    intro data member
    rcases step_results answers client happening with same | ⟨granted, added⟩
    · rw [same] at member
      exact before.2 data member
    · rw [added, List.mem_append, List.mem_singleton] at member
      rcases member with earlier | returned
      · exact before.2 data earlier
      · rcases client.object.getPressedFromBT_takes granted with ⟨count, bound, word, _⟩
        have taken : data = client.object.socket.incoming.take count := by
          rw [← word, ← returned]
          exact (List.append_nil data).symm
        rw [taken, List.length_take]
        exact Nat.le_trans (Nat.min_le_left _ _) (before.1 ▸ bound)

theorem bytes_conserved (answers : Answers) (address : String) (port : Option Int)
    (wordSize : Nat) (happenings : List Happening) :
    handed ((machine answers address port wordSize).run happenings).results ++
        ((machine answers address port wordSize).run happenings).object.socket.incoming =
      ((machine answers address port wordSize).run happenings).arrived := by
  rcases (machine_simulates_fifo answers address port wordSize).transfer Fifo.machine_lossless
    happenings with ⟨fifo, matched, lossless⟩
  rw [← matched.queue, ← matched.record, ← matched.pushed]
  exact lossless

/-- After every history the words that were returned, joined, are the bytes
that have arrived, up to those that are still to be taken.  No word is longer
than the word size. -/
theorem received_in_order (answers : Answers) (address : String) (port : Option Int)
    (wordSize : Nat) (happenings : List Happening) :
    handed ((machine answers address port wordSize).run happenings).results ++
        ((machine answers address port wordSize).run happenings).object.socket.incoming =
      ((machine answers address port wordSize).run happenings).arrived ∧
    forall data, .bytes data ∈ ((machine answers address port wordSize).run happenings).results ->
      data.length ≤ wordSize :=
  ⟨bytes_conserved answers address port wordSize happenings,
    ((words_bounded answers address port wordSize).run happenings).2⟩

end Client

/-! ## The phases of a connection -/

/-- Before the link, while bytes come or may come, and after the last one. -/
inductive Phase where
  | unlinked
  | linked
  | drained
deriving DecidableEq

namespace Phase

def rank : Phase -> Nat
  | unlinked => 0
  | linked => 1
  | drained => 2

end Phase

/-- The phase that a result belongs to. -/
def Socket.Received.phase : Socket.Received -> Phase
  | .notConnected => .unlinked
  | .blocked => .linked
  | .bytes [] => .drained
  | .bytes (_ :: _) => .linked

/-- The phase that a socket is in. -/
def Socket.phase (socket : Socket) : Phase :=
  if socket.isConnected then
    if socket.incoming.isEmpty && socket.closed then .drained else .linked
  else
    .unlinked

/-- A later phase is never left for an earlier one. -/
def Socket.PhaseBefore (earlier later : Socket) : Prop :=
  earlier.phase.rank ≤ later.phase.rank

namespace Socket

theorem phase_of_unconnected {socket : Socket} (unconnected : socket.isConnected = false) :
    socket.phase = .unlinked := by
  rw [phase, if_neg (Bool.eq_false_iff.mp unconnected)]

theorem phase_of_pending {socket : Socket} (connected : socket.isConnected = true)
    (pending : socket.incoming ≠ []) : socket.phase = .linked := by
  have remaining : socket.incoming.isEmpty = false := by
    rw [← Bool.not_eq_true, List.isEmpty_iff]
    exact pending
  simp only [phase, connected, remaining, Bool.false_and, Bool.false_eq_true, if_true, if_false]

theorem phase_of_open {socket : Socket} (connected : socket.isConnected = true)
    (opened : socket.closed = false) : socket.phase = .linked := by
  simp only [phase, connected, opened, Bool.and_false, Bool.false_eq_true, if_true, if_false]

theorem phase_eq_drained_iff (socket : Socket) :
    socket.phase = .drained ↔
      socket.isConnected = true ∧ socket.incoming = [] ∧ socket.closed = true := by
  rw [← List.isEmpty_iff, phase]
  cases socket.isConnected <;> cases socket.incoming.isEmpty <;> cases socket.closed <;> decide

/-- Nothing comes before the phase without a link. -/
theorem phaseBefore_of_unconnected {socket : Socket} (unconnected : socket.isConnected = false)
    (later : Socket) : socket.PhaseBefore later := by
  rw [PhaseBefore, phase_of_unconnected unconnected]
  exact Nat.zero_le _

/-- A connected socket is in one of the last two phases. -/
theorem phaseBefore_of_linked {earlier later : Socket} (linked : earlier.phase = .linked)
    (connected : later.isConnected = true) : earlier.PhaseBefore later := by
  rw [PhaseBefore, linked, phase, if_pos connected]
  split <;> decide

end Socket

namespace BluetoothConnection

/-- A call returns what belongs to the phase of the socket. -/
theorem getPressedFromBT_phase {self : BluetoothConnection} (sized : 1 ≤ self.wordSize)
    (granted : Nat) : (self.getPressedFromBT granted).1.phase = self.socket.phase := by
  unfold getPressedFromBT Socket.recv
  rw [if_neg (Nat.ne_of_gt sized)]
  split_ifs with connected waits
  · have parts := Bool.and_eq_true_iff.mp waits
    exact (Socket.phase_of_open connected (Bool.not_eq_true' _ |>.mp parts.2)).symm
  · cases queued : self.socket.incoming with
    | nil =>
        have closed : self.socket.closed = true := by
          rw [queued] at waits
          simpa only [List.isEmpty_nil, Bool.true_and, Bool.not_eq_true', Bool.not_eq_false]
            using waits
        have drained := (Socket.phase_eq_drained_iff _).mpr ⟨connected, queued, closed⟩
        rw [drained, ByteStream.chunk, List.take_nil]
        rfl
    | cons oldest rest =>
        have pending : self.socket.incoming ≠ [] := by
          rw [queued]
          exact List.cons_ne_nil _ _
        have positive : min self.wordSize (max 1 granted) =
            min self.wordSize (max 1 granted) - 1 + 1 := by
          omega
        rw [Socket.phase_of_pending connected pending, ByteStream.chunk, positive,
          List.take_succ_cons]
        rfl
  · exact (Socket.phase_of_unconnected (Bool.eq_false_iff.mpr connected)).symm

/-- Taking bytes can only end the phase in which bytes come. -/
theorem holding_drop_phase (self : BluetoothConnection) (count : Nat) :
    self.socket.PhaseBefore (self.holding (self.socket.incoming.drop count)).socket := by
  cases connected : self.socket.isConnected with
  | false => exact Socket.phaseBefore_of_unconnected connected _
  | true =>
      by_cases pending : self.socket.incoming = []
      · rw [pending, List.drop_nil, ← pending]
        exact Nat.le_refl _
      · exact Socket.phaseBefore_of_linked (Socket.phase_of_pending connected pending) connected

/-- An entry point can only end the phase before the link. -/
theorem perform_phase (self : BluetoothConnection) (answers : Answers) (entry : Entry) :
    self.socket.PhaseBefore (self.perform answers entry).object.socket := by
  cases connected : self.socket.isConnected with
  | false => exact Socket.phaseBefore_of_unconnected connected _
  | true =>
      rcases (self.performed answers entry).object_eq with ⟨made, same⟩
      rw [same]
      have still : (self.after made).socket.isConnected = true := by
        rw [socket_after, Socket.isConnected_tried, connected, Bool.true_or]
      unfold Socket.PhaseBefore Socket.phase
      rw [if_pos connected, if_pos still]
      exact Nat.le_refl _

/-- While the link is open the peer is neither missing nor gone. -/
theorem phase_of_isOpen {self : BluetoothConnection} (opened : self.isOpen = true) :
    self.socket.isConnected = true ∧ self.socket.phase = .linked := by
  have parts := Bool.and_eq_true_iff.mp opened
  exact ⟨parts.1, Socket.phase_of_open parts.1 (Bool.not_eq_true' _ |>.mp parts.2)⟩

end BluetoothConnection

namespace Client

/-- No happening leads back to an earlier phase. -/
theorem step_phase (answers : Answers) (client : Client) (happening : Happening) :
    client.object.socket.PhaseBefore (step answers client happening).object.socket := by
  cases happening with
  | entry entry => exact client.object.perform_phase answers entry
  | connection => exact Nat.le_refl _
  | getPressedFromBT granted =>
      rcases client.object.getPressedFromBT_takes granted with ⟨count, _, _, left⟩
      change client.object.socket.PhaseBefore (client.object.getPressedFromBT granted).2.socket
      rw [left]
      exact client.object.holding_drop_phase count
  | arrive bytes =>
      change client.object.socket.PhaseBefore (client.arrive bytes).object.socket
      unfold arrive
      split_ifs with opened
      · have linked := BluetoothConnection.phase_of_isOpen opened
        exact Socket.phaseBefore_of_linked linked.2 linked.1
      · exact Nat.le_refl _
  | hangUp =>
      change client.object.socket.PhaseBefore client.hangUp.object.socket
      unfold hangUp
      split_ifs with opened
      · have linked := BluetoothConnection.phase_of_isOpen opened
        exact Socket.phaseBefore_of_linked linked.2 linked.1
      · exact Nat.le_refl _

/-- The results so far are in the order of their phases, and none of them
belongs to a phase after that of the socket. -/
structure Phased (client : Client) : Prop where
  ordered : client.results.Pairwise
    (fun earlier later => earlier.phase.rank ≤ later.phase.rank)
  reached : forall received, received ∈ client.results ->
    received.phase.rank ≤ client.object.socket.phase.rank

theorem machine_phased (answers : Answers) (address : String) (port : Option Int)
    {wordSize : Nat} (sized : 1 ≤ wordSize) :
    (machine answers address port wordSize).Preserves (fun client =>
      client.object.wordSize = wordSize ∧ client.Phased) where
  start := ⟨rfl, List.Pairwise.nil, fun _ member => absurd member List.not_mem_nil⟩
  step := by
    intro client happening before
    have further := step_phase answers client happening
    refine ⟨(machine_wordSize answers address port wordSize).step _ happening before.1, ?_⟩
    change (step answers client happening).Phased
    rcases step_results answers client happening with same | ⟨granted, added⟩
    · constructor
      · rw [same]
        exact before.2.ordered
      · intro received member
        rw [same] at member
        exact Nat.le_trans (before.2.reached received member) further
    · have current := BluetoothConnection.getPressedFromBT_phase (before.1.symm ▸ sized) granted
      constructor
      · rw [added, List.pairwise_append]
        refine ⟨before.2.ordered, List.pairwise_singleton _ _, ?_⟩
        intro earlier member later returned
        rw [List.mem_singleton.mp returned, current]
        exact before.2.reached earlier member
      · intro received member
        rw [added, List.mem_append, List.mem_singleton] at member
        rcases member with earlier | returned
        · exact Nat.le_trans (before.2.reached received earlier) further
        · rw [returned, current]
          exact further

/-- Once the last byte is taken from a closed link, nothing arrives. -/
theorem step_drained (answers : Answers) {client : Client} {arrived : List UInt8}
    (happening : Happening)
    (drained : client.object.socket.phase = .drained ∧ client.arrived = arrived) :
    (step answers client happening).object.socket.phase = .drained ∧
      (step answers client happening).arrived = arrived := by
  have further := step_phase answers client happening
  rw [Socket.PhaseBefore, drained.1] at further
  refine ⟨?_, ?_⟩
  · cases current : (step answers client happening).object.socket.phase with
    | drained => rfl
    | _ =>
        rw [current] at further
        exact absurd further (by decide)
  · have closed := ((Socket.phase_eq_drained_iff _).mp drained.1).2.2
    have shut : ¬ client.object.isOpen = true := by
      rw [BluetoothConnection.isOpen, closed, Bool.not_true, Bool.and_false]
      exact Bool.false_ne_true
    cases happening with
    | arrive bytes =>
        change (client.arrive bytes).arrived = arrived
        rw [arrive, if_neg shut]
        exact drained.2
    | hangUp =>
        change client.hangUp.arrived = arrived
        rw [hangUp, if_neg shut]
        exact drained.2
    | _ => exact drained.2

/-- The results come in the order of the phases.  Once the empty word is
returned, everything that ever arrives has been handed out, whatever happens
afterwards. -/
theorem results_phased (answers : Answers) (address : String) (port : Option Int)
    (wordSize : Nat) (sized : 1 ≤ wordSize) (happenings : List Happening) :
    ((machine answers address port wordSize).run happenings).results.Pairwise
        (fun earlier later => earlier.phase.rank ≤ later.phase.rank) ∧
      (.bytes [] ∈ ((machine answers address port wordSize).run happenings).results ->
        forall further,
          ((machine answers address port wordSize).run (happenings ++ further)).arrived =
            handed ((machine answers address port wordSize).run happenings).results) := by
  have phased := ((machine_phased answers address port sized).run happenings).2
  refine ⟨phased.ordered, ?_⟩
  intro ended further
  have drained : ((machine answers address port wordSize).run
      happenings).object.socket.phase = .drained := by
    have reached := phased.reached _ ended
    cases current : ((machine answers address port wordSize).run
      happenings).object.socket.phase with
    | drained => rfl
    | _ =>
        rw [current] at reached
        exact absurd reached (by decide)
  have nothing := ((Socket.phase_eq_drained_iff _).mp drained).2.1
  have lossless := bytes_conserved answers address port wordSize happenings
  rw [nothing, List.append_nil] at lossless
  rw [lossless]
  exact (Machine.run_stable
    (fun client : Client => client.object.socket.phase = .drained ∧ client.arrived =
      ((machine answers address port wordSize).run happenings).arrived)
    (fun _ happening => step_drained answers happening) ⟨drained, rfl⟩ further).2

/-- One call before the link, one byte in a word of two, and the empty word. -/
def cutShort : List Happening :=
  [.getPressedFromBT 1, .entry .connect, .arrive [50], .hangUp, .getPressedFromBT 2,
    .getPressedFromBT 2]

theorem cutShort_phased :
    ((machine (fun _ _ _ => true) "esp32bt" (some 1) 2).run cutShort).results =
        [.notConnected, .bytes [50], .bytes []] ∧
      forall further,
        ((machine (fun _ _ _ => true) "esp32bt" (some 1) 2).run
          (cutShort ++ further)).arrived = [50] :=
  ⟨rfl, (results_phased (fun _ _ _ => true) "esp32bt" (some 1) 2 (by decide) cutShort).2
    (by decide)⟩

end Client

end Connection
end AirDump
