import AirDump.Foundation.Blocks
import AirDump.Foundation.Fifo
import AirDump.Telemetry.Firmware
import AirDump.Telemetry.Receiver
import Mathlib.Data.Seq.Basic

namespace AirDump
namespace Telemetry

open Foundation

/-!
# The device and the receiver together

The two programs run independently, and a schedule says whose turn it is.  In
a turn of the device one iteration of `loop` runs, and the bytes that the port
accepts are at the socket of the receiver at once, in order.  In a turn of the
receiver one iteration of its loop runs.  A device without a further sensor
result and a receiver without a byte keep the state as it is.

The state also remembers every accepted byte with the reading and the value
that it stands for.  Neither program reads that history.  It moves as a
lossless first-in first-out link, and its content is a function of the number
of iterations alone, whatever the schedule.
-/

/-- Everything that is decided outside the two programs: what the sensor
returns in each iteration, how many leading bytes of its buffer the port
accepts, and what a cast outside its range produces. -/
structure Environment where
  sensor : Stream'.Seq SensorResult
  accepts : Nat -> Fin 3
  undefinedByte : Nat -> Field -> UInt8

/-- An accepted byte, with the iteration and the value that it stands for. -/
structure TaggedByte where
  byte : UInt8
  reading : Nat
  field : Field
deriving DecidableEq

/-- The byte as the receiver records it. -/
def TaggedByte.note (tagged : TaggedByte) : Int :=
  (tagged.byte.toNat : Int)

/-- The first byte of a buffer is the humidity, the second the temperature. -/
def tag (reading : Nat) (bytes : List UInt8) : List TaggedByte :=
  List.zipWith (fun field byte => ⟨byte, reading, field⟩) [.humidade, .temperatura] bytes

/-- The iterations done by the device, everything it asked of its peripherals,
the bytes its port accepted, and the state of the receiving program. -/
structure State where
  iteration : Nat
  actions : List Action
  accepted : List TaggedByte
  receiver : Receiver

/-- Whose turn it is, and how many bytes the receiver could be handed. -/
inductive Turn where
  | device
  | receiver (granted : Nat)

/-- Both programs are about to enter their loops, the receiver connected. -/
def State.initial : State :=
  ⟨0, setup, [], Receiver.ready⟩

namespace Environment

/-- The state after one iteration of `loop` with this sensor result. -/
def afterLoop (environment : Environment) (state : State) (result : SensorResult) : State :=
  let actions := loop (environment.undefinedByte state.iteration)
    result.humidade result.temperatura
  let bytes := transmitted (environment.accepts state.iteration) actions
  { iteration := state.iteration + 1
    actions := state.actions ++ actions
    accepted := state.accepted ++ tag state.iteration bytes
    receiver := state.receiver.deliver bytes }

def deviceTurn (environment : Environment) (state : State) : State :=
  match environment.sensor.get? state.iteration with
  | none => state
  | some result => environment.afterLoop state result

def step (environment : Environment) (state : State) : Turn -> State
  | .device => environment.deviceTurn state
  | .receiver granted => { state with receiver := state.receiver.iterate granted }

/-- All interleavings of the two programs. -/
def machine (environment : Environment) : Machine State Turn where
  start := State.initial
  step := environment.step

/-- The tagged bytes of one iteration. -/
def frame (environment : Environment) (reading : Nat) : List TaggedByte :=
  match environment.sensor.get? reading with
  | none => []
  | some result => tag reading (transmitted (environment.accepts reading)
      (loop (environment.undefinedByte reading) result.humidade result.temperatura))

/-- The tagged bytes of this many iterations. -/
def frames (environment : Environment) (count : Nat) : List TaggedByte :=
  Blocks.joined environment.frame count

/-! ## What a turn can do -/

theorem deviceTurn_of_none {environment : Environment} {state : State}
    (ended : environment.sensor.get? state.iteration = none) :
    environment.deviceTurn state = state := by
  simp only [deviceTurn, ended]

theorem deviceTurn_of_some {environment : Environment} {state : State} {result : SensorResult}
    (given : environment.sensor.get? state.iteration = some result) :
    environment.deviceTurn state = environment.afterLoop state result := by
  simp only [deviceTurn, given]

/-- A turn of the device does nothing, or is one iteration of `loop`. -/
theorem deviceTurn_cases (environment : Environment) (state : State) :
    environment.deviceTurn state = state ∨
      Exists fun result : SensorResult =>
        environment.sensor.get? state.iteration = some result ∧
          environment.deviceTurn state = environment.afterLoop state result := by
  cases given : environment.sensor.get? state.iteration with
  | none => exact Or.inl (deviceTurn_of_none given)
  | some result => exact Or.inr ⟨result, rfl, deviceTurn_of_some given⟩

/-- An invariant of the system is kept by an iteration of `loop` and by an
iteration of the receiver. -/
theorem preserves_of_iterations {environment : Environment} {invariant : State -> Prop}
    (start : invariant State.initial)
    (device : forall state result, environment.sensor.get? state.iteration = some result ->
      invariant state -> invariant (environment.afterLoop state result))
    (receiver : forall state granted, invariant state ->
      invariant { state with receiver := state.receiver.iterate granted }) :
    environment.machine.Preserves invariant where
  start := start
  step := by
    intro state turn before
    cases turn with
    | receiver granted => exact receiver state granted before
    | device =>
        change invariant (environment.deviceTurn state)
        rcases environment.deviceTurn_cases state with same | ⟨result, given, next⟩
        · rw [same]
          exact before
        · rw [next]
          exact device state result given before

/-! ## The bytes of one iteration -/

theorem tag_take (reading : Nat) (humidade temperatura : UInt8) (accepts : Nat) :
    tag reading ([humidade, temperatura].take accepts) =
      [⟨humidade, reading, .humidade⟩, ⟨temperatura, reading, .temperatura⟩].take accepts := by
  rcases accepts with _ | _ | more
  · rfl
  · rfl
  · rw [List.take_of_length_le (Nat.le_add_left 2 more),
      List.take_of_length_le (Nat.le_add_left 2 more)]
    rfl

theorem frame_of_none {environment : Environment} {reading : Nat}
    (ended : environment.sensor.get? reading = none) : environment.frame reading = [] := by
  simp only [frame, ended]

theorem frame_of_not_valid {environment : Environment} {reading : Nat} {result : SensorResult}
    (given : environment.sensor.get? reading = some result) (invalid : ¬ result.Valid) :
    environment.frame reading = [] := by
  simp only [frame, given, transmitted_of_not_valid _ _ invalid]
  rfl

theorem frame_of_valid {environment : Environment} {reading : Nat} {result : SensorResult}
    (given : environment.sensor.get? reading = some result) (valid : result.Valid) :
    environment.frame reading =
      [⟨result.byte (environment.undefinedByte reading) .humidade, reading, .humidade⟩,
        ⟨result.byte (environment.undefinedByte reading) .temperatura, reading,
          .temperatura⟩].take (environment.accepts reading) := by
  simp only [frame, given, transmitted_of_valid _ _ valid, tag_take]

theorem frames_succ (environment : Environment) (count : Nat) :
    environment.frames (count + 1) = environment.frames count ++ environment.frame count :=
  Blocks.joined_succ environment.frame count

/-- Tagging the bytes of an iteration keeps the bytes. -/
theorem map_byte_tag_transmitted (reading accepts : Nat) (undefinedByte : Field -> UInt8)
    (result : SensorResult) :
    (tag reading (transmitted accepts
        (loop undefinedByte result.humidade result.temperatura))).map TaggedByte.byte =
      transmitted accepts (loop undefinedByte result.humidade result.temperatura) := by
  by_cases valid : result.Valid
  · rw [transmitted_of_valid _ _ valid, tag_take, List.map_take]
    rfl
  · rw [transmitted_of_not_valid _ _ valid]
    rfl

/-! ## The composition refines a lossless link -/

/-- How the running system shows through an abstract link of tagged bytes. -/
structure Shadows (state : State) (fifo : Fifo TaggedByte) : Prop where
  running : state.receiver.Running
  pushed : fifo.pushed = state.accepted
  queue : fifo.queue.map TaggedByte.byte = state.receiver.pending
  record : fifo.record.map TaggedByte.note = state.receiver.listaa

theorem deviceTurn_shadows (environment : Environment) {state : State}
    {fifo : Fifo TaggedByte} (matched : Shadows state fifo) :
    Exists fun moves : List (Fifo.Move TaggedByte) =>
      Shadows (environment.deviceTurn state) (moves.foldl (Fifo.machine TaggedByte).step fifo) := by
  rcases environment.deviceTurn_cases state with same | ⟨result, _, next⟩
  · refine ⟨[], ?_⟩
    rw [same]
    exact matched
  · refine ⟨[.push (tag state.iteration (transmitted (environment.accepts state.iteration)
      (loop (environment.undefinedByte state.iteration) result.humidade
        result.temperatura)))], ?_⟩
    rw [next]
    refine ⟨Receiver.deliver_running matched.running _, ?_, ?_, matched.record⟩
    · exact congrArg (· ++ _) matched.pushed
    · change (fifo.queue ++ _).map TaggedByte.byte = state.receiver.pending ++ _
      rw [List.map_append, matched.queue, map_byte_tag_transmitted]

theorem receiverTurn_shadows (granted : Nat) {state : State} {fifo : Fifo TaggedByte}
    (matched : Shadows state fifo) :
    Shadows { state with receiver := state.receiver.iterate granted } fifo.pop := by
  cases queued : fifo.queue with
  | nil =>
      have empty : state.receiver.pending = [] := by
        rw [← matched.queue, queued]
        rfl
      have waits := Receiver.iterate_of_empty matched.running empty granted
      have same : fifo.pop = fifo := by
        simp only [Fifo.pop, queued]
      rw [waits, same]
      exact matched
  | cons oldest rest =>
      have pending : state.receiver.pending = oldest.byte :: rest.map TaggedByte.byte := by
        rw [← matched.queue, queued]
        rfl
      have taken := Receiver.iterate_keeps matched.running.toReading pending granted
      have popped : fifo.pop = { fifo with queue := rest, record := fifo.record ++ [oldest] } := by
        simp only [Fifo.pop, queued]
      rw [popped]
      refine ⟨⟨taken.1, taken.2.2.2.trans matched.running.opened⟩, matched.pushed,
        taken.2.1.symm, ?_⟩
      rw [taken.2.2.1, ← matched.record, List.map_append]
      rfl

/-- Every interleaving moves as a lossless link of tagged bytes does. -/
theorem machine_simulates_fifo (environment : Environment) :
    environment.machine.Simulates (Fifo.machine TaggedByte) Shadows where
  start := ⟨Receiver.ready_running, rfl, rfl, rfl⟩
  step := by
    intro state fifo turn matched
    cases turn with
    | device => exact environment.deviceTurn_shadows matched
    | receiver granted => exact ⟨[.pop], receiverTurn_shadows granted matched⟩

/-- At every moment of every interleaving the receiver runs, the list records
the oldest accepted bytes, and the rest of them is still to be taken. -/
theorem run_lossless (environment : Environment) (schedule : List Turn) :
    (environment.machine.run schedule).receiver.Running ∧
      Exists fun taken : List TaggedByte => Exists fun left : List TaggedByte =>
        (environment.machine.run schedule).accepted = taken ++ left ∧
        (environment.machine.run schedule).receiver.listaa = taken.map TaggedByte.note ∧
        (environment.machine.run schedule).receiver.pending = left.map TaggedByte.byte := by
  rcases environment.machine_simulates_fifo.transfer Fifo.machine_lossless schedule with
    ⟨fifo, matched, lossless⟩
  refine ⟨matched.running, fifo.record, fifo.queue, ?_, matched.record.symm, matched.queue.symm⟩
  rw [← matched.pushed]
  exact lossless.symm

/-- What the port accepted depends on the number of iterations alone. -/
theorem accepted_eq_frames (environment : Environment) :
    environment.machine.Preserves
      (fun state => state.accepted = environment.frames state.iteration) := by
  apply preserves_of_iterations
  · rfl
  · intro state result given before
    change state.accepted ++ _ = environment.frames (state.iteration + 1)
    rw [frames_succ, before]
    simp only [frame, given]
  · exact fun _ _ before => before

/-- The list is always a prefix of the bytes of the iterations done. -/
theorem listaa_prefix_frames (environment : Environment) (schedule : List Turn) :
    (environment.machine.run schedule).receiver.listaa <+:
      (environment.frames (environment.machine.run schedule).iteration).map TaggedByte.note := by
  rcases environment.run_lossless schedule with ⟨_, taken, left, accepted, recorded, _⟩
  rw [← environment.accepted_eq_frames.run schedule, accepted, recorded, List.map_append]
  exact List.prefix_append _ _

/-- In every interleaving the printed lines follow the list. -/
theorem run_printed (environment : Environment) :
    environment.machine.Preserves (fun state => state.receiver.Printed) := by
  apply preserves_of_iterations
  · rfl
  · exact fun _ _ _ printed => printed
  · exact fun _ granted printed => Receiver.iterate_printed printed granted

/-! ## Nothing but what the device wrote -/

/-- A port that accepts less takes some of the bytes, in order. -/
theorem transmitted_sublist (accepts : Fin 3) (undefinedByte : Field -> UInt8)
    (result : SensorResult) :
    (transmitted accepts (loop undefinedByte result.humidade result.temperatura)).Sublist
      (transmitted 2 (loop undefinedByte result.humidade result.temperatura)) := by
  by_cases valid : result.Valid
  · rw [transmitted_of_valid _ _ valid, transmitted_of_valid _ _ valid]
    exact (List.take_prefix_take_left (Nat.le_of_lt_succ accepts.isLt)).sublist
  · rw [transmitted_of_not_valid _ _ valid]
    exact List.nil_sublist _

theorem accepted_sublist_written (environment : Environment) :
    environment.machine.Preserves (fun state =>
      (state.accepted.map TaggedByte.byte).Sublist (transmitted 2 state.actions)) := by
  apply preserves_of_iterations
  · exact List.Sublist.slnil
  · intro state result _ before
    change ((state.accepted ++ _).map TaggedByte.byte).Sublist
      (transmitted 2 (state.actions ++ _))
    rw [List.map_append, map_byte_tag_transmitted, transmitted_append]
    exact before.append (transmitted_sublist _ _ _)
  · exact fun _ _ before => before

/-- However little the port accepts, the list holds bytes that the device has
written, each at most once and in their order. -/
theorem listaa_sublist_written (environment : Environment) (schedule : List Turn) :
    (environment.machine.run schedule).receiver.listaa.Sublist
      ((transmitted 2 (environment.machine.run schedule).actions).map
        (fun byte => (byte.toNat : Int))) := by
  rcases environment.run_lossless schedule with ⟨_, taken, left, accepted, recorded, _⟩
  have written := environment.accepted_sublist_written.run schedule
  rw [accepted, List.map_append] at written
  have oldest := ((List.sublist_append_left _ _).trans written).map
    (fun byte : UInt8 => (byte.toNat : Int))
  rw [List.map_map] at oldest
  rw [recorded]
  exact oldest

/-! ## Schedules that deliver everything -/

theorem iteration_of_devices (environment : Environment) (count : Nat)
    (given : forall reading, reading < count ->
      Exists fun result : SensorResult => environment.sensor.get? reading = some result) :
    (environment.machine.run (List.replicate count .device)).iteration = count := by
  induction count with
  | zero => rfl
  | succ count inductionHypothesis =>
      have before := inductionHypothesis
        (fun reading below => given reading (Nat.lt_succ_of_lt below))
      rcases given count (Nat.lt_succ_self count) with ⟨result, here⟩
      rw [List.replicate_succ', Machine.run_snoc]
      change (environment.deviceTurn _).iteration = count + 1
      simp only [deviceTurn, before, here, afterLoop]

/-- From a running receiver, some turns of the receiver take everything that
is pending, and nothing else changes. -/
theorem drain (environment : Environment) (pending : List UInt8) :
    forall state : State, state.receiver.Running -> state.receiver.pending = pending ->
      Exists fun turns : List Turn =>
        (turns.foldl environment.step state).receiver.pending = [] ∧
        (turns.foldl environment.step state).iteration = state.iteration := by
  induction pending with
  | nil => exact fun state _ empty => ⟨[], empty, rfl⟩
  | cons oldest rest inductionHypothesis =>
      intro state running queued
      have taken := Receiver.iterate_keeps running.toReading queued 1
      have further : (state.receiver.iterate 1).Running :=
        ⟨taken.1, taken.2.2.2.trans running.opened⟩
      rcases inductionHypothesis { state with receiver := state.receiver.iterate 1 }
        further taken.2.1 with ⟨turns, emptied, same⟩
      exact ⟨.receiver 1 :: turns, emptied, same⟩

/-- Every sensor result is followed, in some schedule, by a moment at which
the list records all bytes accepted up to it. -/
theorem exists_delivered (environment : Environment) {reading : Nat} {result : SensorResult}
    (given : environment.sensor.get? reading = some result) :
    Exists fun schedule : List Turn =>
      (environment.machine.run schedule).iteration = reading + 1 ∧
      (environment.machine.run schedule).receiver.listaa =
        (environment.frames (reading + 1)).map TaggedByte.note := by
  have done := environment.iteration_of_devices (reading + 1) (fun earlier below =>
    environment.sensor.ge_stable (Nat.le_of_lt_succ below) given)
  have running := (environment.run_lossless (List.replicate (reading + 1) .device)).1
  rcases environment.drain _ _ running rfl with ⟨turns, emptied, same⟩
  refine ⟨List.replicate (reading + 1) .device ++ turns, ?_⟩
  have final := Machine.run_append environment.machine
    (List.replicate (reading + 1) .device) turns
  have count : (environment.machine.run
      (List.replicate (reading + 1) .device ++ turns)).iteration = reading + 1 := by
    rw [final]
    exact same.trans done
  refine ⟨count, ?_⟩
  rcases environment.run_lossless (List.replicate (reading + 1) .device ++ turns) with
    ⟨_, taken, left, accepted, recorded, pending⟩
  have nothing_left : left = [] := by
    apply List.map_eq_nil_iff.mp
    rw [← pending, final]
    exact emptied
  rw [recorded, ← count, ← environment.accepted_eq_frames.run, accepted, nothing_left,
    List.append_nil]

end Environment

end Telemetry
end AirDump
