import AirDump.Foundation.Blocks
import AirDump.Foundation.Pipeline
import AirDump.Telemetry.EndToEnd

namespace AirDump
namespace Telemetry

open Foundation Connection

/-!
# What the interleaving of the two programs can and cannot change

The device and the receiver never wait for each other, and any schedule is
allowed.  Still the whole state of the system, every printed line and every
pending byte included, is a function of two numbers: how many iterations the
device has done, and how many bytes the receiver has taken.  The system is the
image of the pipeline of these two numbers, turn by turn.

So the states that can be reached are exactly the images of the possible pairs
of numbers, all interleavings can be continued to a common state, and under
fairness the list passes every entry that the device ever sends.
-/

namespace Environment

/-- What the device asks of its peripherals in one iteration. -/
def asked (environment : Environment) (reading : Nat) : List Action :=
  match environment.sensor.get? reading with
  | none => []
  | some result =>
      loop (environment.undefinedByte reading) result.humidade result.temperatura

/-- Everything that the device asked of its peripherals when it has done this
many iterations. -/
def performed (environment : Environment) (count : Nat) : List Action :=
  setup ++ Blocks.joined environment.asked count

/-- The receiver when these bytes are pending and these entries recorded. -/
def receiverAt (pending : List UInt8) (listaa : List Int) : Receiver where
  btconn := Receiver.ready.btconn.holding pending
  listaa := listaa
  stdout := "Connected to: E0:5A:1B:C7:FF:56 : 1" :: listaa.inits.tail.map toString
  failure := none

/-- The device is the producer.  A round is one iteration of `loop`, and yields
the bytes that the port accepts. -/
def pipeline (environment : Environment) : Pipeline where
  more := fun reading => (environment.sensor.get? reading).isSome
  size := fun count => (environment.frames count).length
  grows := by
    intro count
    rw [frames_succ, List.length_append]
    exact Nat.le_add_right _ _

/-- The state of the system when the two programs are this far. -/
def stateAt (environment : Environment) (progress : environment.pipeline.Progress) : State where
  iteration := progress.made
  actions := environment.performed progress.made
  accepted := environment.frames progress.made
  receiver := receiverAt
    (((environment.frames progress.made).drop progress.taken).map TaggedByte.byte)
    (((environment.frames progress.made).take progress.taken).map TaggedByte.note)

end Environment

def Turn.move : Turn -> Pipeline.Move
  | .device => .make
  | .receiver _ => .take

def Turn.ofMove : Pipeline.Move -> Turn
  | .make => .device
  | .take => .receiver 1

namespace Environment

/-! ## The receiver at a moment -/

theorem receiverAt_reading (pending : List UInt8) (listaa : List Int) :
    (receiverAt pending listaa).Reading :=
  ⟨rfl, rfl, rfl⟩

theorem receiverAt_deliver (pending bytes : List UInt8) (listaa : List Int) :
    (receiverAt pending listaa).deliver bytes = receiverAt (pending ++ bytes) listaa :=
  rfl

theorem receiverAt_iterate_nil (listaa : List Int) (granted : Nat) :
    (receiverAt [] listaa).iterate granted = receiverAt [] listaa :=
  Receiver.iterate_of_empty ⟨receiverAt_reading [] listaa, rfl⟩ rfl granted

theorem receiverAt_iterate_cons (oldest : UInt8) (rest : List UInt8) (listaa : List Int)
    (granted : Nat) :
    (receiverAt (oldest :: rest) listaa).iterate granted =
      receiverAt rest (listaa ++ [(oldest.toNat : Int)]) := by
  rw [Receiver.iterate_of_cons (receiverAt_reading _ _) rfl]
  simp only [receiverAt, BluetoothConnection.holding, Receiver.tail_inits_snoc, List.map_append,
    List.map_cons, List.map_nil, List.cons_append]

/-! ## One turn -/

theorem performed_append_asked (environment : Environment) (count : Nat) :
    environment.performed (count + 1) =
      environment.performed count ++ environment.asked count := by
  rw [performed, Blocks.joined_succ, ← List.append_assoc]
  rfl

theorem performed_succ (environment : Environment) {count : Nat} {result : SensorResult}
    (given : environment.sensor.get? count = some result) :
    environment.performed (count + 1) = environment.performed count ++
      loop (environment.undefinedByte count) result.humidade result.temperatura := by
  simp only [performed_append_asked, asked, given]

theorem step_device (environment : Environment) (progress : environment.pipeline.Progress) :
    environment.deviceTurn (environment.stateAt progress) =
      environment.stateAt progress.make := by
  cases given : environment.sensor.get? progress.made with
  | none =>
      have ended : ¬ environment.pipeline.more progress.made = true := by
        change ¬ (environment.sensor.get? progress.made).isSome = true
        rw [given]
        exact Bool.false_ne_true
      rw [Pipeline.Progress.make, dif_neg ended]
      exact deviceTurn_of_none given
  | some result =>
      have further : environment.pipeline.more progress.made = true := by
        change (environment.sensor.get? progress.made).isSome = true
        rw [given]
        rfl
      have yield : environment.frame progress.made =
          tag progress.made (transmitted (environment.accepts progress.made)
            (loop (environment.undefinedByte progress.made) result.humidade
              result.temperatura)) := by
        simp only [frame, given]
      rw [Pipeline.Progress.make, dif_pos further, deviceTurn_of_some given]
      simp only [afterLoop, stateAt, performed_succ environment given,
        frames_succ, receiverAt_deliver]
      rw [List.drop_append_of_le_length progress.within,
        List.take_append_of_le_length progress.within, yield, List.map_append,
        map_byte_tag_transmitted]

theorem step_receiver (environment : Environment) (progress : environment.pipeline.Progress)
    (granted : Nat) :
    { environment.stateAt progress with
      receiver := (environment.stateAt progress).receiver.iterate granted } =
      environment.stateAt progress.take := by
  by_cases ready : progress.taken < environment.pipeline.size progress.made
  · have here : progress.taken < (environment.frames progress.made).length := ready
    rw [Pipeline.Progress.take, dif_pos ready]
    simp only [stateAt]
    rw [List.drop_eq_getElem_cons here, List.map_cons, receiverAt_iterate_cons,
      List.take_add_one, List.getElem?_eq_getElem here, List.map_append]
    rfl
  · have nothing : (environment.frames progress.made).drop progress.taken = [] :=
      List.drop_of_length_le (Nat.le_of_not_lt ready)
    rw [Pipeline.Progress.take, dif_neg ready]
    simp only [stateAt]
    rw [nothing, List.map_nil, receiverAt_iterate_nil]

/-- The system is the image of the pipeline of its two counts. -/
theorem machine_represents_pipeline (environment : Environment) :
    environment.machine.Represents environment.pipeline.machine environment.stateAt
      Turn.move where
  start := rfl
  step := by
    intro progress turn
    cases turn with
    | device => exact environment.step_device progress
    | receiver granted => exact environment.step_receiver progress granted

/-! ## Exactly the possible states are reached -/

theorem map_move_turns (moves : List Pipeline.Move) :
    (moves.map Turn.ofMove).map Turn.move = moves := by
  rw [List.map_map]
  have inverse : Turn.move ∘ Turn.ofMove = id := by
    funext move
    cases move <;> rfl
  rw [inverse, List.map_id]

theorem exists_schedule (environment : Environment) (progress : environment.pipeline.Progress) :
    Exists fun schedule : List Turn =>
      environment.machine.run schedule = environment.stateAt progress := by
  rcases Pipeline.exists_run progress with ⟨moves, reached⟩
  refine ⟨moves.map Turn.ofMove, ?_⟩
  rw [environment.machine_represents_pipeline.run, map_move_turns, reached]

/-- A state is reached by some interleaving exactly when it is the state of a
possible pair of counts. -/
theorem reachable_iff (environment : Environment) (state : State) :
    (Exists fun schedule : List Turn => environment.machine.run schedule = state) ↔
      Exists fun progress : environment.pipeline.Progress =>
        state = environment.stateAt progress := by
  constructor
  · rintro ⟨schedule, reached⟩
    rw [← reached]
    exact ⟨_, environment.machine_represents_pipeline.run schedule⟩
  · rintro ⟨progress, same⟩
    rw [same]
    exact environment.exists_schedule progress

theorem length_listaa_stateAt (environment : Environment)
    (progress : environment.pipeline.Progress) :
    (environment.stateAt progress).receiver.listaa.length = progress.taken := by
  have within : progress.taken ≤ (environment.frames progress.made).length := progress.within
  change (((environment.frames progress.made).take progress.taken).map
    TaggedByte.note).length = progress.taken
  rw [List.length_map, List.length_take, Nat.min_eq_left within]

/-- Two interleavings end in the same state, down to the last printed line and
the last pending byte, exactly when they agree on the number of iterations of
the device and on the length of the list. -/
theorem run_eq_run_iff (environment : Environment) (first second : List Turn) :
    environment.machine.run first = environment.machine.run second ↔
      (environment.machine.run first).iteration = (environment.machine.run second).iteration ∧
      (environment.machine.run first).receiver.listaa.length =
        (environment.machine.run second).receiver.listaa.length := by
  constructor
  · intro same
    rw [same]
    exact ⟨rfl, rfl⟩
  · rw [environment.machine_represents_pipeline.run first,
      environment.machine_represents_pipeline.run second, length_listaa_stateAt,
      length_listaa_stateAt]
    rintro ⟨made, taken⟩
    exact congrArg environment.stateAt (Pipeline.Progress.ext made taken)

/-- Iterations without a sensor result add nothing, so as many as there are
results are enough. -/
theorem exists_possible_count (environment : Environment) (count : Nat) :
    Exists fun made : Nat =>
      (forall round, round < made -> environment.pipeline.more round = true) ∧
        environment.frames made = environment.frames count := by
  induction count with
  | zero => exact ⟨0, fun _ below => absurd below (Nat.not_lt_zero _), rfl⟩
  | succ count inductionHypothesis =>
      cases given : environment.sensor.get? count with
      | none =>
          rcases inductionHypothesis with ⟨made, possible, same⟩
          refine ⟨made, possible, ?_⟩
          rw [frames_succ, frame_of_none given, List.append_nil]
          exact same
      | some result =>
          refine ⟨count + 1, ?_, rfl⟩
          intro round below
          rcases environment.sensor.ge_stable (Nat.le_of_lt_succ below) given with ⟨earlier, here⟩
          exact Option.isSome_iff_exists.mpr ⟨earlier, here⟩

/-- The lists that can be seen are exactly the prefixes of what the port
accepts. -/
theorem listaa_reachable_iff (environment : Environment) (notes : List Int) :
    (Exists fun schedule : List Turn =>
      (environment.machine.run schedule).receiver.listaa = notes) ↔
      Exists fun count : Nat => notes <+: (environment.frames count).map TaggedByte.note := by
  constructor
  · rintro ⟨schedule, reached⟩
    rw [← reached]
    exact ⟨_, environment.listaa_prefix_frames schedule⟩
  · rintro ⟨count, within⟩
    rcases environment.exists_possible_count count with ⟨made, possible, same⟩
    rw [← same] at within
    have bound := within.length_le
    rw [List.length_map] at bound
    rcases environment.exists_schedule ⟨made, notes.length, possible, bound⟩ with
      ⟨schedule, reached⟩
    refine ⟨schedule, ?_⟩
    rw [reached]
    change ((environment.frames made).take notes.length).map TaggedByte.note = notes
    rw [List.map_take]
    exact (List.prefix_iff_eq_take.mp within).symm

/-! ## Fair schedules record everything -/

/-- When both programs have their turn again and again, the list passes
everything that the port accepts, and keeps it. -/
theorem fair_run_records (environment : Environment) {turns : Nat -> Turn}
    (devices : InfinitelyOften (fun time => (turns time).move = .make))
    (receivers : InfinitelyOften (fun time => (turns time).move = .take)) (count : Nat) :
    Exists fun time : Nat => forall later, time ≤ later ->
      (environment.frames count).map TaggedByte.note <+:
        (environment.machine.moment turns later).receiver.listaa := by
  rcases environment.exists_possible_count count with ⟨made, possible, same⟩
  rcases Pipeline.fair_passes devices receivers
    (⟨made, (environment.frames made).length, possible, Nat.le_refl _⟩ :
      environment.pipeline.Progress) with ⟨time, passed⟩
  refine ⟨time, ?_⟩
  intro later after
  rw [environment.machine_represents_pipeline.moment, ← same]
  have further := environment.pipeline.moment_mono (fun index => (turns index).move) after
  have longer := Blocks.joined_prefix_of_le environment.frame (passed.1.trans further.1)
  apply List.IsPrefix.map
  exact List.prefix_take_iff.mpr ⟨longer, passed.2.trans further.2⟩

end Environment

/-- A run in which both programs have their turn again and again. -/
structure FairTurns (turns : Nat -> Turn) : Prop where
  devices : InfinitelyOften (fun time => (turns time).move = .make)
  receivers : InfinitelyOften (fun time => (turns time).move = .take)

/-- The lists that can be seen are exactly the prefixes of the report, when
all valid readings are in the range of a byte, and only then. -/
theorem listaa_reachable_published_iff (sensor : Stream'.Seq SensorResult)
    (undefinedByte : Nat -> Field -> UInt8) :
    (forall notes : List Int,
      (Exists fun schedule : List Turn =>
        ((completeWrites sensor undefinedByte).machine.run schedule).receiver.listaa = notes) ↔
          Exists fun count : Nat => notes <+: published sensor count) ↔
      forall reading result, sensor.get? reading = some result -> result.Valid ->
        result.Fits := by
  constructor
  · intro exactly reading result given valid
    exact fits_of_prefix sensor undefinedByte
      (fun schedule => (exactly _).mp ⟨schedule, rfl⟩) given valid
  · intro fits notes
    have frames := fun count => (frames_eq_published_iff sensor undefinedByte count).mpr
      (fun reading _ => fits reading)
    rw [Environment.listaa_reachable_iff]
    simp only [frames]

/-- Under fairness every entry of the report appears, and stays. -/
theorem fair_run_publishes (sensor : Stream'.Seq SensorResult)
    (undefinedByte : Nat -> Field -> UInt8)
    (fits : forall reading result, sensor.get? reading = some result -> result.Valid ->
      result.Fits)
    (turns : Nat -> Turn) (fair : FairTurns turns) (count : Nat) :
    Exists fun time : Nat => forall later, time ≤ later ->
      published sensor count <+:
        ((completeWrites sensor undefinedByte).machine.moment turns later).receiver.listaa := by
  rw [← (frames_eq_published_iff sensor undefinedByte count).mpr (fun reading _ => fits reading)]
  exact (completeWrites sensor undefinedByte).fair_run_records fair.devices fair.receivers count

/-- The two programs in strict alternation. -/
def alternating (time : Nat) : Turn :=
  if time % 2 = 0 then .device else .receiver 1

theorem alternating_fair : FairTurns alternating where
  devices := by
    intro time
    have even : alternating (2 * time) = .device := by
      rw [alternating, if_pos (by omega)]
    exact ⟨2 * time, by omega, congrArg Turn.move even⟩
  receivers := by
    intro time
    have odd : alternating (2 * time + 1) = .receiver 1 := by
      rw [alternating, if_neg (by omega)]
    exact ⟨2 * time + 1, by omega, congrArg Turn.move odd⟩

/-- Fifty-five percent of humidity at twenty-two degrees. -/
def mild : SensorResult where
  humidade := 55.0
  temperatura := 22.0
  humidade_not_infinite := by decide +kernel
  temperatura_not_infinite := by decide +kernel

/-- In strict alternation the list comes to show fifty-five and twenty-two. -/
theorem mild_is_published :
    Exists fun time : Nat => forall later, time ≤ later ->
      published (Stream'.Seq.ofList [mild]) 1 <+:
        ((completeWrites (Stream'.Seq.ofList [mild]) (fun _ _ => 0)).machine.moment
          alternating later).receiver.listaa := by
  apply fair_run_publishes (Stream'.Seq.ofList [mild]) (fun _ _ => 0) _ alternating
    alternating_fair
  intro reading result given _
  cases reading with
  | zero =>
      have same : mild = result := Option.some.inj given
      rw [← same]
      decide +kernel
  | succ reading => cases given

end Telemetry
end AirDump
