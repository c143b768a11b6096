import AirDump.Connection.Receiving
import AirDump.Telemetry.Framing
import AirDump.Telemetry.Interleavings

namespace AirDump
namespace Telemetry

open Foundation Connection

/-!
# The two programs from their start to their end

The device is switched on, and begins to measure before anything is connected
to it.  At some moment the receiving program starts, and connects or is
refused.  While the link is open the two programs work as in `Delivery`.  Then
the peer hangs up, or a call of `recv` raises, and the receiving program ends.

An iteration of `loop` is one event here, and `Stepwise` takes it apart into
its calls.  A port without an open link accepts nothing, so what the device
measured before the link and after it is lost to the receiver.  The
composition of `Delivery` is found again inside the life of the two programs:
as long as the link is open, the receiver is that of some interleaving over
the sensor results that were left when the link was made.
-/

namespace Receiver

/-- The program runs, and its link is open. -/
def linked (receiver : Receiver) : Bool :=
  receiver.failure.isNone && receiver.btconn.isOpen

/-- An iteration of the loop in which `recv` raises. -/
def fail (receiver : Receiver) : Receiver :=
  match receiver.failure with
  | some _ => receiver
  | none => { receiver with failure := some .osError }

def hangUp (receiver : Receiver) : Receiver :=
  { receiver with btconn := receiver.btconn.hangUp }

end Receiver

/-- The receiving program before its first statement, ended by an exception of
the statements before its loop, or in its loop. -/
inductive Program where
  | starting
  | raised (error : ConnectionError)
  | looping (receiver : Receiver)
deriving DecidableEq

namespace Program

def linked : Program -> Bool
  | .looping receiver => receiver.linked
  | _ => false

def ended : Program -> Bool
  | .starting => false
  | .raised _ => true
  | .looping receiver => receiver.failure.isSome

def deliver (bytes : List UInt8) : Program -> Program
  | .looping receiver => .looping (receiver.deliver bytes)
  | program => program

/-- The statements before the loop, or one iteration of it. -/
def turn (answers : Answers) (granted : Nat) : Program -> Program
  | .starting =>
      match Receiver.start answers with
      | .error error => .raised error
      | .ok receiver => .looping receiver
  | .raised error => .raised error
  | .looping receiver => .looping (receiver.iterate granted)

def fail : Program -> Program
  | .looping receiver => .looping receiver.fail
  | program => program

/-- Only an open link can be closed. -/
def hangUp : Program -> Program
  | .looping receiver => .looping (if receiver.linked then receiver.hangUp else receiver)
  | program => program

end Program

/-- The iterations done by the device, everything it asked of its peripherals,
and the receiving program. -/
structure World where
  iteration : Nat
  actions : List Action
  program : Program

/-- What happens next: an iteration of `loop`, a turn of the receiving program,
such a turn in which `recv` raises, or the end of the peer. -/
inductive Event where
  | device
  | receiver (granted : Nat)
  | receiverFails
  | hangUp

/-- A turn of the receiving program in which no call raises. -/
def Event.isReceiver : Event -> Bool
  | .receiver _ => true
  | _ => false

/-- The peer hangs up, or the link breaks. -/
def Event.closes : Event -> Bool
  | .hangUp => true
  | .receiverFails => true
  | _ => false

namespace Environment

/-- The device has been set up, and nobody is connected to it. -/
def switchedOn : World :=
  ⟨0, setup, .starting⟩

/-- How many of the leading bytes the port accepts now. -/
def acceptsNow (environment : Environment) (world : World) : Nat :=
  if world.program.linked then environment.accepts world.iteration else 0

def worldAfterLoop (environment : Environment) (world : World) (result : SensorResult) :
    World :=
  let actions := loop (environment.undefinedByte world.iteration)
    result.humidade result.temperatura
  { iteration := world.iteration + 1
    actions := world.actions ++ actions
    program := world.program.deliver (transmitted (environment.acceptsNow world) actions) }

def worldStep (environment : Environment) (answers : Answers) (world : World) : Event -> World
  | .device =>
      match environment.sensor.get? world.iteration with
      | none => world
      | some result => environment.worldAfterLoop world result
  | .receiver granted => { world with program := world.program.turn answers granted }
  | .receiverFails => { world with program := world.program.fail }
  | .hangUp => { world with program := world.program.hangUp }

/-- All lives of the two programs. -/
def lifecycle (environment : Environment) (answers : Answers) : Machine World Event where
  start := switchedOn
  step := environment.worldStep answers

/-- What is left of the environment after this many iterations. -/
def after (environment : Environment) (first : Nat) : Environment where
  sensor := environment.sensor.drop first
  accepts := fun reading => environment.accepts (first + reading)
  undefinedByte := fun reading => environment.undefinedByte (first + reading)

/-- The interleavings over what was left when the link was made. -/
def session (environment : Environment) (first : Nat) (turns : List Turn) : State :=
  (environment.after first).machine.run turns

end Environment

/-- The event that is a turn of an open link. -/
def Turn.event : Turn -> Event
  | .device => .device
  | .receiver granted => .receiver granted

/-- What becomes of a running receiver whose link is closed or broken. -/
inductive Receiver.Left (receiver : Receiver) : Receiver -> Prop where
  | hungUp (grants : List Nat) :
      Left receiver (grants.foldl Receiver.iterate receiver.hangUp)
  | broken : Left receiver receiver.fail
  | hungUpBroken (grants : List Nat) :
      Left receiver (grants.foldl Receiver.iterate receiver.hangUp).fail

/-! ## A receiver without an open link -/

namespace Receiver

theorem linked_of_running {receiver : Receiver} (running : receiver.Running) :
    receiver.linked = true := by
  rw [linked, running.alive, BluetoothConnection.isOpen, running.linked, running.opened]
  rfl

theorem exists_failure_fail (receiver : Receiver) :
    Exists fun error : PythonError => receiver.fail.failure = some error := by
  unfold fail
  split
  · exact ⟨_, by assumption⟩
  · exact ⟨.osError, rfl⟩

theorem fail_of_failure {receiver : Receiver} {error : PythonError}
    (ended : receiver.failure = some error) : receiver.fail = receiver := by
  simp only [fail, ended]

theorem fail_fail (receiver : Receiver) : receiver.fail.fail = receiver.fail := by
  rcases receiver.exists_failure_fail with ⟨error, ended⟩
  exact fail_of_failure ended

theorem iterate_fail (receiver : Receiver) (granted : Nat) :
    receiver.fail.iterate granted = receiver.fail := by
  rcases receiver.exists_failure_fail with ⟨error, ended⟩
  exact iterate_of_failure ended granted

/-- No iteration opens or closes the link. -/
theorem iterate_closed (receiver : Receiver) (granted : Nat) :
    (receiver.iterate granted).btconn.socket.closed = receiver.btconn.socket.closed := by
  rcases receiver.btconn.getPressedFromBT_eq_holding granted with ⟨incoming, same⟩
  have closed : (receiver.btconn.getPressedFromBT granted).2.socket.closed =
      receiver.btconn.socket.closed := by
    rw [same]
    rfl
  unfold iterate
  split
  · rfl
  · split
    · rfl
    · rename_i returned
      rw [returned] at closed
      exact closed
    · rename_i returned
      rw [returned] at closed
      split <;> exact closed

theorem closed_hungUp (receiver : Receiver) (grants : List Nat) :
    (grants.foldl iterate receiver.hangUp).btconn.socket.closed = true := by
  induction grants using List.reverseRecOn with
  | nil => rfl
  | append_singleton earlier granted inductionHypothesis =>
      rw [List.foldl_append, List.foldl_cons, List.foldl_nil, iterate_closed]
      exact inductionHypothesis

theorem unlinked_of_closed {receiver : Receiver}
    (closed : receiver.btconn.socket.closed = true) : receiver.linked = false := by
  rw [linked, BluetoothConnection.isOpen, closed, Bool.not_true, Bool.and_false, Bool.and_false]

theorem unlinked_fail (receiver : Receiver) : receiver.fail.linked = false := by
  rcases receiver.exists_failure_fail with ⟨error, ended⟩
  rw [linked, ended, Option.isNone_some, Bool.false_and]

theorem Left.unlinked {receiver last : Receiver} (left : receiver.Left last) :
    last.linked = false := by
  cases left with
  | hungUp grants => exact unlinked_of_closed (receiver.closed_hungUp grants)
  | broken => exact unlinked_fail _
  | hungUpBroken grants => exact unlinked_fail _

theorem Left.iterate {receiver last : Receiver} (left : receiver.Left last) (granted : Nat) :
    receiver.Left (last.iterate granted) := by
  cases left with
  | hungUp grants =>
      have further : receiver.Left _ := .hungUp (grants ++ [granted])
      rw [List.foldl_append] at further
      exact further
  | broken =>
      rw [iterate_fail]
      exact .broken
  | hungUpBroken grants =>
      rw [iterate_fail]
      exact .hungUpBroken grants

theorem Left.fail {receiver last : Receiver} (left : receiver.Left last) :
    receiver.Left last.fail := by
  cases left with
  | hungUp grants => exact .hungUpBroken grants
  | broken =>
      rw [fail_fail]
      exact .broken
  | hungUpBroken grants =>
      rw [fail_fail]
      exact .hungUpBroken grants

end Receiver

namespace Program

theorem deliver_nil (program : Program) : program.deliver [] = program := by
  cases program with
  | looping receiver =>
      rw [deliver, Receiver.deliver, BluetoothConnection.deliver, List.append_nil]
      rfl
  | _ => rfl

theorem deliver_deliver (first second : List UInt8) (program : Program) :
    (program.deliver first).deliver second = program.deliver (first ++ second) := by
  cases program with
  | looping receiver =>
      change Program.looping ((receiver.deliver first).deliver second) =
        .looping (receiver.deliver (first ++ second))
      rw [Receiver.deliver, Receiver.deliver, Receiver.deliver, BluetoothConnection.deliver,
        BluetoothConnection.deliver, BluetoothConnection.deliver, ← List.append_assoc]
      rfl
  | _ => rfl

theorem linked_deliver (bytes : List UInt8) (program : Program) :
    (program.deliver bytes).linked = program.linked := by
  cases program <;> rfl

end Program

/-! ## The link as a session -/

namespace Environment

theorem deviceStep_of_none {environment : Environment} (answers : Answers) {world : World}
    (ended : environment.sensor.get? world.iteration = none) :
    environment.worldStep answers world .device = world := by
  simp only [worldStep, ended]

theorem deviceStep_of_some {environment : Environment} (answers : Answers) {world : World}
    {result : SensorResult} (given : environment.sensor.get? world.iteration = some result) :
    environment.worldStep answers world .device = environment.worldAfterLoop world result := by
  simp only [worldStep, given]

/-- Without an open link an iteration of `loop` reaches nobody. -/
theorem deviceStep_of_unlinked (environment : Environment) (answers : Answers) {world : World}
    (unlinked : world.program.linked = false) :
    (environment.worldStep answers world .device).program = world.program := by
  cases given : environment.sensor.get? world.iteration with
  | none => rw [deviceStep_of_none answers given]
  | some result =>
      rw [deviceStep_of_some answers given, worldAfterLoop, acceptsNow, unlinked,
        if_neg Bool.false_ne_true, transmitted_zero]
      exact world.program.deliver_nil

theorem get?_after (environment : Environment) (first reading : Nat) :
    (environment.after first).sensor.get? reading = environment.sensor.get? (first + reading) :=
  Stream'.Seq.drop_get?

/-- The receiver of the world is that of the session, and the device is as
many iterations further as it was when the link was made. -/
structure Tracks (first : Nat) (world : World) (state : State) : Prop where
  count : world.iteration = first + state.iteration
  program : world.program = .looping state.receiver

/-- A turn of an open link is a turn of the session. -/
theorem step_tracks (environment : Environment) (answers : Answers) {first : Nat}
    {world : World} {state : State} (running : state.receiver.Running)
    (tracks : Tracks first world state) (turn : Turn) :
    Tracks first (environment.worldStep answers world turn.event)
      ((environment.after first).step state turn) := by
  cases turn with
  | receiver granted => exact ⟨tracks.count, congrArg (Program.turn answers granted) tracks.program⟩
  | device =>
      change Tracks first (environment.worldStep answers world .device)
        ((environment.after first).deviceTurn state)
      have same := environment.get?_after first state.iteration
      rw [← tracks.count] at same
      cases given : environment.sensor.get? world.iteration with
      | none =>
          rw [deviceStep_of_none answers given, deviceTurn_of_none (same.trans given)]
          exact tracks
      | some result =>
          rw [deviceStep_of_some answers given, deviceTurn_of_some (same.trans given)]
          have opened : world.program.linked = true := by
            rw [tracks.program]
            exact Receiver.linked_of_running running
          have accepts : environment.acceptsNow world =
              environment.accepts (first + state.iteration) := by
            rw [acceptsNow, if_pos opened, tracks.count]
          refine ⟨congrArg (· + 1) tracks.count, ?_⟩
          simp only [worldAfterLoop, afterLoop, accepts, tracks.program, Program.deliver, after,
            tracks.count]

theorem session_running (environment : Environment) (first : Nat) (turns : List Turn) :
    (environment.session first turns).receiver.Running :=
  ((environment.after first).run_lossless turns).1

theorem session_snoc (environment : Environment) (first : Nat) (turns : List Turn) (turn : Turn) :
    environment.session first (turns ++ [turn]) =
      (environment.after first).step (environment.session first turns) turn :=
  Machine.run_snoc _ turns turn

/-- The link of this session is closed or broken, and the device may have gone
on. -/
structure Departed (environment : Environment) (first : Nat) (turns : List Turn) (world : World) :
    Prop where
  count : first + (environment.session first turns).iteration ≤ world.iteration
  program : Exists fun receiver : Receiver =>
    (environment.session first turns).receiver.Left receiver ∧ world.program = .looping receiver

/-- The world after the link was made in the iteration `first`: the link is
open, or it is not any more. -/
inductive Linked (environment : Environment) (first : Nat) (world : World) : Prop where
  | opened (turns : List Turn)
      (tracks : Tracks first world (environment.session first turns))
  | left (turns : List Turn) (departed : environment.Departed first turns world)

theorem Departed.unlinked {environment : Environment} {first : Nat} {turns : List Turn}
    {world : World} (departed : environment.Departed first turns world) :
    world.program.linked = false := by
  rcases departed.program with ⟨receiver, left, program⟩
  rw [program]
  exact left.unlinked

theorem linked_of_tracks (environment : Environment) {first : Nat} {turns : List Turn}
    {world : World} (tracks : Tracks first world (environment.session first turns)) :
    world.program.linked = true := by
  rw [tracks.program]
  exact Receiver.linked_of_running (environment.session_running first turns)

theorem iteration_le_step (environment : Environment) (answers : Answers) (world : World)
    (event : Event) :
    world.iteration ≤ (environment.worldStep answers world event).iteration := by
  cases event with
  | device =>
      cases given : environment.sensor.get? world.iteration with
      | none => rw [deviceStep_of_none answers given]
      | some result =>
          rw [deviceStep_of_some answers given]
          exact Nat.le_succ _
  | _ => exact Nat.le_refl _

/-- An event that does not close an open link leaves it open. -/
theorem step_opened (environment : Environment) (answers : Answers) {first : Nat}
    {turns : List Turn} {world : World}
    (tracks : Tracks first world (environment.session first turns)) {event : Event}
    (stays : event.closes = false) :
    Exists fun turn : Turn => Tracks first (environment.worldStep answers world event)
      (environment.session first (turns ++ [turn])) := by
  have followed := environment.step_tracks answers (environment.session_running first turns) tracks
  cases event with
  | device =>
      refine ⟨.device, ?_⟩
      rw [session_snoc]
      exact followed .device
  | receiver granted =>
      refine ⟨.receiver granted, ?_⟩
      rw [session_snoc]
      exact followed (.receiver granted)
  | receiverFails => cases stays
  | hangUp => cases stays

/-- An event that closes an open link ends its session. -/
theorem step_closed (environment : Environment) (answers : Answers) {first : Nat}
    {turns : List Turn} {world : World}
    (tracks : Tracks first world (environment.session first turns)) {event : Event}
    (closes : event.closes = true) :
    environment.Departed first turns (environment.worldStep answers world event) := by
  cases event with
  | device => cases closes
  | receiver granted => cases closes
  | receiverFails =>
      exact ⟨tracks.count.ge, _, .broken, congrArg Program.fail tracks.program⟩
  | hangUp =>
      refine ⟨tracks.count.ge, _, .hungUp [], ?_⟩
      change world.program.hangUp = _
      rw [tracks.program, Program.hangUp,
        Receiver.linked_of_running (environment.session_running first turns), if_pos rfl,
        List.foldl_nil]

/-- Nothing leads back to a session that has ended. -/
theorem step_departed (environment : Environment) (answers : Answers) {first : Nat}
    {turns : List Turn} {world : World}
    (departed : environment.Departed first turns world) (event : Event) :
    environment.Departed first turns (environment.worldStep answers world event) := by
  have later := Nat.le_trans departed.count (environment.iteration_le_step answers world event)
  have unlinked := departed.unlinked
  rcases departed.program with ⟨receiver, left, program⟩
  cases event with
  | device =>
      have same := environment.deviceStep_of_unlinked answers unlinked
      exact ⟨later, receiver, left, same.trans program⟩
  | receiver granted =>
      exact ⟨later, _, left.iterate granted, congrArg (Program.turn answers granted) program⟩
  | receiverFails => exact ⟨later, _, left.fail, congrArg Program.fail program⟩
  | hangUp =>
      refine ⟨later, receiver, left, ?_⟩
      change world.program.hangUp = _
      rw [program, Program.hangUp, left.unlinked, if_neg Bool.false_ne_true]

/-- Whatever happens, a link that was made stays the link of its session. -/
theorem step_linked (environment : Environment) (answers : Answers) {first : Nat}
    {world : World} (linked : environment.Linked first world) (event : Event) :
    environment.Linked first (environment.worldStep answers world event) := by
  cases linked with
  | left turns departed => exact .left turns (environment.step_departed answers departed event)
  | opened turns tracks =>
      cases closes : event.closes with
      | true => exact .left turns (environment.step_closed answers tracks closes)
      | false =>
          rcases environment.step_opened answers tracks closes with ⟨turn, further⟩
          exact .opened _ further

end Environment

/-! ## The first turn of the receiving program -/

/-- The program enters its loop, or ends with the exception of `connect`. -/
theorem Program.turn_starting (answers : Answers) (granted : Nat) :
    Program.starting.turn answers granted =
      if answers [] bluetoothAddress 1 then .looping Receiver.ready
      else .raised (.addressNotFound "Couldn't connect to the given address.") := by
  rw [turn, Receiver.start_eq]
  cases answers [] bluetoothAddress 1 with
  | true => rfl
  | false => rfl

namespace Environment

/-- An accepted first turn makes the link. -/
theorem tracks_of_first_turn (environment : Environment) {answers : Answers}
    (accepted : answers [] bluetoothAddress 1 = true) {world : World}
    (starting : world.program = .starting) (granted : Nat) :
    Tracks world.iteration (environment.worldStep answers world (.receiver granted))
      (environment.session world.iteration []) := by
  have turned := congrArg (Program.turn answers granted) starting
  rw [Program.turn_starting, accepted, if_pos rfl] at turned
  exact ⟨rfl, turned⟩

/-- A refused first turn ends the program. -/
theorem raised_of_first_turn (environment : Environment) {answers : Answers}
    (refused : answers [] bluetoothAddress 1 = false) {world : World}
    (starting : world.program = .starting) (granted : Nat) :
    (environment.worldStep answers world (.receiver granted)).program =
      .raised (.addressNotFound "Couldn't connect to the given address.") := by
  have turned := congrArg (Program.turn answers granted) starting
  rw [Program.turn_starting, refused, if_neg Bool.false_ne_true] at turned
  exact turned

/-- What the world can be: the receiving program has not started, was refused,
or has been linked in some iteration that the device has come to. -/
inductive Course (environment : Environment) (answers : Answers) (world : World) : Prop where
  | starting (program : world.program = .starting)
  | raised (refused : answers [] bluetoothAddress 1 = false)
      (program : world.program =
        .raised (.addressNotFound "Couldn't connect to the given address."))
  | linked (first : Nat) (accepted : answers [] bluetoothAddress 1 = true)
      (possible : forall round, round < first ->
        (environment.sensor.get? round).isSome = true)
      (linked : environment.Linked first world)

/-- The device has made no more iterations than the sensor has results. -/
def Possible (environment : Environment) (world : World) : Prop :=
  forall round, round < world.iteration -> (environment.sensor.get? round).isSome = true

theorem step_possible (environment : Environment) (answers : Answers) {world : World}
    (possible : environment.Possible world) (event : Event) :
    environment.Possible (environment.worldStep answers world event) := by
  cases event with
  | device =>
      cases given : environment.sensor.get? world.iteration with
      | none =>
          rw [deviceStep_of_none answers given]
          exact possible
      | some result =>
          rw [deviceStep_of_some answers given]
          change forall round, round < world.iteration + 1 -> _
          rw [Nat.forall_lt_succ_right]
          exact ⟨possible, Option.isSome_of_eq_some given⟩
  | _ => exact possible

theorem step_course (environment : Environment) (answers : Answers) {world : World}
    (possible : environment.Possible world) (course : environment.Course answers world)
    (event : Event) : environment.Course answers (environment.worldStep answers world event) := by
  cases course with
  | linked first accepted earlier linked =>
      exact .linked first accepted earlier (environment.step_linked answers linked event)
  | raised refused program =>
      have unlinked : world.program.linked = false := by
        rw [program]
        rfl
      cases event with
      | device =>
          exact .raised refused ((environment.deviceStep_of_unlinked answers unlinked).trans program)
      | receiver granted =>
          exact .raised refused (congrArg (Program.turn answers granted) program)
      | receiverFails => exact .raised refused (congrArg Program.fail program)
      | hangUp => exact .raised refused (congrArg Program.hangUp program)
  | starting program =>
      have unlinked : world.program.linked = false := by
        rw [program]
        rfl
      cases event with
      | device =>
          exact .starting ((environment.deviceStep_of_unlinked answers unlinked).trans program)
      | receiverFails => exact .starting (congrArg Program.fail program)
      | hangUp => exact .starting (congrArg Program.hangUp program)
      | receiver granted =>
          cases answer : answers [] bluetoothAddress 1 with
          | true =>
              exact .linked world.iteration answer possible
                (.opened [] (environment.tracks_of_first_turn answer program granted))
          | false =>
              exact .raised answer (environment.raised_of_first_turn answer program granted)

theorem lifecycle_course (environment : Environment) (answers : Answers) :
    (environment.lifecycle answers).Preserves
      (fun world => environment.Possible world ∧ environment.Course answers world) where
  start := ⟨fun _ below => absurd below (Nat.not_lt_zero _), .starting rfl⟩
  step := by
    intro world event before
    exact ⟨environment.step_possible answers before.1 event,
      environment.step_course answers before.1 before.2 event⟩

end Environment

/-! ## Exactly these programs occur -/

namespace Environment

/-- As long as the receiving program does not start, the device works on. -/
theorem run_devices (environment : Environment) (answers : Answers) {count : Nat}
    (possible : forall round, round < count -> (environment.sensor.get? round).isSome = true) :
    ((environment.lifecycle answers).run (List.replicate count .device)).iteration = count ∧
      ((environment.lifecycle answers).run (List.replicate count .device)).program =
        .starting := by
  induction count with
  | zero => exact ⟨rfl, rfl⟩
  | succ count inductionHypothesis =>
      have before := inductionHypothesis
        (fun round below => possible round (Nat.lt_succ_of_lt below))
      have unlinked : ((environment.lifecycle answers).run
          (List.replicate count .device)).program.linked = false := by
        rw [before.2]
        rfl
      rcases Option.isSome_iff_exists.mp (possible count (Nat.lt_succ_self count)) with
        ⟨result, given⟩
      rw [← before.1] at given
      rw [List.replicate_succ', Machine.run_snoc]
      refine ⟨?_, (environment.deviceStep_of_unlinked answers unlinked).trans before.2⟩
      exact (congrArg World.iteration (deviceStep_of_some answers given)).trans
        (congrArg (· + 1) before.1)

/-- The life that leads to this session. -/
def leading (first : Nat) (turns : List Turn) : List Event :=
  List.replicate first .device ++ .receiver 1 :: turns.map Turn.event

theorem leading_snoc (first : Nat) (turns : List Turn) (turn : Turn) :
    leading first (turns ++ [turn]) = leading first turns ++ [turn.event] := by
  rw [leading, leading, List.map_append, ← List.cons_append, ← List.append_assoc, List.map_cons,
    List.map_nil]

/-- Every session is the session of some life. -/
theorem run_tracks (environment : Environment) {answers : Answers}
    (accepted : answers [] bluetoothAddress 1 = true) {first : Nat}
    (possible : forall round, round < first -> (environment.sensor.get? round).isSome = true)
    (turns : List Turn) :
    Tracks first ((environment.lifecycle answers).run (leading first turns))
      (environment.session first turns) := by
  induction turns using List.reverseRecOn with
  | nil =>
      have waiting := environment.run_devices answers possible
      have made := environment.tracks_of_first_turn accepted waiting.2 1
      rw [waiting.1] at made
      rw [leading, List.map_nil, Machine.run_snoc]
      exact made
  | append_singleton earlier turn inductionHypothesis =>
      rw [leading_snoc, Machine.run_snoc, session_snoc]
      exact environment.step_tracks answers (environment.session_running first earlier)
        inductionHypothesis turn

theorem foldl_receivers (environment : Environment) (answers : Answers) (grants : List Nat) :
    forall (world : World) (receiver : Receiver), world.program = .looping receiver ->
      ((grants.map Event.receiver).foldl (environment.worldStep answers) world).program =
        .looping (grants.foldl Receiver.iterate receiver) := by
  induction grants with
  | nil => exact fun _ _ same => same
  | cons granted rest inductionHypothesis =>
      intro world receiver same
      rw [List.map_cons, List.foldl_cons, List.foldl_cons]
      exact inductionHypothesis _ _ (congrArg (Program.turn answers granted) same)

/-- Whatever a closed or broken link can lead to is reached. -/
theorem exists_left (environment : Environment) (answers : Answers) {events : List Event}
    {receiver last : Receiver} (running : receiver.Running)
    (reached : ((environment.lifecycle answers).run events).program = .looping receiver)
    (left : receiver.Left last) :
    Exists fun later : List Event =>
      ((environment.lifecycle answers).run later).program = .looping last := by
  have shut : ((environment.lifecycle answers).run (events ++ [.hangUp])).program =
      .looping receiver.hangUp := by
    rw [Machine.run_snoc]
    change ((environment.lifecycle answers).run events).program.hangUp = _
    rw [reached, Program.hangUp, Receiver.linked_of_running running, if_pos rfl]
  have drained := fun grants => environment.foldl_receivers answers grants _ _ shut
  cases left with
  | hungUp grants =>
      refine ⟨events ++ [.hangUp] ++ grants.map .receiver, ?_⟩
      rw [Machine.run_append]
      exact drained grants
  | broken =>
      refine ⟨events ++ [.receiverFails], ?_⟩
      rw [Machine.run_snoc]
      exact congrArg Program.fail reached
  | hungUpBroken grants =>
      refine ⟨events ++ [.hangUp] ++ grants.map .receiver ++ [.receiverFails], ?_⟩
      rw [Machine.run_snoc, Machine.run_append]
      exact congrArg Program.fail (drained grants)

/-- The receiving program is, at some moment of some life, in exactly these
states: not started; ended by the exception of a refused `connect`; or, when
the device accepts the link, in its loop with the state of a session over the
results that were left, or with what becomes of such a state when the link is
closed or broken. -/
theorem program_reachable_iff (environment : Environment) (answers : Answers)
    (program : Program) :
    (Exists fun events : List Event =>
      ((environment.lifecycle answers).run events).program = program) ↔
      program = .starting ∨
      (answers [] bluetoothAddress 1 = false ∧
        program = .raised (.addressNotFound "Couldn't connect to the given address.")) ∨
      (answers [] bluetoothAddress 1 = true ∧
        Exists fun first : Nat =>
          (forall round, round < first -> (environment.sensor.get? round).isSome = true) ∧
          Exists fun turns : List Turn => Exists fun receiver : Receiver =>
            program = .looping receiver ∧
              (receiver = (environment.session first turns).receiver ∨
                (environment.session first turns).receiver.Left receiver)) := by
  constructor
  · rintro ⟨events, reached⟩
    rw [← reached]
    cases ((environment.lifecycle_course answers).run events).2 with
    | starting program => exact Or.inl program
    | raised refused program => exact Or.inr (Or.inl ⟨refused, program⟩)
    | linked first accepted possible linked =>
        refine Or.inr (Or.inr ⟨accepted, first, possible, ?_⟩)
        cases linked with
        | opened turns tracks => exact ⟨turns, _, tracks.program, Or.inl rfl⟩
        | left turns departed =>
            rcases departed.program with ⟨receiver, left, program⟩
            exact ⟨turns, receiver, program, Or.inr left⟩
  · rintro (starting | ⟨refused, raised⟩ | ⟨accepted, first, possible, turns, receiver, looping,
      course⟩)
    · exact ⟨[], starting.symm⟩
    · refine ⟨[.receiver 1], ?_⟩
      rw [raised]
      exact environment.raised_of_first_turn refused rfl 1
    · have tracks := environment.run_tracks accepted possible turns
      rw [looping]
      rcases course with same | left
      · rw [same]
        exact ⟨_, tracks.program⟩
      · exact environment.exists_left answers (environment.session_running first turns)
          tracks.program left

end Environment

end Telemetry
end AirDump
