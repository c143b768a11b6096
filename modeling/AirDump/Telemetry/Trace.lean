import AirDump.Foundation.Monitor
import AirDump.Telemetry.Interleavings

namespace AirDump
namespace Telemetry

open Foundation

/-!
# How the firmware uses its peripherals

The whole trace of the device is read by a watcher that knows the rules of the
board.  A peripheral is begun once and before it is used, a buffer is handed
over with its own length, and between two buffers the device waits for five
seconds at least.

The watcher never objects, in any interleaving.  What its silence means for
the trace is stated without it, in `Disciplined`, and for a trace that is cut
off at any of its calls.  The console and the port are then compared: the two
are told of the same readings in the same order, and the list of the receiver
holds nothing but what the port was told.
-/

inductive Peripheral where
  | dht
  | serial
  | bluetooth
deriving DecidableEq

namespace Action

/-- The peripheral that a call begins. -/
def begins : Action -> Option Peripheral
  | .dhtBegin => some .dht
  | .serialBegin _ => some .serial
  | .bluetoothBegin _ => some .bluetooth
  | _ => none

/-- The peripheral that a call needs to have been begun. -/
def uses : Action -> Option Peripheral
  | .readHumidity | .readTemperature => some .dht
  | .println _ | .printf _ _ _ => some .serial
  | .write _ _ => some .bluetooth
  | _ => none

/-- The milliseconds that a call waits. -/
def waits : Action -> Nat
  | .delay milliseconds => milliseconds
  | _ => 0

end Action

def waited (actions : List Action) : Nat :=
  (actions.map Action.waits).sum

/-- The buffers handed to the Bluetooth port. -/
def buffers (actions : List Action) : List (List UInt8) :=
  actions.filterMap (fun action =>
    match action with
    | .write dados size => some (dados.take size)
    | _ => none)

/-- The readings shown on the serial console. -/
def shown (actions : List Action) : List (Float32 × Float32) :=
  actions.filterMap (fun action =>
    match action with
    | .printf _ humidade temperatura => some (humidade, temperatura)
    | _ => none)

/-- The calls that begin a peripheral. -/
def begun (actions : List Action) : List Action :=
  actions.filter (fun action => action.begins.isSome)

/-- The rules of the board, for a trace that may have been cut off at any
call. -/
structure Disciplined (actions : List Action) : Prop where
  begins : begun actions <+: [.dhtBegin, .serialBegin 115200, .bluetoothBegin "esp32bt"]
  used : forall before action after peripheral, actions = before ++ action :: after ->
    action.uses = some peripheral ->
      Exists fun earlier : Action => earlier ∈ before ∧ earlier.begins = some peripheral
  sized : forall before dados size after, actions = before ++ .write dados size :: after ->
    dados.length = size
  paced : forall before first firstSize between second secondSize after,
    actions = before ++ .write first firstSize :: (between ++ .write second secondSize :: after) ->
      5000 ≤ waited between
  waits : waited actions = 5000 * (buffers actions).length ∨
    waited actions + 5000 = 5000 * (buffers actions).length

theorem waited_append (first second : List Action) :
    waited (first ++ second) = waited first + waited second := by
  rw [waited, List.map_append, List.sum_append]
  rfl

theorem buffers_append (first second : List Action) :
    buffers (first ++ second) = buffers first ++ buffers second :=
  List.filterMap_append

/-- What the port puts on the wire depends on the buffers alone. -/
theorem transmitted_eq_buffers (accepts : Nat) (actions : List Action) :
    transmitted accepts actions = (buffers actions).flatMap (fun dados => dados.take accepts) := by
  induction actions with
  | nil => rfl
  | cons action rest inductionHypothesis =>
      have split := transmitted_append accepts [action] rest
      have buffered := buffers_append [action] rest
      rw [List.singleton_append] at split buffered
      rw [split, buffered, inductionHypothesis, List.flatMap_append]
      cases action <;> rfl

theorem shown_append (first second : List Action) :
    shown (first ++ second) = shown first ++ shown second :=
  List.filterMap_append

/-! ## The watcher -/

/-- What the watcher remembers: which peripherals were begun, the time that
has passed, and the earliest time of the next buffer. -/
structure Board where
  begun : List Peripheral
  clock : Nat
  nextWrite : Nat
deriving DecidableEq

namespace Board

def off : Board :=
  ⟨[], 0, 0⟩

def allows (board : Board) (action : Action) : Bool :=
  action.begins.all (fun peripheral => !board.begun.contains peripheral) &&
    action.uses.all (fun peripheral => board.begun.contains peripheral) &&
      match action with
      | .write dados size => dados.length == size && decide (board.nextWrite ≤ board.clock)
      | _ => true

def next (board : Board) (action : Action) : Board where
  begun := board.begun ++ action.begins.toList
  clock := board.clock + action.waits
  nextWrite :=
    match action with
    | .write _ _ => board.clock + 5000
    | _ => board.nextWrite

def allow (board : Board) (action : Action) : Option Board :=
  if board.allows action then some (board.next action) else none

theorem allow_eq_some_iff {board next : Board} {action : Action} :
    board.allow action = some next ↔ board.allows action = true ∧ board.next action = next := by
  rw [allow, Option.ite_none_right_eq_some, Option.some.injEq]

/-- What a part of the trace did to the board. -/
structure Later (board : Board) (actions : List Action) (final : Board) : Prop where
  begun : final.begun = board.begun ++ actions.filterMap Action.begins
  clock : final.clock = board.clock + waited actions
  nextWrite : board.nextWrite ≤ final.nextWrite

theorem later_nil (board : Board) : board.Later [] board :=
  ⟨(List.append_nil _).symm, rfl, Nat.le_refl _⟩

/-- A buffer is allowed with its own length, when the time has come. -/
theorem write_of_allows {board : Board} {dados : List UInt8} {size : Nat}
    (allowed : board.allows (.write dados size) = true) :
    dados.length = size ∧ board.nextWrite ≤ board.clock := by
  have timed := (Bool.and_eq_true_iff.mp allowed).2
  rw [Bool.and_eq_true_iff, beq_iff_eq, decide_eq_true_eq] at timed
  exact timed

theorem nextWrite_le_of_allows {board : Board} {action : Action}
    (allowed : board.allows action = true) : board.nextWrite ≤ (board.next action).nextWrite := by
  cases action with
  | write dados size => exact (write_of_allows allowed).2.trans (Nat.le_add_right _ _)
  | _ => exact Nat.le_refl _

theorem Later.cons {board next final : Board} {action : Action} {rest : List Action}
    (allowed : board.allow action = some next) (later : next.Later rest final) :
    board.Later (action :: rest) final := by
  rcases allow_eq_some_iff.mp allowed with ⟨permitted, same⟩
  refine ⟨?_, ?_, ?_⟩
  · have first : [action].filterMap Action.begins = action.begins.toList := by
      cases action <;> rfl
    rw [later.begun, ← same, ← List.singleton_append, List.filterMap_append, first,
      ← List.append_assoc]
    rfl
  · rw [later.clock, ← same, ← List.singleton_append, waited_append, ← Nat.add_assoc]
    rfl
  · rw [← same] at later
    exact (nextWrite_le_of_allows permitted).trans later.nextWrite

theorem later_of_watch {board final : Board} {actions : List Action}
    (watched : Monitor.watch allow board actions = some final) : board.Later actions final :=
  Monitor.related_of_watch later_nil Later.cons actions watched

/-! ## What the silence of the watcher means -/

/-- At every point of a watched trace the board is later than at the start,
and allows the action that comes. -/
theorem at_action {board final : Board} {before after : List Action} {action : Action}
    (watched : Monitor.watch allow board (before ++ action :: after) = some final) :
    Exists fun middle : Board =>
      board.Later before middle ∧ middle.allows action = true ∧
        Monitor.watch allow (middle.next action) after = some final := by
  rcases Monitor.watch_split watched with ⟨middle, first, rest⟩
  rcases Monitor.watch_cons rest with ⟨next, allowed, later⟩
  rcases allow_eq_some_iff.mp allowed with ⟨permitted, same⟩
  rw [← same] at later
  exact ⟨middle, later_of_watch first, permitted, later⟩

/-- What is used was begun before. -/
theorem used_of_watch {final : Board} {actions : List Action}
    (watched : Monitor.watch allow off actions = some final) :
    forall before action after peripheral, actions = before ++ action :: after ->
      action.uses = some peripheral ->
        Exists fun earlier : Action =>
          earlier ∈ before ∧ earlier.begins = some peripheral := by
  intro before action after peripheral split used
  rw [split] at watched
  rcases at_action watched with ⟨middle, later, allowed, _⟩
  have ready := (Bool.and_eq_true_iff.mp (Bool.and_eq_true_iff.mp allowed).1).2
  rw [used, Option.all_some, List.contains_iff_mem, later.begun] at ready
  exact List.mem_filterMap.mp ready

theorem sized_of_watch {final : Board} {actions : List Action}
    (watched : Monitor.watch allow off actions = some final) :
    forall before dados size after, actions = before ++ .write dados size :: after ->
      dados.length = size := by
  intro before dados size after split
  rw [split] at watched
  rcases at_action watched with ⟨middle, _, allowed, _⟩
  exact (write_of_allows allowed).1

/-- Between two buffers the clock has to reach the time set by the first. -/
theorem paced_of_watch {board final : Board} {actions : List Action}
    (watched : Monitor.watch allow board actions = some final) :
    forall before first firstSize between second secondSize after,
      actions = before ++ .write first firstSize ::
        (between ++ .write second secondSize :: after) ->
        5000 ≤ waited between := by
  intro before first firstSize between second secondSize after split
  rw [split] at watched
  rcases at_action watched with ⟨middle, _, _, rest⟩
  rcases at_action rest with ⟨later, passed, allowed, _⟩
  have due := (write_of_allows allowed).2
  have clock := passed.clock
  have nextWrite := passed.nextWrite
  change later.clock = middle.clock + 0 + _ at clock
  change middle.clock + 5000 ≤ _ at nextWrite
  omega

/-! ## The firmware under the watcher -/

/-- Everything that an iteration uses was begun, and the next buffer is due. -/
structure Ready (board : Board) : Prop where
  begun : board.begun = [.dht, .serial, .bluetooth]
  due : board.nextWrite ≤ board.clock

theorem watch_setup :
    Exists fun board : Board => Monitor.watch allow off setup = some board ∧ board.Ready :=
  ⟨⟨[.dht, .serial, .bluetooth], 0, 0⟩, rfl, rfl, Nat.le_refl 0⟩

/-- One iteration of `loop` leaves the board ready for the next one. -/
theorem watch_loop (undefinedByte : Field -> UInt8) (result : SensorResult) {board : Board}
    (ready : board.Ready) :
    Exists fun next : Board =>
      Monitor.watch allow board (loop undefinedByte result.humidade result.temperatura) =
        some next ∧ next.Ready := by
  rcases board with ⟨begun, clock, nextWrite⟩
  have all : begun = [.dht, .serial, .bluetooth] := ready.begun
  have due : decide (nextWrite ≤ clock) = true := decide_eq_true ready.due
  subst all
  by_cases valid : result.Valid
  · refine ⟨⟨[.dht, .serial, .bluetooth], clock + 5000, clock + 5000⟩, ?_, rfl, Nat.le_refl _⟩
    rw [loop_of_valid undefinedByte valid]
    have buffer : (Board.mk [.dht, .serial, .bluetooth] clock nextWrite).allows
        (.write [result.byte undefinedByte .humidade, result.byte undefinedByte .temperatura]
          2) = true := due
    change (Board.allow ⟨[.dht, .serial, .bluetooth], clock, nextWrite⟩
      (.write [result.byte undefinedByte .humidade, result.byte undefinedByte .temperatura]
        2)).bind _ = _
    rw [allow, if_pos buffer]
    rfl
  · refine ⟨⟨[.dht, .serial, .bluetooth], clock, nextWrite⟩, ?_, ready⟩
    rw [loop_of_not_valid undefinedByte valid]
    rfl

theorem watch_performed (environment : Environment) (count : Nat) :
    Exists fun board : Board =>
      Monitor.watch allow off (environment.performed count) = some board := by
  rcases watch_setup with ⟨start, begins, ready⟩
  have keeps : forall index board, Ready board -> Exists fun next : Board =>
      Monitor.watch allow board (environment.asked index) = some next ∧ next.Ready := by
    intro index board before
    cases given : environment.sensor.get? index with
    | none =>
        refine ⟨board, ?_, before⟩
        simp only [Environment.asked, given, Monitor.watch]
    | some result =>
        simp only [Environment.asked, given]
        exact watch_loop _ _ before
  rcases Monitor.watch_joined keeps count ready with ⟨final, watched, _⟩
  refine ⟨final, ?_⟩
  rw [Environment.performed, Monitor.watch_append, begins]
  exact watched

end Board

/-! ## What one iteration adds -/

theorem begun_loop (undefinedByte : Field -> UInt8) (result : SensorResult) :
    begun (loop undefinedByte result.humidade result.temperatura) = [] := by
  by_cases valid : result.Valid
  · rw [loop_of_valid undefinedByte valid]
    rfl
  · rw [loop_of_not_valid undefinedByte valid]
    rfl

/-- An iteration waits five seconds when it hands over a buffer, and not at all
otherwise. -/
theorem waited_loop (undefinedByte : Field -> UInt8) (result : SensorResult) :
    waited (loop undefinedByte result.humidade result.temperatura) =
      5000 * (buffers (loop undefinedByte result.humidade result.temperatura)).length := by
  by_cases valid : result.Valid
  · rw [loop_of_valid undefinedByte valid]
    simp [waited, buffers, Action.waits]
  · rw [loop_of_not_valid undefinedByte valid]
    rfl

/-- An iteration that is cut off has waited for its buffer, or is about to. -/
theorem waited_part (undefinedByte : Field -> UInt8) (result : SensorResult) {part : List Action}
    (within : part <+: loop undefinedByte result.humidade result.temperatura) :
    waited part = 5000 * (buffers part).length ∨
      waited part + 5000 = 5000 * (buffers part).length := by
  rw [List.prefix_iff_eq_take] at within
  rw [within]
  by_cases valid : result.Valid
  · rw [loop_of_valid undefinedByte valid]
    rcases part.length with _ | _ | _ | _ | _ | more
    · exact Or.inl rfl
    · exact Or.inl rfl
    · exact Or.inl rfl
    · exact Or.inl rfl
    · exact Or.inr rfl
    · rw [List.take_of_length_le (Nat.le_add_left 5 more)]
      exact Or.inl (by simp [waited, buffers, Action.waits])
  · rw [loop_of_not_valid undefinedByte valid]
    rcases part.length with _ | _ | _ | more
    · exact Or.inl rfl
    · exact Or.inl rfl
    · exact Or.inl rfl
    · rw [List.take_of_length_le (Nat.le_add_left 3 more)]
      exact Or.inl rfl

namespace Environment

theorem asked_of_some {environment : Environment} {reading : Nat} {result : SensorResult}
    (given : environment.sensor.get? reading = some result) :
    environment.asked reading =
      loop (environment.undefinedByte reading) result.humidade result.temperatura := by
  simp only [asked, given]

theorem asked_of_none {environment : Environment} {reading : Nat}
    (ended : environment.sensor.get? reading = none) : environment.asked reading = [] := by
  simp only [asked, ended]

theorem performed_of_none {environment : Environment} {count : Nat}
    (ended : environment.sensor.get? count = none) :
    environment.performed (count + 1) = environment.performed count := by
  rw [performed_append_asked, asked_of_none ended, List.append_nil]

/-- What holds of the beginning and is kept by every iteration of `loop` holds
of the whole trace. -/
theorem performed_induction (environment : Environment) (property : List Action -> Prop)
    (start : property setup)
    (keeps : forall actions reading (result : SensorResult), property actions ->
      environment.sensor.get? reading = some result ->
        property (actions ++
          loop (environment.undefinedByte reading) result.humidade result.temperatura))
    (count : Nat) : property (environment.performed count) := by
  induction count with
  | zero => exact start
  | succ count inductionHypothesis =>
      cases given : environment.sensor.get? count with
      | none =>
          rw [performed_of_none given]
          exact inductionHypothesis
      | some result =>
          rw [performed_succ environment given]
          exact keeps _ count result inductionHypothesis given

theorem begun_performed (environment : Environment) (count : Nat) :
    begun (environment.performed count) =
      [.dhtBegin, .serialBegin 115200, .bluetoothBegin "esp32bt"] := by
  apply environment.performed_induction (fun actions => begun actions = _)
  · rfl
  · intro actions reading result before _
    have nothing := begun_loop (environment.undefinedByte reading) result
    unfold begun at *
    rw [List.filter_append, before, nothing]
    rfl

/-- Whole iterations have waited for all of their buffers. -/
theorem waited_performed (environment : Environment) (count : Nat) :
    waited (environment.performed count) =
      5000 * (buffers (environment.performed count)).length := by
  apply environment.performed_induction
    (fun actions => waited actions = 5000 * (buffers actions).length)
  · rfl
  · intro actions reading result before _
    rw [waited_append, buffers_append, before, waited_loop, List.length_append, Nat.mul_add]

/-- A trace that is cut off has waited for all of its buffers, or for all but
the last. -/
theorem waited_of_prefix (environment : Environment) {count : Nat} {actions : List Action}
    (within : actions <+: environment.performed count) :
    waited actions = 5000 * (buffers actions).length ∨
      waited actions + 5000 = 5000 * (buffers actions).length := by
  rcases List.prefix_or_prefix_of_prefix within (List.prefix_append setup _) with
    early | ⟨later, same⟩
  · have idle : forall action, action ∈ setup -> action.waits = 0 := by decide
    have nothing : waited actions = 0 := by
      apply List.sum_eq_zero
      intro milliseconds member
      rcases List.mem_map.mp member with ⟨action, here, same⟩
      exact same.symm.trans (idle action (early.subset here))
    have none_written : buffers actions = [] :=
      List.prefix_nil.mp (early.filterMap _)
    rw [nothing, none_written]
    exact Or.inl rfl
  · rw [← same, performed, List.prefix_append_right_inj] at within
    rcases Blocks.prefix_joined within with ⟨index, part, cut, inside⟩
    have whole := environment.waited_performed index
    have last : waited part = 5000 * (buffers part).length ∨
        waited part + 5000 = 5000 * (buffers part).length := by
      cases given : environment.sensor.get? index with
      | none =>
          rw [asked_of_none given, List.prefix_nil] at inside
          rw [inside]
          exact Or.inl rfl
      | some result =>
          rw [asked_of_some given] at inside
          exact waited_part _ result inside
    have split : actions = environment.performed index ++ part := by
      rw [← same, cut, ← List.append_assoc]
      rfl
    rw [split, waited_append, buffers_append, List.length_append, whole]
    omega

/-- The device keeps the rules of the board up to any of its calls. -/
theorem disciplined_of_prefix (environment : Environment) {count : Nat} {actions : List Action}
    (within : actions <+: environment.performed count) : Disciplined actions := by
  rcases Board.watch_performed environment count with ⟨board, watched⟩
  have cut : Exists fun middle : Board =>
      Monitor.watch Board.allow Board.off actions = some middle := by
    rcases within with ⟨rest, whole⟩
    rw [← whole] at watched
    rcases Monitor.watch_split watched with ⟨middle, first, _⟩
    exact ⟨middle, first⟩
  rcases cut with ⟨middle, first⟩
  refine ⟨?_, Board.used_of_watch first, Board.sized_of_watch first, Board.paced_of_watch first,
    environment.waited_of_prefix within⟩
  rw [← environment.begun_performed count]
  exact within.filter _

/-- The actions of a run are those of the iterations done. -/
theorem actions_eq_performed (environment : Environment) (schedule : List Turn) :
    (environment.machine.run schedule).actions =
      environment.performed (environment.machine.run schedule).iteration := by
  rw [environment.machine_represents_pipeline.run]
  rfl

end Environment

/-! ## The console, the port and the list -/

/-- A buffer of two bytes for the two values, each of them the value without
the part after the binary point when a byte can represent that. -/
def Encodes (values : Float32 × Float32) (dados : List UInt8) : Prop :=
  Exists fun humidade : UInt8 => Exists fun temperatura : UInt8 =>
    dados = [humidade, temperatura] ∧
      (SingleFloat.FitsByte values.1 ->
        (humidade.toNat : Int) = SingleFloat.truncate values.1) ∧
      (SingleFloat.FitsByte values.2 ->
        (temperatura.toNat : Int) = SingleFloat.truncate values.2)

/-- An iteration shows a reading and hands it over, or does neither. -/
theorem shown_loop_encoded (undefinedByte : Field -> UInt8) (humidade temperatura : Float32) :
    List.Forall₂ Encodes (shown (loop undefinedByte humidade temperatura))
      (buffers (loop undefinedByte humidade temperatura)) := by
  have encoded : forall byte number, SingleFloat.FitsByte number ->
      ((SingleFloat.staticCastUInt8 byte number).toNat : Int) = SingleFloat.truncate number :=
    fun byte number fits =>
      (SingleFloat.toNat_staticCastUInt8_eq_iff byte number fits.1).mpr fits
  unfold loop
  split
  · exact List.Forall₂.nil
  · apply List.Forall₂.cons
    · exact ⟨_, _, rfl, encoded _ humidade, encoded _ temperatura⟩
    · exact List.Forall₂.nil

theorem shown_encoded (environment : Environment) (count : Nat) :
    List.Forall₂ Encodes (shown (environment.performed count))
      (buffers (environment.performed count)) := by
  apply environment.performed_induction
    (fun actions => List.Forall₂ Encodes (shown actions) (buffers actions))
  · exact List.Forall₂.nil
  · intro actions reading result before _
    rw [shown_append, buffers_append]
    exact List.rel_append before (shown_loop_encoded _ _ _)

/-- A port that accepts everything puts the buffers on the wire, one after the
other. -/
theorem frames_eq_buffers (sensor : Stream'.Seq SensorResult)
    (undefinedByte : Nat -> Field -> UInt8) (count : Nat) :
    ((completeWrites sensor undefinedByte).frames count).map TaggedByte.byte =
      (buffers ((completeWrites sensor undefinedByte).performed count)).flatten := by
  induction count with
  | zero => rfl
  | succ count inductionHypothesis =>
      rw [Environment.frames_succ, List.map_append, inductionHypothesis]
      cases given : (completeWrites sensor undefinedByte).sensor.get? count with
      | none =>
          rw [Environment.frame_of_none given, Environment.performed_of_none given, List.map_nil,
            List.append_nil]
      | some result =>
          rw [Environment.performed_succ _ given, buffers_append, List.flatten_append]
          congr 1
          by_cases valid : result.Valid
          · rw [Environment.frame_of_valid given valid, loop_of_valid _ valid]
            rfl
          · rw [Environment.frame_of_not_valid given valid, loop_of_not_valid _ valid]
            rfl

/-- In every interleaving the buffers stand for the readings that the console
shows, one for one and in their order, and the list of the receiver is a
prefix of the buffers. -/
theorem console_and_list_agree (sensor : Stream'.Seq SensorResult)
    (undefinedByte : Nat -> Field -> UInt8) (schedule : List Turn) :
    List.Forall₂ Encodes
        (shown ((completeWrites sensor undefinedByte).machine.run schedule).actions)
        (buffers ((completeWrites sensor undefinedByte).machine.run schedule).actions) ∧
      ((completeWrites sensor undefinedByte).machine.run schedule).receiver.listaa <+:
        (buffers ((completeWrites sensor undefinedByte).machine.run
          schedule).actions).flatten.map (fun byte => (byte.toNat : Int)) := by
  rw [Environment.actions_eq_performed]
  refine ⟨shown_encoded _ _, ?_⟩
  rw [← frames_eq_buffers, List.map_map]
  exact (completeWrites sensor undefinedByte).listaa_prefix_frames schedule

end Telemetry
end AirDump
