import AirDump.Telemetry.Ending
import AirDump.Telemetry.Trace

namespace AirDump
namespace Telemetry

open Foundation Connection

/-!
# The device call by call

In `Lifecycle` an iteration of `loop` is a single event.  In truth the receiver
may have its turns between any two calls of the device, the link may come and
go there, and `delay` keeps the device for five seconds after a buffer was
handed over.  Here each call is an event of its own, also those of `setup`.

The receiving program sees of an iteration only what `write` puts on the wire.
So a life call by call is a life of `Lifecycle` in which the whole iteration
happens at its `write`, and the receiving program is in the same states in
both.  The device, on the other hand, sees nothing of the receiver.  It makes
the calls that it would make alone, and keeps the rules of the board between
any two of them.
-/

/-- A moment between two calls of the device: the iterations of `loop` that were
begun, the calls that have returned, the calls that are left of the function
that runs, and the receiving program. -/
structure Instant where
  iteration : Nat
  actions : List Action
  todo : List Action
  program : Program

/-- The part of the state that belongs to the device. -/
def Instant.device (instant : Instant) : Nat × List Action × List Action :=
  (instant.iteration, instant.actions, instant.todo)

def Event.isDevice : Event -> Bool
  | .device => true
  | _ => false

namespace Environment

/-- Nothing has been set up, and nobody is connected. -/
def poweredOn : Instant :=
  ⟨0, [], setup, .starting⟩

/-- How many of the leading bytes the port accepts in the iteration that was
begun last. -/
def acceptsIn (environment : Environment) (instant : Instant) : Nat :=
  if instant.program.linked then environment.accepts (instant.iteration - 1) else 0

/-- The first of the calls that are left returns. -/
def afterCall (environment : Environment) (instant : Instant) (action : Action)
    (rest : List Action) : Instant :=
  { iteration := instant.iteration
    actions := instant.actions ++ [action]
    todo := rest
    program := instant.program.deliver (transmitted (environment.acceptsIn instant) [action]) }

/-- With no call left, the next iteration of `loop` begins. -/
def afterBegin (environment : Environment) (instant : Instant) (result : SensorResult) :
    Instant :=
  { instant with
    iteration := instant.iteration + 1
    todo := loop (environment.undefinedByte instant.iteration)
      result.humidade result.temperatura }

def instantStep (environment : Environment) (answers : Answers) (instant : Instant) :
    Event -> Instant
  | .device =>
      match instant.todo with
      | action :: rest => environment.afterCall instant action rest
      | [] =>
          match environment.sensor.get? instant.iteration with
          | none => instant
          | some result => environment.afterBegin instant result
  | .receiver granted => { instant with program := instant.program.turn answers granted }
  | .receiverFails => { instant with program := instant.program.fail }
  | .hangUp => { instant with program := instant.program.hangUp }

/-- All lives of the two programs, call by call of the device. -/
def stepwise (environment : Environment) (answers : Answers) : Machine Instant Event where
  start := poweredOn
  step := environment.instantStep answers

/-! ## What an event of the device can do -/

theorem instantStep_of_call (environment : Environment) (answers : Answers) {instant : Instant}
    {action : Action} {rest : List Action} (todo : instant.todo = action :: rest) :
    environment.instantStep answers instant .device =
      environment.afterCall instant action rest := by
  simp only [instantStep, todo]

theorem instantStep_of_none {environment : Environment} (answers : Answers) {instant : Instant}
    (todo : instant.todo = []) (ended : environment.sensor.get? instant.iteration = none) :
    environment.instantStep answers instant .device = instant := by
  simp only [instantStep, todo, ended]

theorem instantStep_of_some {environment : Environment} (answers : Answers) {instant : Instant}
    (todo : instant.todo = []) {result : SensorResult}
    (given : environment.sensor.get? instant.iteration = some result) :
    environment.instantStep answers instant .device = environment.afterBegin instant result := by
  simp only [instantStep, todo, given]

/-! ## The device alone -/

/-- The calls that have returned, and those that are left, are the calls of
`setup` and of the iterations begun. -/
theorem stepwise_performed (environment : Environment) (answers : Answers) :
    (environment.stepwise answers).Preserves (fun instant =>
      instant.actions ++ instant.todo = environment.performed instant.iteration) where
  start := (List.append_nil setup).symm
  step := by
    intro instant event before
    cases event with
    | device =>
        change (environment.instantStep answers instant .device).actions ++
          (environment.instantStep answers instant .device).todo =
            environment.performed (environment.instantStep answers instant .device).iteration
        cases todo : instant.todo with
        | cons action rest =>
            rw [environment.instantStep_of_call answers todo]
            change instant.actions ++ [action] ++ rest = environment.performed instant.iteration
            rw [List.append_assoc, List.singleton_append, ← todo]
            exact before
        | nil =>
            cases given : environment.sensor.get? instant.iteration with
            | none =>
                rw [instantStep_of_none answers todo given]
                exact before
            | some result =>
                rw [instantStep_of_some answers todo given]
                change instant.actions ++ loop _ _ _ = environment.performed (instant.iteration + 1)
                rw [performed_succ environment given, ← before, todo, List.append_nil]
    | _ => exact before

/-- Two devices in the same state are in the same state after the next event of
the device, whatever their receivers are. -/
theorem device_of_device (environment : Environment) (answers other : Answers)
    (instant shadow : Instant) (event : Event) (device : event.isDevice = true)
    (same : instant.device = shadow.device) :
    (environment.instantStep answers instant event).device =
      (environment.instantStep other shadow event).device := by
  rcases instant with ⟨iteration, actions, todo, program⟩
  rcases shadow with ⟨_, _, _, shown⟩
  cases same
  cases event with
  | device =>
      cases todo with
      | cons action rest => rfl
      | nil =>
          cases given : environment.sensor.get? iteration with
          | none =>
              rw [instantStep_of_none answers rfl given, instantStep_of_none other rfl given]
              rfl
          | some result =>
              rw [instantStep_of_some answers rfl given, instantStep_of_some other rfl given]
              rfl
  | _ => cases device

theorem device_of_other (environment : Environment) (answers : Answers) (instant : Instant)
    (event : Event) (other : event.isDevice = false) :
    (environment.instantStep answers instant event).device = instant.device := by
  cases event with
  | device => cases other
  | _ => rfl

theorem actions_prefix_performed (environment : Environment) (answers : Answers)
    (events : List Event) :
    ((environment.stepwise answers).run events).actions <+:
      environment.performed ((environment.stepwise answers).run events).iteration := by
  rw [← (environment.stepwise_performed answers).run events]
  exact List.prefix_append _ _


/-- Whatever becomes of the receiver, the device makes the calls that it makes
alone.  At every moment they keep the rules of the board, and before an
iteration begins it has waited for every buffer. -/
theorem device_unaffected (environment : Environment) (answers other : Answers)
    (events : List Event) :
    ((environment.stepwise answers).run events).actions =
        ((environment.stepwise other).run (events.filter Event.isDevice)).actions ∧
      Disciplined ((environment.stepwise answers).run events).actions ∧
      (((environment.stepwise answers).run events).todo = [] ->
        waited ((environment.stepwise answers).run events).actions =
          5000 * (buffers ((environment.stepwise answers).run events).actions).length) := by
  refine ⟨?_, environment.disciplined_of_prefix
    (environment.actions_prefix_performed answers events), fun idle => ?_⟩
  · have same : ((environment.stepwise answers).run events).device =
        ((environment.stepwise other).run (events.filter Event.isDevice)).device := by
      apply Machine.run_filter Instant.device Instant.device Event.isDevice
      · rfl
      · exact environment.device_of_device answers other
      · exact environment.device_of_other answers
    exact congrArg (fun device => device.2.1) same
  · have whole := (environment.stepwise_performed answers).run events
    rw [idle, List.append_nil] at whole
    rw [whole]
    exact environment.waited_performed _

/-! ## A life call by call as a life of whole iterations -/

/-- How far the device is with the iteration that was begun last, when this
many iterations have happened in `Lifecycle`: its buffer was handed over, or
there is none; or the buffer is still to come, and so is the iteration. -/
inductive Stage (environment : Environment) (begun : Nat) (todo : List Action) (count : Nat) :
    Prop where
  | written (same : begun = count) (rest : buffers todo = [])
  | unwritten (next : begun = count + 1) (result : SensorResult)
      (given : environment.sensor.get? count = some result) (valid : result.Valid)
      (calls : Nat) (early : calls ≤ 3)
      (rest : todo = (loop (environment.undefinedByte count) result.humidade
        result.temperatura).drop calls)

/-- The two programs are as in a world of `Lifecycle`, but for the calls
before and after the `write` of the iteration. -/
structure Within (environment : Environment) (instant : Instant) (world : World) : Prop where
  program : instant.program = world.program
  buffered : buffers instant.actions = buffers world.actions
  stage : environment.Stage instant.iteration instant.todo world.iteration

/-- A call that hands over no buffer is seen by the device only. -/
theorem Within.of_silent {environment : Environment} {instant : Instant} {world : World}
    (within : environment.Within instant world) {action : Action} {rest : List Action}
    (silent : buffers [action] = [])
    (stage : environment.Stage instant.iteration rest world.iteration) :
    environment.Within (environment.afterCall instant action rest) world := by
  refine ⟨?_, ?_, stage⟩
  · rw [afterCall, transmitted_eq_buffers, silent]
    exact instant.program.deliver_nil.trans within.program
  · change buffers (instant.actions ++ [action]) = buffers world.actions
    rw [buffers_append, silent, List.append_nil]
    exact within.buffered

/-- An iteration without a buffer happens as soon as it begins. -/
theorem Within.begin_not_valid {environment : Environment} (answers : Answers)
    {instant : Instant} {world : World} (within : environment.Within instant world)
    (same : instant.iteration = world.iteration) {result : SensorResult}
    (given : environment.sensor.get? world.iteration = some result) (invalid : ¬ result.Valid) :
    environment.Within (environment.afterBegin instant result)
      (environment.worldStep answers world .device) := by
  have none_written : forall undefinedByte,
      buffers (loop undefinedByte result.humidade result.temperatura) = [] := by
    intro undefinedByte
    rw [loop_of_not_valid undefinedByte invalid]
    rfl
  rw [deviceStep_of_some answers given]
  refine ⟨?_, ?_, .written (congrArg (· + 1) same) (none_written _)⟩
  · rw [worldAfterLoop, transmitted_of_not_valid _ _ invalid, world.program.deliver_nil]
    exact within.program
  · change buffers instant.actions = buffers (world.actions ++ _)
    rw [buffers_append, none_written, List.append_nil]
    exact within.buffered

/-- An iteration with a buffer happens when the buffer is handed over. -/
theorem Within.write_valid {environment : Environment} (answers : Answers)
    {instant : Instant} {world : World} (within : environment.Within instant world)
    (next : instant.iteration = world.iteration + 1) {result : SensorResult}
    (given : environment.sensor.get? world.iteration = some result) (valid : result.Valid) :
    environment.Within
      (environment.afterCall instant (.write
        [result.byte (environment.undefinedByte world.iteration) .humidade,
          result.byte (environment.undefinedByte world.iteration) .temperatura] 2) [.delay 5000])
      (environment.worldStep answers world .device) := by
  rw [deviceStep_of_some answers given]
  have current : instant.iteration - 1 = world.iteration := by
    rw [next, Nat.add_sub_cancel]
  refine ⟨?_, ?_, .written next rfl⟩
  · rw [afterCall, acceptsIn, worldAfterLoop, transmitted_eq_buffers, transmitted_eq_buffers,
      loop_of_valid _ valid, current, within.program]
    rfl
  · change buffers (instant.actions ++ _) = buffers (world.actions ++ _)
    rw [buffers_append, buffers_append, loop_of_valid _ valid, within.buffered]
    rfl

/-- An event of the device is an iteration of `Lifecycle`, or nothing there. -/
theorem Within.device {environment : Environment} (answers : Answers) {instant : Instant}
    {world : World} (within : environment.Within instant world) :
    Exists fun moves : List Event =>
      environment.Within (environment.instantStep answers instant .device)
        (moves.foldl (environment.worldStep answers) world) := by
  cases within.stage with
  | written same rest =>
      cases todo : instant.todo with
      | cons action later =>
          rw [todo] at rest
          have split := buffers_append [action] later
          rw [List.singleton_append, rest] at split
          have silent := List.append_eq_nil_iff.mp split.symm
          refine ⟨[], ?_⟩
          rw [environment.instantStep_of_call answers todo]
          exact within.of_silent silent.1 (.written same silent.2)
      | nil =>
          cases given : environment.sensor.get? instant.iteration with
          | none =>
              refine ⟨[], ?_⟩
              rw [instantStep_of_none answers todo given]
              exact within
          | some result =>
              rw [instantStep_of_some answers todo given]
              rw [same] at given
              by_cases valid : result.Valid
              · have begins : (environment.afterBegin instant result).todo =
                    (loop (environment.undefinedByte world.iteration) result.humidade
                      result.temperatura).drop 0 := by
                  rw [← same]
                  rfl
                exact ⟨[], within.program, within.buffered, .unwritten (congrArg (· + 1) same)
                  result given valid 0 (Nat.zero_le 3) begins⟩
              · exact ⟨[.device], within.begin_not_valid answers same given valid⟩
  | unwritten next result given valid calls early rest =>
      have silent : forall (action : Action) (later : List Action),
          instant.todo = action :: later -> buffers [action] = [] ->
          environment.Stage instant.iteration later world.iteration ->
          Exists fun moves : List Event =>
            environment.Within (environment.instantStep answers instant .device)
              (moves.foldl (environment.worldStep answers) world) := by
        intro action later todo unwritten stage
        refine ⟨[], ?_⟩
        rw [environment.instantStep_of_call answers todo]
        exact within.of_silent unwritten stage
      have further : forall calls, calls + 1 ≤ 3 ->
          environment.Stage instant.iteration
            ((loop (environment.undefinedByte world.iteration) result.humidade
              result.temperatura).drop (calls + 1)) world.iteration :=
        fun calls early => .unwritten next result given valid (calls + 1) early rfl
      rw [loop_of_valid _ valid] at rest further
      rcases calls with _ | _ | _ | _ | later
      · exact silent _ _ rest rfl (further 0 (by decide))
      · exact silent _ _ rest rfl (further 1 (by decide))
      · exact silent _ _ rest rfl (further 2 (by decide))
      · refine ⟨[.device], ?_⟩
        rw [environment.instantStep_of_call answers rest]
        exact within.write_valid answers next given valid
      · omega

/-- Every life call by call is, for the receiving program and for the buffers
that are handed over, a life of whole iterations. -/
theorem stepwise_simulates (environment : Environment) (answers : Answers) :
    (environment.stepwise answers).Simulates (environment.lifecycle answers)
      environment.Within where
  start := ⟨rfl, rfl, .written rfl rfl⟩
  step := by
    intro instant world event within
    cases event with
    | device => exact within.device answers
    | receiver granted =>
        exact ⟨[.receiver granted], congrArg (Program.turn answers granted) within.program,
          within.buffered, within.stage⟩
    | receiverFails =>
        exact ⟨[.receiverFails], congrArg Program.fail within.program, within.buffered,
          within.stage⟩
    | hangUp =>
        exact ⟨[.hangUp], congrArg Program.hangUp within.program, within.buffered, within.stage⟩

/-! ## Every life of whole iterations occurs -/

/-- When nothing comes in between, the calls that are left are made one after
the other. -/
theorem foldl_calls (environment : Environment) (answers : Answers) (todo : List Action) :
    forall instant : Instant, instant.todo = todo ->
      (List.replicate todo.length .device).foldl (environment.instantStep answers) instant =
        { iteration := instant.iteration
          actions := instant.actions ++ todo
          todo := []
          program := instant.program.deliver
            (transmitted (environment.acceptsIn instant) todo) } := by
  induction todo with
  | nil =>
      rintro ⟨iteration, actions, _, program⟩ same
      cases same
      change Instant.mk iteration actions [] program =
        ⟨iteration, actions ++ [], [], program.deliver []⟩
      rw [program.deliver_nil, List.append_nil]
  | cons action rest inductionHypothesis =>
      intro instant same
      have accepts : environment.acceptsIn (environment.afterCall instant action rest) =
          environment.acceptsIn instant := by
        rw [acceptsIn, acceptsIn, afterCall, Program.linked_deliver]
      have split := transmitted_append (environment.acceptsIn instant) [action] rest
      rw [List.singleton_append] at split
      rw [List.length_cons, List.replicate_succ, List.foldl_cons,
        environment.instantStep_of_call answers same, inductionHypothesis _ rfl, accepts, split,
        ← Program.deliver_deliver, afterCall, List.append_assoc, List.singleton_append]

/-- The device is between two iterations of `loop`. -/
structure Rested (world : World) (instant : Instant) : Prop where
  program : instant.program = world.program
  count : instant.iteration = world.iteration
  idle : instant.todo = []

/-- A whole iteration is its beginning and its calls, with nothing in between. -/
theorem Rested.device {environment : Environment} (answers : Answers) {world : World}
    {instant : Instant} (rested : Rested world instant) :
    Exists fun moves : List Event =>
      Rested (environment.worldStep answers world .device)
        (moves.foldl (environment.instantStep answers) instant) := by
  cases given : environment.sensor.get? world.iteration with
  | none =>
      refine ⟨[], ?_⟩
      rw [deviceStep_of_none answers given]
      exact rested
  | some result =>
      have next := given
      rw [← rested.count] at next
      have calls := environment.foldl_calls answers _ (environment.afterBegin instant result) rfl
      refine ⟨.device ::
        List.replicate (environment.afterBegin instant result).todo.length .device, ?_⟩
      rw [List.foldl_cons, instantStep_of_some answers rested.idle next, calls,
        deviceStep_of_some answers given]
      refine ⟨?_, congrArg (· + 1) rested.count, rfl⟩
      have accepts : environment.acceptsIn (environment.afterBegin instant result) =
          environment.acceptsNow world := by
        rw [acceptsIn, acceptsNow, afterBegin, rested.program, rested.count, Nat.add_sub_cancel]
      rw [accepts, worldAfterLoop, afterBegin, rested.program, rested.count]

/-- An iteration puts at most two bytes on the wire for each buffer. -/
theorem length_frame_le (environment : Environment) (reading : Nat) :
    (environment.frame reading).length ≤ 2 * (buffers (environment.asked reading)).length := by
  cases given : environment.sensor.get? reading with
  | none =>
      rw [frame_of_none given]
      exact Nat.zero_le _
  | some result =>
      by_cases valid : result.Valid
      · have one : (buffers (environment.asked reading)).length = 1 := by
          rw [asked_of_some given, loop_of_valid _ valid]
          rfl
        rw [frame_of_valid given valid, one, List.length_take]
        exact Nat.min_le_right _ _
      · rw [frame_of_not_valid given valid]
        exact Nat.zero_le _

theorem length_frames_le (environment : Environment) (count : Nat) :
    (environment.frames count).length ≤
      2 * (buffers (environment.performed count)).length := by
  induction count with
  | zero => exact Nat.le_refl _
  | succ count inductionHypothesis =>
      have last := environment.length_frame_le count
      rw [frames_succ, performed_append_asked, buffers_append, List.length_append,
        List.length_append]
      omega

/-- The calls of the device are those of its iterations. -/
theorem lifecycle_performed (environment : Environment) (answers : Answers) :
    (environment.lifecycle answers).Preserves
      (fun world => world.actions = environment.performed world.iteration) where
  start := rfl
  step := by
    intro world event before
    cases event with
    | device =>
        change (environment.worldStep answers world .device).actions =
          environment.performed (environment.worldStep answers world .device).iteration
        cases given : environment.sensor.get? world.iteration with
        | none =>
            rw [deviceStep_of_none answers given]
            exact before
        | some result =>
            rw [deviceStep_of_some answers given]
            change world.actions ++ _ = environment.performed (world.iteration + 1)
            rw [performed_succ environment given, before]
    | _ => exact before

/-- The window of a link is a part of what was put on the wire. -/
theorem length_window_le (environment : Environment) {first last count : Nat}
    (ordered : first ≤ last) (within : last ≤ count) :
    (environment.window first (last - first)).length ≤ (environment.frames count).length := by
  have part := Blocks.joined_add environment.frame first (last - first)
  have whole := (Blocks.joined_prefix_of_le environment.frame within).length_le
  rw [Nat.add_sub_cancel' ordered] at part
  rw [part, List.length_append] at whole
  exact (Nat.le_add_left _ _).trans whole

/-- The list has at most two entries for each buffer that was handed over. -/
theorem length_listaa_le (environment : Environment) (answers : Answers) (events : List Event) :
    ((environment.lifecycle answers).run events).program.listaa.length ≤
      2 * (buffers ((environment.lifecycle answers).run events).actions).length := by
  rw [(environment.lifecycle_performed answers).run events]
  have bytes := environment.length_frames_le
    ((environment.lifecycle answers).run events).iteration
  have course := ((environment.lifecycle_course answers).run events).2
  have listed := (Program.listaa_prefix_known
    ((environment.lifecycle answers).run events).program).length_le
  cases course with
  | starting program =>
      rw [program]
      exact Nat.zero_le _
  | raised _ program =>
      rw [program]
      exact Nat.zero_le _
  | linked first _ _ linked =>
      rcases recorded_of_linked linked with ⟨last, recorded⟩
      have window := environment.length_window_le recorded.ordered recorded.within
      rw [recorded.known, List.length_map] at listed
      omega

/-- In every life, and between any two calls of the device, the list has at
most two entries for every five seconds that the device has waited, the five
seconds that have been begun included. -/
theorem listaa_rate (environment : Environment) (answers : Answers) (events : List Event) :
    5000 * ((environment.stepwise answers).run events).program.listaa.length ≤
      2 * (waited ((environment.stepwise answers).run events).actions + 5000) := by
  rcases (environment.stepwise_simulates answers).run events with ⟨moves, within⟩
  have listed := environment.length_listaa_le answers moves
  have waits := environment.waited_of_prefix (environment.actions_prefix_performed answers events)
  rw [← within.program, ← within.buffered] at listed
  omega

end Environment

end Telemetry
end AirDump
