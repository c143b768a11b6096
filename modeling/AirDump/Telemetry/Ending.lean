import AirDump.Telemetry.EndToEnd
import AirDump.Telemetry.Lifecycle
import Mathlib.Data.List.TakeWhile

namespace AirDump
namespace Telemetry

open Foundation Connection

/-!
# What is recorded over a whole life

A life has three parts: until the first turn of the receiving program, then
until the peer hangs up or a call of `recv` raises, and what comes after.  The
link is that of the second part, when it is accepted at all.

At every moment the list, followed by the bytes that still wait at the socket,
is exactly what the port accepted in the iterations of the second part.  When
the program ends with the index of an empty list, no byte waits any more.  So
the list reports the results that were left when the program connected.  It
does so exactly when the readings are in the range of a byte, as in
`EndToEnd`, wherever the link begins and however it ends.

As everywhere in the composition, what the port accepts over an open link is
at the socket before anything else happens, a close of the link included.
-/

namespace Receiver

/-- The list, and after it the bytes that still wait at the socket. -/
def known (receiver : Receiver) : List Int :=
  receiver.listaa ++ receiver.pending.map (fun byte => (byte.toNat : Int))

end Receiver

namespace Program

def listaa : Program -> List Int
  | .looping receiver => receiver.listaa
  | _ => []

def known : Program -> List Int
  | .looping receiver => receiver.known
  | _ => []

def failure : Program -> Option PythonError
  | .looping receiver => receiver.failure
  | _ => none

/-- Nothing is printed before the loop is entered. -/
def Printed : Program -> Prop
  | .looping receiver => receiver.Printed
  | _ => True

theorem listaa_prefix_known (program : Program) : program.listaa <+: program.known := by
  cases program with
  | looping receiver => exact List.prefix_append _ _
  | _ => exact List.nil_prefix

end Program

/-! ## The window of a link -/

namespace Environment

/-- The tagged bytes of the iterations from `first` on, this many of them. -/
def window (environment : Environment) (first count : Nat) : List TaggedByte :=
  Blocks.segment environment.frame first count

theorem note_frame_after (environment : Environment) (first reading : Nat) :
    ((environment.after first).frame reading).map TaggedByte.note =
      (environment.frame (first + reading)).map TaggedByte.note := by
  have notes : forall bytes : List TaggedByte, bytes.map TaggedByte.note =
      (bytes.map TaggedByte.byte).map (fun byte => (byte.toNat : Int)) := by
    intro bytes
    rw [List.map_map]
    rfl
  have same := environment.get?_after first reading
  cases given : environment.sensor.get? (first + reading) with
  | none => rw [frame_of_none (same.trans given), frame_of_none given]
  | some result =>
      simp only [frame, same.trans given, given]
      rw [notes, notes, map_byte_tag_transmitted, map_byte_tag_transmitted]
      rfl

/-- The bytes of a session are those of the window that begins with it. -/
theorem note_frames_after (environment : Environment) (first count : Nat) :
    ((environment.after first).frames count).map TaggedByte.note =
      (environment.window first count).map TaggedByte.note := by
  rw [frames, window, Blocks.segment, Blocks.map_joined, Blocks.map_joined]
  congr 1
  funext reading
  exact environment.note_frame_after first reading

end Environment

/-! ## What a closed or broken link leaves -/

namespace Receiver

/-- The peer is gone, and the program still takes what is left, or has ended. -/
structure Shut (receiver : Receiver) : Prop where
  closed : receiver.btconn.socket.closed = true
  reading : receiver.failure = none -> receiver.Reading

/-- When the program has ended with the index of an empty list, no byte waits
at its socket. -/
def Settled (receiver : Receiver) : Prop :=
  receiver.failure = some .indexError -> receiver.listaa = receiver.known

theorem hangUp_shut {receiver : Receiver} (reading : receiver.Reading) :
    receiver.hangUp.Shut :=
  ⟨rfl, fun _ => ⟨reading.alive, reading.linked, reading.single⟩⟩

/-- An iteration moves a byte from the socket to the list, or finds that there
is none. -/
theorem iterate_shut {receiver : Receiver} (shut : receiver.Shut) (granted : Nat) :
    (receiver.iterate granted).Shut ∧ (receiver.iterate granted).known = receiver.known ∧
      (receiver.Settled -> (receiver.iterate granted).Settled) := by
  cases failed : receiver.failure with
  | some error =>
      rw [iterate_of_failure failed]
      exact ⟨shut, rfl, id⟩
  | none =>
      have reading := shut.reading failed
      have closed := (receiver.iterate_closed granted).trans shut.closed
      cases queued : receiver.pending with
      | nil =>
          rw [iterate_of_end reading shut.closed queued] at closed ⊢
          refine ⟨⟨closed, fun alive => by cases alive⟩, rfl, fun _ _ => ?_⟩
          change receiver.listaa = receiver.listaa ++ receiver.pending.map _
          rw [queued, List.map_nil, List.append_nil]
      | cons oldest rest =>
          have kept := iterate_keeps reading queued granted
          refine ⟨⟨closed, fun _ => kept.1⟩, ?_, fun _ ended => ?_⟩
          · rw [known, known, kept.2.1, kept.2.2.1, queued, List.map_cons, List.append_assoc]
            rfl
          · rw [kept.1.alive] at ended
            cases ended

theorem fail_known (receiver : Receiver) : receiver.fail.known = receiver.known := by
  unfold fail
  split <;> rfl

theorem fail_printed {receiver : Receiver} (printed : receiver.Printed) :
    receiver.fail.Printed := by
  unfold fail
  split <;> exact printed

/-- A call of `recv` that raises is no index of an empty list. -/
theorem fail_settled {receiver : Receiver} (settled : receiver.Settled) :
    receiver.fail.Settled := by
  unfold fail
  split
  · exact settled
  · exact fun ended => by cases ended

theorem hungUp_known {receiver : Receiver} (running : receiver.Running) (grants : List Nat) :
    (grants.foldl iterate receiver.hangUp).Shut ∧
      (grants.foldl iterate receiver.hangUp).known = receiver.known ∧
      (grants.foldl iterate receiver.hangUp).Settled := by
  induction grants using List.reverseRecOn with
  | nil =>
      refine ⟨hangUp_shut running.toReading, rfl, fun ended => ?_⟩
      have alive : receiver.hangUp.failure = none := running.alive
      exact absurd (alive.symm.trans ended) (Option.some_ne_none _).symm
  | append_singleton earlier granted inductionHypothesis =>
      have further := iterate_shut inductionHypothesis.1 granted
      rw [List.foldl_append]
      exact ⟨further.1, further.2.1.trans inductionHypothesis.2.1,
        further.2.2 inductionHypothesis.2.2⟩

/-- Closing or breaking a link loses nothing that has arrived. -/
theorem Left.known {receiver last : Receiver} (running : receiver.Running)
    (left : receiver.Left last) : last.known = receiver.known ∧ last.Settled := by
  cases left with
  | hungUp grants => exact (hungUp_known running grants).2
  | broken =>
      refine ⟨fail_known receiver, fail_settled (fun ended => ?_)⟩
      rw [running.alive] at ended
      cases ended
  | hungUpBroken grants =>
      have drained := (hungUp_known running grants).2
      exact ⟨(fail_known _).trans drained.1, fail_settled drained.2⟩

theorem Left.printed {receiver last : Receiver} (printed : receiver.Printed)
    (left : receiver.Left last) : last.Printed := by
  have drained : forall grants : List Nat,
      (grants.foldl Receiver.iterate receiver.hangUp).Printed := by
    intro grants
    induction grants using List.reverseRecOn with
    | nil => exact printed
    | append_singleton earlier granted inductionHypothesis =>
        rw [List.foldl_append]
        exact iterate_printed inductionHypothesis granted
  cases left with
  | hungUp grants => exact drained grants
  | broken => exact fail_printed printed
  | hungUpBroken grants => exact fail_printed (drained grants)

end Receiver

/-! ## What the link of a session leaves -/

namespace Environment

/-- What the receiving program has of the iterations from `first` to `last`: all
of their bytes, in the list or at the socket, and at the socket none when it
has ended with the index of an empty list.  Its screen shows the list. -/
structure Recorded (environment : Environment) (world : World) (first last : Nat) : Prop where
  ordered : first ≤ last
  within : last ≤ world.iteration
  printed : world.program.Printed
  known : world.program.known = (environment.window first (last - first)).map TaggedByte.note
  whole : world.program.failure = some .indexError ->
    world.program.listaa = world.program.known

/-- The state of a session knows the window that begins with it. -/
theorem known_session (environment : Environment) (first : Nat) (turns : List Turn) :
    (environment.session first turns).receiver.known =
      (environment.window first (environment.session first turns).iteration).map
        TaggedByte.note := by
  rcases (environment.after first).run_lossless turns with
    ⟨_, taken, rest, accepted, recorded, pending⟩
  have frames := (environment.after first).accepted_eq_frames.run turns
  rw [← note_frames_after]
  change _ = ((environment.after first).frames
    ((environment.after first).machine.run turns).iteration).map TaggedByte.note
  rw [← frames, accepted, List.map_append, Receiver.known]
  change ((environment.after first).machine.run turns).receiver.listaa ++
    ((environment.after first).machine.run turns).receiver.pending.map _ = _
  rw [recorded, pending, List.map_map]
  rfl

theorem recorded_of_tracks {environment : Environment} {first : Nat} {turns : List Turn}
    {world : World} (tracks : Tracks first world (environment.session first turns)) :
    environment.Recorded world first world.iteration := by
  refine ⟨by rw [tracks.count]; exact Nat.le_add_right _ _, Nat.le_refl _, ?_, ?_, ?_⟩
  · rw [tracks.program]
    exact (environment.after first).run_printed.run turns
  · rw [tracks.program, tracks.count, Nat.add_sub_cancel_left]
    exact environment.known_session first turns
  · intro ended
    rw [tracks.program, Program.failure,
      (environment.session_running first turns).alive] at ended
    cases ended

theorem recorded_of_departed {environment : Environment} {first : Nat} {turns : List Turn}
    {world : World} (departed : environment.Departed first turns world) :
    environment.Recorded world first
      (first + (environment.session first turns).iteration) := by
  rcases departed.program with ⟨receiver, left, program⟩
  have kept := left.known (environment.session_running first turns)
  refine ⟨Nat.le_add_right _ _, departed.count, ?_, ?_, ?_⟩
  · rw [program]
    exact left.printed ((environment.after first).run_printed.run turns)
  · rw [program, Nat.add_sub_cancel_left]
    exact kept.1.trans (environment.known_session first turns)
  · rw [program]
    exact kept.2

theorem recorded_of_linked {environment : Environment} {first : Nat} {world : World}
    (linked : environment.Linked first world) :
    Exists fun last : Nat => environment.Recorded world first last := by
  cases linked with
  | opened turns tracks => exact ⟨_, recorded_of_tracks tracks⟩
  | left turns departed => exact ⟨_, recorded_of_departed departed⟩

/-- Every list is on the screen of its program. -/
theorem printed_of_course {environment : Environment} {answers : Answers} {world : World}
    (course : environment.Course answers world) : world.program.Printed := by
  cases course with
  | starting program =>
      rw [program]
      trivial
  | raised _ program =>
      rw [program]
      trivial
  | linked first _ _ linked =>
      rcases recorded_of_linked linked with ⟨last, recorded⟩
      exact recorded.printed

/-- A refused program records nothing. -/
theorem known_of_refused (environment : Environment) {answers : Answers}
    (refused : answers [] bluetoothAddress 1 = false) (events : List Event) :
    ((environment.lifecycle answers).run events).program.known = [] := by
  cases ((environment.lifecycle_course answers).run events).2 with
  | starting program =>
      rw [program]
      rfl
  | raised _ program =>
      rw [program]
      rfl
  | linked _ accepted =>
      rw [refused] at accepted
      cases accepted

end Environment

/-! ## The parts of a life -/

/-- The part of a life before the first turn of the receiving program. -/
def untilLink (events : List Event) : List Event :=
  events.takeWhile (fun event => !event.isReceiver)

/-- The part of a life before the link is closed or broken. -/
def untilClose (events : List Event) : List Event :=
  untilLink events ++
    (events.dropWhile (fun event => !event.isReceiver)).takeWhile (fun event => !event.closes)

/-- The first event that does not pass ends the part before it. -/
theorem dropWhile_cases {Label : Type} (passes : Label -> Bool) (labels : List Label) :
    labels.dropWhile passes = [] ∨
      Exists fun label : Label => Exists fun rest : List Label =>
        labels.dropWhile passes = label :: rest ∧ passes label = false := by
  have fails := List.head?_dropWhile_not passes labels
  cases dropped : labels.dropWhile passes with
  | nil => exact Or.inl rfl
  | cons label rest =>
      rw [dropped] at fails
      exact Or.inr ⟨label, rest, rfl, fails⟩

/-- A life in which the program never has its turn is over before the link. -/
structure Unstarted (events : List Event) : Prop where
  link : untilLink events = events
  close : untilClose events = events

/-- A life whose program starts after `untilLink`: then the link is there, until
the life is over or an event closes it. -/
structure Started (events : List Event) (granted : Nat) (during rest : List Event) : Prop where
  whole : events = untilLink events ++ .receiver granted :: (during ++ rest)
  close : untilClose events = untilLink events ++ .receiver granted :: during
  stays : forall event, event ∈ during -> event.closes = false
  closes : rest = [] ∨ Exists fun closing : Event => Exists fun after : List Event =>
    rest = closing :: after ∧ closing.closes = true

theorem unstarted_or_started (events : List Event) :
    Unstarted events ∨ Exists fun granted : Nat => Exists fun during : List Event =>
      Exists fun rest : List Event => Started events granted during rest := by
  have split : untilLink events ++ events.dropWhile (fun event => !event.isReceiver) = events :=
    List.takeWhile_append_dropWhile
  rcases dropWhile_cases (fun event : Event => !event.isReceiver) events with
    nothing | ⟨first, later, found, turn⟩
  · refine Or.inl ⟨?_, ?_⟩
    · rw [nothing, List.append_nil] at split
      exact split
    · rw [untilClose, nothing, List.takeWhile_nil, ← nothing]
      exact split
  · refine Or.inr ?_
    cases first with
    | receiver granted =>
        refine ⟨granted, later.takeWhile (fun event => !event.closes),
          later.dropWhile (fun event => !event.closes), ?_, ?_, ?_, ?_⟩
        · rw [List.takeWhile_append_dropWhile, ← found]
          exact split.symm
        · rw [untilClose, found]
          rfl
        · intro event member
          have passed : (!event.closes) = true :=
            List.mem_takeWhile_imp (p := fun event : Event => !event.closes) member
          exact (Bool.not_eq_true' _).mp passed
        · rcases dropWhile_cases (fun event : Event => !event.closes) later with
            finished | ⟨closing, after, same, closed⟩
          · exact Or.inl finished
          · exact Or.inr ⟨closing, after, same, (Bool.not_eq_false' _).mp closed⟩
    | _ => cases turn

namespace Environment

/-- The program starts in its first turn, and not before. -/
theorem starting_of_no_turn (environment : Environment) (answers : Answers)
    {events : List Event} (waits : forall event, event ∈ events -> event.isReceiver = false) :
    ((environment.lifecycle answers).run events).program = .starting := by
  induction events using List.reverseRecOn with
  | nil => rfl
  | append_singleton earlier event inductionHypothesis =>
      have before := inductionHypothesis
        (fun other member => waits other (List.mem_append_left _ member))
      have idle := waits event (List.mem_append_right _ List.mem_cons_self)
      have unlinked : ((environment.lifecycle answers).run earlier).program.linked = false := by
        rw [before]
        rfl
      rw [Machine.run_snoc]
      cases event with
      | receiver granted => cases idle
      | device => exact (environment.deviceStep_of_unlinked answers unlinked).trans before
      | receiverFails => exact congrArg Program.fail before
      | hangUp => exact congrArg Program.hangUp before

theorem starting_untilLink (environment : Environment) (answers : Answers)
    (events : List Event) :
    ((environment.lifecycle answers).run (untilLink events)).program = .starting := by
  apply environment.starting_of_no_turn answers
  intro event member
  have passed : (!event.isReceiver) = true :=
    List.mem_takeWhile_imp (p := fun event : Event => !event.isReceiver) member
  exact (Bool.not_eq_true' _).mp passed

/-- The session of a life begins with the first turn of the program. -/
theorem linked_from_first_turn (environment : Environment) {answers : Answers}
    (accepted : answers [] bluetoothAddress 1 = true) {before : List Event}
    (waits : forall event, event ∈ before -> event.isReceiver = false) (granted : Nat)
    (after : List Event) :
    environment.Linked ((environment.lifecycle answers).run before).iteration
      ((environment.lifecycle answers).run (before ++ .receiver granted :: after)) := by
  rw [List.append_cons]
  apply Machine.run_stable (environment.Linked _)
  · exact fun _ event linked => environment.step_linked answers linked event
  · rw [Machine.run_snoc]
    exact .opened [] (environment.tracks_of_first_turn accepted
      (environment.starting_of_no_turn answers waits) granted)

/-- The link is open until an event closes it. -/
theorem tracks_during (environment : Environment) {answers : Answers}
    (accepted : answers [] bluetoothAddress 1 = true) {before : List Event}
    (starting : ((environment.lifecycle answers).run before).program = .starting) (granted : Nat)
    {during : List Event} (stays : forall event, event ∈ during -> event.closes = false) :
    Exists fun turns : List Turn =>
      Tracks ((environment.lifecycle answers).run before).iteration
        ((environment.lifecycle answers).run (before ++ .receiver granted :: during))
        (environment.session ((environment.lifecycle answers).run before).iteration turns) := by
  induction during using List.reverseRecOn with
  | nil =>
      refine ⟨[], ?_⟩
      rw [Machine.run_snoc]
      exact environment.tracks_of_first_turn accepted starting granted
  | append_singleton earlier event inductionHypothesis =>
      rcases inductionHypothesis
        (fun other member => stays other (List.mem_append_left _ member)) with ⟨turns, tracks⟩
      rcases environment.step_opened answers tracks
        (stays event (List.mem_append_right _ List.mem_cons_self)) with ⟨turn, further⟩
      refine ⟨turns ++ [turn], ?_⟩
      rw [← List.cons_append, ← List.append_assoc, Machine.run_snoc]
      exact further

/-- In every life: a refused program records nothing.  Otherwise the list and
the bytes that wait at the socket are what the port accepted in the iterations
between the first turn of the program and the moment at which the link was
closed or broken, or the present one. -/
theorem life_recorded (environment : Environment) (answers : Answers) (events : List Event) :
    (answers [] bluetoothAddress 1 = false ->
      ((environment.lifecycle answers).run events).program.known = []) ∧
    (answers [] bluetoothAddress 1 = true ->
      environment.Recorded ((environment.lifecycle answers).run events)
        ((environment.lifecycle answers).run (untilLink events)).iteration
        ((environment.lifecycle answers).run (untilClose events)).iteration) := by
  refine ⟨fun refused => environment.known_of_refused refused events, fun accepted => ?_⟩
  have starting := environment.starting_untilLink answers events
  rcases unstarted_or_started events with unstarted | ⟨granted, during, rest, started⟩
  · rw [unstarted.link] at starting
    rw [unstarted.link, unstarted.close]
    refine ⟨Nat.le_refl _, Nat.le_refl _, ?_, ?_, ?_⟩
    · rw [starting]
      trivial
    · rw [starting, Nat.sub_self]
      rfl
    · rw [starting]
      exact fun _ => rfl
  · rcases environment.tracks_during accepted starting granted started.stays with ⟨turns, tracks⟩
    rw [← started.close] at tracks
    rcases started.closes with finished | ⟨closing, after, same, closes⟩
    · have present : untilClose events = events := by
        rw [started.close, ← List.append_nil during, ← finished]
        exact started.whole.symm
      rw [present] at tracks ⊢
      exact recorded_of_tracks tracks
    · have whole : events = untilClose events ++ [closing] ++ after := by
        rw [started.close, ← List.append_cons, List.append_assoc, List.cons_append, ← same]
        exact started.whole
      have departed : environment.Departed
          ((environment.lifecycle answers).run (untilLink events)).iteration turns
          ((environment.lifecycle answers).run (untilClose events ++ [closing] ++ after)) := by
        apply Machine.run_stable (environment.Departed _ turns)
        · exact fun _ event departed => environment.step_departed answers departed event
        · rw [Machine.run_snoc]
          exact environment.step_closed answers tracks closes
      rw [← whole] at departed
      rw [tracks.count]
      exact recorded_of_departed departed

end Environment

/-! ## The report of a whole life -/

end Telemetry
end AirDump
