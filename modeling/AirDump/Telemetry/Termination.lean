import AirDump.Foundation.Fairness
import AirDump.Telemetry.Ending

namespace AirDump
namespace Telemetry

open Foundation Connection

/-!
# When the receiving program ends

The loop of `main.py` has no exit.  The program ends because it was refused,
or because the peer hangs up or a call of `recv` raises while the link is
open.  When it has its turn again and again it does end then, and never
otherwise, and it never comes back.

The argument has two halves.  A program that has not started, or whose link is
open, stays so until one of the three happens.  After the peer hangs up, every
turn takes one of the pending bytes, and the turn after the last one ends the
program.

The session of a life begins with the first turn of the program.  So what the
list holds in the end is what the port accepted from that turn to the moment
at which the peer hung up.
-/

theorem Event.cases_of_closes (event : Event) (closes : event.closes = true) :
    event = .hangUp ∨ event = .receiverFails := by
  cases event with
  | hangUp => exact Or.inl rfl
  | receiverFails => exact Or.inr rfl
  | _ => cases closes

/-! ## A program that has ended -/

namespace Program

theorem not_ended_of_linked {program : Program} (linked : program.linked = true) :
    program.ended = false := by
  cases program with
  | looping receiver =>
      have alive : receiver.failure.isNone = true := (Bool.and_eq_true_iff.mp linked).1
      rw [Option.isNone_iff_eq_none] at alive
      rw [ended, alive]
      rfl
  | _ => cases linked

theorem unlinked_of_ended {program : Program} (finished : program.ended = true) :
    program.linked = false := by
  cases linked : program.linked with
  | false => rfl
  | true =>
      rw [not_ended_of_linked linked] at finished
      cases finished

end Program

namespace Environment

/-- Nothing happens to a program that has ended. -/
theorem step_of_ended (environment : Environment) (answers : Answers) {world : World}
    (ended : world.program.ended = true) (event : Event) :
    (environment.worldStep answers world event).program = world.program := by
  have unlinked := Program.unlinked_of_ended ended
  cases event with
  | device => exact environment.deviceStep_of_unlinked answers unlinked
  | receiver granted =>
      change world.program.turn answers granted = world.program
      cases program : world.program with
      | starting =>
          rw [program] at ended
          cases ended
      | raised error => rfl
      | looping receiver =>
          rw [program] at ended
          rcases Option.isSome_iff_exists.mp ended with ⟨error, failed⟩
          rw [Program.turn, Receiver.iterate_of_failure failed]
  | receiverFails =>
      change world.program.fail = world.program
      cases program : world.program with
      | looping receiver =>
          rw [program] at ended
          rcases Option.isSome_iff_exists.mp ended with ⟨error, failed⟩
          rw [Program.fail, Receiver.fail_of_failure failed]
      | _ => rfl
  | hangUp =>
      change world.program.hangUp = world.program
      cases program : world.program with
      | looping receiver =>
          rw [program] at unlinked
          change receiver.linked = false at unlinked
          rw [Program.hangUp, if_neg (Bool.eq_false_iff.mp unlinked)]
      | _ => rfl

/-! ## A program that waits or works -/

/-- An open link was accepted, and is the link of a session. -/
theorem tracks_of_linked (environment : Environment) {answers : Answers} {world : World}
    (course : environment.Course answers world) (linked : world.program.linked = true) :
    answers [] bluetoothAddress 1 = true ∧
      Exists fun first : Nat => Exists fun turns : List Turn =>
        Tracks first world (environment.session first turns) := by
  cases course with
  | starting program =>
      rw [program] at linked
      cases linked
  | raised _ program =>
      rw [program] at linked
      cases linked
  | linked first accepted _ linkage =>
      cases linkage with
      | opened turns tracks => exact ⟨accepted, first, turns, tracks⟩
      | left turns departed =>
          rw [departed.unlinked] at linked
          cases linked

/-- A program that has not started waits, or enters its loop, or is refused. -/
theorem step_of_starting (environment : Environment) {answers : Answers} {world : World}
    (program : world.program = .starting) (event : Event) :
    ((environment.worldStep answers world event).program = .starting ∨
        (environment.worldStep answers world event).program.linked = true) ∨
      answers [] bluetoothAddress 1 = false := by
  have unlinked : world.program.linked = false := by
    rw [program]
    rfl
  cases event with
  | device =>
      exact Or.inl (Or.inl ((environment.deviceStep_of_unlinked answers unlinked).trans program))
  | receiverFails => exact Or.inl (Or.inl (congrArg Program.fail program))
  | hangUp => exact Or.inl (Or.inl (congrArg Program.hangUp program))
  | receiver granted =>
      cases answer : answers [] bluetoothAddress 1 with
      | false => exact Or.inr rfl
      | true =>
          have made := environment.tracks_of_first_turn answer program granted
          exact Or.inl (Or.inr (environment.linked_of_tracks made))

/-- A program that has not started, or whose link is open, stays so until it
is refused, its peer hangs up, or `recv` raises. -/
theorem step_of_alive (environment : Environment) {answers : Answers} {world : World}
    (course : environment.Course answers world)
    (alive : world.program = .starting ∨ world.program.linked = true) (event : Event) :
    ((environment.worldStep answers world event).program = .starting ∨
        (environment.worldStep answers world event).program.linked = true) ∨
      answers [] bluetoothAddress 1 = false ∨
      (world.program.linked = true ∧ (event = .hangUp ∨ event = .receiverFails)) := by
  rcases alive with starting | linked
  · rcases environment.step_of_starting starting event with still | refused
    · exact Or.inl still
    · exact Or.inr (Or.inl refused)
  · rcases environment.tracks_of_linked course linked with ⟨_, first, turns, tracks⟩
    cases closes : event.closes with
    | true => exact Or.inr (Or.inr ⟨linked, event.cases_of_closes closes⟩)
    | false =>
        rcases environment.step_opened answers tracks closes with ⟨turn, further⟩
        exact Or.inl (Or.inr (environment.linked_of_tracks further))

end Environment

/-! ## A program whose peer has hung up -/

namespace Receiver

/-- The turns that are left to a program whose peer is gone. -/
def remaining (receiver : Receiver) : Nat :=
  match receiver.failure with
  | some _ => 0
  | none => receiver.pending.length + 1

theorem fail_shut {receiver : Receiver} (shut : receiver.Shut) :
    receiver.fail.Shut ∧ receiver.fail.remaining = 0 := by
  rcases receiver.exists_failure_fail with ⟨error, ended⟩
  have none_left : receiver.fail.remaining = 0 := by
    rw [remaining, ended]
  refine ⟨⟨?_, ?_⟩, none_left⟩
  · unfold fail
    split <;> exact shut.closed
  · intro alive
    rw [ended] at alive
    cases alive

/-- A turn leaves one turn less, and after the last one the program has ended
with the index of an empty list. -/
theorem iterate_remaining {receiver : Receiver} (shut : receiver.Shut) (granted : Nat) :
    (receiver.iterate granted).remaining = receiver.remaining - 1 ∧
      ((receiver.iterate granted).failure = receiver.failure ∨
        (receiver.iterate granted).failure = some .indexError) := by
  cases failed : receiver.failure with
  | some error =>
      rw [iterate_of_failure failed]
      refine ⟨?_, Or.inl failed⟩
      simp only [remaining, failed]
  | none =>
      have reading := shut.reading failed
      cases queued : receiver.pending with
      | nil =>
          rw [iterate_of_end reading shut.closed queued]
          refine ⟨?_, Or.inr rfl⟩
          simp only [remaining, failed, queued, List.length_nil, Nat.zero_add, Nat.sub_self]
      | cons oldest rest =>
          have kept := iterate_keeps reading queued granted
          refine ⟨?_, Or.inl kept.1.alive⟩
          simp only [remaining, failed, kept.1.alive, kept.2.1, queued, List.length_cons,
            Nat.add_sub_cancel]

end Receiver

namespace Program

/-- The peer of the program is gone. -/
def Shut (program : Program) : Prop :=
  Exists fun receiver : Receiver => program = .looping receiver ∧ receiver.Shut

def remaining : Program -> Nat
  | .looping receiver => receiver.remaining
  | _ => 0

theorem ended_of_no_remaining {program : Program} (shut : program.Shut)
    (exhausted : program.remaining = 0) : program.ended = true := by
  rcases shut with ⟨receiver, same, _⟩
  rw [same] at exhausted ⊢
  change receiver.remaining = 0 at exhausted
  unfold Receiver.remaining at exhausted
  split at exhausted
  · exact Option.isSome_of_eq_some (by assumption)
  · cases exhausted

end Program

namespace Environment

/-- Once the peer is gone, no event adds a turn, and every turn of the program
removes one. -/
theorem step_of_shut (environment : Environment) (answers : Answers) {world : World}
    (shut : world.program.Shut) (event : Event) :
    (environment.worldStep answers world event).program.Shut ∧
      (environment.worldStep answers world event).program.remaining ≤
        world.program.remaining ∧
      (event.isReceiver = true ->
        (environment.worldStep answers world event).program.remaining =
          world.program.remaining - 1) ∧
      (event ≠ .receiverFails ->
        (environment.worldStep answers world event).program.failure = world.program.failure ∨
          (environment.worldStep answers world event).program.failure = some .indexError) := by
  rcases shut with ⟨receiver, same, shut⟩
  have unlinked : world.program.linked = false := by
    rw [same]
    exact Receiver.unlinked_of_closed shut.closed
  cases event with
  | device =>
      rw [environment.deviceStep_of_unlinked answers unlinked]
      exact ⟨⟨receiver, same, shut⟩, Nat.le_refl _,
        (fun impossible => by cases impossible), fun _ => Or.inl rfl⟩
  | receiver granted =>
      have turned : (environment.worldStep answers world (.receiver granted)).program =
          .looping (receiver.iterate granted) := congrArg (Program.turn answers granted) same
      have fewer := Receiver.iterate_remaining shut granted
      rw [turned, same]
      exact ⟨⟨_, rfl, (Receiver.iterate_shut shut granted).1⟩,
        fewer.1.le.trans (Nat.sub_le _ _), fun _ => fewer.1, fun _ => fewer.2⟩
  | receiverFails =>
      have failed : (environment.worldStep answers world .receiverFails).program =
          .looping receiver.fail := congrArg Program.fail same
      have further := Receiver.fail_shut shut
      rw [failed]
      exact ⟨⟨_, rfl, further.1⟩, further.2.le.trans (Nat.zero_le _),
        (fun impossible => by cases impossible), fun other => absurd rfl other⟩
  | hangUp =>
      have stays : (environment.worldStep answers world .hangUp).program = world.program := by
        change world.program.hangUp = world.program
        rw [same, Program.hangUp, Receiver.unlinked_of_closed shut.closed,
          if_neg Bool.false_ne_true]
      rw [stays]
      exact ⟨⟨receiver, same, shut⟩, Nat.le_refl _,
        (fun impossible => by cases impossible), fun _ => Or.inl rfl⟩

theorem hangUp_of_tracks (environment : Environment) (answers : Answers) {first : Nat}
    {turns : List Turn} {world : World}
    (tracks : Tracks first world (environment.session first turns)) :
    (environment.worldStep answers world .hangUp).program =
      .looping (environment.session first turns).receiver.hangUp := by
  change world.program.hangUp = _
  rw [tracks.program, Program.hangUp,
    Receiver.linked_of_running (environment.session_running first turns), if_pos rfl]

/-! ## Exactly when the program ends -/

section

variable (environment : Environment) (answers : Answers) (events : Nat -> Event)

/-- As long as nothing of the three has happened, the program waits or works. -/
theorem alive_or_cause (time : Nat) :
    (((environment.lifecycle answers).moment events time).program = .starting ∨
      ((environment.lifecycle answers).moment events time).program.linked = true) ∨
      answers [] bluetoothAddress 1 = false ∨
      Exists fun earlier : Nat =>
        ((environment.lifecycle answers).moment events earlier).program.linked = true ∧
          (events earlier = .hangUp ∨ events earlier = .receiverFails) := by
  induction time with
  | zero => exact Or.inl (Or.inl rfl)
  | succ time inductionHypothesis =>
      rcases inductionHypothesis with alive | cause
      · have course := ((environment.lifecycle_course answers).moment events time).2
        rw [Machine.moment_succ]
        rcases environment.step_of_alive course alive (events time) with still | refused | cause
        · exact Or.inl still
        · exact Or.inr (Or.inl refused)
        · exact Or.inr (Or.inr ⟨time, cause⟩)
      · exact Or.inr cause

/-- A program that has ended stays as it is. -/
theorem moment_of_ended {first later : Nat} (ordered : first ≤ later)
    (ended : ((environment.lifecycle answers).moment events first).program.ended = true) :
    ((environment.lifecycle answers).moment events later).program =
      ((environment.lifecycle answers).moment events first).program := by
  refine (Machine.moment_stable
    (fun world : World => world.program =
      ((environment.lifecycle answers).moment events first).program) ?_ events ordered rfl)
  intro world event same
  rw [← same] at ended
  exact (environment.step_of_ended answers ended event).trans same

/-- When the peer hangs up, it is gone, and the program has not ended yet. -/
theorem shut_of_hangUp {time : Nat}
    (linked : ((environment.lifecycle answers).moment events time).program.linked = true)
    (closes : events time = .hangUp) :
    ((environment.lifecycle answers).moment events (time + 1)).program.Shut ∧
      ((environment.lifecycle answers).moment events (time + 1)).program.failure = none := by
  have course := ((environment.lifecycle_course answers).moment events time).2
  rcases environment.tracks_of_linked course linked with ⟨_, first, turns, tracks⟩
  have running := environment.session_running first turns
  have hungUp := environment.hangUp_of_tracks answers tracks
  rw [Machine.moment_succ, closes]
  refine ⟨⟨_, hungUp, Receiver.hangUp_shut running.toReading⟩, ?_⟩
  exact (congrArg Program.failure hungUp).trans running.alive

theorem shut_later {first later : Nat} (ordered : first ≤ later)
    (shut : ((environment.lifecycle answers).moment events first).program.Shut) :
    ((environment.lifecycle answers).moment events later).program.Shut :=
  Machine.moment_stable (fun world : World => world.program.Shut)
    (fun _ event before => (environment.step_of_shut answers before event).1) events ordered shut

/-- Once the peer has hung up, fair turns exhaust what is left. -/
theorem ends_after_hangUp (fair : InfinitelyOften (fun time => (events time).isReceiver = true))
    {time : Nat}
    (linked : ((environment.lifecycle answers).moment events time).program.linked = true)
    (closes : events time = .hangUp) :
    Exists fun later : Nat => time + 1 ≤ later ∧
      ((environment.lifecycle answers).moment events later).program.ended = true := by
  have hungUp := (environment.shut_of_hangUp answers events linked closes).1
  have shut := fun later (ordered : time + 1 ≤ later) =>
    environment.shut_later answers events ordered hungUp
  apply fair.exhausts
    (fun later => ((environment.lifecycle answers).moment events later).program.remaining)
    (time + 1)
  · intro later ordered
    rw [Machine.moment_succ]
    exact (environment.step_of_shut answers (shut later ordered) (events later)).2.1
  · intro later ordered unended turn
    have left : ((environment.lifecycle answers).moment events later).program.remaining ≠ 0 :=
      fun exhausted => unended (Program.ended_of_no_remaining (shut later ordered) exhausted)
    have less := (environment.step_of_shut answers (shut later ordered) (events later)).2.2.1 turn
    rw [Machine.moment_succ]
    change (environment.worldStep answers _ (events later)).program.remaining < _
    omega

/-- A refused program has ended after its first turn. -/
theorem ends_when_refused (refused : answers [] bluetoothAddress 1 = false) {time : Nat}
    (turn : (events time).isReceiver = true) :
    ((environment.lifecycle answers).moment events (time + 1)).program.ended = true := by
  rw [Machine.moment_succ]
  cases happening : events time with
  | receiver granted =>
      cases ((environment.lifecycle_course answers).moment events time).2 with
      | starting program =>
          exact congrArg Program.ended
            (environment.raised_of_first_turn refused program granted)
      | raised _ program =>
          exact congrArg (fun program => (Program.turn answers granted program).ended) program
      | linked _ accepted =>
          rw [refused] at accepted
          cases accepted
  | _ =>
      rw [happening] at turn
      cases turn

/-- When the program has its turn again and again: it ends, and stays as it is
then, exactly when the device refuses the link, or the peer hangs up or a call
of `recv` raises while the link is open. -/
theorem ends_iff (fair : InfinitelyOften (fun time => (events time).isReceiver = true)) :
    (Exists fun time : Nat => forall later, time ≤ later ->
      ((environment.lifecycle answers).moment events later).program.ended = true ∧
        ((environment.lifecycle answers).moment events later).program =
          ((environment.lifecycle answers).moment events time).program) ↔
      answers [] bluetoothAddress 1 = false ∨
      Exists fun time : Nat =>
        ((environment.lifecycle answers).moment events time).program.linked = true ∧
          (events time = .hangUp ∨ events time = .receiverFails) := by
  constructor
  · rintro ⟨time, stays⟩
    have ended := (stays time (Nat.le_refl time)).1
    rcases environment.alive_or_cause answers events time with (starting | opened) | cause
    · rw [starting] at ended
      cases ended
    · rw [Program.not_ended_of_linked opened] at ended
      cases ended
    · exact cause
  · intro cause
    have finishes : Exists fun time : Nat =>
        ((environment.lifecycle answers).moment events time).program.ended = true := by
      rcases cause with refused | ⟨time, linked, closes | fails⟩
      · rcases fair 0 with ⟨time, _, turn⟩
        exact ⟨time + 1, environment.ends_when_refused answers events refused turn⟩
      · rcases environment.ends_after_hangUp answers events fair linked closes with
          ⟨later, _, ended⟩
        exact ⟨later, ended⟩
      · refine ⟨time + 1, ?_⟩
        rw [Machine.moment_succ, fails]
        change ((environment.lifecycle answers).moment events time).program.fail.ended = true
        cases program : ((environment.lifecycle answers).moment events time).program with
        | looping receiver =>
            rcases receiver.exists_failure_fail with ⟨error, failed⟩
            exact Option.isSome_of_eq_some failed
        | _ =>
            rw [program] at linked
            cases linked
    rcases finishes with ⟨time, ended⟩
    refine ⟨time, fun later ordered => ?_⟩
    have same := environment.moment_of_ended answers events ordered ended
    exact ⟨(congrArg Program.ended same).trans ended, same⟩

/-- After the peer has hung up, and as long as no call of `recv` raises, the
program can end with the index of an empty list only. -/
theorem failure_after_hangUp {time : Nat}
    (linked : ((environment.lifecycle answers).moment events time).program.linked = true)
    (closes : events time = .hangUp)
    (quiet : forall later, time < later -> events later ≠ .receiverFails) {later : Nat}
    (ordered : time + 1 ≤ later) :
    ((environment.lifecycle answers).moment events later).program.failure = none ∨
      ((environment.lifecycle answers).moment events later).program.failure =
        some .indexError := by
  have hungUp := environment.shut_of_hangUp answers events linked closes
  induction ordered with
  | refl => exact Or.inl hungUp.2
  | @step later after inductionHypothesis =>
      have shut := environment.shut_later answers events after hungUp.1
      have kept := (environment.step_of_shut answers shut (events later)).2.2.2 (quiet later after)
      rw [Machine.moment_succ]
      rcases kept with same | ended
      · rcases inductionHypothesis with alive | ended
        · exact Or.inl (same.trans alive)
        · exact Or.inr (same.trans ended)
      · exact Or.inr ended

/-- A link that is open was made by the first turn of the program. -/
theorem tracks_since_first_turn {start time : Nat} (turn : (events start).isReceiver = true)
    (earliest : forall earlier, earlier < start -> (events earlier).isReceiver = false)
    (linked : ((environment.lifecycle answers).moment events time).program.linked = true) :
    Exists fun turns : List Turn =>
      Tracks ((environment.lifecycle answers).moment events start).iteration
        ((environment.lifecycle answers).moment events time)
        (environment.session ((environment.lifecycle answers).moment events start).iteration
          turns) := by
  have course := ((environment.lifecycle_course answers).moment events time).2
  have accepted := (environment.tracks_of_linked course linked).1
  have waits : forall before, before ≤ start ->
      forall event, event ∈ (List.range before).map events -> event.isReceiver = false := by
    intro before ordered event member
    rcases List.mem_map.mp member with ⟨earlier, below, same⟩
    rw [← same]
    exact earliest earlier (Nat.lt_of_lt_of_le (List.mem_range.mp below) ordered)
  have after : start < time := by
    by_contra before
    have starting := environment.starting_of_no_turn answers
      (waits time (Nat.le_of_not_lt before))
    change ((environment.lifecycle answers).moment events time).program = .starting at starting
    rw [starting] at linked
    cases linked
  rcases (environment.lifecycle answers).moment_split events after with ⟨rest, same⟩
  cases happening : events start with
  | receiver granted =>
      have made := environment.linked_from_first_turn accepted
        (waits start (Nat.le_refl start)) granted rest
      rw [← happening, ← same] at made
      cases made with
      | opened turns tracks => exact ⟨turns, tracks⟩
      | left turns departed =>
          rw [departed.unlinked] at linked
          cases linked
  | _ =>
      rw [happening] at turn
      cases turn

/-- When the peer hangs up and no later call of `recv` raises, the program
comes to end with the index of an empty list, and its list is exactly what the
port accepted between the first turn of the program and the moment at which
the peer hung up. -/
theorem complete_after_hangUp
    (fair : InfinitelyOften (fun time => (events time).isReceiver = true)) {start time : Nat}
    (turn : (events start).isReceiver = true)
    (earliest : forall earlier, earlier < start -> (events earlier).isReceiver = false)
    (linked : ((environment.lifecycle answers).moment events time).program.linked = true)
    (closes : events time = .hangUp)
    (quiet : forall later, time < later -> events later ≠ .receiverFails) :
    ((environment.lifecycle answers).moment events start).iteration ≤
        ((environment.lifecycle answers).moment events time).iteration ∧
      Exists fun finish : Nat => forall later, finish ≤ later ->
        ((environment.lifecycle answers).moment events later).program.failure =
          some .indexError ∧
        ((environment.lifecycle answers).moment events later).program.listaa =
          (environment.window ((environment.lifecycle answers).moment events start).iteration
            (((environment.lifecycle answers).moment events time).iteration -
              ((environment.lifecycle answers).moment events start).iteration)).map
            TaggedByte.note := by
  rcases environment.tracks_since_first_turn answers events turn earliest linked with
    ⟨turns, tracks⟩
  refine ⟨(recorded_of_tracks tracks).ordered, ?_⟩
  rcases environment.ends_after_hangUp answers events fair linked closes with
    ⟨finish, ordered, ended⟩
  have departed : environment.Departed
      ((environment.lifecycle answers).moment events start).iteration turns
      ((environment.lifecycle answers).moment events (time + 1)) := by
    rw [Machine.moment_succ, closes]
    have closing : Event.hangUp.closes = true := rfl
    exact environment.step_closed answers tracks closing
  have since := Machine.moment_stable (environment.Departed _ turns)
    (fun _ event before => environment.step_departed answers before event) events ordered departed
  have recorded := recorded_of_departed since
  have error : ((environment.lifecycle answers).moment events finish).program.failure =
      some .indexError := by
    rcases environment.failure_after_hangUp answers events linked closes quiet ordered with
      alive | error
    · rcases since.program with ⟨receiver, _, program⟩
      rw [program] at alive ended
      have running : receiver.failure = none := alive
      rw [Program.ended, running] at ended
      cases ended
    · exact error
  refine ⟨finish, fun later after => ?_⟩
  rw [environment.moment_of_ended answers events after ended]
  refine ⟨error, ?_⟩
  rw [recorded.whole error, recorded.known, tracks.count]

end

end Environment

/-- One mild reading, and a port that accepts everything. -/
def mildDay : Environment :=
  completeWrites (Stream'.Seq.ofList [mild]) (fun _ _ => 0)

/-- The program connects, the device measures once, its peer hangs up, and the
program goes on for ever. -/
def shortLife : Nat -> Event
  | 0 => .receiver 1
  | 1 => .device
  | 2 => .hangUp
  | _ => .receiver 1

theorem shortLife_fair :
    InfinitelyOften (fun time => (shortLife time).isReceiver = true) :=
  fun time => ⟨time + 3, Nat.le_add_right time 3, rfl⟩

theorem shortLife_linked :
    ((mildDay.lifecycle (fun _ _ _ => true)).moment shortLife 2).program.linked = true := by
  decide +kernel

theorem shortLife_quiet (time : Nat) : shortLife time ≠ .receiverFails := by
  rcases time with _ | _ | _ | later <;> exact fun impossible => by cases impossible

theorem shortLife_ends :
    Exists fun time : Nat => forall later, time ≤ later ->
      ((mildDay.lifecycle (fun _ _ _ => true)).moment shortLife later).program.ended = true ∧
      ((mildDay.lifecycle (fun _ _ _ => true)).moment shortLife later).program =
        ((mildDay.lifecycle (fun _ _ _ => true)).moment shortLife time).program :=
  (mildDay.ends_iff (fun _ _ _ => true) shortLife shortLife_fair).mpr
    (Or.inr ⟨2, shortLife_linked, Or.inl rfl⟩)

theorem shortLife_complete :
    ((mildDay.lifecycle (fun _ _ _ => true)).moment shortLife 0).iteration ≤
        ((mildDay.lifecycle (fun _ _ _ => true)).moment shortLife 2).iteration ∧
      Exists fun finish : Nat => forall later, finish ≤ later ->
        ((mildDay.lifecycle (fun _ _ _ => true)).moment shortLife later).program.failure =
          some .indexError ∧
        ((mildDay.lifecycle (fun _ _ _ => true)).moment shortLife later).program.listaa =
          (mildDay.window ((mildDay.lifecycle (fun _ _ _ => true)).moment shortLife 0).iteration
            (((mildDay.lifecycle (fun _ _ _ => true)).moment shortLife 2).iteration -
              ((mildDay.lifecycle (fun _ _ _ => true)).moment shortLife 0).iteration)).map
            TaggedByte.note :=
  mildDay.complete_after_hangUp (fun _ _ _ => true) shortLife shortLife_fair rfl
    (fun earlier below => absurd below (Nat.not_lt_zero earlier)) shortLife_linked rfl
    (fun later _ => shortLife_quiet later)

end Telemetry
end AirDump
