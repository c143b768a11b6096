import AirDump.Telemetry.Delivery

namespace AirDump
namespace Telemetry

open Foundation

/-!
# Which of the two fields a position of the list holds

The stream carries no marker, so only the parity of a position tells humidity
from temperature.  Here the port may accept none, one or both bytes of a
buffer, and the count that it returns is read nowhere.

A buffer of which nothing is accepted shifts nothing.  A buffer of which one
byte is accepted shifts every byte accepted later.  So the pairs of the list
stay together exactly when nothing is accepted after a single byte was.  What
a position holds is decided by the history of accepted bytes, not by comparing
values, since two readings may well have equal ones.
-/

/-- These two positions of an accepted history hold the two values of this
reading. -/
structure PairAt (environment : Environment) (accepted : List TaggedByte) (index : Nat)
    (reading : Nat) (result : SensorResult) : Prop where
  given : environment.sensor.get? reading = some result
  valid : result.Valid
  first : accepted[2 * index]? =
    some ⟨result.byte (environment.undefinedByte reading) .humidade, reading, .humidade⟩
  second : accepted[2 * index + 1]? =
    some ⟨result.byte (environment.undefinedByte reading) .temperatura, reading, .temperatura⟩

/-- Every complete pair of the list is the humidity byte and the temperature
byte of one reading, by origin and by value. -/
def Aligned (environment : Environment) (state : State) : Prop :=
  forall index : Nat, 2 * index + 1 < state.receiver.listaa.length ->
    Exists fun reading : Nat => Exists fun result : SensorResult =>
      PairAt environment state.accepted index reading result ∧
      state.receiver.listaa[2 * index]? =
        some ((result.byte (environment.undefinedByte reading) .humidade).toNat : Int) ∧
      state.receiver.listaa[2 * index + 1]? =
        some ((result.byte (environment.undefinedByte reading) .temperatura).toNat : Int)

namespace Environment

/-- The iteration has a valid reading, which it hands to the port. -/
def Sends (environment : Environment) (reading : Nat) : Prop :=
  Exists fun result : SensorResult =>
    environment.sensor.get? reading = some result ∧ result.Valid

/-- Every complete pair of an accepted history is one reading. -/
def Paired (environment : Environment) (accepted : List TaggedByte) : Prop :=
  forall index : Nat, 2 * index + 1 < accepted.length ->
    Exists fun reading : Nat => Exists fun result : SensorResult =>
      PairAt environment accepted index reading result

/-! ## How many bytes an iteration contributes -/

theorem frame_of_not_sends {environment : Environment} {reading : Nat}
    (silent : ¬ environment.Sends reading) : environment.frame reading = [] := by
  cases given : environment.sensor.get? reading with
  | none => exact frame_of_none given
  | some result => exact frame_of_not_valid given (fun valid => silent ⟨result, given, valid⟩)

theorem length_frame_of_sends {environment : Environment} {reading : Nat}
    (sends : environment.Sends reading) :
    (environment.frame reading).length = (environment.accepts reading).val := by
  rcases sends with ⟨result, given, valid⟩
  have bound := (environment.accepts reading).isLt
  rw [frame_of_valid given valid, List.length_take, List.length_cons, List.length_cons,
    List.length_nil]
  omega

/-- An iteration contributes something exactly when it sends and the port
accepts something. -/
theorem frame_ne_nil_iff (environment : Environment) (reading : Nat) :
    environment.frame reading ≠ [] ↔
      environment.Sends reading ∧ environment.accepts reading ≠ 0 := by
  constructor
  · intro contributes
    by_cases sends : environment.Sends reading
    · refine ⟨sends, ?_⟩
      intro nothing
      apply contributes
      rw [← List.length_eq_zero_iff, length_frame_of_sends sends, nothing]
      rfl
    · exact absurd (frame_of_not_sends sends) contributes
  · rintro ⟨sends, something⟩ empty
    have length := length_frame_of_sends sends
    rw [empty, List.length_nil] at length
    exact something (Fin.ext length.symm)

/-! ## One more iteration -/

/-- Appending an iteration keeps the pairs together exactly when it adds
nothing or starts at an even position. -/
theorem paired_frames_succ_iff (environment : Environment) (count : Nat) :
    environment.Paired (environment.frames (count + 1)) ↔
      environment.Paired (environment.frames count) ∧
        (environment.frame count = [] ∨ (environment.frames count).length % 2 = 0) := by
  rw [frames_succ]
  generalize environment.frames count = earlier
  constructor
  · intro paired
    constructor
    · intro index below
      have within : 2 * index + 1 < (earlier ++ environment.frame count).length := by
        rw [List.length_append]
        omega
      rcases paired index within with ⟨reading, result, pair⟩
      have first := pair.first
      have second := pair.second
      rw [List.getElem?_append_left (by omega)] at first second
      exact ⟨reading, result, pair.given, pair.valid, first, second⟩
    · by_cases empty : environment.frame count = []
      · exact Or.inl empty
      · apply Or.inr
        rcases (environment.frame_ne_nil_iff count).mp empty with ⟨sends, something⟩
        have length := length_frame_of_sends sends
        have positive : 0 < (environment.accepts count).val :=
          Nat.pos_of_ne_zero (fun zero => something (Fin.ext zero))
        rcases sends with ⟨sent, given, valid⟩
        have head : (environment.frame count)[0]? =
            some ⟨sent.byte (environment.undefinedByte count) .humidade, count, .humidade⟩ := by
          rw [frame_of_valid given valid, List.getElem?_take, if_pos positive]
          rfl
        rcases Nat.mod_two_eq_zero_or_one earlier.length with even | odd
        · exact even
        · have position : 2 * (earlier.length / 2) + 1 = earlier.length := by
            omega
          have within : 2 * (earlier.length / 2) + 1 <
              (earlier ++ environment.frame count).length := by
            rw [List.length_append]
            omega
          rcases paired _ within with ⟨reading, result, pair⟩
          have second := pair.second
          rw [position, List.getElem?_append_right (Nat.le_refl _), Nat.sub_self, head] at second
          have fields := congrArg TaggedByte.field (Option.some.inj second)
          cases fields
  · rintro ⟨paired, starts⟩ index below
    rw [List.length_append] at below
    by_cases old : 2 * index + 1 < earlier.length
    · rcases paired index old with ⟨reading, result, pair⟩
      refine ⟨reading, result, pair.given, pair.valid, ?_, ?_⟩
      · rw [List.getElem?_append_left (by omega)]
        exact pair.first
      · rw [List.getElem?_append_left old]
        exact pair.second
    · have contributes : environment.frame count ≠ [] := by
        intro empty
        rw [empty, List.length_nil] at below
        omega
      have even := starts.resolve_left contributes
      have sends := ((environment.frame_ne_nil_iff count).mp contributes).1
      have length := length_frame_of_sends sends
      have bound := (environment.accepts count).isLt
      have position : 2 * index = earlier.length := by
        omega
      have both : (environment.accepts count).val = 2 := by
        omega
      rcases sends with ⟨sent, given, valid⟩
      have whole := frame_of_valid given valid
      rw [both] at whole
      refine ⟨count, sent, given, valid, ?_, ?_⟩
      · rw [List.getElem?_append_right position.ge, position, Nat.sub_self, whole]
        rfl
      · rw [List.getElem?_append_right (by omega), position, Nat.add_sub_cancel_left, whole]
        rfl

theorem paired_frames {environment : Environment} (count : Nat)
    (starts : forall earlier, earlier < count -> environment.frame earlier = [] ∨
      (environment.frames earlier).length % 2 = 0) :
    environment.Paired (environment.frames count) := by
  induction count with
  | zero => exact fun index below => absurd below (Nat.not_lt_zero _)
  | succ count inductionHypothesis =>
      have before := inductionHypothesis
        (fun earlier below => starts earlier (Nat.lt_succ_of_lt below))
      exact (environment.paired_frames_succ_iff count).mpr
        ⟨before, starts count (Nat.lt_succ_self count)⟩

/-! ## Every iteration starts at an even position -/

theorem length_frames_even {environment : Environment} (count : Nat)
    (never_single : forall reading, reading < count -> environment.Sends reading ->
      environment.accepts reading ≠ 1) :
    (environment.frames count).length % 2 = 0 := by
  induction count with
  | zero => rfl
  | succ count inductionHypothesis =>
      have before := inductionHypothesis
        (fun reading below => never_single reading (Nat.lt_succ_of_lt below))
      have last : (environment.frame count).length % 2 = 0 := by
        by_cases sends : environment.Sends count
        · have not_one : (environment.accepts count).val ≠ 1 :=
            fun one => never_single count (Nat.lt_succ_self count) sends (Fin.ext one)
          have bound := (environment.accepts count).isLt
          rw [length_frame_of_sends sends]
          omega
        · rw [frame_of_not_sends sends]
          rfl
      rw [frames_succ, List.length_append]
      omega

/-- After a single byte every later iteration that contributes something would
start at an odd position. -/
theorem length_frames_odd {environment : Environment}
    (starts : forall count, environment.frame count = [] ∨
      (environment.frames count).length % 2 = 0)
    {single : Nat} (sends : environment.Sends single) (one : environment.accepts single = 1)
    {later : Nat} (after : single + 1 ≤ later) :
    (environment.frames later).length % 2 = 1 := by
  induction after with
  | refl =>
      have length := length_frame_of_sends sends
      rw [one] at length
      have contributes := (environment.frame_ne_nil_iff single).mpr
        ⟨sends, by rw [one]; decide⟩
      have even := (starts single).resolve_left contributes
      have value : ((1 : Fin 3)).val = 1 := rfl
      rw [frames_succ, List.length_append]
      omega
  | @step later _ inductionHypothesis =>
      have silent : environment.frame later = [] := by
        rcases starts later with empty | even
        · exact empty
        · omega
      rw [frames_succ, silent, List.append_nil]
      exact inductionHypothesis

/-- An iteration of which nothing is accepted after a single byte was starts
at an even position, or adds nothing. -/
theorem starts_even_of_condition {environment : Environment} (later : Nat)
    (condition : forall single, single < later -> environment.Sends single ->
      environment.Sends later -> environment.accepts single = 1 ->
        environment.accepts later = 0) :
    environment.frame later = [] ∨ (environment.frames later).length % 2 = 0 := by
  by_cases empty : environment.frame later = []
  · exact Or.inl empty
  · rcases (environment.frame_ne_nil_iff later).mp empty with ⟨sends, something⟩
    apply Or.inr
    apply length_frames_even
    intro single below sendsSingle one
    exact something (condition single below sendsSingle sends one)

theorem condition_of_starts_even {environment : Environment}
    (starts : forall count, environment.frame count = [] ∨
      (environment.frames count).length % 2 = 0)
    {single later : Nat} (ordered : single < later) (sendsSingle : environment.Sends single)
    (sendsLater : environment.Sends later) (one : environment.accepts single = 1) :
    environment.accepts later = 0 := by
  have odd := length_frames_odd starts sendsSingle one ordered
  by_contra something
  have contributes := (environment.frame_ne_nil_iff later).mpr ⟨sendsLater, something⟩
  have even := (starts later).resolve_left contributes
  omega

/-! ## Runs of the system -/

/-- A paired history is read by the list, since the list records its oldest
bytes. -/
theorem aligned_of_paired (environment : Environment) (schedule : List Turn)
    (paired : environment.Paired (environment.machine.run schedule).accepted) :
    Aligned environment (environment.machine.run schedule) := by
  rcases environment.run_lossless schedule with ⟨_, taken, left, accepted, recorded, _⟩
  intro index below
  rw [recorded, List.length_map] at below
  rcases paired index (by rw [accepted, List.length_append]; omega) with ⟨reading, result, pair⟩
  have first := pair.first
  have second := pair.second
  rw [accepted, List.getElem?_append_left (by omega)] at first second
  refine ⟨reading, result, pair, ?_, ?_⟩
  · rw [recorded, List.getElem?_map, first]
    rfl
  · rw [recorded, List.getElem?_map, second]
    rfl

/-- In a run in which nothing was accepted after a single byte so far, the
pairs of the list are together. -/
theorem aligned_of_nothing_after_single (environment : Environment) (schedule : List Turn)
    (condition : forall single later, single < later ->
      later < (environment.machine.run schedule).iteration -> environment.Sends single ->
        environment.Sends later -> environment.accepts single = 1 ->
          environment.accepts later = 0) :
    Aligned environment (environment.machine.run schedule) := by
  apply environment.aligned_of_paired schedule
  rw [environment.accepted_eq_frames.run schedule]
  apply paired_frames
  intro later below
  apply starts_even_of_condition
  intro single ordered
  exact condition single later ordered below

/-- If no interleaving separates a pair, every iteration that contributes
something starts at an even position. -/
theorem starts_even_of_aligned {environment : Environment}
    (always : forall schedule, Aligned environment (environment.machine.run schedule))
    (count : Nat) :
    environment.frame count = [] ∨ (environment.frames count).length % 2 = 0 := by
  by_cases empty : environment.frame count = []
  · exact Or.inl empty
  · rcases ((environment.frame_ne_nil_iff count).mp empty).1 with ⟨result, given, _⟩
    rcases environment.exists_delivered given with ⟨schedule, iterations, delivered⟩
    have accepted := environment.accepted_eq_frames.run schedule
    rw [iterations] at accepted
    have paired : environment.Paired (environment.frames (count + 1)) := by
      intro index below
      have aligned := always schedule index (by rw [delivered, List.length_map]; exact below)
      rcases aligned with ⟨reading, sent, pair, _⟩
      rw [accepted] at pair
      exact ⟨reading, sent, pair⟩
    exact ((environment.paired_frames_succ_iff count).mp paired).2

end Environment

/-- Over all interleavings, the pairs of the list stay together exactly when
nothing is accepted of a later valid reading once a single byte was accepted
of an earlier one. -/
theorem aligned_iff_nothing_after_single (environment : Environment) :
    (forall schedule, Aligned environment (environment.machine.run schedule)) ↔
      forall single later, single < later -> environment.Sends single ->
        environment.Sends later -> environment.accepts single = 1 ->
          environment.accepts later = 0 := by
  constructor
  · intro always single later ordered sendsSingle sendsLater one
    exact Environment.condition_of_starts_even (Environment.starts_even_of_aligned always)
      ordered sendsSingle sendsLater one
  · intro condition schedule
    apply environment.aligned_of_nothing_after_single schedule
    intro single later ordered _
    exact condition single later ordered

/-- Two valid readings, the first of which is accepted by half. -/
def halfAccepted : Environment where
  sensor := Stream'.Seq.ofList
    [⟨45.0, 20.0, by decide +kernel, by decide +kernel⟩,
      ⟨60.0, 21.0, by decide +kernel, by decide +kernel⟩]
  accepts := fun reading => if reading = 0 then 1 else 2
  undefinedByte := fun _ _ => 0

/-- The humidity of the second reading is recorded where the temperature of
the first belongs. -/
theorem halfAccepted_is_misaligned :
    ¬ forall schedule, Aligned halfAccepted (halfAccepted.machine.run schedule) := by
  intro always
  rcases Environment.starts_even_of_aligned always 1 with empty | even
  · exact absurd empty (by decide +kernel)
  · exact absurd even (by decide +kernel)

end Telemetry
end AirDump
