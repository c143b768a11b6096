import AirDump.Telemetry.Delivery

namespace AirDump
namespace Telemetry

open Foundation

/-!
# From the sensor to the list, when every byte is accepted

What the whole system is for: the list should report, in order, the two values
of every valid reading without their parts after the binary point, and nothing
else.  That is a sequence of integers, finite or not, and at every moment the
list should be a prefix of it.

The bytes are delivered without loss, so only the cast to one byte is left to
examine.  It keeps a truncation between 0 and 255 and nothing outside.  The
result below says that, over all interleavings, the list reports the readings
exactly when all of them are in that range.
-/

/-- The report of the first results of the sensor, up to this many. -/
def published (sensor : Stream'.Seq SensorResult) (count : Nat) : List Int :=
  ((sensor.take count).filter (fun result => decide result.Valid)).flatMap
    SensorResult.truncated

/-- The port accepts both bytes of every buffer. -/
def completeWrites (sensor : Stream'.Seq SensorResult)
    (undefinedByte : Nat -> Field -> UInt8) : Environment where
  sensor := sensor
  accepts := fun _ => Fin.last 2
  undefinedByte := undefinedByte

/-! ## The report grows with the results -/

private theorem seq_take_succ {Item : Type} (sequence : Stream'.Seq Item) (count : Nat) :
    sequence.take (count + 1) = sequence.take count ++ (sequence.get? count).toList := by
  induction count generalizing sequence with
  | zero =>
      cases sequence using Stream'.Seq.recOn with
      | nil => rfl
      | cons first rest => rfl
  | succ count inductionHypothesis =>
      cases sequence using Stream'.Seq.recOn with
      | nil => rfl
      | cons first rest =>
          rw [Stream'.Seq.take_succ_cons, inductionHypothesis, Stream'.Seq.take_succ_cons,
            Stream'.Seq.get?_cons_succ, List.cons_append]

/-- What one result of the sensor adds, when a valid reading adds these
numbers and another one nothing. -/
def contributed (sensor : Stream'.Seq SensorResult) (numbers : SensorResult -> List Int)
    (reading : Nat) : List Int :=
  ((sensor.get? reading).toList.filter (fun result => decide result.Valid)).flatMap numbers

theorem contributed_of_none {sensor : Stream'.Seq SensorResult}
    (numbers : SensorResult -> List Int) {reading : Nat} (ended : sensor.get? reading = none) :
    contributed sensor numbers reading = [] := by
  rw [contributed, ended]
  rfl

theorem contributed_of_some {sensor : Stream'.Seq SensorResult}
    (numbers : SensorResult -> List Int) {reading : Nat} {result : SensorResult}
    (given : sensor.get? reading = some result) :
    contributed sensor numbers reading = if result.Valid then numbers result else [] := by
  rw [contributed, given]
  split <;> rename_i valid
  · simp only [Option.toList_some, List.filter_cons, valid, decide_true, if_true,
      List.filter_nil, List.flatMap_cons, List.flatMap_nil, List.append_nil]
  · simp only [Option.toList_some, List.filter_cons, valid, decide_false, Bool.false_eq_true,
      if_false, List.filter_nil, List.flatMap_nil]

/-- The report is made of the parts that the single results add. -/
theorem published_eq_joined (sensor : Stream'.Seq SensorResult) (count : Nat) :
    published sensor count =
      Blocks.joined (contributed sensor SensorResult.truncated) count := by
  induction count with
  | zero => rfl
  | succ count inductionHypothesis =>
      rw [Blocks.joined_succ, ← inductionHypothesis, published, seq_take_succ,
        List.filter_append, List.flatMap_append]
      rfl

theorem published_prefix_of_le (sensor : Stream'.Seq SensorResult) {first second : Nat}
    (ordered : first ≤ second) : published sensor first <+: published sensor second := by
  rw [published_eq_joined, published_eq_joined]
  exact Blocks.joined_prefix_of_le _ ordered

/-- A list that is a prefix of the report at some moment, and as long as the
report of the first results, is the report of the first results. -/
theorem eq_published_of_prefix {sensor : Stream'.Seq SensorResult} {notes : List Int}
    {count : Nat} (within : notes <+: published sensor count) (first : Nat)
    (length : notes.length = (published sensor first).length) :
    notes = published sensor first := by
  have later := within.trans (published_prefix_of_le sensor (Nat.le_max_left count first))
  have earlier := published_prefix_of_le sensor (Nat.le_max_right count first)
  exact (List.prefix_of_prefix_length_le later earlier length.le).eq_of_length length

/-! ## The bytes of one iteration against its report -/

section

variable (sensor : Stream'.Seq SensorResult) (undefinedByte : Nat -> Field -> UInt8)

/-- An iteration sends as many bytes as a valid reading has numbers, and the
same ones exactly when the reading has the property that decides it. -/
theorem frame_eq_contributed_iff {numbers : SensorResult -> List Int}
    {property : SensorResult -> Prop} (two : forall result, (numbers result).length = 2)
    (exactly : forall result, result.Valid -> forall undefinedByte : Field -> UInt8,
      [((result.byte undefinedByte .humidade).toNat : Int),
        ((result.byte undefinedByte .temperatura).toNat : Int)] = numbers result ↔
          property result) (reading : Nat) :
    (((completeWrites sensor undefinedByte).frame reading).map TaggedByte.note).length =
        (contributed sensor numbers reading).length ∧
      (((completeWrites sensor undefinedByte).frame reading).map TaggedByte.note =
          contributed sensor numbers reading ↔
        forall result, sensor.get? reading = some result -> result.Valid ->
          property result) := by
  cases given : sensor.get? reading with
  | none =>
      rw [Environment.frame_of_none given, contributed_of_none numbers given]
      exact ⟨rfl, iff_of_true rfl (fun _ impossible => by cases impossible)⟩
  | some result =>
      rw [contributed_of_some numbers given]
      by_cases valid : result.Valid
      · rw [Environment.frame_of_valid given valid, if_pos valid]
        refine ⟨(two result).symm, (exactly result valid (undefinedByte reading)).trans ?_⟩
        constructor
        · intro holds other same _
          rw [← Option.some.inj same]
          exact holds
        · intro holds
          exact holds result rfl valid
      · rw [Environment.frame_of_not_valid given valid, if_neg valid]
        refine ⟨rfl, iff_of_true rfl ?_⟩
        intro other same otherValid
        rw [← Option.some.inj same] at otherValid
        exact absurd otherValid valid

/-- The bytes of the first iterations are as many as the numbers of the first
results, and the same ones exactly when all valid readings among them have the
property that decides it. -/
theorem frames_eq_joined_iff {numbers : SensorResult -> List Int}
    {property : SensorResult -> Prop} (two : forall result, (numbers result).length = 2)
    (exactly : forall result, result.Valid -> forall undefinedByte : Field -> UInt8,
      [((result.byte undefinedByte .humidade).toNat : Int),
        ((result.byte undefinedByte .temperatura).toNat : Int)] = numbers result ↔
          property result) (count : Nat) :
    (((completeWrites sensor undefinedByte).frames count).map TaggedByte.note).length =
        (Blocks.joined (contributed sensor numbers) count).length ∧
      (((completeWrites sensor undefinedByte).frames count).map TaggedByte.note =
          Blocks.joined (contributed sensor numbers) count ↔
        forall reading, reading < count -> forall result,
          sensor.get? reading = some result -> result.Valid -> property result) := by
  have single := frame_eq_contributed_iff sensor undefinedByte two exactly
  rw [Environment.frames, Blocks.map_joined]
  refine ⟨Blocks.length_joined_eq (fun reading => (single reading).1) count, ?_⟩
  rw [Blocks.joined_eq_joined_iff (fun reading => (single reading).1)]
  exact forall_congr' (fun reading => imp_congr_right (fun _ => (single reading).2))

theorem length_frames_complete (count : Nat) :
    (((completeWrites sensor undefinedByte).frames count).map TaggedByte.note).length =
      (published sensor count).length := by
  rw [published_eq_joined]
  exact (frames_eq_joined_iff sensor undefinedByte (fun _ => rfl)
    (fun _ valid => SensorResult.bytes_eq_truncated_iff valid) count).1

/-- The bytes of the first iterations are the report exactly when all valid
readings among them are in the range of a byte. -/
theorem frames_eq_published_iff (count : Nat) :
    ((completeWrites sensor undefinedByte).frames count).map TaggedByte.note =
        published sensor count ↔
      forall reading, reading < count -> forall result,
        sensor.get? reading = some result -> result.Valid -> result.Fits := by
  rw [published_eq_joined]
  exact (frames_eq_joined_iff sensor undefinedByte (fun _ => rfl)
    (fun _ valid => SensorResult.bytes_eq_truncated_iff valid) count).2

/-- In a run whose valid readings so far are in the range of a byte, the list
is a prefix of the report. -/
theorem listaa_prefix_of_fits (schedule : List Turn)
    (fits : forall reading,
      reading < ((completeWrites sensor undefinedByte).machine.run schedule).iteration ->
        forall result, sensor.get? reading = some result -> result.Valid -> result.Fits) :
    Exists fun count : Nat =>
      ((completeWrites sensor undefinedByte).machine.run schedule).receiver.listaa <+:
        published sensor count := by
  have recorded := (completeWrites sensor undefinedByte).listaa_prefix_frames schedule
  rw [(frames_eq_published_iff sensor undefinedByte _).mpr fits] at recorded
  exact ⟨_, recorded⟩

/-- When a reading is recorded and the list is still a prefix of the report,
the reading was in the range of a byte. -/
theorem fits_of_prefix
    (always : forall schedule, Exists fun count : Nat =>
      ((completeWrites sensor undefinedByte).machine.run schedule).receiver.listaa <+:
        published sensor count)
    {reading : Nat} {result : SensorResult} (given : sensor.get? reading = some result)
    (valid : result.Valid) : result.Fits := by
  rcases (completeWrites sensor undefinedByte).exists_delivered given with
    ⟨schedule, _, delivered⟩
  rcases always schedule with ⟨count, within⟩
  rw [delivered] at within
  have same := eq_published_of_prefix within (reading + 1)
    (length_frames_complete sensor undefinedByte (reading + 1))
  exact (frames_eq_published_iff sensor undefinedByte (reading + 1)).mp same reading
    (Nat.lt_succ_self reading) result given valid

end

/-- For a finite or unbounded sequence of sensor results, and whatever a cast
outside its range produces: at every moment of every interleaving the list is
a prefix of the report, exactly when both values of every valid reading have
a truncation between 0 and 255. -/
theorem listaa_prefix_published_iff (sensor : Stream'.Seq SensorResult)
    (undefinedByte : Nat -> Field -> UInt8) :
    (forall schedule, Exists fun count : Nat =>
      ((completeWrites sensor undefinedByte).machine.run schedule).receiver.listaa <+:
        published sensor count) ↔
      forall reading result, sensor.get? reading = some result -> result.Valid ->
        result.Fits := by
  constructor
  · intro always reading result given valid
    exact fits_of_prefix sensor undefinedByte always given valid
  · intro fits schedule
    apply listaa_prefix_of_fits sensor undefinedByte schedule
    intro reading _
    exact fits reading

/-- Fifty percent of humidity at five degrees below zero. -/
def frost : SensorResult where
  humidade := 50.0
  temperatura := -5.0
  humidade_not_infinite := by decide +kernel
  temperatura_not_infinite := by decide +kernel

/-- One valid reading below zero is enough: whatever byte the cast produces,
some interleaving records another value. -/
theorem frost_is_misreported :
    ¬ Exists fun undefinedByte : Nat -> Field -> UInt8 =>
      forall schedule, Exists fun count : Nat =>
        ((completeWrites (Stream'.Seq.ofList [frost]) undefinedByte).machine.run
          schedule).receiver.listaa <+: published (Stream'.Seq.ofList [frost]) count := by
  rintro ⟨undefinedByte, always⟩
  have fits := fits_of_prefix (Stream'.Seq.ofList [frost]) undefinedByte always
    (show (Stream'.Seq.ofList [frost]).get? 0 = some frost from rfl) (by decide +kernel)
  exact absurd fits (by decide +kernel)

end Telemetry
end AirDump
