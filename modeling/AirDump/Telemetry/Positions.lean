import AirDump.Foundation.Blocks
import AirDump.Telemetry.Alignment

namespace AirDump
namespace Telemetry

open Foundation

/-!
# The value that a position of the list holds, whatever the port accepts

Once a buffer was accepted by half, positions of the list are no longer paired
as they were sent.  They are not lost either.  A position holds the byte of
exactly one value of one reading, and which one follows from how many bytes
were accepted of the readings before.

In particular the parity of a position tells humidity from temperature again
as soon as the buffers that were accepted by half are counted as well.
-/

/-- The index of a value in the buffer. -/
def Field.index : Field -> Nat
  | .humidade => 0
  | .temperatura => 1

namespace Environment

/-- How many of the first iterations had exactly one byte accepted. -/
def singles (environment : Environment) (count : Nat) : Nat :=
  (List.range count).countP (fun reading => (environment.frame reading).length == 1)

/-- This value of this reading was accepted, and lies at this position. -/
structure Places (environment : Environment) (position reading : Nat) (result : SensorResult)
    (field : Field) : Prop where
  given : environment.sensor.get? reading = some result
  valid : result.Valid
  sent : field.index < (environment.accepts reading).val
  place : position = (environment.frames reading).length + field.index

/-- Apart from the values, an iteration contributes the leading fields that the
port accepts. -/
theorem frame_getElem?_iff (environment : Environment) (reading offset : Nat)
    (tagged : TaggedByte) :
    (environment.frame reading)[offset]? = some tagged ↔
      Exists fun result : SensorResult => Exists fun field : Field =>
        environment.sensor.get? reading = some result ∧ result.Valid ∧
          field.index < (environment.accepts reading).val ∧ offset = field.index ∧
            tagged = ⟨result.byte (environment.undefinedByte reading) field, reading, field⟩ := by
  by_cases sends : environment.Sends reading
  · rcases sends with ⟨result, given, valid⟩
    rw [frame_of_valid given valid, List.getElem?_take]
    constructor
    · intro here
      by_cases accepted : offset < (environment.accepts reading).val
      · rw [if_pos accepted] at here
        have two := (environment.accepts reading).isLt
        rcases offset with _ | _ | more
        · exact ⟨result, .humidade, given, valid, accepted, rfl, (Option.some.inj here).symm⟩
        · exact ⟨result, .temperatura, given, valid, accepted, rfl, (Option.some.inj here).symm⟩
        · omega
      · rw [if_neg accepted] at here
        cases here
    · rintro ⟨other, field, same, _, accepted, offset_eq, tagged_eq⟩
      have equal : result = other := Option.some.inj (given.symm.trans same)
      rw [offset_eq, if_pos accepted, tagged_eq, ← equal]
      cases field <;> rfl
  · rw [frame_of_not_sends sends]
    constructor
    · intro impossible
      cases impossible
    · rintro ⟨result, _, given, valid, _⟩
      exact absurd ⟨result, given, valid⟩ sends

/-- The parity of the bytes accepted so far is the parity of the buffers that
were accepted by half. -/
theorem length_frames_mod_two (environment : Environment) (count : Nat) :
    (environment.frames count).length % 2 = environment.singles count % 2 := by
  induction count with
  | zero => rfl
  | succ count inductionHypothesis =>
      have bound : (environment.frame count).length ≤ 2 := by
        by_cases sends : environment.Sends count
        · have two := (environment.accepts count).isLt
          rw [length_frame_of_sends sends]
          omega
        · rw [frame_of_not_sends sends]
          exact Nat.zero_le 2
      have counted : environment.singles (count + 1) = environment.singles count +
          if (environment.frame count).length = 1 then 1 else 0 := by
        simp only [singles, List.range_succ, List.countP_append, List.countP_singleton,
          beq_iff_eq]
      rw [frames_succ, List.length_append, counted]
      split <;> omega

/-- Two values never lie at the same position. -/
theorem places_unique {environment : Environment} {position first second : Nat}
    {firstResult secondResult : SensorResult} {firstField secondField : Field}
    (left : environment.Places position first firstResult firstField)
    (right : environment.Places position second secondResult secondField) :
    first = second ∧ firstResult = secondResult ∧ firstField = secondField := by
  have inside : forall {reading result field}, environment.Places position reading result field ->
      field.index < (environment.frame reading).length := by
    intro reading result field places
    rw [length_frame_of_sends ⟨result, places.given, places.valid⟩]
    exact places.sent
  have same := Blocks.place_unique environment.frame (inside left) (inside right)
    (left.place.symm.trans right.place)
  have sameResult : firstResult = secondResult := by
    have given := right.given
    rw [← same.1] at given
    exact Option.some.inj (left.given.symm.trans given)
  refine ⟨same.1, sameResult, ?_⟩
  cases firstField <;> cases secondField <;> first | rfl | cases same.2

/-- A humidity lies where the parity is that of the buffers accepted by half. -/
theorem humidade_iff_of_places {environment : Environment} {position reading : Nat}
    {result : SensorResult} {field : Field}
    (places : environment.Places position reading result field) :
    field = .humidade ↔ position % 2 = environment.singles reading % 2 := by
  have place := places.place
  have even := environment.length_frames_mod_two reading
  cases field with
  | humidade =>
      change position = _ + 0 at place
      exact iff_of_true rfl (by omega)
  | temperatura =>
      change position = _ + 1 at place
      apply iff_of_false (fun impossible => by cases impossible)
      omega

/-- Every entry of an accepted history lies at its place. -/
theorem places_of_history {environment : Environment} {count position : Nat}
    {tagged : TaggedByte} (here : (environment.frames count)[position]? = some tagged) :
    Exists fun reading : Nat => Exists fun result : SensorResult => Exists fun field : Field =>
      environment.Places position reading result field ∧
        tagged = ⟨result.byte (environment.undefinedByte reading) field, reading, field⟩ := by
  rcases (Blocks.joined_getElem?_iff environment.frame count position tagged).mp here with
    ⟨reading, offset, _, place, inside⟩
  rcases (environment.frame_getElem?_iff reading offset tagged).mp inside with
    ⟨result, field, given, valid, sent, same, content⟩
  rw [same] at place
  exact ⟨reading, result, field, ⟨given, valid, sent, place⟩, content⟩

private theorem exists_tagged_of_lt {notes : List Int} {history : List TaggedByte}
    (within : notes <+: history.map TaggedByte.note) {position : Nat}
    (below : position < notes.length) :
    Exists fun tagged : TaggedByte =>
      history[position]? = some tagged ∧ notes[position]? = some tagged.note := by
  have bound := within.length_le
  rw [List.length_map] at bound
  have inside : position < history.length := below.trans_le bound
  refine ⟨history[position], List.getElem?_eq_getElem inside, ?_⟩
  rcases within with ⟨rest, whole⟩
  have here : (notes ++ rest)[position]? = (history.map TaggedByte.note)[position]? := by
    rw [whole]
  rw [List.getElem?_append_left below, List.getElem?_map,
    List.getElem?_eq_getElem inside] at here
  exact here

/-- At every moment of every interleaving, and whatever the port accepts: a
position that the list has reached holds the byte of a value that lies there.
No other value lies there, and it is a humidity exactly when the position has
the parity of the number of buffers accepted by half before. -/
theorem listaa_getElem?_iff (environment : Environment) (schedule : List Turn) (position : Nat)
    (note : Int) :
    ((environment.machine.run schedule).receiver.listaa[position]? = some note ↔
      position < (environment.machine.run schedule).receiver.listaa.length ∧
        Exists fun reading : Nat => Exists fun result : SensorResult =>
          Exists fun field : Field =>
            environment.Places position reading result field ∧
              note = ((result.byte (environment.undefinedByte reading) field).toNat : Int)) ∧
    (forall reading result field, environment.Places position reading result field ->
      (field = .humidade ↔ position % 2 = environment.singles reading % 2) ∧
        forall otherReading otherResult otherField,
          environment.Places position otherReading otherResult otherField ->
            otherReading = reading ∧ otherResult = result ∧ otherField = field) := by
  refine ⟨?_, fun reading result field places =>
    ⟨humidade_iff_of_places places, fun _ _ _ elsewhere => places_unique elsewhere places⟩⟩
  have recorded := environment.listaa_prefix_frames schedule
  generalize (environment.machine.run schedule).iteration = count at recorded
  generalize (environment.machine.run schedule).receiver.listaa = listaa at *
  constructor
  · intro here
    have below := (List.getElem?_eq_some_iff.mp here).1
    rcases exists_tagged_of_lt recorded below with ⟨tagged, accepted, entry⟩
    rcases places_of_history accepted with ⟨reading, result, field, places, content⟩
    have same : note = tagged.note := Option.some.inj (here.symm.trans entry)
    refine ⟨below, reading, result, field, places, ?_⟩
    rw [same, content]
    rfl
  · rintro ⟨below, reading, result, field, places, value⟩
    rcases exists_tagged_of_lt recorded below with ⟨tagged, accepted, entry⟩
    rcases places_of_history accepted with ⟨other, otherResult, otherField, elsewhere, content⟩
    rcases places_unique elsewhere places with ⟨sameReading, sameResult, sameField⟩
    rw [entry, content, value, sameReading, sameResult, sameField]
    rfl

end Environment

end Telemetry
end AirDump
