import AirDump.Foundation.Hundredths
import AirDump.Telemetry.EndToEnd
import AirDump.Telemetry.Trace

namespace AirDump
namespace Telemetry

open Foundation

/-!
# The console of the device against the list of the receiver

The device prints every reading with two places after the point, and sends it
as two bytes.  Someone who compares the two screens reads the whole number
behind every colon on the console, and finds it in the list of the receiver.

The numbers are the same, in every interleaving, exactly when the readings are
in the range of a byte and printing does not round them up to the next whole
number.  The condition is that of `EndToEnd` and one more: the console rounds
where the cast truncates.
-/

/-! ## The text on the console -/

/-- The output of `printf` for a format whose only conversions are `%.2f` with
a width of one digit. -/
def printfText : List Char -> List Float32 -> List Char
  | '%' :: width :: '.' :: '2' :: 'f' :: format, value :: values =>
      SingleFloat.formatted (Nat.ofDigitChars 10 [width] 0) value ++ printfText format values
  | character :: format, values => character :: printfText format values
  | [], _ => []

/-- What an action puts on the console. -/
def Action.text : Action -> List Char
  | .println text => text.toList ++ ['\r', '\n']
  | .printf format humidade temperatura => printfText format.toList [humidade, temperatura]
  | _ => []

/-- Everything on the console after some actions. -/
def screen (actions : List Action) : List Char :=
  actions.flatMap Action.text

/-- The whole number behind every colon. -/
def readScreen : List Char -> List Int
  | [] => []
  | ':' :: rest => SingleFloat.readWhole rest :: readScreen rest
  | _ :: rest => readScreen rest

/-- Both values are in the range of a byte, and are printed with their own
whole part. -/
def SensorResult.Plain (result : SensorResult) : Prop :=
  (SingleFloat.FitsByte result.humidade ∧ SingleFloat.KeepsWhole result.humidade) ∧
    (SingleFloat.FitsByte result.temperatura ∧ SingleFloat.KeepsWhole result.temperatura)

/-! ## Reading the console part by part -/

/-- No number of this text goes on in the text that follows. -/
def Complete (text : List Char) : Prop :=
  forall rest, readScreen (text ++ rest) = readScreen text ++ readScreen rest

theorem complete_append {first second : List Char} (before : Complete first)
    (after : Complete second) : Complete (first ++ second) := by
  intro rest
  rw [List.append_assoc, before, after, before, List.append_assoc]

theorem readScreen_cons_of_ne {first : Char} (plain : ':' ≠ first) (later : List Char) :
    readScreen (first :: later) = readScreen later := by
  conv_lhs => unfold readScreen
  split
  · rename_i impossible
    cases impossible
  · rename_i same
    exact absurd (List.cons.inj same).1.symm plain
  · rename_i same
    rw [(List.cons.inj same).2]

theorem readScreen_of_no_colon {text : List Char} (plain : ':' ∉ text) (rest : List Char) :
    readScreen (text ++ rest) = readScreen rest := by
  induction text with
  | nil => rfl
  | cons first later inductionHypothesis =>
      have parts := not_or.mp (mt List.mem_cons.mpr plain)
      rw [List.cons_append, readScreen_cons_of_ne parts.1]
      exact inductionHypothesis parts.2

theorem complete_of_no_colon {text : List Char} (plain : ':' ∉ text) : Complete text := by
  intro rest
  have alone := readScreen_of_no_colon plain []
  rw [List.append_nil] at alone
  rw [readScreen_of_no_colon plain, alone]
  rfl

/-- The text of the source's format. -/
theorem printfText_reading (humidade temperatura : Float32) :
    printfText "Humidade: %4.2f\nTemperatura: %7.2f\n\n".toList [humidade, temperatura] =
      "Humidade".toList ++ ':' :: ' ' :: (SingleFloat.formatted 4 humidade ++
        ("\nTemperatura".toList ++ ':' :: ' ' :: (SingleFloat.formatted 7 temperatura ++
          ['\n', '\n']))) :=
  rfl

theorem readWhole_space (text : List Char) :
    SingleFloat.readWhole (' ' :: text) = SingleFloat.readWhole text :=
  rfl

/-- The two numbers of a reading are found on the console, whatever follows. -/
theorem readScreen_reading {humidade temperatura : Float32}
    (humidade_finite : humidade.isFinite = true)
    (temperatura_finite : temperatura.isFinite = true) (rest : List Char) :
    readScreen (printfText "Humidade: %4.2f\nTemperatura: %7.2f\n\n".toList
        [humidade, temperatura] ++ rest) =
      SingleFloat.readWhole (SingleFloat.formatted 4 humidade) ::
        SingleFloat.readWhole (SingleFloat.formatted 7 temperatura) :: readScreen rest := by
  have first := SingleFloat.colon_not_mem_formatted 4 humidade_finite
  have second := SingleFloat.colon_not_mem_formatted 7 temperatura_finite
  rw [printfText_reading]
  simp only [List.append_assoc, List.cons_append]
  have skip : forall text : List Char, readScreen (' ' :: text) = readScreen text :=
    fun _ => rfl
  rw [readScreen_of_no_colon (by decide), readScreen, readWhole_space,
    SingleFloat.readWhole_formatted_append 4 humidade_finite, skip,
    readScreen_of_no_colon first, readScreen_of_no_colon (by decide), readScreen,
    readWhole_space, SingleFloat.readWhole_formatted_append 7 temperatura_finite, skip,
    readScreen_of_no_colon second]
  rfl

/-! ## The console of the firmware -/

/-- The whole numbers that an iteration with this reading shows. -/
def SensorResult.wholes (result : SensorResult) : List Int :=
  [SingleFloat.readWhole (SingleFloat.formatted 4 result.humidade),
    SingleFloat.readWhole (SingleFloat.formatted 7 result.temperatura)]

theorem screen_append (first second : List Action) :
    screen (first ++ second) = screen first ++ screen second :=
  List.flatMap_append

/-- An iteration shows the numbers of a valid reading, and none of another
one. -/
theorem readScreen_loop (undefinedByte : Field -> UInt8) (result : SensorResult)
    (rest : List Char) :
    readScreen (screen (loop undefinedByte result.humidade result.temperatura) ++ rest) =
      (if result.Valid then result.wholes else []) ++ readScreen rest := by
  by_cases valid : result.Valid
  · have shown := readScreen_reading
      (SingleFloat.isFinite_of_not _ valid.1 result.humidade_not_infinite)
      (SingleFloat.isFinite_of_not _ valid.2 result.temperatura_not_infinite) rest
    have text : screen (loop undefinedByte result.humidade result.temperatura) =
        printfText "Humidade: %4.2f\nTemperatura: %7.2f\n\n".toList
          [result.humidade, result.temperatura] := by
      rw [loop_of_valid _ valid]
      exact List.append_nil _
    rw [text, if_pos valid]
    exact shown
  · rw [loop_of_not_valid _ valid, if_neg valid, readScreen_of_no_colon (by decide)]
    rfl

theorem complete_loop (undefinedByte : Field -> UInt8) (result : SensorResult) :
    Complete (screen (loop undefinedByte result.humidade result.temperatura)) := by
  intro rest
  have alone := readScreen_loop undefinedByte result []
  rw [List.append_nil] at alone
  rw [readScreen_loop, alone, List.append_assoc]
  rfl

theorem complete_performed (environment : Environment) (count : Nat) :
    Complete (screen (environment.performed count)) := by
  apply environment.performed_induction (fun actions => Complete (screen actions))
  · exact complete_of_no_colon (by decide)
  · intro actions reading result before _
    rw [screen_append]
    exact complete_append before (complete_loop _ result)

/-- The two bytes of a valid reading are the whole numbers on the console
exactly when it is plain. -/
theorem bytes_eq_wholes_iff {result : SensorResult} (valid : result.Valid)
    (undefinedByte : Field -> UInt8) :
    [((result.byte undefinedByte .humidade).toNat : Int),
        ((result.byte undefinedByte .temperatura).toNat : Int)] = result.wholes ↔
      result.Plain := by
  have humidade := SingleFloat.readWhole_eq_byte_iff (undefinedByte .humidade) 4
    (SingleFloat.isFinite_of_not _ valid.1 result.humidade_not_infinite)
  have temperatura := SingleFloat.readWhole_eq_byte_iff (undefinedByte .temperatura) 7
    (SingleFloat.isFinite_of_not _ valid.2 result.temperatura_not_infinite)
  simp only [SensorResult.wholes, SensorResult.byte, SensorResult.value, SensorResult.Plain,
    List.cons.injEq, and_true, humidade, temperatura]

section

variable (sensor : Stream'.Seq SensorResult) (undefinedByte : Nat -> Field -> UInt8)

/-- The console shows the whole numbers of the readings, one after the other. -/
theorem readScreen_performed (count : Nat) :
    readScreen (screen ((completeWrites sensor undefinedByte).performed count)) =
      Blocks.joined (contributed sensor SensorResult.wholes) count := by
  induction count with
  | zero => rfl
  | succ count inductionHypothesis =>
      rw [Blocks.joined_succ, ← inductionHypothesis]
      cases given : sensor.get? count with
      | none =>
          have same : (completeWrites sensor undefinedByte).performed (count + 1) =
              (completeWrites sensor undefinedByte).performed count :=
            Environment.performed_of_none given
          rw [same, contributed_of_none _ given, List.append_nil]
      | some result =>
          have shown := readScreen_loop (undefinedByte count) result []
          rw [List.append_nil, readScreen, List.append_nil] at shown
          rw [Environment.performed_succ _ given, screen_append, complete_performed,
            contributed_of_some _ given]
          exact congrArg (_ ++ ·) shown

/-- The bytes of the first iterations are as many as the numbers that the
console shows, and the same ones exactly when all valid readings among them are
plain. -/
theorem frames_eq_wholes_iff (count : Nat) :
    (((completeWrites sensor undefinedByte).frames count).map TaggedByte.note).length =
        (readScreen (screen ((completeWrites sensor undefinedByte).performed count))).length ∧
      (((completeWrites sensor undefinedByte).frames count).map TaggedByte.note =
          readScreen (screen ((completeWrites sensor undefinedByte).performed count)) ↔
        forall reading, reading < count -> forall result,
          sensor.get? reading = some result -> result.Valid -> result.Plain) := by
  rw [readScreen_performed]
  exact frames_eq_joined_iff sensor undefinedByte (fun _ => rfl)
    (fun _ valid => bytes_eq_wholes_iff valid) count

end

/-! ## Every interleaving -/

/-- In every interleaving the list shows the whole numbers that are on the
console, in the same order, exactly when both values of every valid reading
are in the range of a byte and are not rounded up by the console. -/
theorem console_wholes_iff (sensor : Stream'.Seq SensorResult)
    (undefinedByte : Nat -> Field -> UInt8) :
    (forall schedule,
      ((completeWrites sensor undefinedByte).machine.run schedule).receiver.listaa <+:
        readScreen (screen
          ((completeWrites sensor undefinedByte).machine.run schedule).actions)) ↔
      forall reading result, sensor.get? reading = some result -> result.Valid ->
        result.Plain := by
  constructor
  · intro always reading result given valid
    rcases (completeWrites sensor undefinedByte).exists_delivered given with
      ⟨schedule, iteration, delivered⟩
    have within := always schedule
    rw [Environment.actions_eq_performed, iteration, delivered] at within
    have exactly := frames_eq_wholes_iff sensor undefinedByte (reading + 1)
    exact exactly.2.mp (within.eq_of_length exactly.1) reading (Nat.lt_succ_self reading) result
      given valid
  · intro plain schedule
    rw [Environment.actions_eq_performed,
      ← (frames_eq_wholes_iff sensor undefinedByte _).2.mpr (fun reading _ => plain reading)]
    exact (completeWrites sensor undefinedByte).listaa_prefix_frames schedule

end Telemetry
end AirDump
