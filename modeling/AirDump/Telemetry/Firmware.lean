import AirDump.Foundation.SingleFloat

namespace AirDump
namespace Telemetry

open Foundation

/-!
# The firmware of the measuring device

This is `test.cpp`.  A function of the firmware is the list of the actions
that it asks of the peripherals, in order: the sensor, the serial console, the
Bluetooth serial port and the clock.  The count that `SerialBT.write` returns
is read nowhere in the source, so no action depends on it.

The sensor driver is not part of the program.  What its two calls return is an
argument of one iteration of `loop`, and so is the byte that a cast outside its
range happens to produce.
-/

/-- The two values of one reading, in the order in which they are sent. -/
inductive Field where
  | humidade
  | temperatura
deriving DecidableEq

/-- One call on a peripheral. -/
inductive Action where
  | dhtBegin
  | serialBegin (baud : Nat)
  | bluetoothBegin (name : String)
  | readHumidity
  | readTemperature
  | println (text : String)
  | printf (format : String) (humidade temperatura : Float32)
  | write (dados : List UInt8) (size : Nat)
  | delay (milliseconds : Nat)
deriving DecidableEq

def enviarDadosBluetooth (undefinedByte : Field -> UInt8) (humidade temperatura : Float32) :
    List Action :=
  let humidadeInt := SingleFloat.staticCastUInt8 (undefinedByte .humidade) humidade
  let temperaturaInt := SingleFloat.staticCastUInt8 (undefinedByte .temperatura) temperatura
  let dados := [humidadeInt, temperaturaInt]
  [.write dados 2]

def setup : List Action :=
  [.dhtBegin, .serialBegin 115200, .bluetoothBegin "esp32bt", .println "Started!"]

/-- One iteration of `loop`, given what the two calls on the sensor return. -/
def loop (undefinedByte : Field -> UInt8) (humidade temperatura : Float32) : List Action :=
  [.readHumidity, .readTemperature] ++
    if humidade.isNaN || temperatura.isNaN then
      [.println "Falha na leitura do sensor DHT"]
    else
      [.printf "Humidade: %4.2f\nTemperatura: %7.2f\n\n" humidade temperatura] ++
        enviarDadosBluetooth undefinedByte humidade temperatura ++ [.delay 5000]

/-! ## Readings -/

/-- What the driver returns in one iteration: not-a-number or a finite number
for each of the two values. -/
structure SensorResult where
  humidade : Float32
  temperatura : Float32
  humidade_not_infinite : humidade.isInf = false
  temperatura_not_infinite : temperatura.isInf = false

namespace SensorResult

/-- Neither value is not-a-number, which is all that `loop` asks. -/
def Valid (result : SensorResult) : Prop :=
  result.humidade.isNaN = false ∧ result.temperatura.isNaN = false

instance (result : SensorResult) : Decidable result.Valid :=
  inferInstanceAs (Decidable (_ ∧ _))

def value (result : SensorResult) : Field -> Float32
  | .humidade => result.humidade
  | .temperatura => result.temperatura

/-- The byte that stands for one value of the reading on the wire. -/
def byte (result : SensorResult) (undefinedByte : Field -> UInt8) (field : Field) : UInt8 :=
  SingleFloat.staticCastUInt8 (undefinedByte field) (result.value field)

/-- Both values, in the order in which they are sent, without their parts
after the binary point. -/
def truncated (result : SensorResult) : List Int :=
  [SingleFloat.truncate result.humidade, SingleFloat.truncate result.temperatura]

/-- Both values have a truncation that one byte can represent. -/
def Fits (result : SensorResult) : Prop :=
  SingleFloat.FitsByte result.humidade ∧ SingleFloat.FitsByte result.temperatura

instance (result : SensorResult) : Decidable result.Fits :=
  inferInstanceAs (Decidable (_ ∧ _))

/-- The two bytes are the two truncations exactly when both values fit. -/
theorem bytes_eq_truncated_iff {result : SensorResult} (valid : result.Valid)
    (undefinedByte : Field -> UInt8) :
    [((result.byte undefinedByte .humidade).toNat : Int),
        ((result.byte undefinedByte .temperatura).toNat : Int)] = result.truncated ↔
      result.Fits := by
  have humidade := SingleFloat.toNat_staticCastUInt8_eq_iff (undefinedByte .humidade)
    result.humidade
    (SingleFloat.isFinite_of_not _ valid.1 result.humidade_not_infinite)
  have temperatura := SingleFloat.toNat_staticCastUInt8_eq_iff (undefinedByte .temperatura)
    result.temperatura
    (SingleFloat.isFinite_of_not _ valid.2 result.temperatura_not_infinite)
  simp only [truncated, byte, value, Fits, List.cons.injEq, and_true, humidade, temperatura]

end SensorResult

/-! ## One iteration, by its branch -/

theorem loop_of_valid (undefinedByte : Field -> UInt8) {result : SensorResult}
    (valid : result.Valid) :
    loop undefinedByte result.humidade result.temperatura =
      [.readHumidity, .readTemperature,
        .printf "Humidade: %4.2f\nTemperatura: %7.2f\n\n" result.humidade result.temperatura,
        .write [result.byte undefinedByte .humidade, result.byte undefinedByte .temperatura] 2,
        .delay 5000] := by
  rw [loop, if_neg (Bool.eq_false_iff.mp (Bool.or_eq_false_iff.mpr valid))]
  rfl

theorem loop_of_not_valid (undefinedByte : Field -> UInt8) {result : SensorResult}
    (invalid : ¬ result.Valid) :
    loop undefinedByte result.humidade result.temperatura =
      [.readHumidity, .readTemperature, .println "Falha na leitura do sensor DHT"] := by
  have failed : (result.humidade.isNaN || result.temperatura.isNaN) = true := by
    apply Bool.ne_false_iff.mp
    intro both
    exact invalid (Bool.or_eq_false_iff.mp both)
  rw [loop, if_pos failed]
  rfl

/-! ## What an iteration puts on the wire -/

/-- The bytes that the Bluetooth port takes from some actions, when it accepts
this many of the leading bytes of each buffer. -/
def transmitted (accepts : Nat) (actions : List Action) : List UInt8 :=
  actions.flatMap (fun action =>
    match action with
    | .write dados size => (dados.take size).take accepts
    | _ => [])

theorem transmitted_append (accepts : Nat) (earlier later : List Action) :
    transmitted accepts (earlier ++ later) =
      transmitted accepts earlier ++ transmitted accepts later :=
  List.flatMap_append

theorem transmitted_zero (actions : List Action) : transmitted 0 actions = [] := by
  apply List.flatMap_eq_nil_iff.mpr
  intro action _
  cases action <;> rfl

/-- A reading that is not a number puts nothing on the wire. -/
theorem transmitted_of_not_valid (accepts : Nat) (undefinedByte : Field -> UInt8)
    {result : SensorResult} (invalid : ¬ result.Valid) :
    transmitted accepts (loop undefinedByte result.humidade result.temperatura) = [] := by
  rw [loop_of_not_valid undefinedByte invalid]
  rfl

/-- A valid reading puts as much of its two bytes on the wire as the port
accepts. -/
theorem transmitted_of_valid (accepts : Nat) (undefinedByte : Field -> UInt8)
    {result : SensorResult} (valid : result.Valid) :
    transmitted accepts (loop undefinedByte result.humidade result.temperatura) =
      [result.byte undefinedByte .humidade, result.byte undefinedByte .temperatura].take
        accepts := by
  rw [loop_of_valid undefinedByte valid]
  exact List.append_nil _

end Telemetry
end AirDump
