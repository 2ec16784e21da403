import IspDriver.Power.Rail
import IspDriver.Sensor.Model

/-! Power of the sensors, all of them or none. -/

namespace IspDriver

/-- The claimed supplies of one sensor. -/
structure SensorPower where
  label : String
  rails : List Rail
deriving DecidableEq, Repr

namespace SensorPower

open Routine

variable {σ S : Type}

/-- The supplies of a sensor model, asked for under the sensor's label. -/
def railsOf (label : String) (model : SensorModel) : List Rail :=
  model.supplies.map fun supply => ⟨label, supply.name, supply.settleMicroseconds⟩

def claim (label : String) (model : SensorModel) : Routine σ S SensorPower := do
  let rails := railsOf label model
  Rail.findAll (fun rail => s!"Failed to get supply {rail.name} for sensor {label}") rails
  return { label, rails }

def powerOn (sensor : SensorPower) : Routine σ S Unit :=
  Rail.enableAll sensor.label
    (fun rail => s!"Failed to enable supply {rail.name} for sensor {sensor.label}") sensor.rails

def powerOff (sensor : SensorPower) : Routine σ S Unit :=
  Rail.disableAll sensor.label sensor.rails

def powerOffEach : List SensorPower → Routine σ S Unit
  | [] => done ()
  | sensor :: rest => do
      powerOff sensor
      powerOffEach rest

/-- Powers the sensors on after those in `running`, which has the last one in front. On a failure
all that were running are powered off. -/
def powerOnAfter (running : List SensorPower) : List SensorPower → Routine σ S Unit
  | [] => done ()
  | sensor :: rest => do
      onError sensor.powerOn fun _ => powerOffEach running
      powerOnAfter (sensor :: running) rest

def powerOnAll (sensors : List SensorPower) : Routine σ S Unit :=
  powerOnAfter [] sensors

def powerOffAll (sensors : List SensorPower) : Routine σ S Unit :=
  powerOffEach sensors

end SensorPower

end IspDriver
