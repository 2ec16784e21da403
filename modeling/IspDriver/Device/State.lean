import IspDriver.Board
import IspDriver.Control.Apply
import IspDriver.Firmware.Download
import IspDriver.Format.Negotiation
import IspDriver.Power.Isp
import IspDriver.Power.Sensors
import IspDriver.Register.Map
import IspDriver.Sensor.Probe

/-! The state of a driver for one image processor. -/

namespace IspDriver

/-- The revision of a chip, in one word. -/
structure ChipRevision where
  word : UInt16
deriving DecidableEq, Repr

namespace ChipRevision

def major (revision : ChipRevision) : UInt16 :=
  (revision.word &&& 0xf000) >>> 12

def minor (revision : ChipRevision) : UInt16 :=
  (revision.word &&& 0x0f00) >>> 8

def patch (revision : ChipRevision) : UInt16 :=
  revision.word &&& 0x00ff

def text (revision : ChipRevision) : String :=
  s!"{revision.major}.{revision.minor}.{revision.patch}"

end ChipRevision

/-- A sensor on one of the ports. -/
structure PortSensor where
  port : UInt32
  power : SensorPower
deriving DecidableEq, Repr

structure Device where
  board : Board
  registers : RegisterMap
  power : IspPower
  /-- In the order of their ports. -/
  sensors : List PortSensor
  formats : Formats
  controls : Controls
  streaming : Bool
  stage : BootStage
  revision? : Option ChipRevision
  /-- The sensor register chosen for debugging. -/
  probe? : Option ProbeAddress

/-- A routine on a device. -/
abbrev Operation (σ α : Type) : Type :=
  Routine σ Device α

namespace Device

open Routine

variable {σ α : Type}

def registersPart : Part Device RegisterMap where
  get device := device.registers
  put registers device := { device with registers }

def powerPart : Part Device IspPower where
  get device := device.power
  put power device := { device with power }

def onRegisters (access : Access σ α) : Operation σ α :=
  registersPart.act access

def onPower (routine : Routine σ IspPower α) : Operation σ α :=
  powerPart.act routine

def setStage (stage : BootStage) : Operation σ Unit := do
  let device ← state
  note .debug ("Boot stage " ++ device.stage.text ++ " -> " ++ stage.text)
  modify fun device => { device with stage }

def sensorPowers (device : Device) : List SensorPower :=
  device.sensors.map (·.power)

def powerOnSensors : Operation σ Unit := do
  SensorPower.powerOnAll (← state).sensorPowers

def powerOffSensors : Operation σ Unit := do
  SensorPower.powerOffAll (← state).sensorPowers

def powerOffAll : Operation σ Unit := do
  onPower IspPower.powerOff
  powerOffSensors

/-- Refuses a port without a sensor. -/
def requireSensor (port : UInt32) : Operation σ Unit := do
  if (← state).sensors.any (·.port == port) then done ()
  else refuse (.vacantPort port)

/-- The sensors, in the order of their ports. -/
def sensorViews (device : Device) : List SensorView :=
  device.sensors.map fun sensor => ⟨sensor.port, sensor.power.label, device.board.model⟩

end Device

end IspDriver
