import IspDriver.Device.State
import IspDriver.Diagnostics.Status
import IspDriver.Sensor.Bridge

/-! Registers, sensors and diagnostics of a device. -/

namespace IspDriver.Device

open Routine

variable {σ : Type}

def readRegister (register : Register) : Operation σ UInt32 :=
  onRegisters (RegisterMap.read register)

def writeRegister (register : Register) (value : UInt32) : Operation σ Unit :=
  onRegisters (RegisterMap.write register value)

def readSensor (port : UInt32) (register : Register) : Operation σ UInt32 := do
  requireSensor port
  let address := (← state).board.model.address
  onRegisters (Bridge.readSensor port address register)

def writeSensor (port : UInt32) (register : Register) (value : UInt32) : Operation σ Unit := do
  requireSensor port
  let address := (← state).board.model.address
  onRegisters (Bridge.writeSensor port address register value)

/-- Chooses the sensor register that `readProbe` and `writeProbe` are about. -/
def setProbe (value : UInt32) : Operation σ ProbeAddress := do
  let address ← ofExcept (ProbeAddress.decode value)
  modify fun device => { device with probe? := some address }
  note .debug ("Debug probe address set to " ++ address.text)
  return address

def requireProbe : Operation σ ProbeAddress := do
  match (← state).probe? with
  | some address => return address
  | none => refuse .probeUnset

def readProbe : Operation σ UInt32 := do
  let address ← requireProbe
  readSensor address.port address.register

def writeProbe (value : UInt32) : Operation σ Unit := do
  let address ← requireProbe
  writeSensor address.port address.register value

def console : Operation σ (List String) :=
  onRegisters Diagnostics.readConsole

def status : Operation σ Diagnostics.StatusReport := do
  let ports := (← state).board.ports
  onRegisters (Diagnostics.readStatus ports)

def lanes (port : UInt32) : Operation σ Diagnostics.PortReport := do
  requireSensor port
  onRegisters (Diagnostics.samplePort port)

end IspDriver.Device
