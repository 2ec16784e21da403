import IspDriver.Firmware.Image
import IspDriver.Sensor.Model

/-! Which firmware file a board needs, and fetching it. -/

namespace IspDriver.Firmware

/-- A file name has fewer bytes than this. -/
def nameLimit : Nat := 64

/-- Firmware exists for no sensor, for one and for two. -/
def countSuffix? : Nat → Option String
  | 0 => some ""
  | 1 => some "_single"
  | 2 => some "_dual"
  | _ => none

def fileName (model : SensorModel) (sensors : Nat) : Except Error String :=
  match countSuffix? sensors with
  | none => .error (.invalidArgument (.sensorCount sensors))
  | some suffix =>
      let name := "ap130x_" ++ model.name ++ suffix ++ "_fw.bin"
      if name.utf8ByteSize < nameLimit then .ok name
      else .error (.invalidArgument (.firmwareName name))

def fetchImage {σ S : Type} (model : SensorModel) (sensors : Nat) : Routine σ S FirmwareImage := do
  let name ← Routine.ofExcept (fileName model sensors)
  Routine.note .debug ("Requesting firmware " ++ name)
  FirmwareImage.accept (← Host.fetch name)

end IspDriver.Firmware
