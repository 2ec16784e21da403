import IspDriver.CommandLine.Task
import IspDriver.Firmware.Fetch
import IspDriver.Text.Json
import IspDriver.Text.Quoted

/-! The command that names the firmware file of a board. -/

namespace IspDriver.CommandLine

open Text (Json)

structure FirmwareName where
  /-- The sensors' compatible name; the pattern generator if there is none. -/
  model? : Option String := none
  sensors : Nat := 1
deriving DecidableEq, Repr

namespace FirmwareName

def description (arguments : FirmwareName) : String :=
  "Args \x7b model: " ++ Text.quotedOption arguments.model? ++
    s!", sensors: {arguments.sensors} \x7d"

/-- The model and the number of sensors that count. -/
def subject (arguments : FirmwareName) : Except Error (SensorModel × Nat) :=
  match arguments.model? with
  | none => .ok (.patternGenerator, 0)
  | some compatible => (·, arguments.sensors) <$> SensorModel.ofCompatible compatible

def text (arguments : FirmwareName) (json : Bool) : Except Error String := do
  let (model, sensors) ← arguments.subject
  let name ← Firmware.fileName model sensors
  if json then
    return (Json.object [
      ("sensor", .text model.name), ("sensors", .number sensors), ("name", .text name)]).lines
  else
    return name ++ "\n"

def run (arguments : FirmwareName) (json : Bool) : Printout :=
  .ofExcept ((arguments.text json).mapError .ofError)

end FirmwareName

end IspDriver.CommandLine
