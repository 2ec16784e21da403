import IspDriver.CommandLine.Task
import IspDriver.Sensor.Model
import IspDriver.Text.Json

/-! The command that lists the sensors. -/

namespace IspDriver.CommandLine

open Text (Json alignLeft alignRight hex)

structure SensorTable where
  /-- Whether the pattern generator is listed too. -/
  withGenerator : Bool := false
deriving DecidableEq, Repr

namespace SensorTable

def description (arguments : SensorTable) : String :=
  "Args \x7b tpg: " ++ toString arguments.withGenerator ++ " \x7d"

def models (arguments : SensorTable) : List SensorModel :=
  SensorModel.all.filter fun model => arguments.withGenerator || !model.isPatternGenerator

def supplyJson (supply : Supply) : Json :=
  .object [
    ("name", .text supply.name),
    ("post_delay_us", .number supply.settleMicroseconds.toNat)]

def modelJson (model : SensorModel) : Json :=
  .object [
    ("model", .text model.compatible),
    ("name", .text model.name),
    ("i2c_addr", .number model.address.toNat),
    ("width", .number model.resolution.width.toNat),
    ("height", .number model.resolution.height.toNat),
    ("format", .text model.code.text),
    ("supplies", .list (model.supplies.map supplyJson))]

def supplyText (supply : Supply) : String :=
  if supply.settleMicroseconds = 0 then supply.name
  else s!"{supply.name} (+{supply.settleMicroseconds}us)"

def row (model name address resolution format supplies : String) : String :=
  alignLeft 14 model ++ " " ++ alignLeft 8 name ++ " " ++ alignRight 5 address ++ " " ++
    alignRight 11 resolution ++ "  " ++ alignLeft 14 format ++ " " ++ supplies ++ "\n"

private def orDash (text : String) : String :=
  if text.isEmpty then "-" else text

def modelRow (model : SensorModel) : String :=
  row (orDash model.compatible) model.name ("0x" ++ hex 2 model.address.toNat)
    model.resolution.text model.code.text
    (orDash (String.intercalate ", " (model.supplies.map supplyText)))

def run (arguments : SensorTable) (json : Bool) : Printout :=
  if json then
    { output := (Json.list (arguments.models.map modelJson)).lines }
  else
    { output :=
        row "Model" "Name" "Addr" "Resolution" "Format" "Supplies" ++
          String.join (arguments.models.map modelRow) }

end SensorTable

end IspDriver.CommandLine
