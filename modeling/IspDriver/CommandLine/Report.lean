import IspDriver.Device.State
import IspDriver.Diagnostics.Status
import IspDriver.Simulation.Bench
import IspDriver.Text.Json

/-! What a simulated bring-up came to, as text and as JSON. -/

namespace IspDriver.CommandLine

open Diagnostics
open Text (Json hex)

/-- What went over the bus, and how long was waited. -/
structure Traffic where
  writes : Nat
  pageSelects : Nat
  waitedMicroseconds : Nat
deriving DecidableEq, Repr

def Traffic.ofBench (bench : Simulation.Bench) : Traffic :=
  ⟨bench.chip.writes.length, bench.chip.pageSelects, bench.totalWait⟩

structure Report where
  board : Board
  firmware : String
  revision? : Option ChipRevision
  stage : BootStage
  format : PadFormat
  controls : List (ControlId × Int32)
  streaming : Bool
  status : StatusReport
  traffic : Traffic

namespace Report

private def word (value : UInt32) : Json :=
  .number value.toNat

private def texts (items : List String) : Json :=
  .list (items.map .text)

def portJson (report : PortReport) : Json :=
  .object [
    ("port", word report.port),
    ("samples", .number report.samples),
    ("lanes", texts (report.lanes.map (·.text)))]

def statusJson (status : StatusReport) : Json :=
  .object [
    ("console", texts status.console),
    ("error", word status.error),
    ("err_file", word status.errorFile),
    ("err_line", word status.errorLine),
    ("sipm_errors", .list [word status.portErrors.1, word status.portErrors.2]),
    ("warnings", texts (warningsIn status.warnings)),
    ("frames", .object [
      ("icp", word status.frames.input),
      ("hinf", word status.frames.output),
      ("brac", word status.frames.memory)]),
    ("lanes", .list (status.ports.map portJson))]

def json (report : Report) : Json :=
  .object [
    ("sensor", .text report.board.model.name),
    ("ports", .list (report.board.ports.map word)),
    ("data_lanes", word report.board.dataLanes),
    ("firmware", .text report.firmware),
    ("chip_revision", match report.revision? with
      | some revision => .text revision.text
      | none => .null),
    ("boot_stage", .text report.stage.text),
    ("format", .object [
      ("code", .text report.format.code.text),
      ("width", word report.format.width),
      ("height", word report.format.height)]),
    ("controls", .list (report.controls.map fun (id, value) =>
      .object [("name", .text id.spec.title), ("value", .number value.toInt)])),
    ("streaming", .bool report.streaming),
    ("status", statusJson report.status),
    ("bus", .object [
      ("writes", .number report.traffic.writes),
      ("page_selects", .number report.traffic.pageSelects),
      ("delay_us", .number report.traffic.waitedMicroseconds)])]

def portLines (report : PortReport) : List String :=
  s!"Port {report.port} ({report.samples} samples):" ::
    report.lanes.map fun lane => "  " ++ lane.text

def lines (report : Report) : List String :=
  let status := report.status
  let ports := String.intercalate ", " (report.board.ports.map toString)
  let revision := (report.revision?.map ChipRevision.text).getD "unknown"
  let warnings := warningsIn status.warnings
  [ "AP130X Simulation",
    "=================",
    s!"Board:    {report.board.model.name} on port(s) [{ports}], {report.board.dataLanes} lane(s)",
    "Firmware: " ++ report.firmware,
    s!"Chip:     rev {revision} ({report.stage.text})",
    s!"Format:   {report.format.code.text} {report.format.width}x{report.format.height}" ] ++
  report.controls.map (fun (id, value) => s!"Control:  {id.spec.title} = {value}") ++
  [ "Stream:   " ++ (if report.streaming then "running" else "stopped"),
    s!"Status:   error {status.error} at 0x" ++ hex 8 status.errorFile.toNat ++
      s!":{status.errorLine}, frames icp {status.frames.input} hinf {status.frames.output} " ++
      s!"brac {status.frames.memory}" ] ++
  (if warnings.isEmpty then [] else ["Warnings: " ++ String.intercalate ", " warnings]) ++
  status.ports.flatMap portLines ++
  [ s!"Bus:      {report.traffic.writes} writes, {report.traffic.pageSelects} page selects, " ++
      s!"{report.traffic.waitedMicroseconds} us waited",
    "" ]

def text (report : Report) : String :=
  String.join (report.lines.map (· ++ "\n"))

end Report

end IspDriver.CommandLine
