import IspDriver.CommandLine.BoardFile
import IspDriver.CommandLine.ControlSetting
import IspDriver.CommandLine.Report
import IspDriver.CommandLine.Task
import IspDriver.Device.Access
import IspDriver.Device.Boot
import IspDriver.Text.Quoted

/-!
The command that brings a board up on a simulated bench, streams from it, and reports. Everything
that can be refused about the arguments is refused before anything is powered.
-/

namespace IspDriver.CommandLine

open Simulation Routine

structure Simulate where
  model : String := "onnn,ar0144"
  sensors : List UInt32 := [0]
  patternGenerator : Bool := false
  lanes : UInt32 := 4
  /-- A file that describes the board, in place of the arguments above. -/
  board? : Option String := none
  /-- Where firmware files are; without it, firmware is made up. -/
  firmwareFolder? : Option String := none
  /-- How many downloads report a wrong checksum. -/
  crcFailures : UInt32 := 0
  format : String := "UYVY8_1X16"
  size? : Option String := none
  controls : List String := []
  /-- Asks for reports until an interruption. A run ends with its first report all the same. -/
  follow : Bool := false
  /-- Milliseconds between reports. -/
  interval : Nat := 1000
deriving DecidableEq, Repr

namespace Simulate

def description (arguments : Simulate) : String :=
  "Args \x7b model: " ++ Text.quoted arguments.model ++
    ", sensors: " ++ Text.bracketed (arguments.sensors.map toString) ++
    ", tpg: " ++ toString arguments.patternGenerator ++
    ", lanes: " ++ toString arguments.lanes ++
    ", board: " ++ Text.quotedOption arguments.board? ++
    ", firmware_dir: " ++ Text.quotedOption arguments.firmwareFolder? ++
    ", crc_failures: " ++ toString arguments.crcFailures ++
    ", format: " ++ Text.quoted arguments.format ++
    ", size: " ++ Text.quotedOption arguments.size? ++
    ", controls: " ++ Text.bracketed (arguments.controls.map Text.quoted) ++
    ", follow: " ++ toString arguments.follow ++
    ", interval: " ++ toString arguments.interval ++ " \x7d"

def describedBoard (path : String) (content : Except FileFault (List UInt8)) :
    Except Failure BoardConfig :=
  match content with
  | .error fault => .error (.ofFileFault path fault)
  | .ok data =>
      match Text.decodeStrict? data with
      | none =>
          .error (.ofFileFault path (.unreadable "stream did not contain valid UTF-8"))
      | some text =>
          match BoardFile.parse? text with
          | some config => .ok config
          | none => .error (.invalidArguments ("Invalid board file " ++ path))

/-- The board that the arguments describe when no file does. -/
def config (arguments : Simulate) : BoardConfig :=
  if arguments.patternGenerator then ⟨none, [], arguments.lanes⟩
  else ⟨some arguments.model, arguments.sensors, arguments.lanes⟩

/-- The source format to ask for: the size given, or the sensors' pictures side by side. -/
def sourceFormat (arguments : Simulate) (board : Board) : Except Failure PadFormat :=
  match PixelCode.ofName? arguments.format with
  | none => .error (.invalidArguments ("Unknown media bus code: " ++ arguments.format))
  | some code =>
      match arguments.size? with
      | some text => do
          let size ← parseResolution text
          return ⟨code, size.width, size.height⟩
      | none =>
          let size := board.model.resolution
          .ok ⟨code, size.width * board.widthFactor, size.height⟩

structure Plan where
  config : BoardConfig
  firmware : String
  controls : List ControlSetting
  format : PadFormat
deriving DecidableEq, Repr

def plan (arguments : Simulate) (config : BoardConfig) : Except Failure Plan := do
  let board ← (Board.ofConfig config).mapError .ofError
  let firmware ← (Firmware.fileName board.model board.ports.length).mapError .ofError
  let controls ← arguments.controls.mapM ControlSetting.parse
  let format ← arguments.sourceFormat board
  return { config, firmware, controls, format }

/-- The sizes of made-up firmware and of its clock segment. -/
def madeUpSizes : Nat × Nat := (0x6000, 0x1000)

def madeUpFirmware : List UInt8 :=
  FirmwareImage.synthetic madeUpSizes.2 madeUpSizes.1

/-- A bench with the firmware and the checksum failures asked for. -/
def bench (crcFailures : UInt32) (files : String → Except Error (List UInt8)) : Bench :=
  { Bench.fresh with chip := Chip.fresh.failCrcs crcFailures, files }

def announceFailures {S : Type} (crcFailures : UInt32) : Routine Bench S Unit :=
  if crcFailures = 0 then done ()
  else note .info s!"Injecting {crcFailures} CRC failures"

def setControls : List ControlSetting → Operation Bench Unit
  | [] => done ()
  | setting :: rest => do
      let _ ← Device.setControl setting.id setting.value
      setControls rest

def readControls : List ControlSetting → Operation Bench (List (ControlId × Int32))
  | [] => return []
  | setting :: rest => do
      let value ← Device.control setting.id
      let more ← readControls rest
      return (setting.id, value) :: more

/-- Sets formats and controls, starts the stream, and reads what there is to report. -/
def startStream (plan : Plan) :
    Operation Bench (Diagnostics.StatusReport × List (ControlId × Int32)) := do
  let applied ← Device.setFormat .source plan.format
  if applied ≠ plan.format then
    note .info ("Requested " ++ plan.format.text ++ " adjusted to " ++ applied.text)
  setControls plan.controls
  Device.setStream true
  let status ← Device.status
  return (status, ← readControls plan.controls)

def report (plan : Plan) (device : Device) (bench : Bench) (status : Diagnostics.StatusReport)
    (controls : List (ControlId × Int32)) : Report where
  board := device.board
  firmware := plan.firmware
  revision? := device.revision?
  stage := device.stage
  format := device.formats.get .source
  controls := controls
  streaming := device.streaming
  status := status
  traffic := .ofBench bench

/-- The printout of a command that leaves a device behind, which is powered down. -/
def leave (output : String) (verdict : Verdict) (device : Device) (bench : Bench) : Printout :=
  let (_, _, bench) := Device.detach Bench.host device bench
  { output, verdict, notes := bench.notes.reverse }

/-- Streams from a device that came up. -/
def stream (plan : Plan) (asJson : Bool) (device : Device) (bench : Bench) : Printout :=
  match startStream plan Bench.host device bench with
  | (.done (status, controls), device, bench) =>
      let report := report plan device bench status controls
      let output := if asJson then report.json.lines else report.text
      let (outcome, device, bench) := Device.setStream false Bench.host device bench
      leave output (.ofOutcome outcome) device bench
  | (outcome, device, bench) => leave "" (.ofOutcome outcome) device bench

def wiring : Device.Wiring := ⟨true, true⟩

def bringUp (arguments : Simulate) (plan : Plan) (asJson : Bool)
    (files : String → Except Error (List UInt8)) : Printout :=
  let attach : Routine Bench Unit Device := do
    announceFailures arguments.crcFailures
    Device.attach wiring plan.config
  match attach Bench.host () (bench arguments.crcFailures files) with
  | (.done device, _, bench) => stream plan asJson device bench
  | (outcome, _, bench) => { verdict := .ofOutcome outcome, notes := bench.notes.reverse }

def filePath (folder name : String) : String :=
  if folder.endsWith "/" then folder ++ name else folder ++ "/" ++ name

def fetched (path : String) : Except FileFault (List UInt8) → Except Error (List UInt8)
  | .ok data => .ok data
  | .error .missing => .error (.notFound ("firmware " ++ path))
  | .error (.unreadable text) => .error (.transfer .other text)

/-- The command for a board. -/
def runBoard (arguments : Simulate) (asJson : Bool) (config : BoardConfig) : Task :=
  let remarks := Board.remarks config
  match arguments.plan config with
  | .error failure => .done { verdict := .failed failure, notes := remarks }
  | .ok plan =>
      let finish (content : Except Error (List UInt8)) : Task :=
        .done ((arguments.bringUp plan asJson fun _ => content).after remarks)
      match arguments.firmwareFolder? with
      | none => finish (.ok madeUpFirmware)
      | some folder =>
          let path := filePath folder plan.firmware
          .read path fun content => finish (fetched path content)

def run (arguments : Simulate) (asJson : Bool) : Task :=
  match arguments.board? with
  | none => arguments.runBoard asJson arguments.config
  | some path =>
      .read path fun content =>
        match describedBoard path content with
        | .ok config => arguments.runBoard asJson config
        | .error failure => .done { verdict := .failed failure }

end Simulate

end IspDriver.CommandLine
