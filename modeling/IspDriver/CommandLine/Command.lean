import IspDriver.CommandLine.FirmwareName
import IspDriver.CommandLine.Inspect
import IspDriver.CommandLine.Parameters
import IspDriver.CommandLine.Probe
import IspDriver.CommandLine.SensorTable
import IspDriver.CommandLine.Simulate

/-!
The commands and their parameters. Parameters that every command has can stand ahead of its name or
after it; in each of the two places they can be given once.
-/

namespace IspDriver.CommandLine

/-- What holds for every command. -/
structure Globals where
  verbose : Bool := false
  quiet : Bool := false
  json : Bool := false
deriving DecidableEq, Repr

inductive Command where
  | sensors (arguments : SensorTable)
  | firmwareName (arguments : FirmwareName)
  | inspect (arguments : Inspect)
  | probe (arguments : Probe)
  | simulate (arguments : Simulate)
deriving DecidableEq, Repr

structure Invocation where
  globals : Globals
  command : Command
deriving DecidableEq, Repr

variable {A : Type}

/-- Settings of a command next to those that hold for every command. -/
abbrev Settings (A : Type) : Type :=
  Globals × A

private def globalSwitch (name : String) (letter? : Option Char) (change : Globals → Globals) :
    Parameter (Settings A) :=
  { name, letter?, effect := .switch fun (globals, arguments) => (change globals, arguments) }

def globalParameters : List (Parameter (Settings A)) :=
  [ globalSwitch "verbose" (some 'v') fun globals => { globals with verbose := true },
    globalSwitch "quiet" (some 'q') fun globals => { globals with quiet := true },
    globalSwitch "json" none fun globals => { globals with json := true },
    { name := "help", letter? := some 'h', effect := .stop .help },
    { name := "version", letter? := some 'V', effect := .stop .version } ]

private def switch (name : String) (change : A → A) : Parameter (Settings A) :=
  { name, effect := .switch fun (globals, arguments) => (globals, change arguments) }

private def onArguments {α : Type} (read? : String → Option α) (change : α → A → A)
    (text : String) (settings : Settings A) : Option (Settings A) :=
  (read? text).map fun value => (settings.1, change value settings.2)

private def valued {α : Type} (name : String) (letter? : Option Char) (read? : String → Option α)
    (change : α → A → A) : Parameter (Settings A) :=
  { name, letter?, effect := .value (onArguments read? change) }

private def repeated {α : Type} (name : String) (letter? : Option Char)
    (read? : String → Option α) (change : α → A → A) : Parameter (Settings A) :=
  { valued name letter? read? change with repeatable := true }

def sensorTableGrammar : Grammar (Settings SensorTable) where
  parameters := globalParameters ++
    [switch "tpg" fun arguments => { arguments with withGenerator := true }]

def firmwareNameGrammar : Grammar (Settings FirmwareName) where
  parameters := globalParameters ++ [
    valued "model" (some 'm') some fun name arguments => { arguments with model? := some name },
    valued "sensors" (some 's') sizeValue? fun sensors arguments => { arguments with sensors }]

def inspectGrammar : Grammar (Settings Inspect) where
  parameters := globalParameters ++
    [switch "verify" fun arguments => { arguments with verify := true }]
  place? := some ("file", onArguments pathValue? fun file arguments => { arguments with file })

def probeGrammar : Grammar (Settings Probe) where
  parameters := globalParameters ++ [
    valued "port" (some 'p') wordValue? fun port arguments => { arguments with port },
    valued "width" (some 'w') wordValue? fun width arguments => { arguments with width },
    valued "reg" (some 'r') some fun register arguments =>
      { arguments with register? := some register }]
  place? := some ("value", onArguments some fun value arguments =>
    { arguments with value? := some value })

def simulateGrammar : Grammar (Settings Simulate) where
  parameters := globalParameters ++ [
    valued "model" (some 'm') some fun model arguments => { arguments with model },
    repeated "sensors" (some 's') listValue? fun sensors arguments =>
      { arguments with sensors := arguments.sensors ++ sensors },
    switch "tpg" fun arguments => { arguments with patternGenerator := true },
    valued "lanes" none wordValue? fun lanes arguments => { arguments with lanes },
    valued "board" (some 'b') pathValue? fun path arguments =>
      { arguments with board? := some path },
    valued "firmware-dir" none pathValue? fun path arguments =>
      { arguments with firmwareFolder? := some path },
    valued "crc-failures" none wordValue? fun crcFailures arguments =>
      { arguments with crcFailures },
    valued "format" (some 'f') some fun format arguments => { arguments with format },
    valued "size" none some fun size arguments => { arguments with size? := some size },
    repeated "control" (some 'c') some fun control arguments =>
      { arguments with controls := arguments.controls ++ [control] },
    switch "follow" fun arguments => { arguments with follow := true },
    valued "interval" (some 'i') sizeValue? fun interval arguments =>
      { arguments with interval }]

/-- What the words after a command's name come to, when `fits` holds of the names given. -/
def readArguments (grammar : Grammar (Settings A)) (initial : A) (fits : List String → Bool)
    (globals : Globals) (words : List String) : Except Ending (Settings A) := do
  let reading ← grammar.read (globals, initial) words
  if fits reading.given then return reading.settings else .error .misuse

private def always (_ : List String) : Bool := true

/-- The ports are those given, or else the first one. -/
def readSimulate (globals : Globals) (words : List String) :
    Except Ending (Settings Simulate) := do
  let fits (given : List String) := !(given.contains "model" && given.contains "tpg")
  let (globals, arguments) ←
    readArguments simulateGrammar { sensors := [] } fits globals words
  return (globals, if arguments.sensors.isEmpty then { arguments with sensors := [0] }
    else arguments)

def commandNames : List String :=
  ["sensors", "fw-name", "inspect", "sipm-addr", "simulate"]

/-- What the words after `help` come to: nothing, or one thing that there is help on. -/
def helpOn : List String → Ending
  | [] => .help
  | [name] => if name = "help" ∨ name ∈ commandNames then .help else .misuse
  | _ => .misuse

def invocation (globals : Globals) (name : String) (words : List String) :
    Except Ending Invocation := do
  match name with
  | "sensors" =>
      let (globals, arguments) ← readArguments sensorTableGrammar {} always globals words
      return ⟨globals, .sensors arguments⟩
  | "fw-name" =>
      let (globals, arguments) ← readArguments firmwareNameGrammar {} always globals words
      return ⟨globals, .firmwareName arguments⟩
  | "inspect" =>
      let fits (given : List String) := given.contains "file"
      let (globals, arguments) ← readArguments inspectGrammar {} fits globals words
      return ⟨globals, .inspect arguments⟩
  | "sipm-addr" =>
      let fits (given : List String) :=
        !given.contains "value" || !(["port", "width", "reg"].any given.contains)
      let (globals, arguments) ← readArguments probeGrammar {} fits globals words
      return ⟨globals, .probe arguments⟩
  | "simulate" =>
      let (globals, arguments) ← readSimulate globals words
      return ⟨globals, .simulate arguments⟩
  | "help" => .error (helpOn words)
  | _ => .error .misuse

/-- What a command line asks for. -/
def parse (words : List String) : Except Ending Invocation := do
  let grammar : Grammar (Settings Unit) := { parameters := globalParameters }
  let (reading, name, rest) ← grammar.readUntilPlain words { settings := ({}, ()) }
  invocation reading.settings.1 name rest

namespace Command

def name : Command → String
  | sensors _ => "sensors"
  | firmwareName _ => "fw-name"
  | inspect _ => "inspect"
  | probe _ => "sipm-addr"
  | simulate _ => "simulate"

def description : Command → String
  | sensors arguments => arguments.description
  | firmwareName arguments => arguments.description
  | inspect arguments => arguments.description
  | probe arguments => arguments.description
  | simulate arguments => arguments.description

def task (json : Bool) : Command → Task
  | sensors arguments => .done (arguments.run json)
  | firmwareName arguments => .done (arguments.run json)
  | inspect arguments => arguments.run json
  | probe arguments => .done (arguments.run json)
  | simulate arguments => arguments.run json

end Command

def Invocation.task (invocation : Invocation) : Task :=
  (invocation.command.task invocation.globals.json).noting .debug
    ("Executing " ++ invocation.command.name ++ " command: " ++ invocation.command.description)

end IspDriver.CommandLine
