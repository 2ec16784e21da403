import IspDriver.Host
import IspDriver.Sensor.Model

/-!
Boards: which sensor model sits on which ports, and how many lanes lead to the host. What a board
comes to depends on the set of its ports, not on their order or number in the description.
-/

namespace IspDriver

/-- A board as it is described. -/
structure BoardConfig where
  /-- The sensors' compatible name; the pattern generator if there is none. -/
  model? : Option String
  sensors : List UInt32
  dataLanes : UInt32
deriving DecidableEq, Repr

structure Board where
  model : SensorModel
  /-- The populated ports, in order. -/
  ports : List UInt32
  dataLanes : UInt32
deriving DecidableEq, Repr

namespace Board

def allPorts : List UInt32 := [0, 1]

/-- How many pictures lie side by side at the source. -/
def widthFactor (board : Board) : UInt32 :=
  max 1 board.ports.length.toUInt32

/-- The ports among the entries of a description, each once and in order. -/
def portsAmong (entries : List UInt32) : List UInt32 :=
  allPorts.filter entries.contains

/-- The board of a description. -/
def ofConfig (config : BoardConfig) : Except Error Board :=
  if config.dataLanes < 1 ∨ 4 < config.dataLanes then
    .error (.invalidArgument (.dataLanes config.dataLanes))
  else
    match config.model? with
    | none => .ok ⟨.patternGenerator, [], config.dataLanes⟩
    | some compatible =>
        match SensorModel.ofCompatible compatible with
        | .error error => .error error
        | .ok model =>
            let ports := portsAmong config.sensors
            if ports.isEmpty then .error (.invalidArgument (.noSensor compatible))
            else .ok ⟨model, ports, config.dataLanes⟩

/-- A remark for every entry that adds no port; `taken` are the ports before it. -/
def entryRemarks (taken : List UInt32) : List UInt32 → List Note
  | [] => []
  | index :: rest =>
      if !allPorts.contains index then
        ⟨.warn, s!"Skipping sensor with invalid index {index}"⟩ :: entryRemarks taken rest
      else if taken.contains index then
        ⟨.warn, s!"Skipping duplicate sensor {index}"⟩ :: entryRemarks taken rest
      else
        entryRemarks (index :: taken) rest

/-- What is worth saying about a description. -/
def remarks (config : BoardConfig) : List Note :=
  if config.dataLanes < 1 ∨ 4 < config.dataLanes then
    []
  else
    match config.model? with
    | none =>
        (if config.sensors.isEmpty then []
          else [⟨.warn, s!"No sensor model, ignoring {config.sensors.length} sensor entries"⟩]) ++
          [⟨.debug, "No sensor model, using the test pattern generator"⟩]
    | some compatible =>
        match SensorModel.ofCompatible compatible with
        | .error _ => []
        | .ok _ => entryRemarks [] config.sensors

def noteAll {σ S : Type} : List Note → Routine σ S Unit
  | [] => Routine.done ()
  | remark :: rest => do
      Routine.note remark.level remark.text
      noteAll rest

/-- The board of a description, with remarks on it. -/
def accept {σ S : Type} (config : BoardConfig) : Routine σ S Board := do
  noteAll (remarks config)
  Routine.ofExcept (ofConfig config)

end Board

end IspDriver
