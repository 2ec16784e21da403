import IspDriver.Diagnostics.Console
import IspDriver.Diagnostics.Lanes
import IspDriver.Diagnostics.Warning

/-! The state of the processor in one report. -/

namespace IspDriver.Diagnostics

open Routine RegisterMap

variable {σ : Type}

/-- Frames counted at three places on their way through. -/
structure FrameCounters where
  input : UInt32
  output : UInt32
  memory : UInt32
deriving DecidableEq, Repr

structure StatusReport where
  console : List String
  error : UInt32
  errorFile : UInt32
  errorLine : UInt32
  /-- Errors of the two sensor ports. -/
  portErrors : UInt32 × UInt32
  warnings : WarningWords
  frames : FrameCounters
  ports : List PortReport
deriving DecidableEq, Repr

def noteWarnings : List String → Access σ Unit
  | [] => done ()
  | name :: rest => do
      note .info ("- WARN_" ++ name)
      noteWarnings rest

def samplePorts : List UInt32 → Access σ (List PortReport)
  | [] => return []
  | port :: rest => do
      let report ← samplePort port
      let more ← samplePorts rest
      return report :: more

/-- Reads and logs the state, then samples the lanes of the ports. -/
def readStatus (ports : List UInt32) : Access σ StatusReport := do
  let hex4 (value : UInt32) : String := "0x" ++ Text.hex 4 value.toNat
  let console ← readConsole
  let error ← read Layout.errorCode
  let errorFile ← read Layout.errorFile
  let errorLine ← read Layout.errorLine
  note .info ("ERROR: " ++ hex4 error ++ " (file 0x" ++ Text.hex 8 errorFile.toNat ++
    s!":{errorLine})")
  let port0 ← read Layout.portError0
  let port1 ← read Layout.portError1
  note .info ("SIPM_ERR [0] " ++ hex4 port0 ++ " [1] " ++ hex4 port1)
  let warning0 ← read (Layout.warning 0)
  let warning1 ← read (Layout.warning 1)
  let warning2 ← read (Layout.warning 2)
  let warning3 ← read (Layout.warning 3)
  let warnings : WarningWords :=
    (((Vector.singleton warning0).push warning1).push warning2).push warning3
  note .info ("WARNING [0] " ++ hex4 warning0 ++ " [1] " ++ hex4 warning1 ++ " [2] " ++
    hex4 warning2 ++ " [3] " ++ hex4 warning3)
  noteWarnings (warningsIn warnings)
  let counted ← read Layout.frameCount
  let captured ← read Layout.captureFrames
  let frames : FrameCounters := ⟨captured &&& 0xffff, counted >>> 8, counted &&& 0xff⟩
  note .info (s!"Frame counters: ICP {frames.input}, HINF {frames.output}, " ++
    s!"BRAC {frames.memory}")
  let reports ← samplePorts ports
  return {
    console, error, errorFile, errorLine, portErrors := (port0, port1), warnings, frames
    ports := reports }

end IspDriver.Diagnostics
