import IspDriver.Device.State

/-!
Streaming, and the formats and controls that a stream runs with. The flag that tells whether a
stream runs changes only when everything needed for the change has succeeded.
-/

namespace IspDriver.Device

open Routine

variable {σ : Type}

def stallMilliseconds : UInt32 := 200

/-- Stops the engine and lets the sensor ports report. -/
def stall : Operation σ Unit := do
  onRegisters (RegisterMap.writeAll [
    (Layout.systemStart, Layout.SystemStart.stallPrepared),
    (Layout.systemStart, Layout.SystemStart.stalled)])
  Host.wait (Host.millisecondsToWait stallMilliseconds)
  onRegisters (RegisterMap.write Layout.interruptEnable
    (Layout.Interrupt.sensorPorts ||| Layout.Interrupt.fifoWrite))

def unstall : Operation σ Unit :=
  onRegisters (RegisterMap.write Layout.systemStart Layout.SystemStart.running)

/-- Programs the source format and every control. -/
def configure : Operation σ Unit := do
  let device ← state
  let source := device.formats.source
  onRegisters (RegisterMap.writeAll [
    (Layout.previewInterface,
      Layout.HostInterface.spoof ||| Layout.HostInterface.lanes device.board.dataLanes),
    (Layout.previewWidth, source.width / device.formats.widthFactor),
    (Layout.previewHeight, source.height),
    (Layout.previewFormat, device.formats.encoding)])
  onRegisters device.controls.applyAll

/-- Starts or stops the stream; asking for the state it is in does nothing. -/
def setStream (enable : Bool) : Operation σ Unit := do
  if (← state).streaming = enable then
    done ()
  else
    onError
      (if enable then do
        configure
        unstall
      else
        stall)
      fun error =>
        note .error ("Failed to " ++ (if enable then "start" else "stop") ++ " stream: " ++
          error.message)
    modify fun device => { device with streaming := enable }
    note .info ("Stream " ++ (if enable then "started" else "stopped"))

/-- What a request for a format would come to. -/
def tryFormat (pad : Pad) (requested : PadFormat) : Operation σ PadFormat := do
  match (← state).formats.negotiate? pad requested with
  | some format => return format
  | none => abandon

/-- Takes a format on; a new source format shows when the next stream starts. -/
def setFormat (pad : Pad) (requested : PadFormat) : Operation σ PadFormat := do
  match (← state).formats.set? pad requested with
  | some (format, formats) => do
      modify fun device => { device with formats }
      note .debug (pad.name ++ " format set to " ++ format.text)
      return format
  | none => abandon

def selection (device : Device) (pad : Pad) (target : SelectionTarget) : Except Error Rectangle :=
  if pad.isSink then .error (.invalidArgument (.selectionPad pad))
  else .ok (device.formats.selection target)

/-- The value of a control, read from the chip if it can change there. -/
def control (id : ControlId) : Operation σ Int32 := do
  if id.spec.volatile then onRegisters ControlId.readLinkFrequency
  else return (← state).controls.get id

/-- Stores a control value, and writes it at once while a stream runs. A value that cannot be
written is not stored. -/
def setControl (id : ControlId) (requested : Int32) : Operation σ Int32 := do
  let value ← ofExcept (id.spec.validate requested)
  if (← state).streaming then
    onRegisters (id.apply value)
  modify fun device => { device with controls := device.controls.set id value }
  note .debug ("Control " ++ id.spec.title ++ s!" set to {value}")
  return value

end IspDriver.Device
