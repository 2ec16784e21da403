import IspDriver.Register.Map

/-!
Sensor registers, reached through the copy engine. Sensors hang off the processor's own ports; a
one-shot copy moves a value between a sensor register and a register of the processor.

A read copies to the target register itself, where the value arrives high byte first: one byte ends
up in the top eight bits, two bytes in the top sixteen. A write takes the value from the source
register, always out of its top sixteen bits.
-/

namespace IspDriver.Bridge

open Routine RegisterMap

variable {σ : Type}

/-- How often the engine is looked at before it counts as stuck. -/
def pollLimit : Nat := 50

def pollMicroseconds : UInt32 := 1000

def checkWidth (register : Register) : Access σ Unit :=
  if register.width = 1 ∨ register.width = 2 then done ()
  else refuse (.sensorRegisterWidth register)

/-- A sensor register as the copy engine addresses it. -/
def descriptor (port device : UInt32) (register : Register) : UInt32 :=
  Layout.Copy.sensorPort port |||
    (if register.width = 2 then Layout.Copy.sensorData16 else 0) |||
    Layout.Copy.sensorAddress16 |||
    Layout.Copy.sensorDevice device |||
    register.offset.toUInt32

/-- Looks at the engine until it is idle, at most `polls` times, with a pause after each look. -/
def pollIdle : (polls : Nat) → Access σ Unit
  | 0 => do
      note .error "DMA timeout"
      fail (.timeout .copyEngine)
  | polls + 1 => do
      let control ← read Layout.copyControl
      if control &&& Layout.Copy.modeMask = Layout.Copy.idle then
        done ()
      else
        Host.wait pollMicroseconds
        pollIdle polls

def waitIdle : Access σ Unit :=
  pollIdle pollLimit

private def valueText (port : UInt32) (register : Register) (arrow : String) (value : UInt32) :
    String :=
  s!"sensor {port}:0x" ++ Text.hex 4 register.offset.toNat ++ arrow ++ "0x" ++
    Text.hex 0 value.toNat

def readSensor (port device : UInt32) (register : Register) : Access σ UInt32 := do
  checkWidth register
  waitIdle
  writeAll [
    (Layout.copySize, register.width),
    (Layout.copySource, descriptor port device register),
    (Layout.copyTarget, Layout.copyTarget.offset.toUInt32),
    (Layout.copyControl, Layout.Copy.fromSensor ||| Layout.Copy.start)]
  waitIdle
  let arrived ← read Layout.copyTarget
  let value := arrived >>> (32 - register.width * 8)
  note .trace (valueText port register " => " value)
  return value

def writeSensor (port device : UInt32) (register : Register) (value : UInt32) :
    Access σ Unit := do
  checkWidth register
  waitIdle
  note .trace (valueText port register " <= " value)
  writeAll [
    (Layout.copySize, register.width),
    (Layout.copySource, ((value &&& 0xffff) <<< 16) ||| Layout.copySource.offset.toUInt32),
    (Layout.copyTarget, descriptor port device register),
    (Layout.copyControl, Layout.Copy.toSensor ||| Layout.Copy.start)]
  waitIdle

end IspDriver.Bridge
