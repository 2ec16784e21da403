import IspDriver.Firmware.Image
import IspDriver.Register.Map

/-!
Downloading firmware, and the stages it goes through. The payload goes through a window of the bus
space that starts over at its end: a block ends where the data or the window does, and data that is
left goes on at the start of the window.
-/

namespace IspDriver

inductive BootStage where
  | idle
  | poweredOn
  | chipDetected
  | clockLoading
  | mainLoading
  | verified
  | failed
deriving DecidableEq, Repr

def BootStage.text : BootStage → String
  | idle => "idle"
  | poweredOn => "powered-on"
  | chipDetected => "chip-detected"
  | clockLoading => "pll-loading"
  | mainLoading => "extended-loading"
  | verified => "verified"
  | failed => "failed"

namespace Firmware

open Routine

variable {σ S : Type}

/-- A position in the window. -/
abbrev WindowPosition : Type :=
  Fin Layout.firmwareWindowSize

/-- The position so many bytes further on, at most at the end of the window, which is its start. -/
def WindowPosition.advance (position : WindowPosition) (count : Nat) : WindowPosition :=
  if inside : position + count < Layout.firmwareWindowSize then ⟨position + count, inside⟩
  else ⟨0, by decide⟩

/-- How much of the data there is room for before the end of the window. -/
def WindowPosition.room (position : WindowPosition) (data : List UInt8) : Nat :=
  min data.length (Layout.firmwareWindowSize - position)

/-- Sends the data block by block from a position on; the value is the position after it. -/
def sendBlocks (position : WindowPosition) (data : List UInt8) : Access σ WindowPosition :=
  if data = [] then
    done position
  else do
    RegisterMap.writeBlock (Layout.firmwareWindow + position.val.toUInt16)
      (data.take (position.room data))
    sendBlocks (position.advance (position.room data)) (data.drop (position.room data))
termination_by data.length
decreasing_by
  next filled =>
    have inside := position.isLt
    have positive := List.length_pos_iff.mpr filled
    simp only [WindowPosition.room, List.length_drop]
    omega

/-- Sends the data from a window position on; the value is the position after it. -/
def writeWindow (position : Nat) (data : List UInt8) : Access σ Nat :=
  if inside : position < Layout.firmwareWindowSize then
    return (← sendBlocks ⟨position, inside⟩ data).val
  else
    refuse (.windowPosition position)

def clockLockMicroseconds : UInt32 := 1000

def settleMilliseconds : UInt32 := 40

/-- Downloads an image and compares the checksum that the chip makes of it. The stages entered are
announced through `enter`. -/
def download (registers : Part S RegisterMap) (enter : BootStage → Routine σ S Unit)
    (image : FirmwareImage) : Routine σ S Unit := do
  registers.act (RegisterMap.write Layout.firmwareCrc Crc.seed.toUInt32)
  enter .clockLoading
  let position ← registers.act (writeWindow 0 image.clockSegment)
  registers.act (RegisterMap.write Layout.bootStage Layout.BootStage.clockReady)
  Host.wait clockLockMicroseconds
  enter .mainLoading
  let _ ← registers.act (writeWindow position image.mainSegment)
  Host.wait (Host.millisecondsToWait settleMilliseconds)
  let crc ← registers.act (RegisterMap.read Layout.firmwareCrc)
  if crc = image.expectedCrc then
    registers.act (RegisterMap.write Layout.bootStage Layout.BootStage.complete)
  else
    note .warn ("CRC mismatch: expected 0x" ++ Text.hex 4 image.expectedCrc.toNat ++
      ", got 0x" ++ Text.hex 4 crc.toNat)
    fail (.crcMismatch image.expectedCrc crc)

end Firmware

end IspDriver
