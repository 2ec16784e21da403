import IspDriver.Device.Stream
import IspDriver.Firmware.Download
import IspDriver.Firmware.Fetch

/-!
Bringing a device up and letting it go. The sensors are powered first; then the processor is powered
and its firmware downloaded, again from the start when the checksum disagrees, up to a number of
times. Whatever fails on the way, what was powered is powered off before the error is passed on.
-/

namespace IspDriver.Device

open Routine

variable {σ S : Type}

/-- Downloads that are tried before the driver gives up. -/
def attemptLimit : Nat := 3

/-- What a board wires besides the lines that every board has. -/
structure Wiring where
  hasStandby : Bool
  hasEnable : Bool
deriving DecidableEq, Repr

def detectChip : Operation σ ChipRevision := do
  let version ← onRegisters (RegisterMap.read Layout.chipVersion)
  let revision ← onRegisters (RegisterMap.read Layout.chipRevision)
  if version = Layout.supportedVersion then do
    let revision : ChipRevision := ⟨revision.toUInt16⟩
    note .info ("AP130X revision " ++ revision.text ++ " detected")
    return revision
  else do
    note .error ("Invalid chip version, expected 0x" ++
      Text.hex 4 Layout.supportedVersion.toNat ++ ", got 0x" ++ Text.hex 4 version.toNat)
    fail (.device (.chipVersion version))

def loadFirmware (image : FirmwareImage) : Operation σ Unit :=
  Firmware.download registersPart
    (fun stage => do
      note .debug ("Firmware download: " ++ stage.text)
      modify fun device => { device with stage })
    image

/-- Finds the chip and gives it its firmware. -/
def detectAndLoad (image : FirmwareImage) : Operation σ Unit := do
  let revision ← detectChip
  modify fun device => { device with revision? := some revision }
  setStage .chipDetected
  loadFirmware image

/-- The download attempts from the `number`-th on, `left` of them. -/
def bootAttempts (image : FirmwareImage) (number : Nat) : (left : Nat) → Operation σ Unit
  | 0 => do
      note .error "Firmware load retries exceeded, aborting"
      powerOffSensors
      setStage .failed
      fail (.timeout (.firmwareAttempts attemptLimit))
  | left + 1 => do
      onError (onPower IspPower.powerOn) fun _ => do
        powerOffSensors
        setStage .failed
      -- The power cycle lost the page selection.
      onRegisters RegisterMap.forgetPage
      setStage .poweredOn
      match ← attempt (detectAndLoad image) with
      | .ok () => do
          onError stall fun _ => do
            powerOffAll
            setStage .failed
          setStage .verified
      | .error error =>
          if error.isRetryable then do
            note .warn (s!"Firmware load attempt {number}/{attemptLimit} failed: " ++
              error.message)
            onPower IspPower.powerOff
            bootAttempts image (number + 1) left
          else do
            powerOffAll
            setStage .failed
            fail error

def boot (image : FirmwareImage) : Operation σ Unit := do
  onError powerOnSensors fun _ => setStage .failed
  bootAttempts image 1 attemptLimit

def claimSensors (model : SensorModel) : List UInt32 → Routine σ S (List PortSensor)
  | [] => return []
  | port :: rest => do
      let power ← SensorPower.claim s!"{model.name} {port}" model
      let more ← claimSensors model rest
      return ⟨port, power⟩ :: more

/-- Claims what a board needs, fetches its firmware and boots it. -/
def bringUp (hasStandby : Bool) (board : Board) : Routine σ S Device := do
  let power ← IspPower.claim hasStandby
  let sensors ← claimSensors board.model board.ports
  let image ← Firmware.fetchImage board.model board.ports.length
  note .info (s!"Firmware for {board.model.name} ({image.header.totalSize} bytes, " ++
    s!"PLL {image.header.clockSize} bytes)")
  let initial : Device := {
    board, power, sensors
    registers := {}
    formats := .initial board.model board.widthFactor
    controls := .defaults
    streaming := false
    stage := .idle
    revision? := none
    probe? := none }
  let ((), device) ← startingFrom initial (boot image)
  return device

/-- Brings a board up. The chip is left stalled, ready to stream. -/
def attach (wiring : Wiring) (config : BoardConfig) : Routine σ S Device := do
  let board ← Board.accept config
  if wiring.hasEnable then
    Host.setLine .enable true
  onError (bringUp wiring.hasStandby board) fun _ => do
    if wiring.hasEnable then
      match ← attempt (Host.setLine .enable false) with
      | .ok () => done ()
      | .error error => note .warn ("Failed to release isp_en: " ++ error.message)

/-- Powers the device down for good. -/
def detach : Operation σ Unit := do
  note .debug "Detaching, powering down"
  powerOffAll
  setStage .idle

end IspDriver.Device
