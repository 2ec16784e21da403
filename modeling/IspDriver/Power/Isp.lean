import IspDriver.Power.Rail

/-!
Power of the image processor: its reset and standby lines, its clock and its supplies. A power-up
that fails takes the supplies down again before it reports the error.
-/

namespace IspDriver

structure IspPower where
  /-- Not every board wires the standby line. -/
  hasStandby : Bool
  isOn : Bool := false
deriving DecidableEq, Repr

namespace IspPower

open Routine

variable {σ S : Type}

/-- The name under which the processor asks for its supplies. -/
def consumer : String := "ap130x"

/-- In the order in which they are enabled. -/
def rails : List Rail :=
  ["DVDD", "VDDIO_HMISC", "VDDIO_SMISC"].map fun name => ⟨consumer, name, 2000⟩

def standbyMicroseconds : UInt32 := 200

def resetMicroseconds : UInt32 := 10000

/-- Holds the chip in reset and looks its supplies up. -/
def claim (hasStandby : Bool) : Routine σ S IspPower := do
  Host.setLine .reset true
  Rail.findAll (fun rail => "Failed to get ISP supply " ++ rail.name) rails
  return { hasStandby }

def moveStandby (active : Bool) : Routine σ IspPower Unit := do
  if (← state).hasStandby then
    Host.setLine .standby active
    Host.wait standbyMicroseconds
  else
    done ()

/-- Starts the clock and lets the chip out of reset. -/
def release : Routine σ IspPower Unit := do
  moveStandby false
  onError Host.enableClock fun error =>
    note .error ("Failed to enable clock: " ++ error.message)
  onError (Host.setLine .reset false) fun _ =>
    Host.disableClock
  Host.wait resetMicroseconds

def powerOn : Routine σ IspPower Unit := do
  note .debug "Powering on ISP"
  moveStandby true
  Rail.enableAll "ISP" (fun rail => "Failed to enable ISP supply " ++ rail.name) rails
  onError release fun _ =>
    Rail.disableAll "ISP" rails
  modify fun power => { power with isOn := true }

/-- Moves a line; a line that does not move is worth a warning. -/
def tryLine (line : Line) (active : Bool) (complaint : String) :
    Routine σ IspPower Unit := do
  match ← attempt (Host.setLine line active) with
  | .ok () => done ()
  | .error error => note .warn (complaint ++ ": " ++ error.message)

def powerOff : Routine σ IspPower Unit := do
  note .debug "Powering off ISP"
  tryLine .reset true "Failed to assert reset"
  Host.disableClock
  let power ← state
  if power.hasStandby then
    tryLine .standby true "Failed to assert standby"
    Host.wait standbyMicroseconds
  Rail.disableAll "ISP" rails
  if power.hasStandby then
    Host.wait standbyMicroseconds
    tryLine .standby false "Failed to release standby"
  modify fun power => { power with isOn := false }

end IspPower

end IspDriver
