import IspDriver.Proofs.Power.Units
import IspDriver.Proofs.Sequence

/-!
The requests of a power-up and of a power-down, one after the other, on any host. A power-up goes on
while each request is granted, and releases what it took after one that fails; a power-down makes all
its requests, granted or not.
-/

namespace IspDriver

open Routine

/-- A request that switches something off. -/
def Request.Releases (request : Request) : Prop :=
  ∃ resource : Resource, request = resource.disabling

variable {σ S : Type} {host : Host σ} {fact : S → Prop}

namespace Rail

variable {who : String} {complaint : Rail → String}

def enableRequests (rails : List Rail) : List Request :=
  rails.flatMap fun rail => [rail.resource.enabling, .wait rail.settleMicroseconds]

def disableRequests (rails : List Rail) : List Request :=
  rails.map fun rail => rail.resource.disabling

theorem traces_disableEach (rails : List Rail) :
    Traces host fact fact (Insists (disableRequests rails)) (disableEach who rails) := by
  induction rails with
  | nil => exact silent_done.insists
  | cons rail rest ih =>
      have disabling : Traces host fact fact (Follows [rail.resource.disabling])
          (Host.disableSupply rail.consumer rail.name) :=
        traces_request fun reply => by cases reply <;> rfl
      refine disabling.insist_attempt fun result => ?_
      cases result with
      | ok _ => exact silent_done.bind fun _ => ih
      | error error => exact silent_note.bind fun _ => ih

end Rail

namespace IspPower

def standbyRequests (standby active : Bool) : List Request :=
  if standby then [.setLine .standby active, .wait standbyMicroseconds] else []

/-- A full power-up, out of standby and reset in the end. -/
def powerUpRequests (standby : Bool) : List Request :=
  standbyRequests standby true ++ Rail.enableRequests rails ++ standbyRequests standby false ++
    [.enableClock, .setLine .reset false, .wait resetMicroseconds]

/-- A full power-down, from reset on. -/
def powerDownRequests (standby : Bool) : List Request :=
  [.setLine .reset true, .disableClock] ++ standbyRequests standby true ++
    Rail.disableRequests rails.reverse ++
    if standby then [.wait standbyMicroseconds, .setLine .standby false] else []

variable {standby : Bool}

end IspPower

namespace SensorPower

def disableRequests (sensors : List SensorPower) : List Request :=
  sensors.flatMap fun sensor => Rail.disableRequests sensor.rails.reverse

theorem traces_powerOffEach (sensors : List SensorPower) :
    Traces host fact fact (Insists (disableRequests sensors)) (powerOffEach sensors) := by
  induction sensors with
  | nil => exact silent_done.insists
  | cons sensor rest ih =>
      exact (Rail.traces_disableEach sensor.rails.reverse).insist_bind fun _ => ih

end SensorPower

end IspDriver
