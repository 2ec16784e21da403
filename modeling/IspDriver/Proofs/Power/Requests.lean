import IspDriver.Device.Boot
import IspDriver.Proofs.Device.Action
import IspDriver.Proofs.Power.Rails

/-!
Which requests the routines of a device make. A power routine asks for the supplies and the lines it
is about and lets time pass; everything that is done with the registers asks for blocks and time.
-/

namespace IspDriver

open Routine

variable {σ S : Type} {host : Host σ} {allowed : Request → Prop}

namespace Rail

variable {rails enabled : List Rail} {who : String} {complaint : Rail → String}

theorem asks_disableEach (disables : ∀ rail ∈ rails, allowed rail.resource.disabling) :
    Asks host allowed (disableEach who rails : Routine _ S Unit) := by
  induction rails with
  | nil => exact asks_done
  | cons rail rest ih =>
      obtain ⟨first, others⟩ := List.forall_mem_cons.mp disables
      have asked : Asks host allowed
          (Host.disableSupply rail.consumer rail.name : Routine _ S Unit) := asks_request first
      refine asked.attempt.bind fun result => ?_
      cases result with
      | ok _ => exact asks_done.bind fun _ => ih others
      | error error => exact asks_note.bind fun _ => ih others

theorem asks_disableAll (disables : ∀ rail ∈ rails, allowed rail.resource.disabling) :
    Asks host allowed (disableAll who rails : Routine _ S Unit) :=
  asks_disableEach fun rail member => disables rail (List.mem_reverse.mp member)

theorem asks_enableAfter (waits : ∀ microseconds, allowed (.wait microseconds))
    (enables : ∀ rail ∈ rails, allowed rail.resource.enabling)
    (disables : ∀ rail ∈ enabled ++ rails, allowed rail.resource.disabling) :
    Asks host allowed (enableAfter who complaint enabled rails : Routine _ S Unit) := by
  induction rails generalizing enabled with
  | nil => exact asks_done
  | cons rail rest ih =>
      obtain ⟨first, others⟩ := List.forall_mem_cons.mp enables
      have asked : Asks host allowed
          (Host.enableSupply rail.consumer rail.name : Routine _ S Unit) := asks_request first
      refine Asks.bind (asked.onError fun _ => asks_note.bind fun _ => ?_) fun _ => ?_
      · exact asks_disableEach fun rail member => disables rail (List.mem_append_left _ member)
      · refine (asks_ask (waits _)).bind fun _ => ih others fun rail member => ?_
        exact disables rail (List.perm_middle.mem_iff.mpr member)

theorem asks_enableAll (waits : ∀ microseconds, allowed (.wait microseconds))
    (enables : ∀ rail ∈ rails, allowed rail.resource.enabling)
    (disables : ∀ rail ∈ rails, allowed rail.resource.disabling) :
    Asks host allowed (enableAll who complaint rails : Routine _ S Unit) :=
  asks_enableAfter waits enables disables

theorem asks_findAll (finds : ∀ rail : Rail, allowed (.findSupply rail.consumer rail.name)) :
    Asks host allowed (findAll complaint rails : Routine _ S Unit) := by
  induction rails with
  | nil => exact asks_done
  | cons rail rest ih =>
      have asked : Asks host allowed
          (Host.findSupply rail.consumer rail.name : Routine _ S Unit) := asks_request (finds rail)
      exact (asked.onError fun _ => asks_note).bind fun _ => ih

end Rail

namespace SensorPower

variable {sensors running : List SensorPower}

theorem asks_powerOffEach
    (disables : ∀ sensor ∈ sensors, ∀ rail ∈ sensor.rails, allowed rail.resource.disabling) :
    Asks host allowed (powerOffEach sensors : Routine _ S Unit) := by
  induction sensors with
  | nil => exact asks_done
  | cons sensor rest ih =>
      obtain ⟨first, others⟩ := List.forall_mem_cons.mp disables
      exact (Rail.asks_disableAll first).bind fun _ => ih others

theorem asks_powerOnAfter (waits : ∀ microseconds, allowed (.wait microseconds))
    (enables : ∀ sensor ∈ sensors, ∀ rail ∈ sensor.rails, allowed rail.resource.enabling)
    (disables : ∀ sensor ∈ running ++ sensors, ∀ rail ∈ sensor.rails,
      allowed rail.resource.disabling) :
    Asks host allowed (powerOnAfter running sensors : Routine _ S Unit) := by
  induction sensors generalizing running with
  | nil => exact asks_done
  | cons sensor rest ih =>
      obtain ⟨first, others⟩ := List.forall_mem_cons.mp enables
      have powered : Asks host allowed (sensor.powerOn : Routine _ S Unit) :=
        Rail.asks_enableAll waits first (disables sensor (by simp))
      refine (powered.onError fun _ => asks_powerOffEach fun sensor member => ?_).bind fun _ => ?_
      · exact disables sensor (List.mem_append_left _ member)
      · refine ih others fun sensor member => ?_
        exact disables sensor (List.perm_middle.mem_iff.mpr member)

end SensorPower

namespace IspPower

theorem asks_moveStandby {active : Bool} (moves : allowed (.setLine .standby active))
    (waits : ∀ microseconds, allowed (.wait microseconds)) :
    Asks host allowed (moveStandby active) := by
  refine asks_state.bind fun power => ?_
  split
  · exact (asks_request moves).bind fun _ => asks_ask (waits _)
  · exact asks_done

theorem asks_tryLine {line : Line} {active : Bool} {complaint : String}
    (moves : allowed (.setLine line active)) :
    Asks host allowed (tryLine line active complaint) := by
  have asked : Asks host allowed (Host.setLine line active : Routine _ IspPower Unit) :=
    asks_request moves
  refine asked.attempt.bind fun result => ?_
  cases result with
  | ok _ => exact asks_done
  | error error => exact asks_note

end IspPower

namespace Device

variable {stage : BootStage}

theorem maySend_anything (register : Register) : MaySend (fun _ _ => True) register :=
  fun _ _ => trivial

theorem asks_setStage : Asks host allowed (setStage stage) :=
  asks_state.bind fun _ => asks_note.bind fun _ => asks_modify

theorem asks_read (traffic : AllowsTraffic allowed) (register : Register) :
    Asks host allowed (onRegisters (RegisterMap.read register)) :=
  Asks.act fun past => (undisturbed_grown traffic past).carries.keeps_read

theorem asks_write (traffic : AllowsTraffic allowed) (register : Register) (value : UInt32) :
    Asks host allowed (onRegisters (RegisterMap.write register value)) :=
  Asks.act fun past =>
    (undisturbed_grown traffic past).carries.keeps_write (maySend_anything register)

theorem asks_detectChip (traffic : AllowsTraffic allowed) : Asks host allowed detectChip := by
  refine (asks_read traffic _).bind fun version => (asks_read traffic _).bind fun revision => ?_
  split
  · exact asks_note.bind fun _ => asks_done
  · exact asks_note.bind fun _ => asks_fail

theorem asks_loadFirmware (traffic : AllowsTraffic allowed) (image : FirmwareImage) :
    Asks host allowed (loadFirmware image) := by
  intro past
  refine Firmware.keeps_download (fun _ _ _ => asks_write traffic _ _ past)
    (asks_read traffic _ past) (fun position data => Asks.act (fun past => ?_) past)
    (fun _ => asks_ask (traffic.wait _) past) (fun _ _ => asks_note past)
    (fun _ => (asks_note.bind fun _ => asks_modify) past) image
  exact Firmware.keeps_writeWindow (undisturbed_grown traffic past).carries (fun _ _ => trivial) _ _

theorem asks_detectAndLoad (traffic : AllowsTraffic allowed) (image : FirmwareImage) :
    Asks host allowed (detectAndLoad image) := by
  refine (asks_detectChip traffic).bind fun revision => asks_modify.bind fun _ => ?_
  exact asks_setStage.bind fun _ => asks_loadFirmware traffic image

theorem asks_stall (traffic : AllowsTraffic allowed) : Asks host allowed stall := by
  refine Asks.bind (Asks.act fun past => ?_) fun _ => ?_
  · exact (undisturbed_grown traffic past).carries.keeps_writeAll fun _ _ => maySend_anything _
  · exact (asks_ask (traffic.wait _)).bind fun _ => asks_write traffic _ _

theorem asks_perform (traffic : AllowsTraffic allowed) (action : Action) :
    Asks host allowed action.perform := by
  intro past device world grown
  refine (Action.perform_undisturbed action (undisturbed_grown traffic past) grown).mono ?_
  intro outcome after left ended
  cases outcome with
  | done value => exact ended
  | failed error => exact ended
  | aborted => exact ended

/-- Whatever is done with a device, it is done with blocks and time. -/
theorem performEach_grown (traffic : AllowsTraffic allowed) (actions : List Action)
    (device : Device) (world : σ × List Exchange) :
    Grown allowed world.2 (Action.performEach host.recording actions device world).2.2 := by
  suffices onward : ∀ past, Grown allowed past world.2 →
      Grown allowed past (Action.performEach host.recording actions device world).2.2 from
    onward world.2 grown_self
  intro past grown
  induction actions generalizing device world with
  | nil => exact grown
  | cons action rest ih =>
      have kept : action.perform.Ends host.recording device world
          fun _ _ left => Grown allowed past left.2 :=
        (asks_perform traffic action past).ends grown
      unfold Action.performEach
      unfold Ends at kept
      generalize action.perform host.recording device world = run at kept ⊢
      obtain ⟨outcome, after, left⟩ := run
      exact ih after left kept

end Device

end IspDriver
