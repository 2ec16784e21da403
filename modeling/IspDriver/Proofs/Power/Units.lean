import IspDriver.Proofs.Power.Rails

/-! What powering the processor and the sensors up and down switches. -/

namespace IspDriver

open Routine

variable {σ S : Type} {host : Host σ} {fact : S → Prop} {live failed : List Resource}

namespace IspPower

/-- The supplies of the processor, as they are switched off. -/
def supplies : List Resource :=
  ["VDDIO_SMISC", "VDDIO_HMISC", "DVDD"].map (Resource.supply "ap130x")

/-- The clock and the supplies, as they are switched off. -/
def resources : List Resource :=
  .clock :: supplies

/-- The rails that are claimed are the supplies of the processor. -/
theorem resource_rails : rails.reverse.map Rail.resource = supplies := rfl

theorem mem_supplies {rail : Rail} (member : rail ∈ rails) : rail.resource ∈ supplies :=
  resource_rails ▸ List.mem_map_of_mem (List.mem_reverse.mpr member)

variable {known : Prop} {power : IspPower}

theorem turns_enableClock (answers : Answers host) (off : Resource.clock ∉ live) :
    Turns host fact live (.clock :: live) live Host.enableClock := by
  refine turns_enable answers (fun reply => ?_) off
  cases reply <;> rfl

theorem appends_disableClock (answers : Answers host) :
    Appends host fact [Resource.clock.turnedOff] Host.disableClock :=
  appends_ask answers fun _ => rfl

theorem turns_setLine (answers : Answers host) {line : Line} {active : Bool} :
    Turns host fact live live live (Host.setLine line active) :=
  turns_quiet answers fun _ => rfl

theorem turns_moveStandby (answers : Answers host) {active : Bool} :
    Turns host (fun _ => known) live live live (moveStandby active) := by
  refine (turns_of_keeps keeps_state).bind fun power => ?_
  split
  · exact (turns_setLine answers).bind fun _ => (appends_wait answers).idle
  · exact turns_done

theorem turns_release (answers : Answers host) (once : (.clock :: live).Nodup) :
    Turns host (fun _ => known) live (.clock :: live) live release := by
  obtain ⟨off, -⟩ := List.nodup_cons.mp once
  refine (turns_moveStandby answers).bind fun _ => ?_
  refine ((turns_enableClock answers off).onError fun _ => turns_note).bind fun _ => ?_
  have clockOff : Appends host (fun _ : IspPower => known) ([Resource.clock].map Resource.turnedOff)
      Host.disableClock :=
    appends_disableClock answers
  refine Turns.bind (Turns.onError (turns_setLine answers) fun _ => ?_) fun _ =>
    (appends_wait answers).idle
  exact clockOff.turns once

/-- A power-up leaves clock and supplies on, or, wherever it fails, as they were. -/
theorem turns_powerOn (answers : Answers host) (once : (resources ++ live).Nodup) :
    Turns host (fun _ => known) live (resources ++ live) live powerOn := by
  obtain ⟨-, supplies⟩ := List.nodup_cons.mp once
  have forward : (rails.map Rail.resource ++ live).Nodup := by
    have order : (rails.map Rail.resource ++ live).Perm
        (rails.reverse.map Rail.resource ++ live) :=
      (rails.reverse_perm.symm.map Rail.resource).append_right live
    exact order.nodup_iff.mpr supplies
  refine turns_note.bind fun _ => (turns_moveStandby answers).bind fun _ => ?_
  refine (Rail.turns_enableAll answers "ISP" _ forward).bind fun _ => ?_
  refine Turns.bind (Turns.onError (turns_release answers once) fun _ => ?_) fun _ => ?_
  · exact Rail.turns_disableAll answers "ISP" supplies
  · exact turns_modify fun _ => id

theorem appends_tryLine (answers : Answers host) {line : Line} {active : Bool}
    {complaint : String} : Appends host (fun _ => known) [] (tryLine line active complaint) := by
  have asked : Appends host (fun _ : IspPower => known) [] (attempt (Host.setLine line active)) :=
    appends_attempt answers fun _ => rfl
  refine asked.bind fun result => ?_
  cases result with
  | error error => exact appends_note
  | ok _ => exact appends_done

/-- A power-down switches the clock and each supply off once, whatever fails on the way. -/
theorem appends_powerOff (answers : Answers host) :
    Appends host (fun _ => known) (resources.map Resource.turnedOff) powerOff := by
  refine appends_note.bind fun _ => (appends_tryLine answers).bind fun _ => ?_
  refine (appends_disableClock answers).bind fun _ => appends_state.bind fun power => ?_
  have supplies : Appends host (fun _ : IspPower => known)
      ((rails.reverse.map Rail.resource).map Resource.turnedOff) (Rail.disableAll "ISP" rails) :=
    Rail.appends_disableEach answers "ISP" rails.reverse
  have finish : Appends host (fun _ : IspPower => known) []
      (modify fun power => { power with isOn := false }) :=
    appends_modify fun _ => id
  cases power.hasStandby with
  | false => exact supplies.bind fun _ => finish
  | true =>
      refine (appends_tryLine answers).bind fun _ => (appends_wait answers).bind fun _ => ?_
      refine supplies.bind fun _ => (appends_wait answers).bind fun _ => ?_
      exact (appends_tryLine answers).bind fun _ => finish

end IspPower

namespace SensorPower

/-- The supplies of a sensor, as they are switched off. -/
def resources (sensor : SensorPower) : List Resource :=
  sensor.rails.reverse.map Rail.resource

theorem appends_powerOffEach (answers : Answers host) (sensors : List SensorPower) :
    Appends host fact ((sensors.flatMap resources).map Resource.turnedOff)
      (powerOffEach sensors) := by
  induction sensors with
  | nil => exact appends_done
  | cons sensor rest ih =>
      rw [List.flatMap_cons, List.map_append]
      exact (Rail.appends_disableEach answers sensor.label sensor.rails.reverse).bind fun _ => ih

theorem turns_powerOn (answers : Answers host) {sensor : SensorPower}
    (once : (sensor.resources ++ live).Nodup) :
    Turns host fact live (sensor.resources ++ live) live sensor.powerOn := by
  have order : (sensor.rails.map Rail.resource ++ live).Perm (sensor.resources ++ live) :=
    (sensor.rails.reverse_perm.symm.map Rail.resource).append_right live
  exact Rail.turns_enableAll answers sensor.label _ (order.nodup_iff.mpr once)

theorem turns_powerOnAfter (answers : Answers host) {running sensors : List SensorPower}
    (once : (sensors.reverse.flatMap resources ++ (running.flatMap resources ++ live)).Nodup) :
    Turns host fact (running.flatMap resources ++ live)
      ((sensors.reverse ++ running).flatMap resources ++ live) live
      (powerOnAfter running sensors) := by
  induction sensors generalizing running with
  | nil => exact turns_done
  | cons sensor rest ih =>
      have order : (sensor :: rest).reverse ++ running = rest.reverse ++ (sensor :: running) := by
        rw [List.reverse_cons, List.append_assoc]
        rfl
      have later : (rest.reverse.flatMap resources ++
          ((sensor :: running).flatMap resources ++ live)).Nodup := by
        rw [← List.append_assoc, ← List.flatMap_append, ← order, List.flatMap_append,
          List.append_assoc]
        exact once
      have here : (sensor.resources ++ (running.flatMap resources ++ live)).Nodup := by
        have tail := (List.nodup_append.mp later).2.1
        rwa [List.flatMap_cons, List.append_assoc] at tail
      have before := (List.nodup_append.mp here).2.1
      refine Turns.bind (Turns.onError (turns_powerOn answers here) fun _ => ?_) fun _ => ?_
      · exact (appends_powerOffEach answers running).turns before
      · rw [order]
        have turns := ih later
        rwa [List.flatMap_cons, List.append_assoc] at turns

theorem turns_powerOnAll (answers : Answers host) {sensors : List SensorPower}
    (once : (sensors.flatMap resources ++ live).Nodup) :
    Turns host fact live (sensors.reverse.flatMap resources ++ live) live
      (powerOnAll sensors) := by
  have order : (sensors.reverse.flatMap resources ++ live).Perm
      (sensors.flatMap resources ++ live) :=
    (sensors.reverse_perm.flatMap_right resources).append_right live
  have turns := @turns_powerOnAfter σ S host fact live answers [] sensors (order.nodup_iff.mpr once)
  rwa [List.append_nil] at turns

end SensorPower

end IspDriver
