import IspDriver.Proofs.Power.Prepare
import IspDriver.Proofs.Power.Units

/-!
The balance of power over the life of a device, on any host that answers, whatever fails on it. An
attach that fails leaves everything off; one that succeeds leaves on what the board needs, no action
switches anything, and the detach switches each of the resources off, once.
-/

namespace IspDriver

open Routine

/-- What the sensors of a device take. -/
def Device.sensorResources (sensors : List PortSensor) : List Resource :=
  (sensors.map (·.power)).flatMap SensorPower.resources

namespace Board

/-- The supplies of the sensors, as they are switched off: at every populated port, those that the
model lists. -/
def sensorSupplies (board : Board) : List Resource :=
  board.ports.flatMap fun port => board.model.supplies.reverse.map fun supply =>
    .supply s!"{board.model.name} {port}" supply.name

/-- The clock, the supplies of the processor and those of every populated sensor. -/
def resources (board : Board) : List Resource :=
  IspPower.resources ++ board.sensorSupplies

/-- The rails that are claimed for the sensors are these supplies. -/
theorem sensorResources_sensors (board : Board) :
    Device.sensorResources board.sensors = board.sensorSupplies := by
  simp only [Device.sensorResources, sensors, List.map_map, List.flatMap_map, sensorSupplies]
  congr 1
  funext port
  simp only [Function.comp_apply, SensorPower.resources, SensorPower.railsOf, ← List.map_reverse,
    List.map_map]
  rfl

theorem resources_eq (board : Board) :
    board.resources = IspPower.resources ++ Device.sensorResources board.sensors := by
  rw [resources, sensorResources_sensors]

theorem nodup_resources {config : BoardConfig} {board : Board}
    (accepted : ofConfig config = .ok board) : board.resources.Nodup := by
  obtain ⟨known, among⟩ := mem_of_ofConfig accepted
  have distinct : ∀ model ∈ SensorModel.all, ∀ ports ∈ [[], [0], [1], [0, 1]],
      (resources ⟨model, ports, 1⟩).Nodup := by decide
  exact distinct board.model known board.ports among

end Board

namespace Device

variable {σ S : Type} {host : Host σ} {state : S} {world : σ × List Exchange} {board : Board}
  {sensors : List PortSensor} {fitted : Board × List PortSensor}
  {live succeeded failed : List Resource}

theorem turns_onRegisters {α : Type} {access : Access (σ × List Exchange) α}
    (keeps : ∀ known : Prop, Keeps host.recording (fun _ world => known ∧ Lit live world)
      (fun _ _ => False) access) :
    Turns host (fun device => device.fitting = fitted) live live live (onRegisters access) :=
  Turns.act (fun known => turns_of_keeps (keeps known)) fun _ _ => Iff.rfl

theorem turns_read (answers : Answers host) (register : Register) :
    Turns host (fun device => device.fitting = fitted) live live live
      (onRegisters (RegisterMap.read register)) :=
  turns_onRegisters fun known => (undisturbed_lit answers known).carries.keeps_read

theorem turns_write (answers : Answers host) (register : Register) (value : UInt32) :
    Turns host (fun device => device.fitting = fitted) live live live
      (onRegisters (RegisterMap.write register value)) :=
  turns_onRegisters fun known =>
    (undisturbed_lit answers known).carries.keeps_write fun _ _ => trivial

theorem turns_writeWindow (answers : Answers host) (position : Nat) (data : List UInt8) :
    Turns host (fun device => device.fitting = fitted) live live live
      (onRegisters (Firmware.writeWindow position data)) :=
  turns_onRegisters fun known =>
    Firmware.keeps_writeWindow (undisturbed_lit answers known).carries (fun _ _ => trivial) _ _

theorem leads_setStage {before failed : List Exchange → Prop} (stage : BootStage) :
    Leads host (fun device => device.fitting = fitted) before before failed (setStage stage) := by
  refine leads_state.bind fun device => leads_note.bind fun _ => ?_
  exact leads_modify fun _ => id

theorem turns_setStage (stage : BootStage) :
    Turns host (fun device => device.fitting = fitted) live live failed (setStage stage) :=
  (leads_setStage stage).turns

theorem turns_detectChip (answers : Answers host) :
    Turns host (fun device => device.fitting = fitted) live live live detectChip := by
  refine (turns_read answers _).bind fun version => (turns_read answers _).bind fun revision => ?_
  split
  · exact turns_note.bind fun _ => turns_done
  · exact turns_note.bind fun _ => turns_fail

theorem turns_loadFirmware (answers : Answers host) (image : FirmwareImage) :
    Turns host (fun device => device.fitting = fitted) live live live (loadFirmware image) := by
  have announced : ∀ stage : BootStage,
      Turns host (fun device : Device => device.fitting = fitted) live live live (do
        note .debug ("Firmware download: " ++ stage.text)
        modify fun device => { device with stage }) :=
    fun stage => turns_note.bind fun _ => turns_modify fun _ => id
  refine (turns_write answers _ _).bind fun _ => (announced _).bind fun _ => ?_
  refine (turns_writeWindow answers _ _).bind fun position => ?_
  refine (turns_write answers _ _).bind fun _ => (appends_wait answers).idle.bind fun _ => ?_
  refine (announced _).bind fun _ => (turns_writeWindow answers _ _).bind fun _ => ?_
  refine (appends_wait answers).idle.bind fun _ => (turns_read answers _).bind fun crc => ?_
  split
  · exact turns_write answers _ _
  · exact turns_note.bind fun _ => turns_fail

theorem turns_detectAndLoad (answers : Answers host) (image : FirmwareImage) :
    Turns host (fun device => device.fitting = fitted) live live live (detectAndLoad image) := by
  refine (turns_detectChip answers).bind fun revision => ?_
  refine Turns.bind (turns_modify fun _ => id) fun _ => (turns_setStage _).bind fun _ => ?_
  exact turns_loadFirmware answers image

theorem turns_stall (answers : Answers host) :
    Turns host (fun device => device.fitting = fitted) live live live stall := by
  refine Turns.bind ?_ fun _ => (appends_wait answers).idle.bind fun _ => turns_write answers _ _
  exact turns_onRegisters fun known =>
    (undisturbed_lit answers known).carries.keeps_writeAll fun _ _ _ _ => trivial

theorem appends_powerOffSensors (answers : Answers host) :
    Appends host (fun device => device.fitting = (board, sensors))
      ((sensorResources sensors).map Resource.turnedOff) powerOffSensors := by
  intro device world fitted
  have same : device.sensors = sensors := congrArg Prod.snd fitted
  have off : Appends host (fun device : Device => device.fitting = (board, sensors))
      ((sensorResources sensors).map Resource.turnedOff)
      (SensorPower.powerOffEach (sensors.map (·.power))) :=
    SensorPower.appends_powerOffEach answers _
  refine ends_bind.mpr (ends_state.mpr ?_)
  simp only [followed, sensorPowers, same]
  exact off device world fitted

theorem turns_powerOffSensors (answers : Answers host) (once : (sensorResources sensors).Nodup) :
    Turns host (fun device => device.fitting = (board, sensors)) (sensorResources sensors) [] failed
      powerOffSensors := by
  have off := @appends_powerOffSensors σ host board sensors answers
  rw [← List.append_nil (sensorResources sensors)] at once
  have turns := @Appends.turns _ _ _ _ _ _ _ [] failed off once
  rwa [List.append_nil] at turns

theorem turns_powerOnEach (answers : Answers host) (once : (sensorResources sensors).Nodup) :
    Turns host (fun device : Device => device.fitting = (board, sensors)) []
      (sensorResources sensors) [] (SensorPower.powerOnAll (sensors.map (·.power))) := by
  have powers : Turns host (fun device : Device => device.fitting = (board, sensors)) []
      ((sensors.map (·.power)).reverse.flatMap SensorPower.resources ++ []) []
      (SensorPower.powerOnAll (sensors.map (·.power))) := by
    refine SensorPower.turns_powerOnAll answers ?_
    rw [List.append_nil]
    exact once
  exact powers.congr (fun _ => Iff.rfl) fun resource => by simp [sensorResources]

/-- The sensors that are powered on are those of the device. -/
theorem leads_powerOnSensors {before succeeded failed : List Exchange → Prop}
    (leads : Leads host (fun device : Device => device.fitting = (board, sensors)) before succeeded
      failed (SensorPower.powerOnAll (sensors.map (·.power)))) :
    Leads host (fun device => device.fitting = (board, sensors)) before succeeded failed
      powerOnSensors := by
  intro device world fitted start
  have same : device.sensors = sensors := congrArg Prod.snd fitted
  refine ends_bind.mpr (ends_state.mpr ?_)
  simp only [followed, sensorPowers, same]
  exact leads device world fitted start

theorem turns_powerOnSensors (answers : Answers host) (once : (sensorResources sensors).Nodup) :
    Turns host (fun device => device.fitting = (board, sensors)) [] (sensorResources sensors) []
      powerOnSensors :=
  (leads_powerOnSensors (turns_powerOnEach answers once).leads).turns

theorem turns_onPower (answers : Answers host)
    (once : (IspPower.resources ++ sensorResources sensors).Nodup) :
    Turns host (fun device => device.fitting = (board, sensors)) (sensorResources sensors)
      (IspPower.resources ++ sensorResources sensors) (sensorResources sensors)
      (onPower IspPower.powerOn) :=
  Turns.act (fun _ => IspPower.turns_powerOn answers once) fun _ _ => Iff.rfl

theorem appends_powerOff (answers : Answers host) :
    Appends host (fun device => device.fitting = (board, sensors))
      (IspPower.resources.map Resource.turnedOff) (onPower IspPower.powerOff) :=
  Appends.act (fun _ => IspPower.appends_powerOff answers) fun _ _ => Iff.rfl

theorem appends_powerOffAll (answers : Answers host) :
    Appends host (fun device => device.fitting = (board, sensors))
      ((IspPower.resources ++ sensorResources sensors).map Resource.turnedOff) powerOffAll := by
  rw [List.map_append]
  exact (appends_powerOff answers).bind fun _ => appends_powerOffSensors answers

theorem turns_powerOffAll (answers : Answers host)
    (once : (IspPower.resources ++ sensorResources sensors).Nodup) :
    Turns host (fun device => device.fitting = (board, sensors))
      (IspPower.resources ++ sensorResources sensors) [] failed powerOffAll := by
  have off := @appends_powerOffAll σ host board sensors answers
  rw [← List.append_nil (IspPower.resources ++ sensorResources sensors)] at once
  have turns := @Appends.turns _ _ _ _ _ _ _ [] failed off once
  rwa [List.append_nil] at turns

theorem appends_forgetPage :
    Appends host (fun device => device.fitting = (board, sensors)) []
      (onRegisters RegisterMap.forgetPage) :=
  Appends.act (fun _ => appends_modify fun _ => id) fun _ _ => Iff.rfl

/-- Every attempt starts with only the sensors on and, unless it is the last, ends so or succeeds. -/
theorem turns_bootAttempts (answers : Answers host)
    (once : (IspPower.resources ++ sensorResources sensors).Nodup) (image : FirmwareImage)
    (number left : Nat) :
    Turns host (fun device => device.fitting = (board, sensors)) (sensorResources sensors)
      (IspPower.resources ++ sensorResources sensors) [] (bootAttempts image number left) := by
  have sensorsOnce := (List.nodup_append.mp once).2.1
  induction left generalizing number with
  | zero =>
      refine turns_note.bind fun _ => (turns_powerOffSensors answers sensorsOnce).bind fun _ => ?_
      exact (turns_setStage _).bind fun _ => turns_fail
  | succ left ih =>
      refine Turns.bind (Turns.onError (turns_onPower answers once) fun _ => ?_) fun _ => ?_
      · exact (turns_powerOffSensors answers sensorsOnce).bind fun _ => turns_setStage _
      refine appends_forgetPage.idle.bind fun _ => ?_
      refine (turns_setStage _).bind fun _ => ?_
      refine (turns_detectAndLoad answers image).attempt.bind fun result => ?_
      cases result with
      | ok _ =>
          refine Turns.bind (Turns.onError (turns_stall answers) fun _ => ?_) fun _ =>
            turns_setStage _
          exact (turns_powerOffAll answers once).bind fun _ => turns_setStage _
      | error error =>
          simp only
          split
          · refine turns_note.bind fun _ => ?_
            exact ((appends_powerOff answers).turns once).bind fun _ => ih _
          · refine (turns_powerOffAll answers once).bind fun _ => (turns_setStage _).bind fun _ => ?_
            exact turns_fail

theorem turns_boot (answers : Answers host)
    (once : (IspPower.resources ++ sensorResources sensors).Nodup) (image : FirmwareImage) :
    Turns host (fun device => device.fitting = (board, sensors)) []
      (IspPower.resources ++ sensorResources sensors) [] (boot image) := by
  have sensorsOnce := (List.nodup_append.mp once).2.1
  have powered := @turns_powerOnSensors σ host board sensors answers sensorsOnce
  refine (powered.onError fun _ => turns_setStage _).bind fun _ => ?_
  exact turns_bootAttempts answers once image 1 attemptLimit

theorem lights_prepared (past : List Exchange) (exchange : Exchange)
    (prepares : exchange.request.Prepares) (lit : Lights live past) :
    Lights live (past ++ [exchange]) := by
  obtain ⟨request, reply⟩ := exchange
  have same : switchesIn [⟨request, reply⟩] = [] := by
    cases request <;> first | rfl | cases prepares
  rwa [Lights, switchesIn_append, same, List.append_nil]

theorem attach_lights (answers : Answers host) (wiring : Wiring) (config : BoardConfig)
    (lit : Lights [] world.2) :
    (attach wiring config).Ends host.recording state world
      (Attached config (fun board => Lights board.resources) (Lights [])) := by
  refine attach_ends answers lights_prepared (fun board accepted image => ?_) wiring lit
  have once := Board.nodup_resources accepted
  rw [Board.resources_eq] at once ⊢
  exact (turns_boot answers once image).leads

theorem undisturbed_switches (switches : List Switch) :
    Undisturbed host.recording (fun _ _ => True) (fun world => switchesIn world.2 = switches)
      (fun world => switchesIn world.2 = switches) := by
  have replied : ∀ (request : Request) (world : σ × List Exchange),
      (∀ reply, Exchange.switch? ⟨request, reply⟩ = none) → switchesIn world.2 = switches →
      Replied (fun world => switchesIn world.2 = switches)
        (fun world => switchesIn world.2 = switches) (host.recording.answer request world) := by
    intro request world quiet past
    have same : ∀ reply, switchesIn (world.2 ++ [⟨request, reply⟩]) = switches := by
      intro reply
      rw [switchesIn_append, past]
      simp [switchesIn, quiet]
    cases found : host.answer request world.1 with
    | mk reply left =>
        simp only [Host.recording, found]
        cases reply with
        | none => exact same none
        | some reply => exact same (some reply)
  exact {
    read := fun _ _ world past => replied _ world (fun _ => rfl) past
    write := fun _ _ world _ past => replied _ world (fun _ => rfl) past
    wait := fun _ world past => replied _ world (fun _ => rfl) past
    noted := fun _ _ past => past
    select := fun _ => trivial }

theorem action_keeps {fitted : Board × List PortSensor} {switches : List Switch} (action : Action) :
    Keeps host.recording
      (fun device world => device.fitting = fitted ∧ switchesIn world.2 = switches)
      (fun device world => device.fitting = fitted ∧ switchesIn world.2 = switches)
      action.perform := by
  have anything : ∀ register, MaySend (fun _ _ => True) register := fun _ _ _ => trivial
  have carries := fun shown : Board × List PortSensor =>
    ((@undisturbed_switches σ host switches).known (shown = fitted)).carries
  have harmless := fun shown : Board × List PortSensor =>
    Bridge.harmless_of_sends (carries shown) fun register _ => anything register
  exact Action.keeps_perform action (hidden_fitting action) carries harmless
    (fun _ _ _ holds => holds) (Action.sends_of_all anything action)

theorem performEach_keeps {fitted : Board × List PortSensor} {switches : List Switch}
    (actions : List Action) {device : Device} (fits : device.fitting = fitted)
    (same : switchesIn world.2 = switches) :
    (Action.performEach host.recording actions device world).1.fitting = fitted ∧
      switchesIn (Action.performEach host.recording actions device world).2.2 = switches := by
  induction actions generalizing device world with
  | nil => exact ⟨fits, same⟩
  | cons action rest ih =>
      have kept := @action_keeps σ host fitted switches action device world ⟨fits, same⟩
      unfold Action.performEach
      unfold Ends at kept
      generalize action.perform host.recording device world = run at kept ⊢
      obtain ⟨outcome, after, left⟩ := run
      cases outcome with
      | done _ => exact ih kept.1 kept.2
      | failed error => exact ih kept.1 kept.2
      | aborted => exact ih kept.1 kept.2

theorem appends_detach (answers : Answers host) :
    Appends host (fun device => device.fitting = (board, board.sensors))
      (board.resources.map Resource.turnedOff) detach := by
  have stage : Appends host (fun device : Device => device.fitting = (board, board.sensors)) []
      (setStage .idle) :=
    appends_state.bind fun _ => appends_note.bind fun _ => appends_modify fun _ => id
  have down : Appends host (fun device : Device => device.fitting = (board, board.sensors))
      ((IspPower.resources ++ sensorResources board.sensors).map Resource.turnedOff ++ [])
      detach :=
    appends_note.bind fun _ => (appends_powerOffAll answers).bind fun _ => stage
  rwa [List.append_nil, ← Board.resources_eq] at down

/-- Power is balanced over the life of a device. Every resource goes on and off by turns; an attach
that fails leaves all of them off; one that succeeds leaves on exactly what the board needs, which
stays on through any actions; and the detach then turns each of these off, once. -/
theorem power_balanced (answers : Answers host) (wiring : Wiring) (config : BoardConfig) (state : S)
    (start : σ) :
    (attach wiring config).Ends host.recording state (start, []) fun outcome _ left =>
      (∀ resource : Resource, Alternates false (resource.levels (switchesIn left.2))) ∧
        match outcome with
        | .aborted => False
        | .failed _ => ∀ resource : Resource, ¬ resource.IsOn (switchesIn left.2)
        | .done device =>
            ∃ board, Board.ofConfig config = .ok board ∧
              (∀ resource : Resource,
                resource.IsOn (switchesIn left.2) ↔ resource ∈ board.resources) ∧
              ∀ actions, match Action.performEach host.recording actions device left with
                | (after, used) => switchesIn used.2 = switchesIn left.2 ∧
                    detach.Gives host.recording after used fun _ _ gone =>
                      ∀ resource : Resource, resource.levels (switchesIn gone.2) =
                        resource.levels (switchesIn left.2) ++
                          if resource ∈ board.resources then [false] else [] := by
  have lit : Lit [] (start, ([] : List Exchange)) := live_nil
  refine (attach_lights answers wiring config lit).mono ?_
  intro outcome _ left attached
  cases outcome with
  | done device =>
      obtain ⟨board, accepted, fits, lit⟩ := attached
      refine ⟨lit.alternates, board, accepted, lit.isOn_iff, fun actions => ?_⟩
      obtain ⟨still, same⟩ := performEach_keeps actions fits (Eq.refl (switchesIn left.2))
      refine ⟨same, ?_⟩
      refine (appends_detach answers _ _ still).mono ?_
      intro _ _ gone off resource
      rw [off.2, same, Resource.levels_append,
        Resource.levels_turnedOff (Board.nodup_resources accepted)]
  | failed error =>
      refine ⟨attached.alternates, fun resource on => ?_⟩
      exact nomatch (attached.isOn_iff resource).mp on
  | aborted => exact attached.elim

theorem answers_steadyHost : Answers steadyHost := by
  intro request world
  cases request <;> rfl

theorem twoSensors_attach :
    (attach ⟨true, true⟩ ⟨some "onnn,ar0144", [1, 0], 4⟩).Ends steadyHost.recording () ((), [])
      fun outcome _ _ => succeeds outcome = true := by
  unfold Routine.Ends
  decide +kernel

/-- On a board with two sensors an attach, a start of the stream and a detach all go through. -/
theorem twoSensors_balanced :
    Answers steadyHost ∧
      (attach ⟨true, true⟩ ⟨some "onnn,ar0144", [1, 0], 4⟩).Gives steadyHost.recording ()
        ((), []) fun device _ left =>
          ∃ board, Board.ofConfig ⟨some "onnn,ar0144", [1, 0], 4⟩ = .ok board ∧
            (∀ resource : Resource,
              resource.IsOn (switchesIn left.2) ↔ resource ∈ board.resources) ∧
            match Action.performEach steadyHost.recording [.setStream true] device left with
            | (after, used) => detach.Gives steadyHost.recording after used fun _ _ gone =>
                ∀ resource : Resource, resource.levels (switchesIn gone.2) =
                  resource.levels (switchesIn left.2) ++
                    if resource ∈ board.resources then [false] else [] := by
  refine ⟨answers_steadyHost, ?_⟩
  have balanced := power_balanced answers_steadyHost ⟨true, true⟩
    ⟨some "onnn,ar0144", [1, 0], 4⟩ () ()
  have attached := twoSensors_attach
  unfold Routine.Gives
  unfold Routine.Ends at balanced attached ⊢
  generalize attach _ _ steadyHost.recording () ((), []) = run at balanced attached ⊢
  obtain ⟨outcome, after, left⟩ := run
  cases outcome with
  | done device =>
      obtain ⟨-, board, accepted, on, used⟩ := balanced
      exact ⟨board, accepted, on, (used [.setStream true]).2⟩
  | failed error => cases attached
  | aborted => cases attached

end Device

end IspDriver
