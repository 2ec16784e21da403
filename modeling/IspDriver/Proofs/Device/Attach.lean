import IspDriver.Proofs.Device.Attempt
import IspDriver.Proofs.Device.Stream

/-!
How an attach ends on a bench where nothing fails but some checksums, for any board, any firmware
file and any number of these: which attempt is the last one, what it leaves, and how often the
processor was powered until then.
-/

namespace IspDriver

open Routine Simulation

namespace Device

variable {S : Type} {state : S} {device : Device} {bench : Bench} {past : List Event}
  {failures : Nat} {image : FirmwareImage}

theorem bootAttempts_after (tries : Nat) {number left : Nat}
    {post : Outcome Unit → Device → Bench → Prop} (rested : Rested failures past device bench)
    (fails : ∀ i < tries, ¬ image.Passes (failures - i))
    (next : ∀ number after middle,
      Rested (failures - tries) (past ++ IspPower.cycles tries) after middle →
        (bootAttempts image number left).Ends Bench.host after middle post) :
    (bootAttempts image number (left + tries)).Ends Bench.host device bench post := by
  induction tries generalizing failures past number device bench with
  | zero =>
      refine next number device bench ?_
      rwa [IspPower.cycles, List.replicate_zero, List.flatten_nil, List.append_nil]
  | succ tries ih =>
      -- The attempt in front uses up one wrong checksum and adds one power cycle.
      refine bootAttempts_fails rested (fails 0 (Nat.succ_pos tries)) fun after middle rested => ?_
      refine ih rested (fun i within => ?_) fun number after middle rested => next number _ _ ?_
      · rw [Nat.sub_sub, Nat.add_comm]
        exact fails (i + 1) (Nat.succ_lt_succ within)
      · rwa [Nat.sub_sub, Nat.add_comm, List.append_assoc, ← IspPower.cycles_succ] at rested

theorem powerOffSensors_gives (quiet : device.Quiet) (stands : bench.Stands past) :
    powerOffSensors.Gives Bench.host device bench fun _ _ left => left.Stands past := by
  refine ends_bind.mpr (ends_state.mpr ?_)
  have off := SensorPower.moves_powerOffEach quiet.apart device bench stands.plain
  refine Gives.mono off fun _ _ left moved => ?_
  have stands := stands.move moved
  rwa [List.append_nil] at stands

theorem powerOnSensors_gives (rested : Rested failures past device bench) :
    powerOnSensors.Gives Bench.host device bench fun _ after left =>
      Rested failures past after left := by
  have on : powerOnSensors.Gives Bench.host device bench fun _ _ left =>
      bench.Moved id [] left := by
    refine ends_bind.mpr (ends_state.mpr ?_)
    exact SensorPower.moves_powerOnAfter rested.quiet.apart device bench rested.stands.plain
  refine (on.keeping keeps_fact_powerOnSensors rested.quiet).mono fun _ after left given => ?_
  obtain ⟨quiet, moved⟩ := given
  have stands := rested.stands.move moved
  rw [List.append_nil] at stands
  refine ⟨quiet, stands, ?_, ?_⟩
  · rw [moved.chip]
    exact rested.asleep
  · rw [moved.chip]
    exact rested.spoils

theorem exhausted_ends {number : Nat} (rested : Rested failures past device bench) :
    (bootAttempts image number 0).Ends Bench.host device bench fun outcome _ left =>
      outcome = .failed (.timeout (.firmwareAttempts attemptLimit)) ∧ left.Stands past := by
  refine rested.stands.note.bind fun _ _ noted given => ?_
  obtain ⟨rfl, -, stands⟩ := given
  refine (powerOffSensors_gives rested.quiet stands).bind fun _ after left stands => ?_
  refine (setStage_gives .failed stands).bind fun _ _ left given => ?_
  exact ⟨rfl, given.2.2⟩

theorem boot_passes (rested : Rested failures past device bench) (few : failures < attemptLimit)
    (fails : ∀ i < failures, ¬ image.Passes (failures - i)) (passes : image.Passes 0) :
    (boot image).Gives Bench.host device bench fun _ after left =>
      Booted image.payload after left.chip ∧
        left.Stands (past ++ IspPower.cycles failures ++ IspPower.powerUp) := by
  obtain ⟨left, attempts⟩ : ∃ left, attemptLimit = left + 1 + failures :=
    ⟨attemptLimit - failures - 1, by omega⟩
  refine (powerOnSensors_gives rested).onError.bind fun _ _ _ rested => ?_
  rw [attempts]
  refine bootAttempts_after failures rested fails fun number after middle rested => ?_
  rw [Nat.sub_self] at rested
  exact bootAttempts_passes rested passes

theorem boot_timesOut (rested : Rested failures past device bench)
    (fails : ∀ i < attemptLimit, ¬ image.Passes (failures - i)) :
    (boot image).Ends Bench.host device bench fun outcome _ left =>
      outcome = .failed (.timeout (.firmwareAttempts attemptLimit)) ∧
        left.Stands (past ++ IspPower.cycles attemptLimit) := by
  refine (powerOnSensors_gives rested).onError.bind fun _ _ _ rested => ?_
  rw [← Nat.zero_add attemptLimit]
  refine bootAttempts_after attemptLimit rested fails fun number after middle rested => ?_
  rw [Nat.zero_add]
  exact exhausted_ends rested

theorem not_passes_of_passes (agrees : image.Passes 0) (spoiled : failures ≠ 0) :
    ¬ image.Passes failures := by
  intro passes
  have wrong : Chip.reported true (Crc.absorbAll Crc.seed image.payload) =
      Crc.absorbAll Crc.seed image.payload := by
    unfold FirmwareImage.Passes at agrees passes
    rw [decide_eq_true spoiled, ← agrees] at passes
    exact UInt16.toUInt32_inj.mp passes
  exact Chip.reported_ne _ wrong

theorem moves_noteAll (remarks : List Note) :
    Moves id [] (Board.noteAll remarks : Routine Bench S Unit) := by
  induction remarks with
  | nil => exact moves_done
  | cons remark rest ih => exact moves_note.bind fun _ => ih

theorem moves_claimSensors (model : SensorModel) (ports : List UInt32) :
    Moves id [] (claimSensors model ports : Routine Bench S (List PortSensor)) := by
  induction ports with
  | nil => exact moves_done
  | cons port rest ih =>
      exact (SensorPower.moves_claim _ model).bind fun _ => ih.bind fun _ => moves_done

theorem fetchImage_gives {name : String} {data : List UInt8} {model : SensorModel} {sensors : Nat}
    (named : Firmware.fileName model sensors = .ok name) (found : bench.files name = .ok data)
    (parsed : FirmwareImage.parse data = .ok image) (plain : bench.faults = {}) :
    (Firmware.fetchImage model sensors : Routine Bench S FirmwareImage).Gives Bench.host state bench
      fun value _ left => value = image ∧ bench.Moved id [] left := by
  unfold Firmware.fetchImage
  rw [named, ofExcept_ok_bind]
  refine (moves_note state bench plain).bind fun _ after noted moved => ?_
  have stored : noted.files name = .ok data := by rw [moved.files, found]
  have fetched : (Host.fetch name : Routine Bench S (List UInt8)).Gives Bench.host after noted
      fun value _ left => value = data ∧ left = noted := by
    refine ends_bind.mpr (ends_ask.mpr ?_)
    simp only [Bench.host, followed, stored]
    exact ⟨rfl, rfl⟩
  refine fetched.bind fun _ _ _ given => ?_
  obtain ⟨rfl, rfl⟩ := given
  unfold FirmwareImage.accept
  rw [parsed, ofExcept_ok_bind]
  split
  · exact ⟨rfl, moved.trans (Bench.moved_same moved.plain _)⟩
  · exact ⟨rfl, moved⟩

theorem apart_of_sensors {config : BoardConfig} {board : Board}
    (accepted : Board.ofConfig config = .ok board) :
    ∀ sensor ∈ board.sensors, sensor.power.IsApart := by
  obtain ⟨known, among⟩ := Board.mem_of_ofConfig accepted
  have apart : ∀ model ∈ SensorModel.all, ∀ ports ∈ ([[], [0], [1], [0, 1]] : List (List UInt32)),
      ∀ sensor ∈ Board.sensors ⟨model, ports, 1⟩, ∀ rail ∈ sensor.power.rails,
        rail.consumer ≠ IspPower.consumer := by decide
  exact apart board.model known board.ports among

variable {config : BoardConfig} {board : Board} {name : String} {data : List UInt8}

/-- What holds of a boot when `post` holds of the device that is handed out after it. -/
def handedOut (post : Outcome Device → Bench → Prop) : Outcome Unit → Device → Bench → Prop
  | .done _ => fun device left => post (.done device) left
  | .failed error => fun _ left => post (.failed error) left
  | .aborted => fun _ left => post .aborted left

theorem bringUp_ends_of_boot {post : Outcome Device → Bench → Prop}
    (accepted : Board.ofConfig config = .ok board)
    (named : Firmware.fileName board.model board.ports.length = .ok name)
    (found : bench.files name = .ok data) (parsed : FirmwareImage.parse data = .ok image)
    (stands : bench.Stands past) (spoils : bench.chip.OnlySpoils failures)
    (boots : ∀ device middle, Rested failures (past ++ [.line .reset true]) device middle →
      (boot image).Ends Bench.host device middle (handedOut post)) (hasStandby : Bool) :
    (bringUp hasStandby board).Ends Bench.host state bench fun outcome _ left =>
      post outcome left := by
  refine (IspPower.moves_claim hasStandby state bench stands.plain).bind
    fun power unclaimed claimed reset => ?_
  refine ((moves_claimSensors board.model board.ports unclaimed claimed reset.plain).and_yields
    (claimSensors_yields board.model board.ports)).bind fun sensors _ equipped given => ?_
  obtain ⟨quietly, rfl⟩ := given
  have moved := reset.trans quietly
  have stored : equipped.files name = .ok data := by rw [moved.files, found]
  refine (fetchImage_gives named stored parsed moved.plain).bind fun _ _ fetched given => ?_
  obtain ⟨rfl, quietly⟩ := given
  have moved := moved.trans quietly
  refine (moves_note _ fetched moved.plain).bind fun _ _ ready quietly => ?_
  have moved := moved.trans quietly
  rw [ends_bind, ends_startingFrom]
  refine (boots _ ready ⟨⟨?_, ?_⟩, stands.move moved, ?_, ?_⟩).mono ?_
  · rfl
  · intro power member
    obtain ⟨sensor, among, rfl⟩ := List.mem_map.mp member
    exact apart_of_sensors accepted sensor among
  · rw [moved.chip]
    rfl
  · rw [moved.chip]
    exact spoils.setReset true
  · intro outcome after left ended
    cases outcome with
    | done _ => exact ended
    | failed error => exact ended
    | aborted => exact ended

theorem cleaned_ends_of_boot {post : Outcome Device → Bench → Prop}
    (accepted : Board.ofConfig config = .ok board)
    (named : Firmware.fileName board.model board.ports.length = .ok name)
    (found : bench.files name = .ok data) (parsed : FirmwareImage.parse data = .ok image)
    (stands : bench.Stands past) (spoils : bench.chip.OnlySpoils failures)
    (boots : ∀ device middle, Rested failures (past ++ [.line .reset true]) device middle →
      (boot image).Ends Bench.host device middle (handedOut post))
    (released : ∀ error left, post (.failed error) left →
      left.faults = {} ∧ ∀ after, left.Moved id [] after → post (.failed error) after)
    {cleanup : Error → Routine Bench S Unit} (cleans : ∀ error, Moves id [] (cleanup error))
    (hasStandby : Bool) :
    (onError (bringUp hasStandby board) cleanup).Ends Bench.host state bench
      fun outcome _ left => post outcome left := by
  refine ends_onError.mpr
    ((bringUp_ends_of_boot accepted named found parsed stands spoils boots hasStandby).mono ?_)
  intro outcome after left ended
  cases outcome with
  | done device => exact ended
  | failed error =>
      -- The cleanup does not move the power, so what holds of the failure holds after it.
      obtain ⟨plain, still⟩ := released error left ended
      refine Ends.mono (cleans error after left plain) ?_
      intro outcome _ gone moved
      cases outcome with
      | done _ => exact still gone moved
      | failed error => exact moved.elim
      | aborted => exact moved.elim
  | aborted => exact ended

theorem attach_ends_of_boot (post : Outcome Device → Bench → Prop)
    (accepted : Board.ofConfig config = .ok board)
    (named : Firmware.fileName board.model board.ports.length = .ok name)
    (found : bench.files name = .ok data) (parsed : FirmwareImage.parse data = .ok image)
    (stands : bench.Stands past) (spoils : bench.chip.OnlySpoils failures)
    (boots : ∀ device middle, Rested failures (past ++ [.line .reset true]) device middle →
      (boot image).Ends Bench.host device middle (handedOut post))
    (released : ∀ error left, post (.failed error) left →
      left.faults = {} ∧ ∀ after, left.Moved id [] after → post (.failed error) after)
    (wiring : Wiring) :
    (attach wiring config).Ends Bench.host state bench fun outcome _ left => post outcome left := by
  have brought : ∀ after middle, bench.Moved id [] middle →
      ∀ cleanup : Error → Routine Bench S Unit, (∀ error, Moves id [] (cleanup error)) →
        (onError (bringUp wiring.hasStandby board) cleanup).Ends Bench.host after middle
          fun outcome _ left => post outcome left := by
    intro after middle moved cleanup cleans
    have stored : middle.files name = .ok data := by rw [moved.files, found]
    have stands := stands.move moved
    rw [List.append_nil] at stands
    rw [← show middle.chip = bench.chip from moved.chip] at spoils
    exact cleaned_ends_of_boot accepted named stored parsed stands spoils boots released cleans _
  unfold attach Board.accept
  rw [accepted]
  have remarked := moves_noteAll (Board.remarks config) state bench stands.plain
  refine ends_bind.mpr (remarked.bind fun _ after noted moved => ?_)
  simp only [ends_ofExcept, followed]
  split
  · refine (moves_setLine (by decide) after noted moved.plain).bind fun _ _ _ raised => ?_
    refine brought _ _ (moved.trans raised) _ fun error => ?_
    refine (moves_setLine (by decide)).attempt.bind fun result => ?_
    cases result with
    | ok _ => exact moves_done
    | error error => exact moves_note
  · exact brought _ _ moved _ fun _ => moves_done

theorem attach_verifies (accepted : Board.ofConfig config = .ok board)
    (named : Firmware.fileName board.model board.ports.length = .ok name)
    (found : bench.files name = .ok data) (parsed : FirmwareImage.parse data = .ok image)
    (stands : bench.Stands past) (spoils : bench.chip.OnlySpoils failures)
    (few : failures < attemptLimit) (passes : image.Passes 0) (wiring : Wiring) :
    (attach wiring config).Ends Bench.host state bench fun outcome _ left =>
      ∃ device, outcome = .done device ∧ Booted image.payload device left.chip ∧ left.Stands
        (past ++ [.line .reset true] ++ IspPower.cycles failures ++ IspPower.powerUp) := by
  refine attach_ends_of_boot (fun outcome left => ∃ device, outcome = .done device ∧
    Booted image.payload device left.chip ∧ left.Stands
      (past ++ [.line .reset true] ++ IspPower.cycles failures ++ IspPower.powerUp))
    accepted named found parsed stands spoils (fun device middle rested => ?_)
    (fun error left failed => ?_) wiring
  · have fails : ∀ i < failures, ¬ image.Passes (failures - i) :=
      fun i within => not_passes_of_passes passes (Nat.sub_ne_zero_of_lt within)
    refine (boot_passes rested few fails passes).ends.mono ?_
    intro outcome after left ended
    obtain ⟨_, rfl, booted, stands⟩ := ended
    exact ⟨after, rfl, booted, stands⟩
  · obtain ⟨device, done, -⟩ := failed
    cases done

theorem attach_timesOut (accepted : Board.ofConfig config = .ok board)
    (named : Firmware.fileName board.model board.ports.length = .ok name)
    (found : bench.files name = .ok data) (parsed : FirmwareImage.parse data = .ok image)
    (stands : bench.Stands past) (spoils : bench.chip.OnlySpoils failures)
    (fails : ∀ i < attemptLimit, ¬ image.Passes (failures - i)) (wiring : Wiring) :
    (attach wiring config).Ends Bench.host state bench fun outcome _ left =>
      outcome = .failed (.timeout (.firmwareAttempts attemptLimit)) ∧
        left.Stands (past ++ [.line .reset true] ++ IspPower.cycles attemptLimit) := by
  refine attach_ends_of_boot (fun outcome left =>
    outcome = .failed (.timeout (.firmwareAttempts attemptLimit)) ∧
      left.Stands (past ++ [.line .reset true] ++ IspPower.cycles attemptLimit))
    accepted named found parsed stands spoils (fun device middle rested => ?_)
    (fun error left ended => ⟨ended.2.plain, fun after moved => ⟨ended.1, ?_⟩⟩) wiring
  · refine (boot_timesOut rested fails).mono ?_
    intro outcome after left ended
    obtain ⟨rfl, stands⟩ := ended
    exact ⟨rfl, stands⟩
  · have stands := ended.2.move moved
    rwa [List.append_nil] at stands

theorem fileName_of_accepted {config : BoardConfig} {board : Board}
    (accepted : Board.ofConfig config = .ok board) :
    ∃ name, Firmware.fileName board.model board.ports.length = .ok name := by
  obtain ⟨known, among⟩ := Board.mem_of_ofConfig accepted
  have named : ∀ model ∈ SensorModel.all, ∀ ports ∈ ([[], [0], [1], [0, 1]] : List (List UInt32)),
      (Firmware.fileName model ports.length).toOption.isSome := by decide
  have isSome := named board.model known board.ports among
  cases found : Firmware.fileName board.model board.ports.length with
  | ok name => exact ⟨name, rfl⟩
  | error error =>
      rw [found] at isSome
      cases isSome

/-- Any accepted board on a chip that is healthy but for its first `count` checksums, with any image
under the name of the board's file. If the header declares the checksum of the payload, up to two
wrong ones are made up for: the attach succeeds after one full power cycle for each and one more
power-up, and leaves the chip stalled with the payload in it. With more of them, or if the header
declares another checksum and the chip reports the right one, the attach gives up after three full
power cycles. -/
theorem attach_outcome {config : BoardConfig} {board : Board}
    (accepted : Board.ofConfig config = .ok board) (wiring : Wiring) (state : S) :
    ∃ name, Firmware.fileName board.model board.ports.length = .ok name ∧
      ∀ (files : String → Except Error (List UInt8)) (data : List UInt8) (image : FirmwareImage)
        (count : UInt32), files name = .ok data → FirmwareImage.parse data = .ok image →
        let payload := FirmwareHeader.declaredPayload data
        let agrees := (Crc.absorbAll 0xffff payload).toUInt32 = FirmwareHeader.declaredCrc data
        let bench : Bench := { Bench.fresh with chip := Chip.fresh.failCrcs count, files }
        (attach wiring config).Ends Bench.host state bench fun outcome _ left =>
          (agrees → count ≤ 2 → ∃ device, outcome = .done device ∧ Booted payload device left.chip ∧
            left.powerEvents =
              .line .reset true :: (IspPower.cycles count.toNat ++ IspPower.powerUp)) ∧
          (agrees ∧ 3 ≤ count ∨ ¬ agrees ∧ count = 0 →
            outcome = .failed (.timeout (.firmwareAttempts 3)) ∧
              left.powerEvents = .line .reset true :: IspPower.cycles 3) := by
  obtain ⟨name, named⟩ := fileName_of_accepted accepted
  refine ⟨name, named, fun files data image count found parsed => ?_⟩
  intro payload agrees bench
  obtain ⟨received, expected⟩ := FirmwareImage.eq_of_parse parsed
  -- With no wrong checksum left the chip reports its own, which is the one the header is held to.
  have passes : image.Passes 0 ↔ agrees := by
    simp only [FirmwareImage.Passes, received, expected]
    exact Iff.rfl
  have stands : bench.Stands [] := ⟨rfl, rfl⟩
  have spoils : bench.chip.OnlySpoils count.toNat := ⟨rfl, rfl, rfl, rfl⟩
  refine Ends.and (ends_forall fun fits => ends_forall fun few => ?_)
    (ends_forall fun hopeless => ?_)
  · have within : count.toNat < attemptLimit := Nat.lt_succ_of_le (UInt32.le_iff_toNat_le.mp few)
    have verified := @attach_verifies S state bench [] count.toNat image config board name data
      accepted named found parsed stands spoils within (passes.mpr fits) wiring
    refine verified.mono fun outcome _ left ended => ?_
    obtain ⟨device, done, booted, stands⟩ := ended
    rw [received] at booted
    exact ⟨device, done, booted, stands.happened⟩
  · have fails : ∀ i < attemptLimit, ¬ image.Passes (count.toNat - i) := by
      intro i within
      rcases hopeless with ⟨fits, many⟩ | ⟨differs, none⟩
      · have many : 3 ≤ count.toNat := UInt32.le_iff_toNat_le.mp many
        simp only [attemptLimit] at within
        exact not_passes_of_passes (passes.mpr fits) (by omega)
      · have zero : count.toNat - i = 0 := by simp [none]
        rw [zero]
        exact fun passed => differs (passes.mp passed)
    have timedOut := @attach_timesOut S state bench [] count.toNat image config board name data
      accepted named found parsed stands spoils fails wiring
    exact timedOut.mono fun _ _ _ ended => ⟨ended.1, ended.2.happened⟩

/-- A board with one sensor, whose chip reports two wrong checksums, is up at the third attempt. -/
theorem oneSensor_attaches :
    let bench : Bench := { stockedBench with chip := Chip.fresh.failCrcs 2 }
    Board.ofConfig oneSensor = .ok ⟨.ar0144, [0], 4⟩ ∧
      (attach ⟨true, true⟩ oneSensor).Ends Bench.host () bench fun outcome _ left =>
        ∃ device, outcome = .done device ∧ Booted [0, 31] device left.chip ∧
          left.powerEvents = .line .reset true :: (IspPower.cycles 2 ++ IspPower.powerUp) := by
  have accepted : Board.ofConfig oneSensor = .ok ⟨.ar0144, [0], 4⟩ := by decide
  have header : FirmwareHeader.parse (FirmwareImage.synthetic 1 2) = .ok ⟨0xfed1, 31, 1, 2⟩ := by
    decide +kernel
  have parsed : FirmwareImage.parse (FirmwareImage.synthetic 1 2) =
      .ok ⟨⟨0xfed1, 31, 1, 2⟩, [0, 31], by decide, by decide⟩ := by
    rw [FirmwareImage.parse, header]
    rfl
  have payload : FirmwareHeader.declaredPayload (FirmwareImage.synthetic 1 2) = [0, 31] := by
    decide +kernel
  have fits : (Crc.absorbAll 0xffff [0, 31]).toUInt32 =
      FirmwareHeader.declaredCrc (FirmwareImage.synthetic 1 2) := by decide +kernel
  refine ⟨accepted, ?_⟩
  obtain ⟨name, named, outcome⟩ := attach_outcome accepted ⟨true, true⟩ ()
  have ended := outcome stockedBench.files _ _ 2 rfl parsed
  rw [payload] at ended
  exact Ends.mono ended fun _ _ _ given => given.1 fits (by decide)

end Device

end IspDriver
