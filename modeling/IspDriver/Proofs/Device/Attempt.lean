import IspDriver.Proofs.Device.Action
import IspDriver.Proofs.Device.Boot
import IspDriver.Proofs.Firmware.Download
import IspDriver.Proofs.Power.Cycles

/-!
One attempt to boot, on a chip of which nothing fails but the checksums of some downloads to come.
Each attempt starts from a chip held in reset. Either its checksum passes, and the chip is stalled
with the payload in it, or the next attempt starts one power cycle and one wrong checksum later.
-/

namespace IspDriver

open Routine Simulation

namespace Simulation

/-- Nothing fails on the chip but the checksums of its next downloads, this many. -/
structure Chip.OnlySpoils (failures : Nat) (chip : Chip) : Prop where
  reads : chip.faults.reads = []
  writes : chip.faults.writes = []
  runs : chip.faults.copyStuck = false
  count : chip.faults.crcFailures.toNat = failures

namespace Chip

variable {chip : Chip} {failures : Nat} {spoiled : Bool} {bytes : List UInt8}

theorem OnlySpoils.sound (spoils : chip.OnlySpoils failures) (awake : chip.inReset = false) :
    chip.Sound :=
  ⟨awake, spoils.reads, spoils.writes, spoils.runs⟩

theorem OnlySpoils.setReset (spoils : chip.OnlySpoils failures) (active : Bool) :
    (chip.setReset active).OnlySpoils failures := by
  have same : (chip.setReset active).faults = chip.faults := by
    unfold Chip.setReset
    split
    · rfl
    · split <;> rfl
  exact ⟨by rw [same, spoils.reads], by rw [same, spoils.writes], by rw [same, spoils.runs],
    by rw [same, spoils.count]⟩

theorem OnlySpoils.decide_ne (spoils : chip.OnlySpoils failures) :
    decide (chip.faults.crcFailures ≠ 0) = decide (failures ≠ 0) := by
  rw [← spoils.count, decide_eq_decide, ne_eq, ne_eq, not_iff_not]
  exact UInt32.toNat_inj.symm

theorem OnlySpoils.begun (spoils : chip.OnlySpoils failures) {after : Chip}
    (received : after.Received chip.faults.begun spoiled bytes) :
    after.OnlySpoils (failures - 1) := by
  have same := received.faults
  unfold ChipFaults.begun at same
  split at same
  · next left =>
      have positive : 1 ≤ chip.faults.crcFailures.toNat := by
        have nonzero : chip.faults.crcFailures.toNat ≠ 0 := fun zero =>
          left (UInt32.toNat_inj.mp zero)
        omega
      refine ⟨received.reads, received.writes, by rw [same]; exact spoils.runs, ?_⟩
      rw [same, ← spoils.count]
      exact UInt32.toNat_sub_of_le _ _ (UInt32.le_iff_toNat_le.mpr positive)
  · next none =>
      have zero : chip.faults.crcFailures = 0 := by simpa using none
      refine ⟨received.reads, received.writes, by rw [same]; exact spoils.runs, ?_⟩
      rw [same, ← spoils.count, zero]
      rfl

/-- A chip out of reset that has its defaults. -/
structure Woken (failures : Nat) (chip : Chip) : Prop where
  awake : chip.inReset = false
  spoils : chip.OnlySpoils failures
  memory : chip.memory = defaultMemory

theorem woken_of_asleep (asleep : chip.inReset = true) (spoils : chip.OnlySpoils failures) :
    (chip.setReset false).Woken failures := by
  refine ⟨?_, spoils.setReset false, ?_⟩
  · simp [Chip.setReset, asleep]
  · simp [Chip.setReset, asleep, restart]

/-- The chip once it has taken all that a stall sends. -/
def stalled (chip : Chip) : Chip :=
  ((chip.taken Layout.systemStart.offset
      (RegisterMap.busBytes Layout.systemStart Layout.SystemStart.stallPrepared)).taken
    Layout.systemStart.offset
      (RegisterMap.busBytes Layout.systemStart Layout.SystemStart.stalled)).turned
    Layout.interruptEnable.page Layout.interruptEnable.busOffset
      (RegisterMap.busBytes Layout.interruptEnable
        (Layout.Interrupt.sensorPorts ||| Layout.Interrupt.fifoWrite))

theorem Shows.stalled {start : Nat} (shows : chip.Shows start bytes)
    (below : start + bytes.length ≤ Layout.systemStart.offset.toNat) :
    chip.stalled.Shows start bytes := by
  have length : ∀ word, (RegisterMap.busBytes Layout.systemStart word).length = 2 :=
    fun word => RegisterMap.length_busBytes word (by decide)
  refine Shows.turned ?_ (.inr (Nat.le_trans below (by decide)))
  exact (shows.taken (.inr below)).taken (.inr below)

theorem Sound.peek?_stalled (sound : chip.Sound) :
    chip.stalled.peek? Layout.systemStart = some Layout.SystemStart.stalled ∧
      chip.stalled.peek? Layout.interruptEnable =
        some (Layout.Interrupt.sensorPorts ||| Layout.Interrupt.fifoWrite) := by
  constructor
  · have prepared : (chip.taken Layout.systemStart.offset
        (RegisterMap.busBytes Layout.systemStart Layout.SystemStart.stallPrepared)).Sound :=
      sound.taken
    have shows : chip.stalled.Shows Layout.systemStart.offset.toNat
        (RegisterMap.busBytes Layout.systemStart Layout.SystemStart.stalled) :=
      prepared.shows_taken.turned (.inr (by decide))
    rw [RegisterMap.busBytes_of_two (by decide)] at shows
    exact shows.peek? (by decide) (by decide) (by decide)
  · have inside : chip.stalled.peek? Layout.interruptEnable = some (Bytes.bigEndian
        ((chip.stalled.pages Layout.interruptEnable.page).load 0 4)) := rfl
    have loaded : (chip.stalled.pages Layout.interruptEnable.page).load 0 4 =
        Bytes.ofUInt32 (Layout.Interrupt.sensorPorts ||| Layout.Interrupt.fifoWrite) :=
      load_turned _ Layout.interruptEnable.page Layout.interruptEnable.busOffset
        (RegisterMap.busBytes Layout.interruptEnable
          (Layout.Interrupt.sensorPorts ||| Layout.Interrupt.fifoWrite))
    rw [inside, loaded, Bytes.bigEndian_ofUInt32]

end Chip

/-- Nothing fails on the bench besides its chip, and this has happened to the power of the
processor. -/
structure Bench.Stands (past : List Event) (bench : Bench) : Prop where
  plain : bench.faults = {}
  happened : bench.powerEvents = past

namespace Bench

variable {bench : Bench} {past : List Event}

theorem Stands.move {change : Chip → Chip} {events : List Event} {after : Bench}
    (stands : bench.Stands past) (moved : bench.Moved change events after) :
    after.Stands (past ++ events) :=
  ⟨moved.plain, stands.happened ▸ moved.happened⟩

theorem Stands.note {S : Type} {state : S} {level : Level} {text : String}
    (stands : bench.Stands past) :
    (note level text : Routine Bench S Unit).Gives Bench.host state bench fun _ after left =>
      after = state ∧ left.chip = bench.chip ∧ left.Stands past :=
  ⟨rfl, rfl, stands.plain, stands.happened⟩

theorem undisturbed_stands (past : List Event) :
    Undisturbed Bench.host (fun _ _ => True) (Stands past) (Stands past) := by
  refine undisturbed_besides (fun _ _ stands => ⟨stands.plain, stands.happened⟩)
    (fun bench microseconds stands => ⟨stands.plain, ?_⟩)
    fun _ _ stands => ⟨stands.plain, stands.happened⟩
  exact stands.happened

end Bench

end Simulation

/-- A chip that has this many wrong checksums left reports the one that the image declares. -/
def FirmwareImage.Passes (image : FirmwareImage) (failures : Nat) : Prop :=
  (Chip.reported (decide (failures ≠ 0)) (Crc.absorbAll Crc.seed image.payload)).toUInt32 =
    image.expectedCrc

namespace Device

variable {device : Device} {bench : Bench} {past : List Event} {failures : Nat}
  {image : FirmwareImage}

theorem setStage_gives (stage : BootStage) (stands : bench.Stands past) :
    (setStage stage).Gives Bench.host device bench fun _ after left =>
      after = { device with stage } ∧ left.chip = bench.chip ∧ left.Stands past :=
  ⟨rfl, rfl, stands.plain, stands.happened⟩

theorem load_gives {register : Register} (width : register.width = 2 ∨ register.width = 4)
    (direct : register.page = 0) (notPaged : Chip.inPageWindow register.offset = false)
    (notCrc : register.offset ≠ Layout.firmwareCrc.offset)
    (span : Chip.spanFault? register.offset register.width.toNat = none)
    (stands : bench.Stands past) (woken : bench.chip.Woken failures) :
    (onRegisters (RegisterMap.read register)).Gives Bench.host device bench
      fun found after left => left.Stands past ∧ after = device ∧ left.chip = bench.chip ∧
        found = Bytes.bigEndian
          (Chip.defaultMemory.load register.offset.toNat register.width.toNat) := by
  have plain : bench.faults.overrides = [] := by rw [stands.plain]
  have loaded := @Bench.load_gives bench device.registers register width direct notPaged notCrc span
    plain (woken.spoils.sound woken.awake)
  have found : (onRegisters (RegisterMap.read register)).Gives Bench.host device bench
      fun found _ left => left.chip = bench.chip ∧ found = Bytes.bigEndian
        (Chip.defaultMemory.load register.offset.toNat register.width.toNat) := by
    refine Gives.act (Gives.mono loaded fun value _ left loaded => ?_)
    rw [← woken.memory]
    exact loaded.2.2
  have unchanged : Keeps Bench.host (fun after _ => after = device) (fun _ _ => True)
      (onRegisters (RegisterMap.read register)) :=
    keeps_fact_read direct
  have kept : Keeps Bench.host (fun _ => Bench.Stands past) (fun _ => Bench.Stands past)
      (onRegisters (RegisterMap.read register)) :=
    Keeps.act (fun _ => (Bench.undisturbed_stands past).carries.keeps_read) fun _ => rfl
  exact (found.keeping unchanged rfl).keeping kept stands

theorem detectChip_gives (stands : bench.Stands past) (woken : bench.chip.Woken failures) :
    detectChip.Gives Bench.host device bench fun revision after left =>
      after = device ∧ revision = ⟨Chip.modelRevision⟩ ∧ left.chip = bench.chip ∧
        left.Stands past := by
  have version : Bytes.bigEndian (Chip.defaultMemory.load Layout.chipVersion.offset.toNat
      Layout.chipVersion.width.toNat) = Layout.supportedVersion := by decide
  have revision : Bytes.bigEndian (Chip.defaultMemory.load Layout.chipRevision.offset.toNat
      Layout.chipRevision.width.toNat) = Chip.modelRevision.toUInt32 := by decide
  refine (load_gives (by decide) (by decide) (by decide) (by decide) (by decide) stands woken).bind
    fun _ _ middle found => ?_
  obtain ⟨stands, rfl, same, rfl⟩ := found
  rw [← same] at woken
  refine (load_gives (by decide) (by decide) (by decide) (by decide) (by decide) stands woken).bind
    fun _ _ left found => ?_
  obtain ⟨stands, rfl, still, rfl⟩ := found
  rw [version, revision, if_pos rfl]
  exact ⟨rfl, rfl, still.trans same, stands.plain, stands.happened⟩

/-- What a download has left of a device and a bench, whether its checksum passed or not. -/
structure Downloaded (image : FirmwareImage) (failures : Nat) (past : List Event)
    (before after : Device) (left : Bench) : Prop where
  device : ∃ stage, after = { before with stage }
  stands : left.Stands past
  awake : left.chip.inReset = false
  spoils : left.chip.OnlySpoils failures
  firmware : left.chip.firmware = image.payload

theorem announces_stage : Firmware.Announces fun stage : BootStage => (do
    note .debug ("Firmware download: " ++ stage.text)
    modify fun device : Device => { device with stage }) :=
  fun _ _ _ => ⟨rfl, rfl⟩

theorem keeps_stands_loadFirmware (past : List Event) (image : FirmwareImage) :
    Keeps Bench.host (fun _ => Bench.Stands past) (fun _ => Bench.Stands past)
      (loadFirmware image) := by
  have undisturbed := Bench.undisturbed_stands past
  have carries := undisturbed.carries
  refine Firmware.keeps_download (fun _ _ _ => ?_) (Keeps.act (fun _ => carries.keeps_read)
    fun _ => rfl) (fun _ _ => ?_) (fun _ => undisturbed.withstands.keeps_wait)
    (fun _ _ => undisturbed.withstands.keeps_note)
    (fun _ => undisturbed.withstands.keeps_note.bind fun _ => keeps_modify fun _ _ => id) image
  · exact Keeps.act (fun _ => carries.keeps_write fun _ _ => trivial) fun _ => rfl
  · exact Keeps.act (fun _ => Firmware.keeps_writeWindow carries (fun _ _ => trivial) _ _)
      fun _ => rfl

theorem loadFirmware_ends (stands : bench.Stands past) (woken : bench.chip.Woken failures) :
    (loadFirmware image).Ends Bench.host device bench fun outcome after left =>
      Downloaded image (failures - 1) past device after left ∧
        (image.Passes failures → outcome = .done () ∧
          left.chip.Shows Layout.bootStage.offset.toNat
            (RegisterMap.busBytes Layout.bootStage Layout.BootStage.complete)) ∧
        (¬ image.Passes failures → ∃ error, outcome = .failed error ∧ error.isRetryable = true) := by
  have plain : bench.faults.overrides = [] := by rw [stands.plain]
  have reported := @Firmware.download_reported _ bench image registersPart _ device woken.awake
    woken.spoils.reads woken.spoils.writes plain announces_stage
  have entered : Keeps Bench.host (fun after _ => ∃ stage, after = { device with stage })
      (fun _ _ => True) (loadFirmware image) :=
    keeps_fact_loadFirmware (fun _ stage ⟨_, same⟩ => ⟨stage, by rw [same]⟩) image
  refine Ends.mono (Ends.and reported (Ends.and (entered device bench ⟨device.stage, rfl⟩)
    (keeps_stands_loadFirmware past image device bench stands))) ?_
  intro outcome after left ended
  obtain ⟨⟨received, result, complete, -⟩, entered, stands⟩ := ended
  rw [woken.spoils.decide_ne] at result complete
  have spoils := woken.spoils.begun received
  split at result
  · next passes =>
      subst result
      exact ⟨⟨entered, stands, received.awake, spoils, received.firmware⟩,
        fun _ => ⟨rfl, complete passes⟩, fun fails => absurd passes fails⟩
  · next fails =>
      subst result
      exact ⟨⟨entered, stands, received.awake, spoils, received.firmware⟩,
        fun passes => absurd passes fails, fun _ => ⟨_, rfl, rfl⟩⟩

theorem detectAndLoad_ends (stands : bench.Stands past) (woken : bench.chip.Woken failures) :
    (detectAndLoad image).Ends Bench.host device bench fun outcome after left =>
      Downloaded image (failures - 1) past
          { device with revision? := some ⟨Chip.modelRevision⟩ } after left ∧
        (image.Passes failures → outcome = .done () ∧
          left.chip.Shows Layout.bootStage.offset.toNat
            (RegisterMap.busBytes Layout.bootStage Layout.BootStage.complete)) ∧
        (¬ image.Passes failures → ∃ error, outcome = .failed error ∧ error.isRetryable = true) := by
  refine (detectChip_gives stands woken).bind fun _ _ middle found => ?_
  obtain ⟨rfl, rfl, same, stands⟩ := found
  refine ends_bind.mpr (ends_modify.mpr ?_)
  simp only [followed]
  refine (setStage_gives .chipDetected stands).bind fun _ _ entered staged => ?_
  obtain ⟨rfl, still, stands⟩ := staged
  rw [← same, ← still] at woken
  refine (loadFirmware_ends stands woken).mono ?_
  intro outcome after left ended
  obtain ⟨⟨device, stands, awake, spoils, firmware⟩, result⟩ := ended
  exact ⟨⟨device, stands, awake, spoils, firmware⟩, result⟩

theorem stall_gives (unknown : device.registers.page? = none) (sound : bench.chip.Sound) :
    stall.Gives Bench.host device bench fun _ _ left => left.chip = bench.chip.stalled := by
  have ordinary : Chip.IsOrdinary Layout.systemStart.offset := by constructor <;> decide
  have sends : (onRegisters (RegisterMap.writeAll [
      (Layout.systemStart, Layout.SystemStart.stallPrepared),
      (Layout.systemStart, Layout.SystemStart.stalled)])).Gives Bench.host device bench
      fun _ after left => after.registers.page? = none ∧ left.chip.Sound ∧
        left.chip = (bench.chip.taken Layout.systemStart.offset
          (RegisterMap.busBytes Layout.systemStart Layout.SystemStart.stallPrepared)).taken
          Layout.systemStart.offset
          (RegisterMap.busBytes Layout.systemStart Layout.SystemStart.stalled) := by
    refine ends_act.mpr ((Bench.store_gives (by decide) (by decide) ordinary (by decide)
      sound).bind fun _ map middle stored => ?_)
    obtain ⟨rfl, -, prepared⟩ := stored
    have still : middle.chip.Sound := by
      rw [prepared]
      exact sound.taken
    refine (Bench.store_gives (by decide) (by decide) ordinary (by decide) still).bind
      fun _ map left stored => ?_
    obtain ⟨rfl, -, stalled⟩ := stored
    have last : left.chip.Sound := by
      rw [stalled]
      exact still.taken
    rw [prepared] at stalled
    exact ⟨unknown, last, stalled⟩
  refine sends.bind fun _ after middle sent => ?_
  obtain ⟨unknown, sound, same⟩ := sent
  refine Bench.wait_gives.bind fun _ _ _ waited => ?_
  obtain ⟨rfl, rfl⟩ := waited
  -- No page has been selected since the reset, so the last write selects its own.
  rw [Chip.stalled, ← same]
  exact Gives.act (Bench.page_gives (by decide) unknown (by decide) (by decide) (by decide) sound)

/-- The device does not stream, and its sensors have supplies of their own. -/
structure Quiet (device : Device) : Prop where
  idle : device.Idle
  apart : ∀ power ∈ device.sensorPowers, power.IsApart

theorem steady_quiet : Steady Quiet :=
  fun _ _ _ _ _ quiet => ⟨quiet.idle, quiet.apart⟩

/-- Between two attempts: the chip is held in reset, and has this many wrong checksums left. -/
structure Rested (failures : Nat) (past : List Event) (device : Device) (bench : Bench) : Prop where
  quiet : device.Quiet
  stands : bench.Stands past
  asleep : bench.chip.inReset = true
  spoils : bench.chip.OnlySpoils failures

/-- After a download that passed. -/
structure Loaded (image : FirmwareImage) (past : List Event) (device : Device) (bench : Bench) :
    Prop where
  quiet : device.Quiet
  revision : device.revision? = some ⟨Chip.modelRevision⟩
  unknown : device.registers.page? = none
  stands : bench.Stands past
  sound : bench.chip.Sound
  firmware : bench.chip.firmware = image.payload
  complete : bench.chip.Shows Layout.bootStage.offset.toNat
    (RegisterMap.busBytes Layout.bootStage Layout.BootStage.complete)

/-- The device is ready to stream, on a chip that is stalled with the payload in it. -/
structure Booted (payload : List UInt8) (device : Device) (chip : Chip) : Prop where
  stage : device.stage = .verified
  revision : device.revision? = some ⟨Chip.modelRevision⟩
  idle : device.Idle
  firmware : chip.firmware = payload
  complete : chip.peek? Layout.bootStage = some Layout.BootStage.complete
  stalled : chip.peek? Layout.systemStart = some Layout.SystemStart.stalled
  reports : chip.peek? Layout.interruptEnable =
    some (Layout.Interrupt.sensorPorts ||| Layout.Interrupt.fifoWrite)

theorem keeps_stands_stall (shown : Option ChipRevision × Bool) (past : List Event) :
    Keeps Bench.host
      (fun after left => (after.revision?, after.streaming) = shown ∧ left.Stands past)
      (fun after left => (after.revision?, after.streaming) = shown ∧ left.Stands past) stall :=
  @keeps_stall Bench _ Bench.host (fun _ _ => True) _ _
    (fun device => (device.revision?, device.streaming)) (fun _ _ => rfl)
    (fun seen => ((Bench.undisturbed_stands past).known (seen = shown)).carries)
    (fun _ _ => trivial)
    fun _ _ => trivial

theorem finish_gives (loaded : Loaded image past device bench)
    (cleanup : Error → Operation Bench Unit) :
    (do
      onError stall cleanup
      setStage .verified : Operation Bench Unit).Gives Bench.host device bench
      fun _ after left => Booted image.payload after left.chip ∧ left.Stands past := by
  have stalls := (stall_gives loaded.unknown loaded.sound).keeping
    (keeps_stands_stall (device.revision?, device.streaming) past) ⟨rfl, loaded.stands⟩
  refine stalls.onError.bind fun _ after middle stalled => ?_
  obtain ⟨⟨same, stands⟩, stalled⟩ := stalled
  refine (setStage_gives .verified stands).mono fun _ final left staged => ?_
  obtain ⟨rfl, still, stands⟩ := staged
  obtain ⟨start, reports⟩ := loaded.sound.peek?_stalled
  have complete := loaded.complete.stalled (by decide)
  rw [RegisterMap.busBytes_of_two (by decide)] at complete
  rw [still, stalled]
  refine ⟨⟨rfl, ?_, ?_, loaded.firmware, ?_, start, reports⟩, stands⟩
  · exact (congrArg Prod.fst same).trans loaded.revision
  · exact (congrArg Prod.snd same).trans loaded.quiet.idle
  · exact complete.peek? (by decide) (by decide) (by decide)

/-- What follows power-up, detection and download, with the result of these. -/
theorem tried_ends {α : Type} {cleanup : Error → Operation Bench Unit}
    {next : Except Error Unit → Operation Bench α} {post : Outcome α → Device → Bench → Prop}
    (rested : Rested failures past device bench)
    (passed : image.Passes failures → ∀ after left,
      Loaded image (past ++ IspPower.powerUp) after left →
        (next (.ok ())).Ends Bench.host after left post)
    (failed : ¬ image.Passes failures → ∀ error after left, error.isRetryable = true →
      after.Quiet → left.Stands (past ++ IspPower.powerUp) → left.chip.OnlySpoils (failures - 1) →
        (next (.error error)).Ends Bench.host after left post) :
    (do
      onError (onPower IspPower.powerOn) cleanup
      onRegisters RegisterMap.forgetPage
      setStage .poweredOn
      let result ← attempt (detectAndLoad image)
      next result : Operation Bench α).Ends Bench.host device bench post := by
  have powered := (IspPower.moves_powerOn.act device bench rested.stands.plain).keeping
    (keeps_fact_onPower steady_quiet) rested.quiet
  refine powered.onError.bind fun _ risen middle given => ?_
  obtain ⟨quiet, moved⟩ := given
  have stands := rested.stands.move moved
  have woken := Chip.woken_of_asleep rested.asleep rested.spoils
  rw [← moved.chip] at woken
  refine ends_bind.mpr (ends_act.mpr (ends_modify.mpr ?_))
  simp only [followed]
  refine (setStage_gives .poweredOn stands).bind fun _ entered _ staged => ?_
  obtain ⟨rfl, same, stands⟩ := staged
  rw [← same] at woken
  refine ends_bind.mpr (ends_attempt.mpr ((detectAndLoad_ends stands woken).mono ?_))
  intro outcome after left ended
  obtain ⟨⟨⟨stage, rfl⟩, stands, awake, spoils, firmware⟩, accepted, refused⟩ := ended
  -- The way on is settled by the image and the wrong checksums left, before anything is sent.
  by_cases passes : image.Passes failures
  · obtain ⟨rfl, complete⟩ := accepted passes
    exact passed passes _ _
      ⟨steady_quiet risen _ _ _ _ quiet, rfl, rfl, stands, spoils.sound awake, firmware, complete⟩
  · obtain ⟨error, rfl, retryable⟩ := refused passes
    exact failed passes error _ _ retryable (steady_quiet risen _ _ _ _ quiet) stands spoils

theorem bootAttempts_passes {number left : Nat} (rested : Rested failures past device bench)
    (passes : image.Passes failures) :
    (bootAttempts image number (left + 1)).Gives Bench.host device bench fun _ after left =>
      Booted image.payload after left.chip ∧ left.Stands (past ++ IspPower.powerUp) :=
  tried_ends rested (fun _ _ _ loaded => finish_gives loaded _) fun fails => absurd passes fails

theorem bootAttempts_fails {number left : Nat} {post : Outcome Unit → Device → Bench → Prop}
    (rested : Rested failures past device bench) (fails : ¬ image.Passes failures)
    (next : ∀ after middle,
      Rested (failures - 1) (past ++ (IspPower.powerUp ++ IspPower.powerDown)) after middle →
        (bootAttempts image (number + 1) left).Ends Bench.host after middle post) :
    (bootAttempts image number (left + 1)).Ends Bench.host device bench post := by
  refine tried_ends rested (fun passes => absurd passes fails) fun _ error after middle retryable
    quiet stands spoils => ?_
  simp only [retryable, if_true]
  refine stands.note.bind fun _ _ noted given => ?_
  obtain ⟨rfl, same, stands⟩ := given
  rw [← same] at spoils
  refine ((IspPower.moves_powerOff.act _ noted stands.plain).keeping
    (keeps_fact_onPower steady_quiet) quiet).bind fun _ rested left given => ?_
  obtain ⟨quiet, moved⟩ := given
  have stands := stands.move moved
  rw [List.append_assoc] at stands
  refine next rested left ⟨quiet, stands, ?_, ?_⟩
  · rw [moved.chip]
    rfl
  · rw [moved.chip]
    exact spoils.setReset true

end Device

end IspDriver
