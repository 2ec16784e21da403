import IspDriver.Device.Boot
import IspDriver.Proofs.Board
import IspDriver.Proofs.Device.Traffic

/-!
How an attach that succeeds ends, on any host: with a stall that succeeded, on a device that still
has what it was set up with. A boot changes the power, the page, the stage and the revision of a
device and nothing else, whatever fails on the way.
-/

namespace IspDriver

open Routine

section Fact

variable {σ S : Type} {host : Host σ} {fact : S → Prop}

namespace Rail

theorem keeps_fact_disableEach (who : String) (rails : List Rail) :
    Keeps host (fun state _ => fact state) (fun _ _ => True) (disableEach who rails) := by
  induction rails with
  | nil => exact keeps_done
  | cons rail rest ih =>
      refine (keeps_fact_ask.bind fun _ => keeps_ofExcept).attempt.bind fun result => ?_
      cases result with
      | ok _ => exact keeps_done.bind fun _ => ih
      | error error => exact keeps_fact_note.bind fun _ => ih

theorem keeps_fact_enableAfter (who : String) (complaint : Rail → String)
    (enabled rails : List Rail) :
    Keeps host (fun state _ => fact state) (fun _ _ => True)
      (enableAfter who complaint enabled rails) := by
  induction rails generalizing enabled with
  | nil => exact keeps_done
  | cons rail rest ih =>
      refine Keeps.bind ?_ fun _ => keeps_fact_ask.bind fun _ => ih (rail :: enabled)
      refine (keeps_fact_ask.bind fun _ => keeps_ofExcept).onError fun error => ?_
      exact keeps_fact_note.bind fun _ => keeps_fact_disableEach who enabled

end Rail

namespace SensorPower

theorem keeps_fact_powerOffEach (sensors : List SensorPower) :
    Keeps host (fun state _ => fact state) (fun _ _ => True) (powerOffEach sensors) := by
  induction sensors with
  | nil => exact keeps_done
  | cons sensor rest ih => exact (Rail.keeps_fact_disableEach _ _).bind fun _ => ih

theorem keeps_fact_powerOnAfter (running sensors : List SensorPower) :
    Keeps host (fun state _ => fact state) (fun _ _ => True) (powerOnAfter running sensors) := by
  induction sensors generalizing running with
  | nil => exact keeps_done
  | cons sensor rest ih =>
      refine Keeps.bind ?_ fun _ => ih (sensor :: running)
      exact (Rail.keeps_fact_enableAfter _ _ _ _).onError fun _ => keeps_fact_powerOffEach running

end SensorPower

end Fact

namespace Device

/-- The device does not stream. -/
def Idle (device : Device) : Prop :=
  device.streaming = false

/-- The device is set up for the board of a description, and nobody has asked it for anything. -/
structure Installed (config : BoardConfig) (device : Device) : Prop where
  accepted : Board.ofConfig config = .ok device.board
  sensors : device.sensors = device.board.sensors
  formats : device.formats = .initial device.board.model device.board.widthFactor
  controls : device.controls = .defaults
  idle : device.Idle

/-- What a boot changes in a device does not bear on the fact. -/
def Steady (fact : Device → Prop) : Prop :=
  ∀ device registers power stage revision?, fact device →
    fact { device with registers, power, stage, revision? }

/-- How far a boot has come does not bear on the fact. -/
def Unstaged (fact : Device → Prop) : Prop :=
  ∀ device stage revision?, fact device → fact { device with stage, revision? }

theorem Steady.unstaged {fact : Device → Prop} (steady : Steady fact) : Unstaged fact :=
  fun device => steady device device.registers device.power

/-- A fact about a device whose registers take no page to be selected. -/
def Forgetful (fact : Device → Prop) (device : Device) : Prop :=
  fact device ∧ device.registers.page? = none

theorem Unstaged.forgetful {fact : Device → Prop} (unstaged : Unstaged fact) :
    Unstaged (Forgetful fact) :=
  fun device stage revision? holds => ⟨unstaged device stage revision? holds.1, holds.2⟩

theorem steady_idle : Steady Idle :=
  fun _ _ _ _ _ idle => idle

theorem steady_installed (config : BoardConfig) : Steady (Installed config) :=
  fun _ _ _ _ _ installed =>
    ⟨installed.accepted, installed.sensors, installed.formats, installed.controls, installed.idle⟩

variable {σ S : Type} {host : Host σ} {calm : RegisterMap → σ → Prop} {fact : Device → Prop}
  {device : Device} {state : S} {world : σ}

theorem keeps_fact_onRegisters {α : Type} {access : Access σ α} (steady : Steady fact) :
    Keeps host (fun device _ => fact device) (fun _ _ => True) (onRegisters access) :=
  keeps_fact_act fun _ device => steady device _ _ _ _

theorem keeps_fact_onPower {α : Type} {routine : Routine σ IspPower α} (steady : Steady fact) :
    Keeps host (fun device _ => fact device) (fun _ _ => True) (onPower routine) :=
  keeps_fact_act fun _ device => steady device _ _ _ _

theorem keeps_fact_setStage (unstaged : Unstaged fact) (stage : BootStage) :
    Keeps host (fun device _ => fact device) (fun _ _ => True) (setStage stage) :=
  keeps_state.bind fun _ => keeps_fact_note.bind fun _ =>
    keeps_modify fun device _ => unstaged device _ _

theorem keeps_fact_powerOffSensors :
    Keeps host (fun device _ => fact device) (fun _ _ => True) powerOffSensors :=
  keeps_state.bind fun _ => SensorPower.keeps_fact_powerOffEach _

theorem keeps_fact_powerOnSensors :
    Keeps host (fun device _ => fact device) (fun _ _ => True) powerOnSensors :=
  keeps_state.bind fun _ => SensorPower.keeps_fact_powerOnAfter _ _

theorem keeps_fact_read {register : Register} (direct : register.page = 0) :
    Keeps host (fun device _ => fact device) (fun _ _ => True)
      (onRegisters (RegisterMap.read register)) :=
  Keeps.act (fun _ => RegisterMap.keeps_fact_read direct) fun _ => rfl

theorem keeps_fact_write {register : Register} (direct : register.page = 0) (value : UInt32) :
    Keeps host (fun device _ => fact device) (fun _ _ => True)
      (onRegisters (RegisterMap.write register value)) :=
  Keeps.act (fun _ => RegisterMap.keeps_fact_write direct) fun _ => rfl

theorem keeps_fact_detectChip :
    Keeps host (fun device _ => fact device) (fun _ _ => True) detectChip := by
  refine (keeps_fact_read (by decide)).bind fun _ => (keeps_fact_read (by decide)).bind fun _ => ?_
  split
  · exact keeps_fact_note.bind fun _ => keeps_pure
  · exact keeps_fact_note.bind fun _ => keeps_fail

theorem keeps_fact_loadFirmware
    (entered : ∀ device stage, fact device → fact { device with stage }) (image : FirmwareImage) :
    Keeps host (fun device _ => fact device) (fun _ _ => True) (loadFirmware image) := by
  have direct : ∀ register ∈ [Layout.firmwareCrc, Layout.bootStage], register.page = 0 := by decide
  refine Firmware.keeps_download (fun register member value => keeps_fact_write (direct _ member) _)
    (keeps_fact_read (by decide)) (fun _ _ => ?_) (fun _ => keeps_fact_ask)
    (fun _ _ => keeps_fact_note) (fun stage => ?_) image
  · exact Keeps.act (fun _ => Firmware.keeps_fact_writeWindow _ _) fun _ => rfl
  · exact keeps_fact_note.bind fun _ => keeps_modify fun device _ => entered device stage

theorem keeps_fact_detectAndLoad (unstaged : Unstaged fact) (image : FirmwareImage) :
    Keeps host (fun device _ => fact device) (fun _ _ => True) (detectAndLoad image) := by
  refine keeps_fact_detectChip.bind fun _ => Keeps.bind ?_ fun _ => ?_
  · exact keeps_modify fun device _ => unstaged device _ _
  refine (keeps_fact_setStage unstaged _).bind fun _ => ?_
  exact keeps_fact_loadFirmware (fun device _ => unstaged device _ _) image

theorem keeps_fact_stall (steady : Steady fact) :
    Keeps host (fun device _ => fact device) (fun _ _ => True) stall :=
  (keeps_fact_onRegisters steady).bind fun _ => keeps_fact_ask.bind fun _ =>
    keeps_fact_onRegisters steady

theorem forgetPage_yields (steady : Steady fact) (holds : fact device) :
    (onRegisters RegisterMap.forgetPage).Yields host device world fun _ after _ =>
      Forgetful fact after :=
  ends_act.mpr ⟨steady device _ _ _ _ holds, rfl⟩

/-- What a stall leaves behind that starts without a selected page and succeeds is there after
attempts that succeed. -/
theorem yields_bootAttempts (steady : Steady fact)
    (stalls : ∀ device world, Forgetful fact device →
      stall.Yields host device world fun _ after left => fact after ∧ calm after.registers left)
    (noted : ∀ note map world, calm map world → calm map (host.note note world))
    (image : FirmwareImage) (number left : Nat) (holds : fact device) :
    (bootAttempts image number left).Yields host device world fun _ after left =>
      fact after ∧ calm after.registers left := by
  induction left generalizing number device world with
  | zero =>
      exact yields_last fun _ _ _ => yields_last fun _ _ _ => yields_last fun _ _ _ => yields_fail
  | succ left ih =>
      have powered : Keeps host (fun device _ => fact device) (fun _ _ => True)
          (onError (onPower IspPower.powerOn) fun _ => do
            powerOffSensors
            setStage .failed) :=
        (keeps_fact_onPower steady).onError fun _ =>
          keeps_fact_powerOffSensors.bind fun _ => keeps_fact_setStage steady.unstaged _
      have forgetful := steady.unstaged.forgetful
      refine (powered.yields holds).bind fun _ after world holds => ?_
      refine (forgetPage_yields steady holds).bind fun _ after world holds => ?_
      refine ((keeps_fact_setStage forgetful _).yields holds).bind fun _ after world holds => ?_
      refine ((keeps_fact_detectAndLoad forgetful image).attempt.yields holds).bind
        fun result after world holds => ?_
      cases result with
      | ok _ =>
          refine Yields.bind (stalls after world holds).onError fun _ after world ended => ?_
          exact ⟨steady after _ _ _ _ ended.1, noted _ _ _ ended.2⟩
      | error error =>
          simp only
          split
          · refine (keeps_fact_note.yields holds.1).bind fun _ after world holds => ?_
            exact ((keeps_fact_onPower steady).yields holds).bind fun _ _ _ holds => ih _ holds
          · exact yields_last fun _ _ _ => yields_last fun _ _ _ => yields_fail

theorem yields_boot (steady : Steady fact)
    (stalls : ∀ device world, Forgetful fact device →
      stall.Yields host device world fun _ after left => fact after ∧ calm after.registers left)
    (noted : ∀ note map world, calm map world → calm map (host.note note world))
    (image : FirmwareImage) (holds : fact device) :
    (boot image).Yields host device world fun _ after left =>
      fact after ∧ calm after.registers left := by
  have powered : Keeps host (fun device _ => fact device) (fun _ _ => True)
      (onError powerOnSensors fun _ => setStage .failed) :=
    keeps_fact_powerOnSensors.onError fun _ => keeps_fact_setStage steady.unstaged _
  refine (powered.yields holds).bind fun _ _ _ holds => ?_
  exact yields_bootAttempts steady stalls noted image 1 attemptLimit holds

theorem accept_yields (config : BoardConfig) :
    (Board.accept config).Yields host state world fun board _ _ =>
      Board.ofConfig config = .ok board := by
  refine yields_last fun _ after left => ?_
  cases accepted : Board.ofConfig config with
  | error error => exact yields_fail
  | ok board => exact Eq.refl (Except.ok board)

theorem claim_yields (label : String) (model : SensorModel) :
    (SensorPower.claim label model).Yields host state world fun power _ _ =>
      power = ⟨label, SensorPower.railsOf label model⟩ :=
  yields_last fun _ _ _ => Eq.refl (SensorPower.mk label (SensorPower.railsOf label model))

theorem claimSensors_yields (model : SensorModel) (ports : List UInt32) :
    (claimSensors model ports).Yields host state world fun sensors _ _ =>
      sensors = Board.sensors ⟨model, ports, 1⟩ := by
  induction ports generalizing state world with
  | nil => exact Eq.refl []
  | cons port rest ih =>
      refine (claim_yields _ model).bind fun power after left claimed => ?_
      refine ih.bind fun sensors after left others => ?_
      subst claimed others
      exact Eq.refl (Board.sensors ⟨model, port :: rest, 1⟩)

theorem yields_bringUp {config : BoardConfig} {board : Board} (steady : Steady fact)
    (stalls : ∀ device world, Forgetful fact device →
      stall.Yields host device world fun _ after left => fact after ∧ calm after.registers left)
    (noted : ∀ note map world, calm map world → calm map (host.note note world))
    (starts : ∀ device, Installed config device → fact device)
    (accepted : Board.ofConfig config = .ok board) (hasStandby : Bool) :
    (bringUp hasStandby board).Yields host state world fun device _ left =>
      fact device ∧ calm device.registers left := by
  refine yields_last fun power _ _ => ?_
  refine (claimSensors_yields board.model board.ports).bind fun sensors _ _ claimed => ?_
  refine yields_last fun image _ _ => yields_last fun _ _ left => ?_
  refine (yields_startingFrom (yields_boot steady stalls noted image (starts _ ?_))).bind ?_
  · exact ⟨accepted, claimed, rfl, rfl, rfl⟩
  · exact fun _ _ _ ended => ended

theorem yields_attach_of {config : BoardConfig} (steady : Steady fact)
    (stalls : ∀ device world, Forgetful fact device →
      stall.Yields host device world fun _ after left => fact after ∧ calm after.registers left)
    (noted : ∀ note map world, calm map world → calm map (host.note note world))
    (starts : ∀ device, Installed config device → fact device) (wiring : Wiring) :
    (attach wiring config).Yields host state world fun device _ left =>
      fact device ∧ calm device.registers left := by
  refine (accept_yields config).bind fun board after left accepted => ?_
  have brought := fun (state : S) (world : σ) =>
    @yields_bringUp σ S host calm fact state world config board steady stalls noted starts accepted
      wiring.hasStandby
  simp only
  split
  · exact yields_last fun _ _ _ => (brought _ _).onError
  · exact (brought _ _).onError

/-- Nothing on the way to an attach that succeeds changes what the device was set up with. -/
theorem attach_installs (wiring : Wiring) (config : BoardConfig) :
    (attach wiring config).Yields host state world fun device _ _ => Installed config device := by
  have stalls : ∀ device world, Forgetful (Installed config) device →
      stall.Yields host device world fun _ after _ => Installed config after ∧ True :=
    fun device world holds =>
      ((keeps_fact_stall (steady_installed config)).yields holds.1).mono
        fun _ _ _ kept => ⟨kept, trivial⟩
  have attached := @yields_attach_of σ S host (fun _ _ => True) (Installed config) state world
    config (steady_installed config) stalls (fun _ _ _ _ => trivial) (fun _ installed => installed)
    wiring
  exact attached.mono fun _ _ _ ended => ended.1

/-- What a stall that succeeds leaves behind is there after an attach that succeeds. -/
theorem yields_attach {σ S : Type} {host : Host σ} {calm : σ → Prop} {state : S} {world : σ}
    (stalls : ∀ device world, device.Idle →
      stall.Yields host device world fun _ after left => after.Idle ∧ calm left)
    (noted : ∀ note world, calm world → calm (host.note note world)) (wiring : Wiring)
    (config : BoardConfig) :
    (attach wiring config).Yields host state world fun device _ left =>
      device.Idle ∧ calm left :=
  @yields_attach_of σ S host (fun _ => calm) Idle state world config steady_idle
    (fun device world holds => stalls device world holds.1) (fun note _ => noted note)
    (fun _ installed => installed.idle) wiring

/-- A host on which nothing fails: every register reads as the version of the chip, which is also
what the one firmware file declares as its checksum. -/
def steadyHost : Host Unit where
  answer
    | .read _ _ => fun world =>
        (some (.ok (Vector.ofFn fun i => if i.val % 2 = 0 then 0x02 else 0x65)), world)
    | .write _ _ => fun world => (some (.ok ()), world)
    | .setLine _ _ => fun world => (some (.ok ()), world)
    | .findSupply _ _ => fun world => (some (.ok ()), world)
    | .enableSupply _ _ => fun world => (some (.ok ()), world)
    | .disableSupply _ _ => fun world => (some (.ok ()), world)
    | .enableClock => fun world => (some (.ok ()), world)
    | .disableClock => fun world => (some (), world)
    | .wait _ => fun world => (some (), world)
    | .fetch _ => fun world =>
        (some (.ok [0x65, 0x02, 0, 0, 0, 0, 0, 0, 1, 0, 0, 0, 2, 0, 0, 0, 0xaa, 0xbb]), world)
  note _ world := world

def succeeds : Outcome Device → Bool
  | .done _ => true
  | .failed _ | .aborted => false

end Device

end IspDriver
