import IspDriver.Proofs.Device.Stream
import IspDriver.Proofs.Simulation.Copy

/-!
Sensor registers of an attached device. While nothing fails, what is written to one can be read back
from it, and no other one changes. Of a register of two bytes that is the value; of one byte it is
not, since the copy takes the upper byte of the two that the value was put into.
-/

namespace IspDriver.Device

open Routine Simulation

variable {device : Device} {bench : Bench} {register : Register} {port value : UInt32} {board : Board}

/-- The device has what it was set up with, on a chip that is out of reset. -/
def Fitted (board : Board) (course : Course) : Prop :=
  course.device.fitting = (board, board.sensors) ∧ course.bench.chip.inReset = false

theorem take_fitted {course : Course} (fitted : Fitted board course) (turn : Turn) :
    Fitted board (course.take turn) := by
  obtain ⟨fitting, awake⟩ := fitted
  cases turn with
  | act action =>
      have same := @Action.perform_unseen _ _ Bench.host _ course.device course.bench action
        (hidden_fitting action)
      have kept := @Action.perform_undisturbed _ Bench.host course.device course.bench _ action
        Bench.undisturbed_awake awake
      exact ⟨Eq.trans same fitting, kept⟩
  | faults faults => exact ⟨fitting, awake⟩

/-- There is a sensor on the port, at an address that the copy engine can take. -/
structure Populated (device : Device) (port : UInt32) : Prop where
  sensor : device.sensors.any (·.port == port) = true
  port : port ∈ [0, 1]
  address : device.board.model.address ∈ SensorModel.all.map (·.address)

theorem populated_of_fitting {config : BoardConfig} (accepted : Board.ofConfig config = .ok board)
    (fits : device.fitting = (board, board.sensors)) (member : port ∈ board.ports) :
    Populated device port := by
  obtain ⟨known, places⟩ := Board.mem_of_ofConfig accepted
  have sameBoard : device.board = board := congrArg Prod.fst fits
  have sameSensors : device.sensors = board.sensors := congrArg Prod.snd fits
  have among : ∀ ports ∈ ([[], [0], [1], [0, 1]] : List (List UInt32)), ports ⊆ [0, 1] := by decide
  refine ⟨?_, among _ places member, ?_⟩
  · rw [sameSensors]
    refine List.any_eq_true.mpr ⟨_, List.mem_map_of_mem member, ?_⟩
    simp
  · rw [sameBoard]
    exact List.mem_map_of_mem known

theorem requireSensor_bind {σ α : Type} {host : Host σ} {world : σ}
    {post : Outcome α → Device → σ → Prop} {next : Unit → Operation σ α}
    (populated : Populated device port) :
    (requireSensor port >>= next).Ends host device world post ↔
      (next ()).Ends host device world post := by
  unfold requireSensor
  rw [ends_bind, ends_bind, ends_state]
  simp only [followed, populated.sensor, if_true, ends_done]

theorem writeSensor_gives (populated : Populated device port) (ready : bench.Ready)
    (sensor : register.width = 1 ∨ register.width = 2) :
    (writeSensor port register value).Gives Bench.host device bench fun _ after left =>
      Populated after port ∧ left.Ready ∧
        left.chip.sensors = (bench.chip.setSensor port register.offset.toUInt32
          (Chip.carried register.width value)).sensors := by
  unfold writeSensor Gives
  rw [requireSensor_bind populated, ends_bind, ends_state]
  simp only [followed]
  have written := @Bench.writeSensor_gives bench device.registers register value port _ ready sensor
    populated.port populated.address
  refine ends_act.mpr (Ends.mono written ?_)
  intro outcome map left given
  cases outcome with
  | done _ => exact ⟨⟨populated.sensor, populated.port, populated.address⟩, given⟩
  | failed error => exact given
  | aborted => exact given

theorem readSensor_fetches (populated : Populated device port) (ready : bench.Ready)
    (sensor : register.width = 1 ∨ register.width = 2) :
    (readSensor port register).Gives Bench.host device bench fun found _ left =>
      left.Ready ∧ bench.chip.SameBesideEngine left.chip ∧
        found = Bytes.bigEndian (Chip.fetched register.width
          ((bench.chip.sensors port register.offset.toUInt32).getD 0)) := by
  unfold readSensor Gives
  rw [requireSensor_bind populated, ends_bind, ends_state]
  have fetched := @Bench.readSensor_gives bench device.registers register port _ ready sensor
    populated.port populated.address
  exact @Gives.act _ _ _ _ _ _ _ registersPart _ _ fetched

theorem readSensor_gives (populated : Populated device port) (ready : bench.Ready)
    (sensor : register.width = 1 ∨ register.width = 2) :
    (readSensor port register).Gives Bench.host device bench fun found _ left =>
      left.chip.sensors = bench.chip.sensors ∧
        found = Bytes.bigEndian (Chip.fetched register.width
          ((bench.chip.sensors port register.offset.toUInt32).getD 0)) := by
  refine (readSensor_fetches populated ready sensor).mono fun _ _ _ given => ?_
  obtain ⟨-, same, found⟩ := given
  exact ⟨same.sensors, found⟩

theorem fetched_carried {width : UInt32} (sensor : width = 1 ∨ width = 2) (value : UInt32) :
    Bytes.bigEndian (Chip.fetched width (Chip.carried width value)) =
      (Chip.carried width value).toUInt32 := by
  rcases sensor with rfl | rfl
  · have byte : Chip.fetched 1 (Chip.carried 1 value) = [(value >>> 8).toUInt8.toUInt16.toUInt8] :=
      rfl
    have narrow : Chip.carried 1 value = (value >>> 8).toUInt8.toUInt16 := rfl
    rw [byte, narrow, Bytes.bigEndian_eq, Bytes.positional_cons]
    apply UInt32.toNat_inj.mp
    simp [Bytes.positional]
    omega
  · exact Bytes.bigEndian_ofUInt16 _

/-- From an attach on, after any turns, while nothing fails and no copy is under way: a sensor
register of a populated port takes what is written to it, and no other one changes; a read finds it
there. Of two bytes that is the value; of one byte it is the byte above the lowest one. -/
theorem sensor_holds_and_returns {S : Type} (wiring : Wiring) (config : BoardConfig) (state : S)
    (bench : Bench) :
    (attach wiring config).Yields Bench.host state bench fun device _ left => ∀ turns,
      match Course.takeAll turns ⟨device, left, false⟩ with
      | ⟨device, bench, _⟩ =>
          bench.faults.overrides = [] → bench.chip.faults.reads = [] →
          bench.chip.faults.writes = [] → bench.chip.faults.copyStuck = false →
          bench.chip.EngineIdle → ∃ board, Board.ofConfig config = .ok board ∧
            ∀ port ∈ board.ports, ∀ register : Register, ∀ value,
              register.width = 1 ∨ register.width = 2 → ∃ held : UInt16,
                held.toNat = (if register.width = 2 then value.toNat % 2 ^ 16
                  else value.toNat / 2 ^ 8 % 2 ^ 8) ∧
                (writeSensor port register value).Gives Bench.host device bench fun _ after left =>
                  left.chip.sensors port register.offset.toUInt32 = some held ∧
                  (∀ other offset, (other, offset) ≠ (port, register.offset.toUInt32) →
                    left.chip.sensors other offset = bench.chip.sensors other offset) ∧
                  (readSensor port register).Gives Bench.host after left fun found _ final =>
                    found = held.toUInt32 ∧ final.chip.sensors = left.chip.sensors := by
  have installed := @attach_installs _ S Bench.host state bench wiring config
  have stalled := @yields_attach Bench S Bench.host (StartsWith Layout.SystemStart.stalled) state
    bench stall_yields (fun _ _ starts => starts) wiring config
  refine (installed.and stalled).mono ?_
  intro device _ left ended turns
  obtain ⟨installed, -, stalled⟩ := ended
  -- Turns may leave anything in the registers and in the sensors, but not change what is fitted.
  have start : Fitted device.board ⟨device, left, false⟩ :=
    ⟨Prod.ext rfl installed.sensors, stalled.awake⟩
  have fitted := @Course.takeAll_keeps (Fitted device.board) turns _
    (fun turn _ _ fitted => take_fitted fitted turn) start
  generalize Course.takeAll turns ⟨device, left, false⟩ = course at fitted ⊢
  obtain ⟨later, bench, _⟩ := course
  obtain ⟨fits, awake⟩ := fitted
  intro plain reads writes runs idle
  refine ⟨device.board, installed.accepted, fun port member register value sensor => ?_⟩
  have populated : Populated later port := populated_of_fitting installed.accepted fits member
  have ready : bench.Ready := ⟨plain, ⟨awake, reads, writes, runs⟩, idle⟩
  refine ⟨Chip.carried register.width value, ?_, ?_⟩
  · rcases sensor with one | two
    · rw [one, Chip.toNat_carried_one]
      rfl
    · rw [two, Chip.toNat_carried_two]
      rfl
  · refine (writeSensor_gives populated ready sensor).mono ?_
    intro _ after left given
    obtain ⟨still, again, sensors⟩ := given
    have held : left.chip.sensors port register.offset.toUInt32 =
        some (Chip.carried register.width value) := by
      simp [sensors, Chip.setSensor]
    refine ⟨held, ?_, ?_⟩
    · intro other offset differ
      rw [sensors]
      exact if_neg fun same => differ (Prod.ext same.1 same.2)
    · refine (readSensor_gives still again sensor).mono ?_
      intro found _ final given
      obtain ⟨same, rfl⟩ := given
      refine ⟨?_, same⟩
      rw [held]
      exact fetched_carried sensor value

/-- What shows after an attach and some turns of what a copy depends on: whether reads find what the
chip holds, the faults of the chip, and the control register of the engine. -/
def engineAfter (turns : List Turn) : Outcome Device × Unit × Bench →
    Option (Bool × ChipFaults × Option UInt32)
  | (.done device, _, left) =>
      match Course.takeAll turns ⟨device, left, false⟩ with
      | ⟨_, bench, _⟩ =>
          some (bench.faults.overrides.isEmpty, bench.chip.faults, bench.chip.peek? Layout.copyControl)
  | _ => none

theorem oneSensor_holds_and_returns :
    (attach ⟨true, true⟩ oneSensor).Gives Bench.host () stockedBench fun device _ left =>
      match Course.takeAll [.act (.setStream true)] ⟨device, left, false⟩ with
      | ⟨device, bench, _⟩ =>
          bench.faults.overrides = [] ∧ bench.chip.faults = {} ∧ bench.chip.EngineIdle ∧
            (writeSensor 0 (.of16 0x3012) 0x12345).Gives Bench.host device bench
              fun _ after final => final.chip.sensors 0 0x3012 = some 0x2345 ∧
                (readSensor 0 (.of16 0x3012)).Gives Bench.host after final fun found _ _ =>
                  found = 0x2345 := by
  have holds := sensor_holds_and_returns ⟨true, true⟩ oneSensor () stockedBench
  have shown : engineAfter [.act (.setStream true)]
      (attach ⟨true, true⟩ oneSensor Bench.host () stockedBench) = some (true, {}, some 0) := by
    decide +kernel
  refine holds.gives_of_seen shown (fun _ _ _ => rfl) (fun _ _ => rfl) ?_
  intro device _ left shown holds
  have held := holds [.act (.setStream true)]
  simp only [engineAfter, Option.some.injEq, Prod.mk.injEq] at shown
  generalize Course.takeAll _ ⟨device, left, false⟩ = course at held shown ⊢
  obtain ⟨device, bench, _⟩ := course
  obtain ⟨plain, sound, control⟩ := shown
  have plain := List.isEmpty_iff.mp plain
  have idle : bench.chip.EngineIdle := ⟨0, control, by decide⟩
  obtain ⟨board, accepted, ports⟩ := held plain (by rw [sound]) (by rw [sound]) (by rw [sound]) idle
  cases accepted
  obtain ⟨word, number, written⟩ := ports 0 (by decide) (.of16 0x3012) 0x12345 (by decide)
  have same : word = 0x2345 := UInt16.toNat_inj.mp number
  subst same
  refine ⟨plain, sound, idle, Gives.mono written ?_⟩
  intro _ after final given
  obtain ⟨stored, -, found⟩ := given
  exact ⟨stored, found.mono fun _ _ _ given => given.1⟩

/-- What shows after an attach and a write of a sensor register on the first port: the engine before
it, and the register after it. -/
def sensorAfter (register : Register) (value : UInt32) : Outcome Device × Unit × Bench →
    Option (Option UInt32 × ChipFaults × Option UInt16)
  | (.done device, _, left) =>
      match writeSensor 0 register value Bench.host device left with
      | (_, _, final) => some (left.chip.peek? Layout.copyControl, left.chip.faults,
          final.chip.sensors 0 register.offset.toUInt32)
  | _ => none

/-- A register of one byte does not take the low byte of what is written to it. -/
theorem narrow_write_misses_value :
    ¬ ∀ (wiring : Wiring) (config : BoardConfig) (bench : Bench), bench.faults.overrides = [] →
      (attach wiring config).Yields Bench.host () bench fun device _ left =>
        left.chip.faults = {} → left.chip.EngineIdle →
          ∀ board, Board.ofConfig config = .ok board → ∀ port ∈ board.ports,
            ∀ (register : Register) (value : UInt32),
              register.width = 1 ∨ register.width = 2 →
                (writeSensor port register value).Gives Bench.host device left fun _ _ final =>
                  ∃ held : UInt16,
                    final.chip.sensors port register.offset.toUInt32 = some held ∧
                      held.toNat = value.toNat % 2 ^ (8 * register.width.toNat) := by
  intro holds
  have stored := holds ⟨true, true⟩ oneSensor stockedBench rfl
  have shown : sensorAfter (.of8 0x0103) 1
      (attach ⟨true, true⟩ oneSensor Bench.host () stockedBench) = some (some 0, {}, some 0) := by
    decide +kernel
  unfold Routine.Yields Routine.Ends at stored
  generalize attach ⟨true, true⟩ oneSensor Bench.host () stockedBench = run at stored shown
  obtain ⟨outcome, _, left⟩ := run
  cases outcome with
  | done device =>
      simp only [sensorAfter, Option.some.injEq, Prod.mk.injEq] at shown
      obtain ⟨control, sound, register⟩ := shown
      have written := stored sound ⟨0, control, by decide⟩ _ rfl 0 (by decide) (.of8 0x0103) 1
        (by decide)
      unfold Gives Routine.Ends at written
      generalize writeSensor 0 (.of8 0x0103) 1 Bench.host device left = run at written register
      obtain ⟨outcome, _, final⟩ := run
      cases outcome with
      | done _ =>
          obtain ⟨held, same, number⟩ := written
          rw [register, Option.some.injEq] at same
          rw [← same] at number
          exact absurd number (by decide)
      | failed error => exact written
      | aborted => exact written
  | failed error => cases shown
  | aborted => cases shown

end IspDriver.Device
