import IspDriver.Proofs.Device.SensorAccess

/-!
A read of a sensor register and all it leaves behind. While nothing fails, the value is what the
sensor holds, as far as the width goes, and of the chip only the registers of the copy engine change.
A port without a sensor and a width that no sensor register has are refused before anything is asked
of the host.
-/

namespace IspDriver

open Routine Simulation

theorem Simulation.Chip.toNat_fetched {width : UInt32} (sensor : width = 1 ∨ width = 2)
    (value : UInt16) :
    (Bytes.bigEndian (fetched width value)).toNat = value.toNat % 2 ^ (8 * width.toNat) := by
  have small := value.toNat_lt
  rcases sensor with rfl | rfl
  · have byte : fetched 1 value = [value.toUInt8] := rfl
    have bits : 2 ^ (8 * (1 : UInt32).toNat) = 256 := rfl
    rw [byte, bits, Bytes.bigEndian_eq, Bytes.positional_cons]
    simp [Bytes.positional]
    omega
  · have word : fetched 2 value = Bytes.ofUInt16 value := rfl
    have bits : 2 ^ (8 * (2 : UInt32).toNat) = 65536 := rfl
    rw [word, bits, Bytes.bigEndian_ofUInt16, UInt16.toNat_toUInt32]
    omega

/-- A byte of the bus space that belongs to no register of the copy engine. -/
def Simulation.Chip.OutsideEngine (address : Nat) : Prop :=
  ∀ register ∈ Bridge.registers,
    address < register.offset.toNat ∨ register.offset.toNat + register.width.toNat ≤ address

theorem Simulation.Chip.OutsideEngine.beside {address : Nat} (outside : OutsideEngine address) :
    BesideEngine address 1 := by
  simp only [OutsideEngine, Bridge.registers, List.forall_mem_cons] at outside
  obtain ⟨size, source, target, control, -⟩ := outside
  have places : Layout.copySource.offset.toNat = 0x60a0 ∧ Layout.copyTarget.offset.toNat = 0x60a4 ∧
      Layout.copySize.offset.toNat = 0x60a8 ∧ Layout.copyControl.offset.toNat = 0x60ac := by decide
  have widths : Layout.copySource.width.toNat = 4 ∧ Layout.copyTarget.width.toNat = 4 ∧
      Layout.copySize.width.toNat = 4 ∧ Layout.copyControl.width.toNat = 2 := by decide
  unfold BesideEngine
  omega

namespace Device

variable {device : Device} {register : Register} {port : UInt32} {board : Board}

/-- A read that is refused asks nothing of the host. -/
theorem readSensor_refused {σ : Type} {host : Host σ} {world : σ}
    (fits : device.fitting = (board, board.sensors))
    (unfit : port ∉ board.ports ∨ ¬ (register.width = 1 ∨ register.width = 2)) :
    (readSensor port register).Ends host device world fun outcome after left =>
      (∃ cause, outcome = .failed (.invalidArgument cause)) ∧ after = device ∧ left = world := by
  have sensors : device.sensors = board.sensors := congrArg Prod.snd fits
  unfold readSensor requireSensor
  rw [ends_bind, ends_bind, ends_state]
  simp only [followed]
  by_cases populated : device.sensors.any (·.port == port) = true
  · have member : port ∈ board.ports := by
      rw [sensors] at populated
      obtain ⟨sensor, among, same⟩ := List.any_eq_true.mp populated
      obtain ⟨place, inside, rfl⟩ := List.mem_map.mp among
      rwa [← eq_of_beq same]
    have width := unfit.resolve_left (fun vacant => vacant member)
    rw [if_pos populated, ends_done]
    simp only [followed]
    rw [ends_bind, ends_state]
    simp only [followed]
    unfold onRegisters Bridge.readSensor Bridge.checkWidth
    rw [if_neg width]
    exact ⟨⟨_, rfl⟩, rfl, rfl⟩
  · rw [if_neg populated]
    exact ⟨⟨_, rfl⟩, rfl, rfl⟩

/-- From an attach on, after any turns: a read from a port without a sensor, or with a width that no
sensor register has, is refused without a word to the host. While nothing fails and no copy is under
way, whatever the sensors hold, a read from a port with a sensor gives what that register holds, or
zero if it was never set, as far as its width goes; and it leaves the sensors, the engine at rest and
everything on the chip as they were, but for the registers of the engine. -/
theorem sensor_read_exact {S : Type} (wiring : Wiring) (config : BoardConfig) (state : S)
    (bench : Bench) :
    (attach wiring config).Yields Bench.host state bench fun device _ left => ∀ turns,
      match Course.takeAll turns ⟨device, left, false⟩ with
      | ⟨device, bench, _⟩ => ∃ board, Board.ofConfig config = .ok board ∧
          (∀ (port : UInt32) (register : Register),
            port ∉ board.ports ∨ ¬ (register.width = 1 ∨ register.width = 2) →
            ∀ (σ : Type) (host : Host σ) (world : σ),
              (readSensor port register).Ends host device world fun outcome after left =>
                (∃ cause, outcome = .failed (.invalidArgument cause)) ∧ after = device ∧
                  left = world) ∧
          (bench.faults.overrides = [] → bench.chip.faults.reads = [] →
            bench.chip.faults.writes = [] → bench.chip.faults.copyStuck = false →
            bench.chip.EngineIdle → ∀ sensors : UInt32 → UInt32 → Option UInt16,
              ∀ port ∈ board.ports, ∀ register : Register,
                register.width = 1 ∨ register.width = 2 →
                (readSensor port register).Gives Bench.host device
                  { bench with chip := { bench.chip with sensors } } fun found _ left =>
                    found.toNat = ((sensors port register.offset.toUInt32).getD 0).toNat %
                        2 ^ (8 * register.width.toNat) ∧
                      left.chip.sensors = sensors ∧ left.chip.EngineIdle ∧
                      left.chip.pages = bench.chip.pages ∧ left.chip.lanes = bench.chip.lanes ∧
                      ∀ address, Chip.OutsideEngine address →
                        left.chip.memory.byte address = bench.chip.memory.byte address) := by
  have installed := @attach_installs _ S Bench.host state bench wiring config
  have stalled := @yields_attach Bench S Bench.host (StartsWith Layout.SystemStart.stalled) state
    bench stall_yields (fun _ _ starts => starts) wiring config
  refine (installed.and stalled).mono ?_
  intro device _ left ended turns
  obtain ⟨installed, -, stalled⟩ := ended
  have start : Fitted device.board ⟨device, left, false⟩ :=
    ⟨Prod.ext rfl installed.sensors, stalled.awake⟩
  have fitted := @Course.takeAll_keeps (Fitted device.board) turns _
    (fun turn _ _ fitted => take_fitted fitted turn) start
  generalize Course.takeAll turns ⟨device, left, false⟩ = course at fitted ⊢
  obtain ⟨later, bench, _⟩ := course
  obtain ⟨fits, awake⟩ := fitted
  refine ⟨device.board, installed.accepted, ?_, ?_⟩
  · intro port register unfit σ host world
    exact readSensor_refused fits unfit
  · intro plain reads writes runs idle sensors port member register sensor
    have populated : Populated later port := populated_of_fitting installed.accepted fits member
    -- What the sensors hold makes no difference to the engine.
    have ready : Bench.Ready { bench with chip := { bench.chip with sensors } } :=
      ⟨plain, ⟨awake, reads, writes, runs⟩, idle⟩
    refine (readSensor_fetches populated ready sensor).mono ?_
    intro found _ left given
    obtain ⟨ended, same, rfl⟩ := given
    have pages := congrArg Chip.pages same.became
    have lanes := congrArg Chip.lanes same.became
    exact ⟨Chip.toNat_fetched sensor _, same.sensors, ended.idle, pages, lanes,
      fun address outside => same.byte address outside.beside⟩

/-- One byte of a register that holds two, on a board with one sensor and a stream that ran; and a
port that has none. -/
theorem oneSensor_read_exact :
    (attach ⟨true, true⟩ oneSensor).Gives Bench.host () stockedBench fun device _ left =>
      match Course.takeAll [.act (.setStream true)] ⟨device, left, false⟩ with
      | ⟨device, bench, _⟩ =>
          (readSensor 0 (.of8 0x3012)).Gives Bench.host device
              { bench with chip := { bench.chip with sensors := fun _ _ => some 0x1234 } }
              (fun found _ left => found.toNat = 0x34 ∧ left.chip.EngineIdle) ∧
            (readSensor 1 (.of8 0x3012)).Ends Bench.host device bench
              (fun outcome _ left => (∃ cause, outcome = .failed (.invalidArgument cause)) ∧
                left = bench) := by
  have exact := sensor_read_exact ⟨true, true⟩ oneSensor () stockedBench
  have shown : engineAfter [.act (.setStream true)]
      (attach ⟨true, true⟩ oneSensor Bench.host () stockedBench) = some (true, {}, some 0) := by
    decide +kernel
  refine exact.gives_of_seen shown (fun _ _ _ => rfl) (fun _ _ => rfl) ?_
  intro device _ left shown exact
  have held := exact [.act (.setStream true)]
  simp only [engineAfter, Option.some.injEq, Prod.mk.injEq] at shown
  generalize Course.takeAll _ ⟨device, left, false⟩ = course at held shown ⊢
  obtain ⟨device, bench, _⟩ := course
  obtain ⟨plain, sound, control⟩ := shown
  have plain := List.isEmpty_iff.mp plain
  have idle : bench.chip.EngineIdle := ⟨0, control, by decide⟩
  obtain ⟨board, accepted, refused, reads⟩ := held
  cases accepted
  have read := reads plain (by rw [sound]) (by rw [sound]) (by rw [sound]) idle
    (fun _ _ => some 0x1234) 0 (by decide) (.of8 0x3012) (by decide)
  have vacant := refused 1 (.of8 0x3012) (by decide) Bench Bench.host bench
  refine ⟨Gives.mono read ?_, Ends.mono vacant ?_⟩
  · intro found _ left given
    exact ⟨given.1, given.2.2.1⟩
  · intro outcome _ left given
    exact ⟨given.1, given.2.2⟩

end Device

end IspDriver
