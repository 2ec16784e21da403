import IspDriver.Proofs.Register.Map
import IspDriver.Simulation.Bench

/-! Blocks on the bus of a bench, and registers of its direct space. The chip alone decides, unless
reads are overridden. -/

namespace IspDriver

namespace Simulation.Bench

open Routine RegisterMap

variable {S : Type} {state : S} {bench : Bench} {offset : UInt16} {count : Nat} {data : List UInt8}

theorem ends_readBlock {post : Outcome (Vector UInt8 count) → S → Bench → Prop}
    (direct : bench.faults.overrides = []) :
    (Host.readBlock offset count).Ends Bench.host state bench post ↔
      post (.ofReply (some (bench.chip.read offset count).1)) state
        { bench with chip := (bench.chip.read offset count).2 } := by
  unfold Host.readBlock
  rw [ends_bind, ends_ask]
  simp only [Bench.host, Bench.read, direct]
  rcases bench.chip.read offset count with ⟨_ | _, chip⟩ <;> rfl

theorem ends_writeBlock {post : Outcome Unit → S → Bench → Prop} :
    (Host.writeBlock offset data).Ends Bench.host state bench post ↔
      post (.ofReply (bench.chip.write offset data).1) state
        { bench with chip := (bench.chip.write offset data).2 } := by
  unfold Host.writeBlock
  rw [ends_bind, ends_ask]
  simp only [Bench.host]
  rcases bench.chip.write offset data with ⟨_ | _ | _, chip⟩ <;> rfl

variable {map : RegisterMap} {register : Register} {value : UInt32}

theorem write_direct_ends (width : register.width = 2 ∨ register.width = 4)
    (direct : register.page = 0) :
    (RegisterMap.write register value).Ends Bench.host map bench fun outcome after left =>
      after = map ∧ left.faults = bench.faults ∧
        outcome = .ofReply (bench.chip.write register.offset (busBytes register value)).1 ∧
        left.chip = (bench.chip.write register.offset (busBytes register value)).2 := by
  unfold RegisterMap.write
  rw [ends_bind, ends_checkWidth width]
  simp only [followed]
  rw [ends_bind, ends_selectPage_of_direct direct]
  simp only [followed]
  rw [ends_bind, ends_note]
  simp only [followed]
  rw [send_eq width, ends_onError, ends_writeBlock, busOffset_of_direct direct]
  simp only [Bench.host]
  rcases bench.chip.write register.offset (busBytes register value) with ⟨_ | _ | _, chip⟩ <;>
    exact ⟨rfl, rfl, rfl, rfl⟩

theorem read_direct_ends (width : register.width = 2 ∨ register.width = 4)
    (direct : register.page = 0) (plain : bench.faults.overrides = []) :
    (RegisterMap.read register).Ends Bench.host map bench fun outcome after left =>
      after = map ∧ left.faults = bench.faults ∧
        left.chip = (bench.chip.read register.offset register.width.toNat).2 ∧
        outcome = match (bench.chip.read register.offset register.width.toNat).1 with
          | .ok bytes => .done (Bytes.positional bytes.toList).toUInt32
          | .error error => .failed error := by
  unfold RegisterMap.read
  rw [ends_bind, ends_checkWidth width]
  simp only [followed]
  rw [ends_bind, ends_selectPage_of_direct direct]
  simp only [followed]
  rw [ends_onError, ends_receive width, ends_readBlock plain, busOffset_of_direct direct]
  rcases bench.chip.read register.offset register.width.toNat with ⟨_ | _, chip⟩ <;>
    exact ⟨rfl, rfl, rfl, rfl⟩

end Simulation.Bench

end IspDriver
