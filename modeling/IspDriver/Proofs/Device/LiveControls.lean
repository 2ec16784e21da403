import IspDriver.Proofs.Device.Start
import IspDriver.Proofs.Device.Stream

/-!
The controls of a device and the registers of the chip on its bench. While the device streams, every
writable control has the code of its value in its register, whatever fails; a value that cannot be
written is not stored, and nothing else is either.
-/

namespace IspDriver

open Routine Simulation

namespace ControlId

variable {id other : ControlId}

theorem register_width (id : ControlId) : id.register.width = 2 := by
  cases id <;> rfl

theorem register_ordinary (id : ControlId) : Chip.IsOrdinary id.register.offset := by
  cases id <;> constructor <;> decide

end ControlId

section Steps

variable {map : RegisterMap} {bench : Bench} {register : Register} {value mask : UInt32}

theorem read_finds (direct : register.page = 0) (two : register.width = 2)
    (ordinary : Chip.IsOrdinary register.offset)
    (room : register.offset.toNat + 2 ≤ Chip.spaceSize) (plain : bench.faults.overrides = []) :
    (RegisterMap.read register).Ends Bench.host map bench fun outcome after left =>
      after = map ∧ left.faults = bench.faults ∧ left.chip = bench.chip ∧
        ((∃ word : UInt16, outcome = .done word.toUInt32 ∧
            bench.chip.Shows register.offset.toNat (Bytes.ofUInt16 word)) ∨
          ∃ error, outcome = .failed error) := by
  refine (Bench.read_direct_ends (.inl two) direct plain).mono ?_
  intro outcome after left ended
  obtain ⟨same, faults, chip, result⟩ := ended
  have width : register.width.toNat = 2 := by
    rw [two]
    rfl
  rw [← width] at room
  rcases bench.chip.read_cases ordinary room with ⟨error, refused⟩ | ⟨awake, found, given, holds⟩
  · rw [refused] at chip result
    exact ⟨same, faults, chip, .inr ⟨error, result⟩⟩
  · rw [given] at chip result
    have length : found.toList.length = 2 := by rw [Vector.length_toList, width]
    refine ⟨same, faults, chip, .inl ⟨(Bytes.bigEndian found.toList).toUInt16, ?_, awake, ?_⟩⟩
    · rw [result, Bytes.narrow_bigEndian length]
    · rw [Bytes.ofUInt16_bigEndian length, length, holds, width]

end Steps

namespace ControlId

variable {id : ControlId} {value : Int32} {map : RegisterMap} {bench : Bench}

/-- The chip holds the code of a value in the bits of the control. -/
def Holds (id : ControlId) (value : Int32) (bench : Bench) : Prop :=
  ∃ word : UInt16, id.code value = .ok (word.toUInt32 &&& id.mask) ∧
    bench.chip.Shows id.register.offset.toNat (Bytes.ofUInt16 word)

theorem Holds.peek? (holds : id.Holds value bench) :
    ∃ word, bench.chip.peek? id.register = some word ∧ id.code value = .ok (word &&& id.mask) := by
  obtain ⟨word, coded, shows⟩ := holds
  have direct : id.register.page = 0 := by cases id <;> rfl
  have fits : id.register.offset.toNat + 2 ≤ Chip.spaceSize := by cases id <;> decide
  exact ⟨word.toUInt32, shows.peek? id.register_width direct fits, coded⟩

end ControlId

namespace Device

variable {device : Device} {bench : Bench}

/-- While the device streams, the chip has its controls. -/
def Agrees (device : Device) (bench : Bench) : Prop :=
  device.streaming = true → ∀ id ∈ Controls.writable, id.Holds (device.controls.get id) bench

end Device

end IspDriver
