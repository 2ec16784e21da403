import IspDriver.Proofs.Device.Boot
import IspDriver.Proofs.Device.Settings
import IspDriver.Proofs.Register.Script

/-!
What a request to stream does on the bus, on any host: the source format, the controls and the start
register are written in this order, up to the first exchange that is not granted, and the device
streams only if there is none.
-/

namespace IspDriver

open Routine

/-- How the code of a value gets into the register of its control. -/
def ControlId.step (id : ControlId) (code : UInt32) : Step :=
  if id.IsField then .update id.register id.mask code else .write id.register code

theorem ControlId.register_direct (id : ControlId) : id.register.IsDirect := by
  cases id <;> decide

theorem ControlId.register_step (id : ControlId) (code : UInt32) :
    (id.step code).register = id.register := by
  unfold ControlId.step
  split <;> rfl

theorem ControlId.apply_eq_run {σ : Type} {id : ControlId} {value : Int32} {code : UInt32}
    (writable : id ∈ Controls.writable) (coded : id.code value = .ok code) :
    (id.apply value : Access σ Unit) = (id.step code).run := by
  unfold ControlId.step
  split
  · next field =>
      rw [ControlId.apply_of_isField field, coded, ofExcept_ok_bind]
      rfl
  · next whole =>
      rw [ControlId.apply_of_not_isField writable whole, coded, ofExcept_ok_bind]
      rfl

theorem Controls.applyEach_eq_runEach {σ : Type} {controls : Controls} {codes : ControlId → UInt32}
    {ids : List ControlId} (writable : ∀ id ∈ ids, id ∈ Controls.writable)
    (coded : ∀ id ∈ ids, id.code (controls.get id) = .ok (codes id)) :
    (controls.applyEach ids : Access σ Unit) =
      Step.runEach (ids.map fun id => id.step (codes id)) := by
  induction ids with
  | nil => rfl
  | cons id rest ih =>
      obtain ⟨first, others⟩ := List.forall_mem_cons.mp writable
      obtain ⟨code, codes⟩ := List.forall_mem_cons.mp coded
      rw [Controls.applyEach, ControlId.apply_eq_run first code, ih others codes]
      rfl

theorem RegisterMap.writeAll_eq_runEach {σ : Type} (writes : List (Register × UInt32)) :
    (RegisterMap.writeAll writes : Access σ Unit) =
      Step.runEach (writes.map fun entry => .write entry.1 entry.2) := by
  induction writes with
  | nil => rfl
  | cons entry rest ih =>
      rw [RegisterMap.writeAll, ih]
      rfl

namespace Device

variable {σ S : Type} {host : Host σ} {device : Device} {world : σ} {past : List Exchange}
  {codes : ControlId → UInt32}

/-- What a start writes to describe the source. -/
def sourceWrites (device : Device) : List (Register × UInt32) :=
  [(Layout.previewInterface,
      Layout.HostInterface.spoof ||| Layout.HostInterface.lanes device.board.dataLanes),
    (Layout.previewWidth, device.formats.source.width / device.formats.widthFactor),
    (Layout.previewHeight, device.formats.source.height),
    (Layout.previewFormat, device.formats.encoding)]

/-- What a start does before the engine is let go: it describes the source and sets the controls in
the order of `ControlId.writable_eq`. -/
def preparation (device : Device) (codes : ControlId → UInt32) : List Step :=
  device.sourceWrites.map (fun entry => .write entry.1 entry.2) ++
    Controls.writable.map fun id => id.step (codes id)

/-- All that a start does. -/
def startSteps (device : Device) (codes : ControlId → UInt32) : List Step :=
  device.preparation codes ++ [.write Layout.systemStart Layout.SystemStart.running]

/-- Describing the source and applying the controls are scripts. -/
theorem ends_configure {post : Outcome Unit → Device → σ → Prop}
    (coded : ∀ id ∈ Controls.writable, id.code (device.controls.get id) = .ok (codes id)) :
    configure.Ends host device world post ↔
      (do
        onRegisters (Step.runEach (device.sourceWrites.map fun entry => .write entry.1 entry.2))
        onRegisters (Step.runEach (Controls.writable.map fun id => id.step (codes id))) :
        Operation σ Unit).Ends host device world post := by
  have written := @RegisterMap.writeAll_eq_runEach σ device.sourceWrites
  have applied := @Controls.applyEach_eq_runEach σ device.controls codes
    Controls.writable (fun _ member => member) coded
  rw [← written, ← applied]
  unfold configure
  rw [ends_bind, ends_state]
  rfl

end Device

end IspDriver
