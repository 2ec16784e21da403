import IspDriver.Proofs.Control
import IspDriver.Proofs.Device.Action
import IspDriver.Proofs.Format

/-!
What actions make of the formats and the controls that a device holds, on any host: the formats
follow what was negotiated, and every value that is stored for a control is valid.
-/

namespace IspDriver

open Routine

/-- Each value is what its control would store for it. -/
def Controls.Valid (controls : Controls) : Prop :=
  ∀ id ∈ Controls.writable, id.spec.validate (controls.get id) = .ok (controls.get id)

theorem Controls.valid_defaults : Controls.defaults.Valid := by
  intro id _
  cases id <;> first | rfl | contradiction

theorem Controls.Valid.set {controls : Controls} (valid : controls.Valid) {id : ControlId}
    {requested value : Int32} (accepted : id.spec.validate requested = .ok value) :
    (controls.set id value).Valid := by
  intro other writable
  simp only [Controls.set]
  split
  · next same =>
      subst same
      exact ControlSpec.validate_idempotent other.hasGrid accepted
  · exact valid other writable

/-- What the values come to in the registers of their controls. -/
def Controls.codes (controls : Controls) (id : ControlId) : UInt32 :=
  (id.code (controls.get id)).toOption.getD 0

theorem Controls.Valid.code_get {controls : Controls} (valid : controls.Valid) :
    ∀ id ∈ Controls.writable, id.code (controls.get id) = .ok (controls.codes id) := by
  intro id writable
  obtain ⟨code, coded, -⟩ := ControlId.code_of_valid writable (valid id writable)
  simp only [Controls.codes, coded, Except.toOption, Option.getD_some]

theorem Controls.Valid.coded {controls : Controls} (valid : controls.Valid) :
    ∃ codes : ControlId → UInt32, ∀ id ∈ Controls.writable,
      id.code (controls.get id) = .ok (codes id) :=
  ⟨_, valid.code_get⟩

theorem Controls.codes_set {controls : Controls} {id : ControlId} {value : Int32} {code : UInt32}
    (coded : id.code value = .ok code) (other : ControlId) :
    (controls.set id value).codes other = if other = id then code else controls.codes other := by
  unfold Controls.codes Controls.set
  by_cases same : other = id
  · subst same
    simp only [if_true, coded, Except.toOption, Option.getD_some]
  · simp only [if_neg same]

namespace Device

variable {σ : Type} {host : Host σ} {device : Device} {world : σ}

/-- The formats in force after an action. -/
def Action.formatsAfter (formats : Formats) : Action → Formats
  | setFormat pad requested =>
      match formats.set? pad requested with
      | some (_, chosen) => chosen
      | none => formats
  | _ => formats

theorem setControl_controls (id : ControlId) (requested : Int32) :
    (setControl id requested).Ends host device world fun _ after _ =>
      after.controls = device.controls ∨ ∃ value, id.spec.validate requested = .ok value ∧
        after.controls = device.controls.set id value := by
  unfold setControl
  cases accepted : id.spec.validate requested with
  | error error => exact .inl rfl
  | ok value =>
      rw [ofExcept_ok_bind, ends_bind, ends_state]
      simp only [followed]
      split
      · rw [ends_bind, onRegisters, ends_act]
        refine ends_of_all fun outcome after left => ?_
        cases outcome with
        | done _ => exact .inr ⟨value, rfl, rfl⟩
        | failed error => exact .inl rfl
        | aborted => exact .inl rfl
      · exact .inr ⟨value, rfl, rfl⟩

theorem perform_valid (action : Action) (valid : device.controls.Valid) :
    action.perform.Ends host device world fun _ after _ => after.controls.Valid := by
  cases action with
  | setControl id requested =>
      unfold Action.perform
      rw [ends_bind]
      refine (setControl_controls id requested).mono ?_
      intro outcome after left stored
      have kept : after.controls.Valid := by
        rcases stored with same | ⟨value, accepted, same⟩
        · rw [same]
          exact valid
        · rw [same]
          exact valid.set accepted
      cases outcome with
      | done _ => exact kept
      | failed error => exact kept
      | aborted => exact kept
  | _ =>
      refine Ends.mono (@Action.perform_unseen σ Controls host Device.controls device world _
        ⟨fun _ _ => rfl, by first | trivial | exact fun _ _ => rfl⟩) ?_
      intro outcome after left same
      rw [same]
      exact valid

end Device

end IspDriver
