import Mathlib.Algebra.Group.Int.Defs
import IspDriver.Proofs.Device.Traffic

/-!
The values that controls take. A value that has been validated is valid; it lies in the range of its
control, has a code, and the code fits in the bits that the control has in its register.
-/

namespace IspDriver

open Routine

section Grid

variable {value min max step : Int}

theorem roundToGrid_bounds (positive : 0 < step) (ordered : min ≤ max) :
    min ≤ roundToGrid value min max step ∧ roundToGrid value min max step ≤ max := by
  simp only [roundToGrid]
  generalize (if 0 ≤ max ∧ max - step / 2 ≤ value then max else value + step / 2) = raised
  have inside : 0 ≤ Min.min max (Max.max min raised) - min := by omega
  have steps := Int.ediv_nonneg inside (Int.le_of_lt positive)
  have down := Int.ediv_mul_le (Min.min max (Max.max min raised) - min) (Int.ne_of_gt positive)
  have up := Int.mul_nonneg steps (Int.le_of_lt positive)
  omega

theorem roundToGrid_of_point (positive : 0 < step) {count : Int} (low : 0 ≤ count)
    (high : min + count * step ≤ max) :
    roundToGrid (min + count * step) min max step = min + count * step := by
  have above := Int.mul_nonneg low (Int.le_of_lt positive)
  have unique : ∀ clamped : Int, count * step ≤ clamped - min →
      clamped - min < count * step + step → min + (clamped - min) / step * step =
        min + count * step := by
    intro clamped least below
    have quotient : (clamped - min) / step = count := by
      apply Int.le_antisymm
      · have succ : clamped - min < (count + 1) * step := by
          rw [Int.add_mul, Int.one_mul]
          exact below
        exact Int.le_of_lt_add_one (Int.ediv_lt_of_lt_mul positive succ)
      · exact Int.le_ediv_of_mul_le positive least
    rw [quotient]
  simp only [roundToGrid]
  apply unique
  · split <;> omega
  · split <;> omega

theorem roundToGrid_idempotent (positive : 0 < step) (ordered : min ≤ max) :
    roundToGrid (roundToGrid value min max step) min max step = roundToGrid value min max step := by
  obtain ⟨-, high⟩ := @roundToGrid_bounds value min max step positive ordered
  have inside : 0 ≤ Min.min max (Max.max min
      (if 0 ≤ max ∧ max - step / 2 ≤ value then max else value + step / 2)) - min := by omega
  exact roundToGrid_of_point positive (Int.ediv_nonneg inside (Int.le_of_lt positive)) high

end Grid

namespace ControlSpec

variable {spec : ControlSpec} {requested value : Int32}

/-- The grid of an integer control has a step and at least one point. -/
def HasGrid (spec : ControlSpec) : Prop :=
  ∀ step, spec.kind = .integer step → 0 < step.toInt ∧ spec.min.toInt ≤ spec.max.toInt

theorem toInt_ofInt_between {number : Int} (low : spec.min.toInt ≤ number)
    (high : number ≤ spec.max.toInt) : (Int32.ofInt number).toInt = number :=
  Int32.toInt_ofInt_of_le (Int.le_trans (Int32.le_toInt _) low)
    (Int.lt_of_le_of_lt high (Int32.toInt_lt _))

theorem validate_idempotent (grid : spec.HasGrid) (valid : spec.validate requested = .ok value) :
    spec.validate value = .ok value := by
  unfold validate at valid ⊢
  split at valid
  · cases valid
  · next settable =>
      rw [if_neg settable]
      cases kind : spec.kind with
      | integer step =>
          obtain ⟨positive, ordered⟩ := grid step kind
          simp only [kind, Except.ok.injEq] at valid ⊢
          obtain ⟨low, high⟩ := @roundToGrid_bounds requested.toInt _ _ _ positive ordered
          subst valid
          rw [toInt_ofInt_between low high, roundToGrid_idempotent positive ordered]
      | menu skipped =>
          simp only [kind] at valid ⊢
          split at valid
          · cases valid
          · split at valid
            · cases valid
            · next inside supported =>
                cases valid
                rw [if_neg inside, if_neg supported]
      | numbers items =>
          simp only [kind] at valid
          cases valid

theorem range_of_validate (grid : spec.HasGrid) (valid : spec.validate requested = .ok value) :
    spec.min.toInt ≤ value.toInt ∧ value.toInt ≤ spec.max.toInt := by
  unfold validate at valid
  split at valid
  · cases valid
  · cases kind : spec.kind with
    | integer step =>
        obtain ⟨positive, ordered⟩ := grid step kind
        simp only [kind, Except.ok.injEq] at valid
        obtain ⟨low, high⟩ := @roundToGrid_bounds requested.toInt _ _ _ positive ordered
        subst valid
        rw [toInt_ofInt_between low high]
        exact ⟨low, high⟩
    | menu skipped =>
        simp only [kind] at valid
        split at valid
        · cases valid
        · split at valid
          · cases valid
          · next inside _ =>
              cases valid
              simp only [not_or, Int32.not_lt, Int32.le_iff_toInt_le] at inside
              exact inside
    | numbers items =>
        simp only [kind] at valid
        cases valid

end ControlSpec

namespace ControlId

variable {id : ControlId} {value : Int32}

theorem hasGrid (id : ControlId) : id.spec.HasGrid := by
  intro step kind
  cases id <;> cases kind <;> decide

/-- The controls that are written, in the order in which they are. -/
theorem writable_eq : Controls.writable =
    [whiteBalance, gamma, contrast, brightness, saturation, exposure, exposureMetering, gain, zoom,
      colorEffect, sceneMode, powerLineFrequency] := rfl

/-- Only the link frequency is not written. -/
theorem mem_writable : id ∈ Controls.writable ↔ id ≠ linkFrequency := by
  rw [writable_eq]
  cases id <;> decide

/-- What a value comes to in the register of its control. -/
def code (id : ControlId) (value : Int32) : Except Error UInt32 :=
  match id with
  | whiteBalance =>
      (encode id whiteBalanceModes value).map fun mode =>
        mode ||| (if value = flashPreset then Layout.WhiteBalance.flash else 0)
  | colorEffect => encode id effects value
  | sceneMode => encode id scenes value
  | powerLineFrequency => encode id flickerModes value
  | _ => .ok value.toUInt32

/-- The bits of the register that belong to the control. -/
def mask : ControlId → UInt32
  | whiteBalance => Layout.WhiteBalance.modeMask ||| Layout.WhiteBalance.flash
  | exposure => Layout.exposureModeMask
  | _ => 0xffff

theorem toNat_toUInt32 (nonneg : 0 ≤ value.toInt) : value.toUInt32.toNat = value.toInt.toNat := by
  have signed := BitVec.toInt_eq_toNat_cond value.toBitVec
  have bound := value.toBitVec.isLt
  have number : value.toInt = value.toBitVec.toInt := rfl
  have word : value.toUInt32.toNat = value.toBitVec.toNat := rfl
  rw [number] at nonneg ⊢
  rw [word]
  split at signed <;> omega

theorem number_fits {bits : Nat} {mask : UInt32} (low : 0 ≤ value.toInt)
    (high : value.toInt < 2 ^ bits) (ones : mask.toNat = 2 ^ bits - 1) :
    value.toUInt32 &&& mask = value.toUInt32 := by
  apply UInt32.toNat_inj.mp
  rw [UInt32.toNat_and, ones, toNat_toUInt32 low]
  apply Nat.and_two_pow_sub_one_of_lt_two_pow
  have power : ((2 ^ bits : Nat) : Int) = 2 ^ bits := by simp
  omega

theorem encode_mem (id : ControlId) (codes : List UInt32) (low : 0 ≤ value.toInt)
    (high : value.toInt < codes.length) : ∃ code ∈ codes, encode id codes value = .ok code := by
  have notNegative : ¬ value < 0 := by
    rw [Int32.lt_iff_toInt_lt]
    exact Int.not_lt.mpr low
  have within : value.toNatClampNeg < codes.length := by
    rw [← Int32.toNat_toInt]
    omega
  refine ⟨codes[value.toNatClampNeg], List.getElem_mem within, ?_⟩
  rw [encode, if_neg notNegative, List.getElem?_eq_getElem within]

theorem fits_of_mem {mask code : UInt32} (codes : List UInt32)
    (fit : codes.all fun code => code &&& mask == code) (member : code ∈ codes) :
    code &&& mask = code :=
  eq_of_beq (List.all_eq_true.mp fit code member)

/-- A valid value has a code, which leaves the other bits of the register alone. -/
theorem code_of_valid (writable : id ∈ Controls.writable)
    (valid : id.spec.validate value = .ok value) :
    ∃ code, id.code value = .ok code ∧ code &&& id.mask = code := by
  obtain ⟨low, high⟩ := ControlSpec.range_of_validate id.hasGrid valid
  have nonneg : 0 ≤ value.toInt := by
    have start : 0 ≤ id.spec.min.toInt := by cases id <;> decide
    omega
  have number : id.spec.max.toInt < 2 ^ 16 → id.mask = 0xffff →
      value.toUInt32 &&& id.mask = value.toUInt32 := by
    intro bound ones
    rw [ones]
    exact @number_fits value 16 _ nonneg (Int.lt_of_le_of_lt high bound) (by decide)
  cases id with
  | whiteBalance =>
      obtain ⟨mode, member, encoded⟩ := encode_mem whiteBalance whiteBalanceModes nonneg
        (Int.lt_of_le_of_lt high (by decide))
      refine ⟨_, by rw [code, encoded, Except.map], ?_⟩
      split
      · exact fits_of_mem (whiteBalanceModes.map (· ||| Layout.WhiteBalance.flash)) (by decide)
          (List.mem_map_of_mem member)
      · exact fits_of_mem (whiteBalanceModes.map (· ||| 0)) (by decide)
          (List.mem_map_of_mem member)
  | exposure =>
      refine ⟨_, rfl, @number_fits value 4 _ nonneg (Int.lt_of_le_of_lt high (by decide)) ?_⟩
      decide
  | colorEffect =>
      obtain ⟨effect, member, encoded⟩ := encode_mem colorEffect effects nonneg
        (Int.lt_of_le_of_lt high (by decide))
      exact ⟨effect, encoded, fits_of_mem _ (by decide) member⟩
  | sceneMode =>
      obtain ⟨scene, member, encoded⟩ := encode_mem sceneMode scenes nonneg
        (Int.lt_of_le_of_lt high (by decide))
      exact ⟨scene, encoded, fits_of_mem _ (by decide) member⟩
  | powerLineFrequency =>
      obtain ⟨mode, member, encoded⟩ := encode_mem powerLineFrequency flickerModes nonneg
        (Int.lt_of_le_of_lt high (by decide))
      exact ⟨mode, encoded, fits_of_mem _ (by decide) member⟩
  | linkFrequency => exact absurd rfl (mem_writable.mp writable)
  | _ => exact ⟨_, rfl, number (by decide) rfl⟩

/-- The control shares its register with bits that are not its own. -/
def IsField (id : ControlId) : Prop :=
  id.mask ≠ 0xffff

instance : DecidablePred IsField :=
  fun id => inferInstanceAs (Decidable (id.mask ≠ 0xffff))

theorem apply_of_isField {σ : Type} (field : id.IsField) :
    (id.apply value : Access σ Unit) = ofExcept (id.code value) >>= fun code =>
      RegisterMap.updateBits id.register id.mask code := by
  cases id with
  | whiteBalance =>
      simp only [ControlId.apply, code]
      cases encode whiteBalance whiteBalanceModes value with
      | error error => simp only [Except.map, ofExcept_error_bind]
      | ok mode =>
          simp only [Except.map, ofExcept_ok_bind]
          rfl
  | exposure =>
      simp only [code, ofExcept_ok_bind]
      rfl
  | _ => exact absurd field (by decide)

theorem apply_of_not_isField {σ : Type} (writable : id ∈ Controls.writable)
    (whole : ¬ id.IsField) :
    (id.apply value : Access σ Unit) = ofExcept (id.code value) >>= fun code =>
      RegisterMap.write id.register code := by
  cases id with
  | whiteBalance => exact absurd (by decide) whole
  | exposure => exact absurd (by decide) whole
  | linkFrequency => exact absurd rfl (mem_writable.mp writable)
  | colorEffect => rfl
  | sceneMode => rfl
  | powerLineFrequency => rfl
  | _ =>
      simp only [code, ofExcept_ok_bind]
      rfl

end ControlId

end IspDriver
