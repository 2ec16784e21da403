import Mathlib.Algebra.Group.Nat.Defs
import IspDriver.Format.Negotiation
import IspDriver.Proofs.Board

/-! The formats that negotiation can lead to fit the registers of the preview. -/

namespace IspDriver

theorem SourceFormat.ofCode_mem (code : PixelCode) : ofCode code ∈ all := by
  unfold ofCode
  cases found : all.find? (·.code == code) with
  | none => exact List.mem_cons_self ..
  | some format => exact List.mem_of_find?_eq_some found

theorem SourceFormat.ofCode_code {known : SourceFormat} (member : known ∈ all) :
    ofCode known.code = known := by
  have found : ∀ known ∈ all, ofCode known.code = known := by decide
  exact found known member

namespace Formats

variable {formats after : Formats}

/-- What the source is to produce is a source format, and the one of its code. -/
structure Matched (formats : Formats) : Prop where
  known : formats.produced ∈ SourceFormat.all
  code : formats.produced.code = formats.source.code

/-- The source is made of pictures of one width each, its sizes have registers and its encoding is
that of its code. -/
structure Regular (formats : Formats) : Prop extends formats.Matched where
  factor : formats.widthFactor ∈ [1, 2]
  divides : formats.widthFactor.toNat ∣ formats.source.width.toNat
  narrow : formats.source.width.toNat < formats.widthFactor.toNat * 2 ^ 16
  low : formats.source.height.toNat < 2 ^ 16

theorem matched_initial (model : SensorModel) (widthFactor : UInt32) :
    (initial model widthFactor).Matched :=
  ⟨List.mem_cons_self .., rfl⟩

variable {step low high value fitted : UInt32}

theorem fit?_cases (fits : fit? step low high value = some fitted) :
    fitted.toNat ≤ high.toNat ∧ (fitted = high ∨ fitted = low ∨ fitted = value - value % step) := by
  unfold fit? at fits
  split at fits
  · cases fits
  · have raised : max low (value - value % step) = low ∨
        max low (value - value % step) = value - value % step := by
      change (if low ≤ value - value % step then value - value % step else low) = low ∨ _
      split
      · exact .inr (if_pos ‹_›)
      · exact .inl rfl
    generalize max low (value - value % step) = lifted at fits raised
    have smaller : min high lifted = if high ≤ lifted then high else lifted := rfl
    rw [smaller, Option.some.injEq] at fits
    split at fits
    · exact ⟨Nat.le_of_eq (congrArg UInt32.toNat fits.symm), .inl fits.symm⟩
    · next below =>
        rw [UInt32.le_iff_toNat_le] at below
        subst fits
        exact ⟨by omega, .inr raised⟩

theorem fit?_dvd {factor : Nat} (fits : fit? step low high value = some fitted)
    (stepwise : factor ∣ step.toNat) (bottom : factor ∣ low.toNat) (top : factor ∣ high.toNat) :
    factor ∣ fitted.toNat := by
  rcases (fit?_cases fits).2 with rfl | rfl | rfl
  · exact top
  · exact bottom
  · have below : value % step ≤ value := by
      rw [UInt32.le_iff_toNat_le, UInt32.toNat_mod]
      exact Nat.mod_le ..
    rw [UInt32.toNat_sub_of_le _ _ below, UInt32.toNat_mod]
    exact Nat.dvd_trans stepwise (Nat.dvd_sub_mod value.toNat)

/-- With a format set that has a known code, the source is to produce what this code stands for. -/
theorem matched_withSource (formats : Formats) {format : PadFormat}
    (coded : ∃ known ∈ SourceFormat.all, known.code = format.code) :
    (formats.withSource format).Matched := by
  obtain ⟨known, member, same⟩ := coded
  refine ⟨SourceFormat.ofCode_mem _, ?_⟩
  change (SourceFormat.ofCode format.code).code = format.code
  rw [← same, SourceFormat.ofCode_code member]

theorem negotiate?_source (formats : Formats) (requested : PadFormat) :
    formats.negotiate? .source requested =
      (fit? (4 * formats.widthFactor) (minWidth * formats.widthFactor) maxWidth
        requested.width).bind fun width =>
        (fit? 2 minHeight maxHeight requested.height).map fun height =>
          ⟨(SourceFormat.ofCode requested.code).code, width, height⟩ := by
  simp only [negotiate?, Pad.isSink, Bool.false_eq_true, if_false]
  cases fit? (4 * formats.widthFactor) (minWidth * formats.widthFactor) maxWidth
    requested.width <;> cases fit? 2 minHeight maxHeight requested.height <;> rfl

/-- Whatever is set at whichever pad, what the source is to produce stays that of its code. -/
theorem Matched.set? {pad : Pad} {requested result : PadFormat} (matched : formats.Matched)
    (set : formats.set? pad requested = some (result, after)) : after.Matched := by
  obtain ⟨format, tried, made⟩ := Option.map_eq_some_iff.mp set
  cases made
  cases pad with
  | source =>
      rw [negotiate?_source, Option.bind_eq_some_iff] at tried
      obtain ⟨width, -, tall⟩ := tried
      obtain ⟨height, -, rfl⟩ := Option.map_eq_some_iff.mp tall
      exact matched_withSource formats ⟨_, SourceFormat.ofCode_mem _, rfl⟩
  | sink0 | sink1 => exact matched

theorem Regular.set? {pad : Pad} {requested result : PadFormat} (regular : formats.Regular)
    (set : formats.set? pad requested = some (result, after)) : after.Regular := by
  have matched := regular.toMatched.set? set
  obtain ⟨format, tried, made⟩ := Option.map_eq_some_iff.mp set
  cases made
  cases pad with
  | source =>
      rw [negotiate?_source, Option.bind_eq_some_iff] at tried
      obtain ⟨width, wide, tall⟩ := tried
      obtain ⟨height, high, rfl⟩ := Option.map_eq_some_iff.mp tall
      have limits : maxWidth.toNat = 4224 ∧ maxHeight.toNat = 4092 := ⟨rfl, rfl⟩
      have factors : ([1, 2] : List UInt32).all fun factor => decide (1 ≤ factor.toNat ∧
          factor.toNat ∣ (4 * factor).toNat ∧ factor.toNat ∣ (minWidth * factor).toNat ∧
          factor.toNat ∣ maxWidth.toNat) := by decide
      simp only [List.all_eq_true, decide_eq_true_eq] at factors
      obtain ⟨positive, stepwise, bottom, top⟩ := factors _ regular.factor
      have broad := (fit?_cases wide).1
      have upper := (fit?_cases high).1
      have narrow : width.toNat < formats.widthFactor.toNat * 2 ^ 16 := by omega
      have low : height.toNat < 2 ^ 16 := by omega
      exact ⟨matched, regular.factor, fit?_dvd wide stepwise bottom top, narrow, low⟩
  | sink0 | sink1 => exact regular

theorem Matched.encoding (matched : formats.Matched) :
    ∃ format ∈ SourceFormat.all, format.code = formats.source.code ∧
      formats.encoding = format.encoding :=
  ⟨formats.produced, matched.known, matched.code, rfl⟩

end Formats

end IspDriver
