import Mathlib.Order.Bounds.Defs
import IspDriver.Proofs.Format.Grid

/-!
What a format that is asked for comes to at the source: the largest sizes of the grid that are not
above the ones asked for, in the code asked for if the source has it. Setting a format applies what
trying it reports, and no request reaches the sinks.
-/

namespace IspDriver

/-- The largest of the sizes up to `value`, or `least` where all of them are above. -/
def LargestUpTo (sizes : Set Nat) (least value best : Nat) : Prop :=
  IsGreatest {size ∈ sizes | size ≤ value} best ∨ (∀ size ∈ sizes, value < size) ∧ best = least

theorem LargestUpTo.mono {sizes : Set Nat} {least value other best most : Nat}
    (smaller : LargestUpTo sizes least value best) (larger : LargestUpTo sizes least other most)
    (bottom : ∀ size ∈ sizes, least ≤ size) (ordered : value ≤ other) : best ≤ most := by
  rcases smaller with ⟨⟨member, below⟩, -⟩ | ⟨-, rfl⟩
  · have within := Nat.le_trans below ordered
    rcases larger with ⟨-, greatest⟩ | ⟨above, -⟩
    · exact greatest ⟨member, within⟩
    · exact absurd (above best member) (Nat.not_lt.mpr within)
  · rcases larger with ⟨⟨member, -⟩, -⟩ | ⟨-, rfl⟩
    · exact bottom most member
    · exact Nat.le_refl _

namespace Formats

/-- The widths that the source of so many pictures can have. -/
def widths (factor : Nat) : Set Nat :=
  {width | 4 * factor ∣ width ∧ 24 * factor ≤ width ∧ width ≤ 4224}

/-- The heights that the source can have. -/
def heights : Set Nat :=
  {height | 2 ∣ height ∧ 16 ≤ height ∧ height ≤ 4092}

variable {step low high fitted : UInt32}

/-- Where both limits are in step, what is fitted is the largest size there is up to the value. -/
theorem fit?_largest (positive : step ≠ 0) (ordered : low.toNat ≤ high.toNat)
    (bottom : step.toNat ∣ low.toNat) (top : step.toNat ∣ high.toNat) {value : UInt32}
    (fits : fit? step low high value = some fitted) :
    LargestUpTo {size | step.toNat ∣ size ∧ low.toNat ≤ size ∧ size ≤ high.toNat} low.toNat
      value.toNat fitted.toNat := by
  obtain ⟨size, found, number⟩ := fit?_eq positive ordered value
  cases found.symm.trans fits
  have down : step.toNat ∣ value.toNat - value.toNat % step.toNat := Nat.dvd_sub_mod value.toNat
  -- No multiple of the step lies between the value and the one below it.
  have nearest : ∀ size, step.toNat ∣ size → size ≤ value.toNat →
      size ≤ value.toNat - value.toNat % step.toNat := by
    rintro size ⟨count, rfl⟩ below
    have part : (step.toNat * count) % step.toNat = 0 := Nat.mul_mod_right ..
    have rest := Nat.div_add_mod value.toNat step.toNat
    have fewer : count ≤ value.toNat / step.toNat := by
      rw [Nat.le_div_iff_mul_le (Nat.pos_of_ne_zero fun zero => positive (UInt32.toNat_inj.mp zero)),
        Nat.mul_comm]
      exact below
    have least := Nat.mul_le_mul_left step.toNat fewer
    omega
  by_cases small : value.toNat < low.toNat
  · refine .inr ⟨fun size among => Nat.lt_of_lt_of_le small among.2.1, ?_⟩
    omega
  · have above := nearest low.toNat bottom (by omega)
    refine .inl ⟨⟨⟨?_, by omega, by omega⟩, by omega⟩, ?_⟩
    · rw [number]
      rcases Nat.le_total high.toNat (value.toNat - value.toNat % step.toNat) with past | within
      · rwa [Nat.max_eq_right above, Nat.min_eq_left past]
      · rwa [Nat.max_eq_right above, Nat.min_eq_right within]
    · rintro size ⟨⟨stepped, -, below⟩, within⟩
      have most := nearest size stepped within
      omega

variable {formats after : Formats} {code : PixelCode} {requested format : PadFormat}

/-- The source has the code under one of its indices. -/
def Reports (formats : Formats) (code : PixelCode) : Prop :=
  ∃ index, formats.pixelCode .source index = .ok code

theorem reports_iff : formats.Reports code ↔ ∃ known ∈ SourceFormat.all, known.code = code := by
  constructor
  · rintro ⟨index, reported⟩
    simp only [pixelCode, Pad.isSink, Bool.false_eq_true, if_false] at reported
    split at reported
    · next known found =>
        cases reported
        exact ⟨known, List.mem_of_getElem? found, rfl⟩
    · cases reported
  · rintro ⟨known, member, rfl⟩
    obtain ⟨index, found⟩ := List.mem_iff_getElem?.mp member
    exact ⟨index, by simp [pixelCode, Pad.isSink, found]⟩

/-- A code that is reported stands for itself. -/
theorem Reports.ofCode (reported : formats.Reports code) : (SourceFormat.ofCode code).code = code := by
  obtain ⟨known, member, rfl⟩ := reports_iff.mp reported
  rw [SourceFormat.ofCode_code member]

/-- Any other code stands for the first one. -/
theorem pixelCode_ofCode (other : ¬ formats.Reports code) :
    formats.pixelCode .source 0 = .ok (SourceFormat.ofCode code).code := by
  have missing : SourceFormat.all.find? (·.code == code) = none := by
    simp only [List.find?_eq_none, beq_iff_eq]
    exact fun known member same => other (reports_iff.mpr ⟨known, member, same⟩)
  rw [SourceFormat.ofCode, missing]
  rfl

/-- What trying a format at the source comes to, and the formats after setting it. -/
structure Negotiates (formats : Formats) (requested format : PadFormat) (after : Formats) :
    Prop where
  tried : formats.negotiate? .source requested = some format
  width : LargestUpTo (widths formats.widthFactor.toNat) (24 * formats.widthFactor.toNat)
    requested.width.toNat format.width.toNat
  height : LargestUpTo heights 16 requested.height.toNat format.height.toNat
  reported : formats.Reports requested.code → format.code = requested.code
  unreported : ¬ formats.Reports requested.code → formats.pixelCode .source 0 = .ok format.code
  listed : ∃ range, formats.frameRange .source 0 format.code = .ok range ∧ range.Contains format
  settled : formats.negotiate? .source format = some format
  monotone : ∀ other larger, formats.negotiate? .source other = some larger →
    (requested.width ≤ other.width → format.width ≤ larger.width) ∧
      (requested.height ≤ other.height → format.height ≤ larger.height)
  set : formats.set? .source requested = some (format, after)
  applied : after = { formats with source := format, produced := after.produced } ∧
    after.get .source = format
  encoded : ∃ known ∈ SourceFormat.all,
    known.code = (after.get .source).code ∧ after.encoding = known.encoding

/-- What a request at the source comes to, in its parts. -/
theorem negotiate?_parts (fits : FactorFits formats.widthFactor)
    (tried : formats.negotiate? .source requested = some format) :
    format.code = (SourceFormat.ofCode requested.code).code ∧
      LargestUpTo (widths formats.widthFactor.toNat) (24 * formats.widthFactor.toNat)
        requested.width.toNat format.width.toNat ∧
      LargestUpTo heights 16 requested.height.toNat format.height.toNat := by
  obtain ⟨positive, step, bottom, stepBottom⟩ := fits.widths
  rw [negotiate?_source, Option.bind_eq_some_iff] at tried
  obtain ⟨width, wide, tall⟩ := tried
  obtain ⟨height, high, rfl⟩ := Option.map_eq_some_iff.mp tall
  have widest := fit?_largest positive (bottom ▸ fits.narrow)
    (by rw [step, bottom]; exact stepBottom) (step ▸ fits.whole) wide
  have highest := @fit?_largest 2 minHeight maxHeight _ (by decide) (by decide) (by decide)
    (by decide) _ high
  rw [step, bottom] at widest
  exact ⟨rfl, widest, highest⟩

/-- No request reaches a sink, and none at a sink changes anything. -/
theorem set?_keeps_sinks {pad sink : Pad} {result : PadFormat} (isSink : sink.isSink = true)
    (set : formats.set? pad requested = some (result, after)) :
    after.get sink = formats.get sink ∧
      (pad.isSink = true → result = formats.get pad ∧ after = formats) := by
  obtain ⟨format, -, made⟩ := Option.map_eq_some_iff.mp set
  cases made
  cases at_sink : pad.isSink with
  | true =>
      rw [set?_sink at_sink] at set
      simp_all [Formats.get]
  | false => simp [Formats.get, isSink, withSource]

theorem exists_negotiates (fits : FactorFits formats.widthFactor) (requested : PadFormat) :
    ∃ format after, formats.Negotiates requested format after := by
  obtain ⟨format, tried, admitted⟩ := negotiate?_admits fits requested
  obtain ⟨code, width, height⟩ := negotiate?_parts fits tried
  refine ⟨format, formats.withSource format, {
    tried
    width
    height
    reported := fun reported => code.trans reported.ofCode
    unreported := fun other => code ▸ pixelCode_ofCode other
    listed := admitted.listed fits
    settled := negotiate?_of_admits fits admitted
    monotone := fun other larger asked => ?_
    set := by simp [Formats.set?, tried, Pad.isSink]
    applied := ⟨rfl, rfl⟩
    encoded := (matched_withSource formats admitted.coded).encoding }⟩
  obtain ⟨-, wider, higher⟩ := negotiate?_parts fits asked
  simp only [UInt32.le_iff_toNat_le]
  exact ⟨width.mono wider fun _ among => among.2.1, height.mono higher fun _ among => among.2.1⟩

/-- Every request is answered, and set as it was tried. -/
theorem exists_set? (fits : FactorFits formats.widthFactor) (pad : Pad) (requested : PadFormat) :
    ∃ result after, formats.negotiate? pad requested = some result ∧
      formats.set? pad requested = some (result, after) := by
  have answered : ∃ result, formats.negotiate? pad requested = some result := by
    cases pad with
    | source => exact (negotiate?_admits fits requested).imp fun _ tried => tried.1
    | sink0 | sink1 => exact ⟨formats.model.format, by simp [negotiate?, Pad.isSink]⟩
  obtain ⟨result, tried⟩ := answered
  exact ⟨result, _, tried, by rw [Formats.set?, tried, Option.map_some]⟩

/-- Whatever is asked for at the source, trying it leads to the best size there is and setting it
applies that, with the encoding of its code; the sinks keep the format of their sensor. The source
begins with the encoding of its code and has it after any request at any pad. -/
theorem source_negotiates :
    (∀ factor : UInt32, factor ∈ [1, 2] → FactorFits factor) ∧
    (∀ config board, Board.ofConfig config = .ok board → board.widthFactor ∈ [1, 2]) ∧
    (∀ model widthFactor, (initial model widthFactor).Matched) ∧
    ∀ formats : Formats, FactorFits formats.widthFactor →
      (∀ requested, ∃ format after, formats.Negotiates requested format after) ∧
      ∀ pad requested, ∃ result after, formats.negotiate? pad requested = some result ∧
        formats.set? pad requested = some (result, after) ∧
        (∀ sink : Pad, sink.isSink = true → after.get sink = formats.get sink) ∧
        (pad.isSink = true → result = formats.get pad ∧ after = formats) ∧
        (formats.Matched → after.Matched) := by
  refine ⟨fun _ => factorFits_of_mem, fun _ _ accepted => (onGrid_initial accepted).1,
    matched_initial, fun formats fits => ⟨exists_negotiates fits, fun pad requested => ?_⟩⟩
  obtain ⟨result, after, tried, set⟩ := exists_set? fits pad requested
  exact ⟨result, after, tried, set, fun _ isSink => (set?_keeps_sinks isSink set).1,
    fun isSink => (set?_keeps_sinks isSink set).2 isSink, fun matched => matched.set? set⟩

/-- Three pictures side by side, asked for more width than there is in a code that is not known. -/
theorem three_pictures_negotiate :
    FactorFits 3 ∧ ∃ after, (initial .ar0144 3).Negotiates ⟨⟨0x1234⟩, 4294967295, 17⟩
      ⟨.uyvy8, 4224, 16⟩ after := by
  have fits : FactorFits 3 := ⟨by decide, by decide, by decide⟩
  obtain ⟨format, after, negotiates⟩ :=
    (source_negotiates.2.2.2 (initial .ar0144 3) fits).1 ⟨⟨0x1234⟩, 4294967295, 17⟩
  have known : format = ⟨.uyvy8, 4224, 16⟩ := by
    have tried := negotiates.tried
    have computed : (initial .ar0144 3).negotiate? .source ⟨⟨0x1234⟩, 4294967295, 17⟩ =
        some ⟨.uyvy8, 4224, 16⟩ := by decide
    exact Option.some.inj (tried.symm.trans computed)
  exact ⟨fits, after, known ▸ negotiates⟩

end Formats

end IspDriver
