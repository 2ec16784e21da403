import IspDriver.Proofs.Format

/-!
The formats that the source of a device can be left with. Negotiation ends on a grid between limits,
and keeps what lies there, so a source that was ever asked for a format has one of these. The format
a board begins with need not be one: it is as wide as all the pictures together, and two wide
pictures reach past the limit.
-/

namespace IspDriver

/-- The size lies between the ends of the range. -/
def FrameRange.Contains (range : FrameRange) (format : PadFormat) : Prop :=
  range.minWidth ≤ format.width ∧ format.width ≤ range.maxWidth ∧
    range.minHeight ≤ format.height ∧ format.height ≤ range.maxHeight

namespace Formats

variable {step low high value fitted : UInt32}

theorem toNat_max (first second : UInt32) :
    (max first second).toNat = max first.toNat second.toNat := by
  change (if first ≤ second then second else first).toNat = _
  split <;> simp_all only [UInt32.le_iff_toNat_le] <;> omega

theorem toNat_min (first second : UInt32) :
    (min first second).toNat = min first.toNat second.toNat := by
  change (if first ≤ second then first else second).toNat = _
  split <;> simp_all only [UInt32.le_iff_toNat_le] <;> omega

/-- The size that is fitted, as a number. -/
theorem fit?_eq (positive : step ≠ 0) (ordered : low.toNat ≤ high.toNat) (value : UInt32) :
    ∃ fitted, fit? step low high value = some fitted ∧
      fitted.toNat = min high.toNat (max low.toNat (value.toNat - value.toNat % step.toNat)) := by
  have forward : ¬ high < low := by
    rw [UInt32.lt_iff_toNat_lt]
    omega
  have part : value % step ≤ value := by
    rw [UInt32.le_iff_toNat_le, UInt32.toNat_mod]
    exact Nat.mod_le ..
  refine ⟨min high (max low (value - value % step)), by simp [fit?, positive, forward], ?_⟩
  rw [toNat_min, toNat_max, UInt32.toNat_sub_of_le _ _ part, UInt32.toNat_mod]

theorem fit?_of_mem (positive : step ≠ 0) (stepped : step.toNat ∣ value.toNat)
    (above : low.toNat ≤ value.toNat) (below : value.toNat ≤ high.toNat) :
    fit? step low high value = some value := by
  obtain ⟨fitted, fits, number⟩ := fit?_eq positive (Nat.le_trans above below) value
  have same : fitted.toNat = value.toNat := by
    rw [number, Nat.mod_eq_zero_of_dvd stepped]
    omega
  rw [fits, UInt32.toNat_inj.mp same]

variable {formats after : Formats} {format requested : PadFormat} {pad : Pad}

/-- A format on the grid of the source that is not too small. -/
structure OnGrid (formats : Formats) (format : PadFormat) : Prop where
  coded : ∃ known ∈ SourceFormat.all, known.code = format.code
  stepped : 4 * formats.widthFactor.toNat ∣ format.width.toNat
  broad : 24 * formats.widthFactor.toNat ≤ format.width.toNat
  even : 2 ∣ format.height.toNat
  tall : 16 ≤ format.height.toNat
  low : format.height.toNat ≤ 4092

/-- A format that the source can be left with. -/
structure Admits (formats : Formats) (format : PadFormat) : Prop extends formats.OnGrid format where
  narrow : format.width.toNat ≤ 4224

/-- A number of pictures for which the widths side by side begin at the lower limit, end at the upper
one and are in step with both. -/
structure FactorFits (factor : UInt32) : Prop where
  positive : 1 ≤ factor.toNat
  narrow : 24 * factor.toNat ≤ 4224
  whole : 4 * factor.toNat ∣ 4224

theorem factorFits_of_mem {factor : UInt32} (known : factor ∈ [1, 2]) : FactorFits factor := by
  simp only [List.mem_cons, List.not_mem_nil, or_false] at known
  rcases known with rfl | rfl <;> exact ⟨by decide, by decide, by decide⟩

/-- The steps and the limits of a width. -/
theorem FactorFits.widths {factor : UInt32} (fits : FactorFits factor) :
    4 * factor ≠ 0 ∧ (4 * factor).toNat = 4 * factor.toNat ∧
      (minWidth * factor).toNat = 24 * factor.toNat ∧ 4 * factor.toNat ∣ 24 * factor.toNat := by
  have positive := fits.positive
  have narrow := fits.narrow
  have step : (4 * factor).toNat = 4 * factor.toNat := by
    have small : 4 * factor.toNat < 2 ^ 32 := by omega
    exact (UInt32.toNat_mul 4 factor).trans (Nat.mod_eq_of_lt small)
  have bottom : (minWidth * factor).toNat = 24 * factor.toNat := by
    have small : 24 * factor.toNat < 2 ^ 32 := by omega
    exact (UInt32.toNat_mul minWidth factor).trans (Nat.mod_eq_of_lt small)
  refine ⟨?_, step, bottom, ⟨6, by omega⟩⟩
  rintro zero
  rw [zero] at step
  simp at step
  omega

theorem negotiate?_admits (fits : FactorFits formats.widthFactor) (requested : PadFormat) :
    ∃ format, formats.negotiate? .source requested = some format ∧ formats.Admits format := by
  obtain ⟨positive, step, bottom, stepBottom⟩ := fits.widths
  obtain ⟨width, wide, broad⟩ := @fit?_eq _ _ maxWidth positive (bottom ▸ fits.narrow)
    requested.width
  obtain ⟨height, high, tall⟩ := @fit?_eq 2 minHeight maxHeight
    (by decide) (by decide) requested.height
  have stepped := fit?_dvd wide (step ▸ Nat.dvd_refl _) (bottom ▸ stepBottom) fits.whole
  have even := @fit?_dvd _ _ _ _ _ 2 high (by decide) (by decide) (by decide)
  have limits : maxWidth.toNat = 4224 ∧ minHeight.toNat = 16 ∧ maxHeight.toNat = 4092 :=
    ⟨rfl, rfl, rfl⟩
  have narrow := fits.narrow
  rw [negotiate?_source, wide, high]
  refine ⟨_, rfl, ⟨⟨_, SourceFormat.ofCode_mem _, rfl⟩, stepped, ?_, even, ?_, ?_⟩, ?_⟩
  all_goals simp only; omega

theorem negotiate?_of_admits (fits : FactorFits formats.widthFactor)
    (admitted : formats.Admits format) : formats.negotiate? .source format = some format := by
  obtain ⟨positive, step, bottom, -⟩ := fits.widths
  have wide := @fit?_of_mem _ _ maxWidth _ positive (step ▸ admitted.stepped)
    (bottom ▸ admitted.broad) admitted.narrow
  have high := @fit?_of_mem 2 minHeight maxHeight _ (by decide) admitted.even admitted.tall
    admitted.low
  obtain ⟨known, member, same⟩ := admitted.coded
  have code : (SourceFormat.ofCode format.code).code = format.code := by
    rw [← same, SourceFormat.ofCode_code member]
  simp [negotiate?_source, wide, high, code]

/-- Negotiation keeps what the source can be left with, and nothing else. -/
theorem negotiate?_eq_self_iff (known : formats.widthFactor ∈ [1, 2]) :
    formats.negotiate? .source format = some format ↔ formats.Admits format := by
  refine ⟨fun kept => ?_, negotiate?_of_admits (factorFits_of_mem known)⟩
  obtain ⟨negotiated, same, admitted⟩ := negotiate?_admits (factorFits_of_mem known) format
  rw [kept, Option.some.injEq] at same
  exact same ▸ admitted

theorem frameRange_source {code : PixelCode}
    (coded : ∃ known ∈ SourceFormat.all, known.code = code) :
    formats.frameRange .source 0 code =
      .ok ⟨minWidth * formats.widthFactor, minHeight, maxWidth, maxHeight⟩ := by
  obtain ⟨known, member, same⟩ := coded
  have listed : SourceFormat.all.any (·.code == code) = true :=
    List.any_eq_true.mpr ⟨known, member, by simp [same]⟩
  simp [Formats.frameRange, Pad.isSink, listed]

theorem Admits.listed (fits : FactorFits formats.widthFactor) (admitted : formats.Admits format) :
    ∃ range, formats.frameRange .source 0 format.code = .ok range ∧ range.Contains format := by
  obtain ⟨-, -, bottom, -⟩ := fits.widths
  refine ⟨_, frameRange_source admitted.coded, ?_, ?_, ?_, ?_⟩ <;> rw [UInt32.le_iff_toNat_le]
  · exact bottom ▸ admitted.broad
  · exact admitted.narrow
  · exact admitted.tall
  · exact admitted.low

/-- The range listed for the code of a format on the grid holds it if it is not too wide. -/
theorem OnGrid.listed_iff (grid : formats.OnGrid format) (known : formats.widthFactor ∈ [1, 2]) :
    (∃ range, formats.frameRange .source 0 format.code = .ok range ∧ range.Contains format) ↔
      formats.Admits format := by
  refine ⟨?_, fun admitted => admitted.listed (factorFits_of_mem known)⟩
  rw [frameRange_source grid.coded]
  rintro ⟨_, listed, contains⟩
  cases listed
  exact ⟨grid, UInt32.le_iff_toNat_le.mp contains.2.1⟩

/-- The formats after requests at pads, in order; none if there is no answer to one of them. -/
def setEach? (formats : Formats) : List (Pad × PadFormat) → Option Formats
  | [] => some formats
  | (pad, requested) :: rest =>
      (formats.set? pad requested).bind fun (_, after) => after.setEach? rest

theorem set?_sink (sink : pad.isSink = true) :
    formats.set? pad requested = some (formats.model.format, formats) := by
  simp [Formats.set?, negotiate?, sink]

theorem set?_source (fits : FactorFits formats.widthFactor) (requested : PadFormat) :
    ∃ format, formats.set? .source requested = some (format, formats.withSource format) ∧
      formats.Admits format := by
  obtain ⟨format, negotiated, admitted⟩ := negotiate?_admits fits requested
  refine ⟨format, ?_, admitted⟩
  simp [Formats.set?, negotiated, Pad.isSink]

theorem Admits.congr (admitted : formats.Admits format)
    (same : after.widthFactor = formats.widthFactor) : after.Admits format := by
  obtain ⟨⟨coded, stepped, broad, even, tall, low⟩, narrow⟩ := admitted
  exact ⟨⟨coded, by rwa [same], by rwa [same], even, tall, low⟩, narrow⟩

/-- Every request has an answer. The source is as it was if none of them was about it, and has one
of the formats it can be left with otherwise. -/
theorem setEach?_ends (known : formats.widthFactor ∈ [1, 2]) (requests : List (Pad × PadFormat)) :
    ∃ after, formats.setEach? requests = some after ∧ after.widthFactor = formats.widthFactor ∧
      ((∃ request ∈ requests, request.1 = .source) ∧ after.Admits after.source ∨
        (∀ request ∈ requests, request.1 ≠ .source) ∧ after.source = formats.source) := by
  induction requests generalizing formats with
  | nil => exact ⟨formats, rfl, rfl, .inr ⟨by simp, rfl⟩⟩
  | cons request rest ih =>
      obtain ⟨pad, requested⟩ := request
      cases pad with
      | source =>
          obtain ⟨format, set, admitted⟩ := set?_source (factorFits_of_mem known) requested
          obtain ⟨after, reached, same, others⟩ := @ih (formats.withSource format) known
          refine ⟨after, by simp [setEach?, set, reached], same, .inl ⟨by simp, ?_⟩⟩
          rcases others with ⟨-, admitted⟩ | ⟨-, kept⟩
          · exact admitted
          · rw [kept]
            exact admitted.congr same
      | sink0 =>
          obtain ⟨after, reached, same, others⟩ := ih known
          refine ⟨after, ?_, same, by simpa using others⟩
          rw [setEach?, set?_sink rfl]
          exact reached
      | sink1 =>
          obtain ⟨after, reached, same, others⟩ := ih known
          refine ⟨after, ?_, same, by simpa using others⟩
          rw [setEach?, set?_sink rfl]
          exact reached

theorem onGrid_initial {config : BoardConfig} {board : Board}
    (accepted : Board.ofConfig config = .ok board) :
    board.widthFactor ∈ [1, 2] ∧
      (initial board.model board.widthFactor).OnGrid
        (initial board.model board.widthFactor).source ∧
      (initial board.model board.widthFactor).source.width.toNat =
        board.model.resolution.width.toNat * board.widthFactor.toNat := by
  obtain ⟨known, among⟩ := Board.mem_of_ofConfig accepted
  have facts : ∀ model ∈ SensorModel.all, ∀ ports ∈ [[], [0], [1], [0, 1]],
      match initial model (Board.widthFactor ⟨model, ports, 1⟩) with
      | ⟨model, factor, source, _⟩ =>
          factor ∈ [1, 2] ∧ ((∃ known ∈ SourceFormat.all, known.code = source.code) ∧
            4 * factor.toNat ∣ source.width.toNat ∧ 24 * factor.toNat ≤ source.width.toNat ∧
            2 ∣ source.height.toNat ∧ 16 ≤ source.height.toNat ∧ source.height.toNat ≤ 4092) ∧
          source.width.toNat = model.resolution.width.toNat * factor.toNat := by
    decide
  obtain ⟨factor, ⟨coded, stepped, broad, even, tall, low⟩, width⟩ :=
    facts board.model known board.ports among
  exact ⟨factor, ⟨coded, stepped, broad, even, tall, low⟩, width⟩

/-- Whatever formats are asked for on a board that was accepted, each request has an answer and the
source has a format on its grid. It is no wider than the limit exactly if the pictures of the board
side by side are not, or if the source was among what was asked about; and it is then, and only
then, a format that negotiation keeps, and one in the range that is listed for its code. -/
theorem source_admitted_iff {config : BoardConfig} {board : Board}
    (accepted : Board.ofConfig config = .ok board) (requests : List (Pad × PadFormat)) :
    ∃ after, (initial board.model board.widthFactor).setEach? requests = some after ∧
      after.widthFactor = board.widthFactor ∧ after.OnGrid (after.get .source) ∧
      (after.Admits (after.get .source) ↔
        board.model.resolution.width.toNat * board.widthFactor.toNat ≤ 4224 ∨
          ∃ request ∈ requests, request.1 = .source) ∧
      (after.negotiate? .source (after.get .source) = some (after.get .source) ↔
        after.Admits (after.get .source)) ∧
      ((∃ range, after.frameRange .source 0 (after.get .source).code = .ok range ∧
          range.Contains (after.get .source)) ↔ after.Admits (after.get .source)) := by
  obtain ⟨known, grid, width⟩ := onGrid_initial accepted
  obtain ⟨after, reached, same, ended⟩ := @setEach?_ends (initial board.model board.widthFactor)
    known requests
  have factor : after.widthFactor ∈ [1, 2] := by rwa [same]
  have source : after.get .source = after.source := rfl
  have onGrid : after.OnGrid after.source := by
    rcases ended with ⟨-, admitted⟩ | ⟨-, kept⟩
    · exact admitted.toOnGrid
    · rw [kept]
      exact ⟨grid.coded, same ▸ grid.stepped, same ▸ grid.broad, grid.even, grid.tall, grid.low⟩
  refine ⟨after, reached, same, source ▸ onGrid, ?_, negotiate?_eq_self_iff factor,
    (source ▸ onGrid).listed_iff factor⟩
  rcases ended with ⟨asked, admitted⟩ | ⟨silent, kept⟩
  · exact iff_of_true admitted (.inr asked)
  · rw [source, ← width, ← kept]
    constructor
    · exact fun admitted => .inl admitted.narrow
    · rintro (narrow | ⟨request, member, about⟩)
      · exact ⟨onGrid, narrow⟩
      · exact absurd about (silent request member)

/-- Two of the widest sensors side by side. -/
def widestBoard : Board :=
  ⟨.ar1335, [0, 1], 4⟩

theorem ofConfig_widestBoard : Board.ofConfig ⟨some "onnn,ar1335", [0, 1], 4⟩ = .ok widestBoard :=
  rfl

/-- The source of a board need not begin with a format that it would negotiate. -/
theorem initial_too_wide :
    ¬ ∀ (config : BoardConfig) (board : Board), Board.ofConfig config = .ok board →
      ∀ requests, ∃ after, (initial board.model board.widthFactor).setEach? requests = some after ∧
        after.Admits (after.get .source) := by
  intro always
  obtain ⟨after, reached, admitted⟩ := always _ _ ofConfig_widestBoard []
  cases reached
  exact absurd admitted.narrow (by decide)

/-- Asked for the format it began with, the source of that board comes down to the limit. -/
theorem widestBoard_admitted :
    Board.ofConfig ⟨some "onnn,ar1335", [0, 1], 4⟩ = .ok widestBoard ∧
      ∃ after, (initial widestBoard.model widestBoard.widthFactor).setEach?
          [(.source, ⟨.uyvy8, 8416, 3120⟩), (.sink1, ⟨.sgrbg10, 1, 1⟩)] = some after ∧
        after.get .source = ⟨.uyvy8, 4224, 3120⟩ ∧
        after.negotiate? .source (after.get .source) = some (after.get .source) := by
  refine ⟨ofConfig_widestBoard, ?_⟩
  obtain ⟨after, reached, -, -, admitted, kept, -⟩ := source_admitted_iff ofConfig_widestBoard
    [(.source, ⟨.uyvy8, 8416, 3120⟩), (.sink1, ⟨.sgrbg10, 1, 1⟩)]
  refine ⟨after, reached, ?_, kept.mpr (admitted.mpr (.inr (by simp)))⟩
  cases reached
  decide

end Formats

end IspDriver
