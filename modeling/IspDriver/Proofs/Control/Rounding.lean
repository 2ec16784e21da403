import IspDriver.Proofs.Control

/-!
Which value an integer control keeps: the point of its grid that is nearest to the one asked for. The
driver finds it with 64-bit words. Nothing that comes up on the way is too large for one, and the
point fits in 32 bits, so that the words and the numbers agree.
-/

namespace IspDriver

/-- The points from `min` in steps of `step`, up to `max`. -/
def GridPoint (min max step point : Int) : Prop :=
  (∃ count : Nat, point = min + count * step) ∧ point ≤ max

/-- Every other point of the grid is farther from `value`, or as far and smaller. -/
structure Nearest (min max step value point : Int) : Prop where
  onGrid : GridPoint min max step point
  closest : ∀ other, GridPoint min max step other →
    (value - point).natAbs < (value - other).natAbs ∨
      (value - point).natAbs = (value - other).natAbs ∧ other ≤ point

section Nearest

variable {value other min max step point : Int}

/-- The point below the raised and clamped value, by the number of steps. -/
theorem roundToGrid_steps (positive : 0 < step) (ordered : min ≤ max) (value : Int) :
    ∃ count : Nat, roundToGrid value min max step = min + count * step ∧
      ∃ clamped, min + count * step ≤ clamped ∧ clamped < min + count * step + step ∧
        clamped = Min.min max (Max.max min
          (if 0 ≤ max ∧ max - step / 2 ≤ value then max else value + step / 2)) := by
  generalize reached : Min.min max (Max.max min
    (if 0 ≤ max ∧ max - step / 2 ≤ value then max else value + step / 2)) = clamped
  have inside : 0 ≤ clamped - min := by omega
  have steps : ((((clamped - min) / step).toNat : Nat) : Int) = (clamped - min) / step :=
    Int.toNat_of_nonneg (Int.ediv_nonneg inside (Int.le_of_lt positive))
  have least := Int.ediv_mul_le (clamped - min) (Int.ne_of_gt positive)
  have below := Int.lt_ediv_add_one_mul_self (clamped - min) positive
  rw [Int.add_mul, Int.one_mul] at below
  refine ⟨((clamped - min) / step).toNat, ?_, clamped, ?_, ?_, rfl⟩
  · rw [steps, roundToGrid, reached]
  · rw [steps]
    omega
  · rw [steps]
    omega

/-- Two multiples of a step are the same or at least one step apart. -/
theorem multiples_apart (positive : 0 < step) (first second : Nat) :
    first * step = second * step ∨ first * step + step ≤ second * step ∨
      second * step + step ≤ first * step := by
  have gap : ∀ {fewer more : Nat}, fewer < more → fewer * step + step ≤ more * step := by
    intro fewer more less
    have wide := Int.mul_le_mul_of_nonneg_right (Int.ofNat_le.mpr less) (Int.le_of_lt positive)
    simpa [Int.add_mul] using wide
  rcases Nat.lt_trichotomy first second with fewer | rfl | more
  · exact .inr (.inl (gap fewer))
  · exact .inl rfl
  · exact .inr (.inr (gap more))

theorem nearest_roundToGrid (positive : 0 < step) (ordered : min ≤ max) (value : Int) :
    Nearest min max step value (roundToGrid value min max step) := by
  obtain ⟨count, rounded, clamped, least, below, reached⟩ := roundToGrid_steps positive ordered value
  rw [rounded]
  refine ⟨⟨⟨count, rfl⟩, by omega⟩, ?_⟩
  rintro other ⟨⟨steps, rfl⟩, within⟩
  have apart := multiples_apart positive steps count
  have low := Int.mul_nonneg (Int.natCast_nonneg count) (Int.le_of_lt positive)
  have bottom := Int.mul_nonneg (Int.natCast_nonneg steps) (Int.le_of_lt positive)
  generalize (count : Int) * step = here at *
  generalize (steps : Int) * step = there at *
  split at reached <;> omega

/-- The point nearest to a larger value is not smaller. -/
theorem Nearest.mono {farther : Int} (near : Nearest min max step value point)
    (far : Nearest min max step other farther) (ordered : value ≤ other) : point ≤ farther := by
  have closer := near.closest farther far.onGrid
  have nearer := far.closest point near.onGrid
  omega

end Nearest

/-- The number as a 64-bit word, if it is one. -/
def word? (number : Int) : Option Int64 :=
  if -2 ^ 63 ≤ number ∧ number < 2 ^ 63 then some (.ofInt number) else none

def plus? (first second : Int64) : Option Int64 :=
  word? (first.toInt + second.toInt)

def minus? (first second : Int64) : Option Int64 :=
  word? (first.toInt - second.toInt)

def times? (first second : Int64) : Option Int64 :=
  word? (first.toInt * second.toInt)

/-- The quotient, rounded towards zero. -/
def quotient? (first second : Int64) : Option Int64 :=
  if second = 0 then none else word? (first.toInt.tdiv second.toInt)

/-- There is nothing between ends in the wrong order. -/
def between? (low high value : Int64) : Option Int64 :=
  if high < low then none
  else some (if value < low then low else if high < value then high else value)

/-- The value half a step up; from half a step below the top on, the top. -/
def raise? (value max step : Int64) : Option Int64 := do
  let half ← quotient? step 2
  if 0 ≤ max then
    let edge ← minus? max half
    if edge ≤ value then some max else plus? value half
  else
    plus? value half

/-- The nearest point of a grid, computed in 64-bit words. There is none if a step of the computation
leads out of them. -/
def roundInWords? (value min max step : Int32) : Option Int64 := do
  let raised ← raise? value.toInt64 max.toInt64 step.toInt64
  let clamped ← between? min.toInt64 max.toInt64 raised
  let steps ← quotient? (← minus? clamped min.toInt64) step.toInt64
  plus? min.toInt64 (← times? steps step.toInt64)

variable {number : Int} {value min max step : Int32}

theorem word?_eq (low : -2 ^ 63 ≤ number) (high : number < 2 ^ 63) :
    ∃ word, word? number = some word ∧ word.toInt = number :=
  ⟨.ofInt number, if_pos ⟨low, high⟩, Int64.toInt_ofInt_of_le low high⟩

theorem plus?_eq {first second : Int64} (low : -2 ^ 63 ≤ first.toInt + second.toInt)
    (high : first.toInt + second.toInt < 2 ^ 63) :
    ∃ word, plus? first second = some word ∧ word.toInt = first.toInt + second.toInt :=
  word?_eq low high

theorem minus?_eq {first second : Int64} (low : -2 ^ 63 ≤ first.toInt - second.toInt)
    (high : first.toInt - second.toInt < 2 ^ 63) :
    ∃ word, minus? first second = some word ∧ word.toInt = first.toInt - second.toInt :=
  word?_eq low high

theorem times?_eq {first second : Int64} (low : -2 ^ 63 ≤ first.toInt * second.toInt)
    (high : first.toInt * second.toInt < 2 ^ 63) :
    ∃ word, times? first second = some word ∧ word.toInt = first.toInt * second.toInt :=
  word?_eq low high

theorem quotient?_eq {first second : Int64} (nonneg : 0 ≤ first.toInt)
    (positive : 0 < second.toInt) :
    ∃ word, quotient? first second = some word ∧ word.toInt = first.toInt / second.toInt := by
  have nonzero : second ≠ 0 := by
    rintro rfl
    exact absurd positive (by decide)
  have low := Int.ediv_nonneg nonneg (Int.le_of_lt positive)
  have high := Int.ediv_le_self second.toInt nonneg
  have bound := first.toInt_lt
  rw [quotient?, if_neg nonzero, Int.tdiv_eq_ediv_of_nonneg nonneg]
  exact word?_eq (by omega) (by omega)

theorem between?_eq {low high value : Int64} (ordered : low.toInt ≤ high.toInt) :
    ∃ word, between? low high value = some word ∧
      word.toInt = Min.min high.toInt (Max.max low.toInt value.toInt) := by
  have forward : ¬ high < low := by
    rw [Int64.lt_iff_toInt_lt]
    omega
  refine ⟨_, if_neg forward, ?_⟩
  simp only [Int64.lt_iff_toInt_lt, apply_ite Int64.toInt]
  split <;> omega

theorem raise?_eq (positive : 0 < step.toInt) :
    ∃ word, raise? value.toInt64 max.toInt64 step.toInt64 = some word ∧
      word.toInt = if 0 ≤ max.toInt ∧ max.toInt - step.toInt / 2 ≤ value.toInt then max.toInt
        else value.toInt + step.toInt / 2 := by
  have bounds : step.toInt < 2 ^ 31 ∧ -2 ^ 31 ≤ max.toInt ∧ max.toInt < 2 ^ 31 ∧
      -2 ^ 31 ≤ value.toInt ∧ value.toInt < 2 ^ 31 :=
    ⟨step.toInt_lt, max.le_toInt, max.toInt_lt, value.le_toInt, value.toInt_lt⟩
  obtain ⟨half, halved, halfIs⟩ := @quotient?_eq step.toInt64 2
    (by rw [Int32.toInt_toInt64]; omega) (by decide)
  have two : (2 : Int64).toInt = 2 := rfl
  rw [Int32.toInt_toInt64, two] at halfIs
  obtain ⟨edge, lowered, edgeIs⟩ := @minus?_eq max.toInt64 half
    (by rw [Int32.toInt_toInt64]; omega) (by rw [Int32.toInt_toInt64]; omega)
  obtain ⟨up, lifted, upIs⟩ := @plus?_eq value.toInt64 half
    (by rw [Int32.toInt_toInt64]; omega) (by rw [Int32.toInt_toInt64]; omega)
  rw [Int32.toInt_toInt64, halfIs] at edgeIs upIs
  simp only [raise?, halved, lowered, lifted, Option.bind_eq_bind, Option.bind_some,
    Int64.le_iff_toInt_le, Int32.toInt_toInt64, Int64.toInt_zero, edgeIs]
  split
  · next top =>
      split
      · next near => exact ⟨_, rfl, by simp [top, near]⟩
      · next far => exact ⟨up, rfl, by simp [far, upIs]⟩
  · next bottom => exact ⟨up, rfl, by simp [bottom, upIs]⟩

theorem roundInWords?_eq (positive : 0 < step.toInt) (ordered : min.toInt ≤ max.toInt) :
    ∃ word, roundInWords? value min max step = some word ∧
      word.toInt = roundToGrid value.toInt min.toInt max.toInt step.toInt := by
  have bounds : -2 ^ 31 ≤ min.toInt ∧ max.toInt < 2 ^ 31 := ⟨min.le_toInt, max.toInt_lt⟩
  obtain ⟨raised, lifted, raisedIs⟩ := @raise?_eq value max step positive
  obtain ⟨clamped, kept, clampedIs⟩ := @between?_eq min.toInt64 max.toInt64 raised
    (by simpa using ordered)
  simp only [Int32.toInt_toInt64] at clampedIs
  have inside : 0 ≤ clamped.toInt - min.toInt := by omega
  obtain ⟨above, lowered, aboveIs⟩ := @minus?_eq clamped min.toInt64
    (by rw [Int32.toInt_toInt64]; omega) (by rw [Int32.toInt_toInt64]; omega)
  rw [Int32.toInt_toInt64] at aboveIs
  obtain ⟨steps, counted, stepsIs⟩ := @quotient?_eq above step.toInt64
    (by omega) (by rwa [Int32.toInt_toInt64])
  rw [Int32.toInt_toInt64, aboveIs] at stepsIs
  have least := Int.mul_nonneg (Int.ediv_nonneg inside (Int.le_of_lt positive))
    (Int.le_of_lt positive)
  have most := Int.ediv_mul_le (clamped.toInt - min.toInt) (Int.ne_of_gt positive)
  obtain ⟨offset, scaled, offsetIs⟩ := @times?_eq steps step.toInt64
    (by rw [Int32.toInt_toInt64, stepsIs]; omega) (by rw [Int32.toInt_toInt64, stepsIs]; omega)
  rw [Int32.toInt_toInt64, stepsIs] at offsetIs
  obtain ⟨point, reached, pointIs⟩ := @plus?_eq min.toInt64 offset
    (by rw [Int32.toInt_toInt64]; omega) (by rw [Int32.toInt_toInt64]; omega)
  rw [Int32.toInt_toInt64, offsetIs, clampedIs, raisedIs] at pointIs
  exact ⟨point, by simp [roundInWords?, lifted, kept, lowered, counted, scaled, reached], pointIs⟩

namespace ControlSpec

/-- An integer control, with a grid that has a step and at least one point. -/
structure IsInteger (spec : ControlSpec) (step : Int32) : Prop where
  kind : spec.kind = .integer step
  ordered : spec.min ≤ spec.max
  positive : 1 ≤ step

/-- What an integer control keeps when it is asked for a value. -/
structure Rounds (spec : ControlSpec) (step value stored : Int32) : Prop where
  nearest : Nearest spec.min.toInt spec.max.toInt step.toInt value.toInt stored.toInt
  /-- The computation stays within 64-bit words, and nothing is lost when its result is narrowed. -/
  computed : ∃ word, roundInWords? value spec.min spec.max step = some word ∧
    word.toInt32 = stored ∧ word.toInt = stored.toInt
  validated : spec.readOnly = false → spec.validate value = .ok stored
  settled : spec.readOnly = false → spec.validate stored = .ok stored
  monotone : ∀ other larger, value ≤ other → spec.validate other = .ok larger → stored ≤ larger

variable {spec : ControlSpec} {stored : Int32}

theorem IsInteger.hasGrid (integer : spec.IsInteger step) : spec.HasGrid := by
  intro other kind
  cases integer.kind.symm.trans kind
  have positive := Int32.le_iff_toInt_le.mp integer.positive
  exact ⟨positive, Int32.le_iff_toInt_le.mp integer.ordered⟩

theorem IsInteger.validate (integer : spec.IsInteger step) (settable : spec.readOnly = false)
    (value : Int32) :
    spec.validate value =
      .ok (.ofInt (roundToGrid value.toInt spec.min.toInt spec.max.toInt step.toInt)) := by
  simp [ControlSpec.validate, settable, integer.kind]

/-- The rounded number fits in 32 bits, and is the nearest point. -/
theorem IsInteger.toInt_rounded (integer : spec.IsInteger step) (value : Int32) :
    (Int32.ofInt (roundToGrid value.toInt spec.min.toInt spec.max.toInt step.toInt)).toInt =
        roundToGrid value.toInt spec.min.toInt spec.max.toInt step.toInt ∧
      Nearest spec.min.toInt spec.max.toInt step.toInt value.toInt
        (roundToGrid value.toInt spec.min.toInt spec.max.toInt step.toInt) := by
  obtain ⟨positive, ordered⟩ := integer.hasGrid step integer.kind
  obtain ⟨low, high⟩ := @roundToGrid_bounds value.toInt _ _ _ positive ordered
  exact ⟨toInt_ofInt_between low high, nearest_roundToGrid positive ordered value.toInt⟩

theorem isInteger_of_id (id : ControlId) (kind : id.spec.kind = .integer step) :
    id.spec.IsInteger step := by
  cases id <;> cases kind <;> exact ⟨rfl, by decide, by decide⟩

/-- An integer control keeps the point of its grid that is nearest to what it is asked for, the
larger of two that are equally near. It finds the point in 64-bit words without leaving them. What it
keeps it would keep again, and it keeps no less for a larger value. -/
theorem integer_rounds :
    (∀ (id : ControlId) (step : Int32), id.spec.kind = .integer step → id.spec.IsInteger step) ∧
      ∀ (spec : ControlSpec) (step : Int32), spec.IsInteger step →
        ∀ value, ∃ stored, spec.Rounds step value stored := by
  refine ⟨fun id step kind => isInteger_of_id id kind, fun spec step integer value => ?_⟩
  obtain ⟨positive, ordered⟩ := integer.hasGrid step integer.kind
  obtain ⟨number, nearest⟩ := integer.toInt_rounded value
  obtain ⟨word, computed, wordIs⟩ := @roundInWords?_eq value _ _ _ positive ordered
  refine ⟨_, number.symm ▸ nearest, ⟨word, computed, ?_, ?_⟩,
    fun settable => integer.validate settable value,
    fun settable => validate_idempotent integer.hasGrid (integer.validate settable value), ?_⟩
  · rw [← wordIs, ← Int64.toInt32_ofInt, Int64.ofInt_toInt]
  · rw [wordIs, number]
  · intro other larger above kept
    obtain ⟨otherIs, farther⟩ := integer.toInt_rounded other
    cases settable : spec.readOnly with
    | true => simp [ControlSpec.validate, settable] at kept
    | false =>
        cases (integer.validate settable other).symm.trans kept
        rw [Int32.le_iff_toInt_le] at above ⊢
        rw [number, otherIs]
        exact nearest.mono farther above

/-- A control with a grid below zero whose top is no point of it. -/
def belowZero : ControlSpec :=
  { ControlId.contrast.spec with kind := .integer 4, min := -10, max := -3 }

/-- Halfway between two points the larger is kept, and far above the grid its last point. -/
theorem belowZero_rounds :
    belowZero.IsInteger 4 ∧ belowZero.Rounds 4 (-8) (-6) ∧ belowZero.Rounds 4 2147483647 (-6) := by
  have integer : belowZero.IsInteger 4 := ⟨rfl, by decide, by decide⟩
  obtain ⟨halfway, tied⟩ := integer_rounds.2 belowZero 4 integer (-8)
  obtain ⟨top, far⟩ := integer_rounds.2 belowZero 4 integer 2147483647
  have halfwayIs : belowZero.validate (-8) = .ok (-6) := by decide
  have topIs : belowZero.validate 2147483647 = .ok (-6) := by decide
  cases halfwayIs.symm.trans (tied.validated rfl)
  cases topIs.symm.trans (far.validated rfl)
  exact ⟨integer, tied, far⟩

end ControlSpec

end IspDriver
