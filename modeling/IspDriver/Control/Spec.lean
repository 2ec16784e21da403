import IspDriver.Error

/-!
Image quality controls: their numbers, ranges and defaults, and which values they take. A value for
an integer control moves to the nearest point of the control's grid; an entry of a menu has to exist
and to be supported.
-/

namespace IspDriver

inductive ControlId where
  | whiteBalance
  | gamma
  | contrast
  | brightness
  | saturation
  | exposure
  | exposureMetering
  | gain
  | zoom
  | colorEffect
  | sceneMode
  | powerLineFrequency
  | linkFrequency
deriving DecidableEq, Repr

inductive ControlKind where
  | integer (step : Int32)
  /-- A menu whose entries in the mask are not supported. -/
  | menu (skipped : UInt64)
  /-- A menu of fixed numbers. -/
  | numbers (items : List Nat)
deriving DecidableEq, Repr

structure ControlSpec where
  id : ControlId
  number : UInt32
  /-- One word, as on command lines. -/
  key : String
  title : String
  kind : ControlKind
  min : Int32
  max : Int32
  default : Int32
  readOnly : Bool := false
  /-- The value is read from the chip each time. -/
  volatile : Bool := false
deriving DecidableEq, Repr

/-- The link frequencies that the chip can report, in hertz. -/
def linkFrequencies : List Nat := [445000000]

namespace ControlId

private def integer (id : ControlId) (number : UInt32) (key title : String)
    (min max step default : Int32) : ControlSpec :=
  { id, number, key, title, kind := .integer step, min, max, default }

private def menu (id : ControlId) (number : UInt32) (key title : String)
    (max : Int32) (skipped : UInt64) (default : Int32) : ControlSpec :=
  { id, number, key, title, kind := .menu skipped, min := 0, max, default }

def spec : ControlId → ControlSpec
  | whiteBalance =>
      menu whiteBalance 0x009a0914 "WhiteBalance" "White Balance, Auto & Preset" 9 0 1
  | gamma => integer gamma 0x00980910 "Gamma" "Gamma" 0x100 0xffff 0x100 0x1000
  | contrast => integer contrast 0x00980901 "Contrast" "Contrast" 0x100 0xffff 0x100 0x100
  | brightness =>
      integer brightness 0x00980900 "Brightness" "Brightness" 0x100 0xffff 0x100 0x100
  | saturation =>
      integer saturation 0x00980902 "Saturation" "Saturation" 0x100 0xffff 0x100 0x1000
  | exposure => integer exposure 0x00980911 "Exposure" "Exposure" 0 0xc 1 0xc
  | exposureMetering =>
      integer exposureMetering 0x009a0919 "ExposureMetering" "Exposure Metering" 0 3 1 1
  | gain => integer gain 0x00980913 "Gain" "Gain" 0x100 0xffff 0x100 0x100
  | zoom => integer zoom 0x009a090d "Zoom" "Zoom, Absolute" 0x100 0x1000 1 0x100
  | colorEffect => menu colorEffect 0x0098091f "ColorEffect" "Color Effects" 15 0x9e00 0
  | sceneMode => menu sceneMode 0x009a091a "SceneMode" "Scene Mode" 13 0x30 0
  | powerLineFrequency =>
      menu powerLineFrequency 0x00980918 "PowerLineFrequency" "Power Line Frequency" 3 0 3
  | linkFrequency =>
      { id := linkFrequency
        number := 0x009f0901
        key := "LinkFrequency"
        title := "Link Frequency"
        kind := .numbers linkFrequencies
        min := 0
        max := 0
        default := 0
        readOnly := true
        volatile := true }

/-- All controls, in the order in which they are applied. -/
def all : List ControlId :=
  [whiteBalance, gamma, contrast, brightness, saturation, exposure, exposureMetering, gain, zoom,
    colorEffect, sceneMode, powerLineFrequency, linkFrequency]

def ofNumber (number : UInt32) : Except Error ControlId :=
  match all.find? (·.spec.number == number) with
  | some id => .ok id
  | none => .error (.invalidArgument (.unknownControl number))

end ControlId

/-- The point of the grid from `min` in steps of `step`, up to `max`, that is nearest to `value`;
between two equally near ones, the larger. -/
def roundToGrid (value min max step : Int) : Int :=
  let raised := if 0 ≤ max ∧ max - step / 2 ≤ value then max else value + step / 2
  let clamped := Min.min max (Max.max min raised)
  min + (clamped - min) / step * step

namespace ControlSpec

/-- The value that would be stored for `value`. -/
def validate (spec : ControlSpec) (value : Int32) : Except Error Int32 :=
  if spec.readOnly then
    .error (.invalidArgument (.readOnlyControl spec.title))
  else
    match spec.kind with
    | .integer step =>
        .ok (.ofInt (roundToGrid value.toInt spec.min.toInt spec.max.toInt step.toInt))
    | .menu skipped =>
        if value < spec.min ∨ spec.max < value then
          .error (.invalidArgument (.controlRange spec.title value spec.min spec.max))
        else if skipped.toNat.testBit value.toNatClampNeg then
          .error (.invalidArgument (.controlValue spec.title value))
        else
          .ok value
    | .numbers _ => .error (.invalidArgument (.fixedControl spec.title))

end ControlSpec

end IspDriver
