import IspDriver.Control.Spec
import IspDriver.Register.Map

/-! Control values in registers, and the values that are kept for the controls. -/

namespace IspDriver

open Routine RegisterMap

variable {σ : Type}

namespace ControlId

open Layout

def whiteBalanceModes : List UInt32 :=
  [WhiteBalance.off, WhiteBalance.auto, WhiteBalance.incandescent, WhiteBalance.daylight50,
    WhiteBalance.daylight65, WhiteBalance.horizon, WhiteBalance.daylight65, WhiteBalance.auto,
    WhiteBalance.daylight75, WhiteBalance.daylight75]

/-- The white balance entry that stands for a flash. -/
def flashPreset : Int32 := 7

def effects : List UInt32 :=
  [Effect.normal, Effect.blackAndWhite, Effect.sepia, Effect.negative, Effect.emboss,
    Effect.sketch, Effect.bluish, Effect.greenish, Effect.reddish, Effect.normal, Effect.normal,
    Effect.normal, Effect.normal, Effect.solarize, Effect.antique, Effect.normal]

def scenes : List UInt32 :=
  [Scene.normal, Scene.backlight, Scene.beach, Scene.twilight, Scene.normal, Scene.normal,
    Scene.fireworks, Scene.landscape, Scene.night, Scene.party, Scene.portrait, Scene.sport,
    Scene.sunset, Scene.document]

def flickerModes : List UInt32 :=
  [Flicker.disabled, Flicker.hertz 50 ||| Flicker.manual, Flicker.hertz 60 ||| Flicker.manual,
    Flicker.auto]

/-- The encoding of a menu entry. -/
def encode (id : ControlId) (codes : List UInt32) (value : Int32) : Except Error UInt32 :=
  match if value < 0 then none else codes[value.toNatClampNeg]? with
  | some code => .ok code
  | none => .error (.invalidArgument (.controlEncoding id.spec.title value))

/-- Writes a value to the chip. -/
def apply (id : ControlId) (value : Int32) : Access σ Unit :=
  match id with
  | whiteBalance => do
      let mode ← ofExcept (encode id whiteBalanceModes value)
      let flash := if value = flashPreset then WhiteBalance.flash else 0
      updateBits Layout.whiteBalance (WhiteBalance.modeMask ||| WhiteBalance.flash) (mode ||| flash)
  | exposure => updateBits exposureControl exposureModeMask value.toUInt32
  | exposureMetering => write Layout.exposureMetering value.toUInt32
  | gain => write manualGain value.toUInt32
  | gamma => write Layout.gamma value.toUInt32
  | contrast => write Layout.contrast value.toUInt32
  | brightness => write Layout.brightness value.toUInt32
  | saturation => write Layout.saturation value.toUInt32
  | zoom => write zoomTarget value.toUInt32
  | colorEffect => do
      write Layout.colorEffect (← ofExcept (encode id effects value))
  | sceneMode => do
      write Layout.sceneMode (← ofExcept (encode id scenes value))
  | powerLineFrequency => do
      write flicker (← ofExcept (encode id flickerModes value))
  | linkFrequency => done ()

/-- The menu index of the link frequency that the chip reports, in units of half a megahertz. -/
def readLinkFrequency : Access σ Int32 := do
  let raw ← read Layout.linkFrequency
  let hertz := (raw / 2).toNat * 1000000
  match linkFrequencies.idxOf? hertz with
  | some index => return .ofNat index
  | none => do
      note .warn s!"ISP reports unexpected link frequency {hertz} Hz"
      fail (.device (.linkFrequency hertz))

end ControlId

/-- A value for every control. -/
structure Controls where
  get : ControlId → Int32

namespace Controls

def defaults : Controls where
  get id := id.spec.default

def set (controls : Controls) (id : ControlId) (value : Int32) : Controls where
  get other := if other = id then value else controls.get other

/-- The controls a value can be written for. -/
def writable : List ControlId :=
  ControlId.all.filter fun id => !id.spec.readOnly

def applyEach (controls : Controls) : List ControlId → Access σ Unit
  | [] => done ()
  | id :: rest => do
      id.apply (controls.get id)
      applyEach controls rest

/-- Writes every writable control, up to the first failure. -/
def applyAll (controls : Controls) : Access σ Unit :=
  controls.applyEach writable

end Controls

end IspDriver
