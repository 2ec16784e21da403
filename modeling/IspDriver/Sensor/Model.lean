import IspDriver.Error

/-! The sensors that the firmware can drive. -/

namespace IspDriver

/-- A supply of a sensor, with the time it needs to settle once enabled. -/
structure Supply where
  name : String
  settleMicroseconds : UInt32
deriving DecidableEq, Repr

structure SensorModel where
  /-- The name boards use; empty for the pattern generator. -/
  compatible : String
  /-- The short name, as in firmware file names. -/
  name : String
  /-- Address on the bus between the processor and its sensors. -/
  address : UInt32
  resolution : Resolution
  code : PixelCode
  /-- In the order in which they are enabled. -/
  supplies : List Supply
deriving DecidableEq, Repr

namespace SensorModel

def isPatternGenerator (model : SensorModel) : Bool :=
  model.compatible.isEmpty

/-- The one picture format of the model. -/
def format (model : SensorModel) : PadFormat :=
  ⟨model.code, model.resolution.width, model.resolution.height⟩

def ar0144 : SensorModel where
  compatible := "onnn,ar0144"
  name := "ar0144"
  address := 0x10
  resolution := ⟨1280, 800⟩
  code := .sgrbg12
  supplies := [⟨"vaa", 100⟩, ⟨"vddio", 100⟩, ⟨"vdd", 0⟩]

def ar0330 : SensorModel where
  compatible := "onnn,ar0330"
  name := "ar0330"
  address := 0x10
  resolution := ⟨2304, 1536⟩
  code := .sgrbg12
  supplies := [⟨"vddpll", 0⟩, ⟨"vaa", 0⟩, ⟨"vdd", 0⟩, ⟨"vddio", 0⟩]

def ar1335 : SensorModel where
  compatible := "onnn,ar1335"
  name := "ar1335"
  address := 0x36
  resolution := ⟨4208, 3120⟩
  code := .sgrbg10
  supplies := [⟨"vaa", 0⟩, ⟨"vddio", 0⟩, ⟨"vdd", 0⟩]

/-- Stands in for a sensor where a board names none. -/
def patternGenerator : SensorModel where
  compatible := ""
  name := "tpg"
  address := 0
  resolution := ⟨1920, 1080⟩
  code := .unspecified
  supplies := []

def all : List SensorModel :=
  [ar0144, ar0330, ar1335, patternGenerator]

/-- The sensor with this board name. The pattern generator has none. -/
def ofCompatible (compatible : String) : Except Error SensorModel :=
  match all.find? fun model => !model.isPatternGenerator && model.compatible == compatible with
  | some model => .ok model
  | none => .error (.invalidArgument (.sensorModel compatible))

end SensorModel

/-- One sensor as the host sees it. -/
structure SensorView where
  index : UInt32
  name : String
  model : SensorModel
deriving DecidableEq, Repr

namespace SensorView

def pixelCode (view : SensorView) (index : Nat) : Except Error PixelCode :=
  if index = 0 then .ok view.model.code
  else .error (.invalidArgument (.sensorCodeIndex index))

def frameRange (view : SensorView) (index : Nat) (code : PixelCode) : Except Error FrameRange :=
  if index = 0 ∧ code = view.model.code then .ok (.exactly view.model.resolution)
  else .error (.invalidArgument (.sensorFrameSize code index))

end SensorView

end IspDriver
