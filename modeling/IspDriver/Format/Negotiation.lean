import IspDriver.Sensor.Model
import IspDriver.Register.Layout

/-!
Which format each pad has. The sinks have their sensor's format and no other. The source carries the
sensors' pictures side by side: its width is counted in units of the width factor, the number of
pictures.
-/

namespace IspDriver

/-- A pixel code that the source can produce, with its register encoding. -/
structure SourceFormat where
  code : PixelCode
  encoding : UInt32
deriving DecidableEq, Repr

namespace SourceFormat

def uyvy : SourceFormat :=
  ⟨.uyvy8, Layout.OutputFormat.fullRange ||| Layout.OutputFormat.yuv422⟩

def uyyvyy : SourceFormat :=
  ⟨.uyyvyy8, Layout.OutputFormat.fullRange ||| Layout.OutputFormat.yuv420⟩

/-- The preferred one first. -/
def all : List SourceFormat :=
  [uyvy, uyyvyy]

/-- The source format with this code, and the preferred one for any other code. -/
def ofCode (code : PixelCode) : SourceFormat :=
  (all.find? (·.code == code)).getD uyvy

end SourceFormat

/-- The formats in force. -/
structure Formats where
  model : SensorModel
  widthFactor : UInt32
  source : PadFormat
  /-- What the registers are to be told of the source's code. -/
  produced : SourceFormat
deriving DecidableEq, Repr

namespace Formats

def minWidth : UInt32 := 24
def minHeight : UInt32 := 16
def maxWidth : UInt32 := 4224
def maxHeight : UInt32 := 4092

/-- A source as wide as all the sensors together, in the preferred code. -/
def initial (model : SensorModel) (widthFactor : UInt32) : Formats where
  model
  widthFactor
  source := ⟨SourceFormat.uyvy.code, model.resolution.width * widthFactor, model.resolution.height⟩
  produced := .uyvy

def get (formats : Formats) (pad : Pad) : PadFormat :=
  if pad.isSink then formats.model.format else formats.source

/-- The register encoding of what the source produces. -/
def encoding (formats : Formats) : UInt32 :=
  formats.produced.encoding

/-- The largest multiple of `step` up to `value`, brought between `low` and `high`. There is none
when `step` is zero or nothing lies between. -/
def fit? (step low high value : UInt32) : Option UInt32 :=
  if step = 0 ∨ high < low then none
  else some (min high (max low (value - value % step)))

/-- What a request comes to at a pad. -/
def negotiate? (formats : Formats) (pad : Pad) (requested : PadFormat) : Option PadFormat :=
  if pad.isSink then
    some formats.model.format
  else do
    let factor := formats.widthFactor
    let width ← fit? (4 * factor) (minWidth * factor) maxWidth requested.width
    let height ← fit? 2 minHeight maxHeight requested.height
    return ⟨(SourceFormat.ofCode requested.code).code, width, height⟩

/-- The formats with another one at the source. -/
def withSource (formats : Formats) (format : PadFormat) : Formats :=
  { formats with source := format, produced := SourceFormat.ofCode format.code }

/-- The formats after a request, and what it came to. -/
def set? (formats : Formats) (pad : Pad) (requested : PadFormat) : Option (PadFormat × Formats) :=
  (formats.negotiate? pad requested).map fun format =>
    (format, if pad.isSink then formats else formats.withSource format)

/-- The codes of a pad, by index. -/
def pixelCode (formats : Formats) (pad : Pad) (index : Nat) : Except Error PixelCode :=
  if pad.isSink then
    if index = 0 then .ok formats.model.code
    else .error (.invalidArgument (.sinkCodeIndex index))
  else
    match SourceFormat.all[index]? with
    | some format => .ok format.code
    | none => .error (.invalidArgument (.sourceCodeIndex index))

/-- The sizes a pad allows for a code, by index. -/
def frameRange (formats : Formats) (pad : Pad) (index : Nat) (code : PixelCode) :
    Except Error FrameRange :=
  if index ≠ 0 then
    .error (.invalidArgument (.frameSizeIndex index))
  else if pad.isSink then
    if code = formats.model.code then .ok (.exactly formats.model.resolution)
    else .error (.invalidArgument (.sinkCode code))
  else if SourceFormat.all.any (·.code == code) then
    .ok ⟨minWidth * formats.widthFactor, minHeight, maxWidth, maxHeight⟩
  else
    .error (.invalidArgument (.sourceCode code))

/-- Every target is the area of all the sensors together. -/
def selection (formats : Formats) (_target : SelectionTarget) : Rectangle :=
  ⟨0, 0, formats.model.resolution.width * formats.widthFactor, formats.model.resolution.height⟩

end Formats

end IspDriver
