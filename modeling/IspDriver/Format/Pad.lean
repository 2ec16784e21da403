import IspDriver.Format.Code

/-! Pads, and what can be said about the picture at a pad. -/

namespace IspDriver

/-- Two sinks take the sensors' pictures, the source hands the processed one to the host. -/
inductive Pad where
  | sink0
  | sink1
  | source
deriving DecidableEq, Repr

namespace Pad

def ofNumber? (number : UInt32) : Option Pad :=
  if number = 0 then some sink0
  else if number = 1 then some sink1
  else if number = 2 then some source
  else none

def isSink : Pad → Bool
  | source => false
  | _ => true

def name : Pad → String
  | sink0 => "Sink0"
  | sink1 => "Sink1"
  | source => "Source"

end Pad

structure Resolution where
  width : UInt32
  height : UInt32
deriving DecidableEq, Repr

def Resolution.text (resolution : Resolution) : String :=
  s!"{resolution.width}x{resolution.height}"

structure PadFormat where
  code : PixelCode
  width : UInt32
  height : UInt32
deriving DecidableEq, Repr

def PadFormat.text (format : PadFormat) : String :=
  format.code.text ++ s!" {format.width}x{format.height}"

/-- The sizes a pad allows, both ends included. -/
structure FrameRange where
  minWidth : UInt32
  minHeight : UInt32
  maxWidth : UInt32
  maxHeight : UInt32
deriving DecidableEq, Repr

/-- The range with one size in it. -/
def FrameRange.exactly (resolution : Resolution) : FrameRange :=
  ⟨resolution.width, resolution.height, resolution.width, resolution.height⟩

inductive SelectionTarget where
  | nativeSize
  | cropBounds
  | cropDefault
  | crop
deriving DecidableEq, Repr

structure Rectangle where
  left : Int32
  top : Int32
  width : UInt32
  height : UInt32
deriving DecidableEq

end IspDriver
