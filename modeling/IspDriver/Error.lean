import IspDriver.Register
import IspDriver.Format.Pad

/-!
What can go wrong. Each kind of error lists its causes; the wording of a cause stands in one place.
A collaborator (a line, a supply, a bus) describes its own failures in words, which are kept as
they come.
-/

namespace IspDriver

/-- Why a request was refused without being tried. -/
inductive Refusal where
  | registerWidth (register : Register)
  | sensorRegisterWidth (register : Register)
  | sensorPort (port : UInt32)
  | vacantPort (port : UInt32)
  | probeReservedBits (value : UInt32)
  | probeWidth (value width : UInt32)
  | probeUnset
  | sensorModel (model : String)
  | sensorCount (count : Nat)
  | noSensor (model : String)
  | dataLanes (count : UInt32)
  | firmwareName (name : String)
  | windowPosition (position : Nat)
  | unknownPad (number : UInt32)
  | sinkCodeIndex (index : Nat)
  | sourceCodeIndex (index : Nat)
  | sensorCodeIndex (index : Nat)
  | frameSizeIndex (index : Nat)
  | sinkCode (code : PixelCode)
  | sourceCode (code : PixelCode)
  | sensorFrameSize (code : PixelCode) (index : Nat)
  | selectionPad (pad : Pad)
  | unknownControl (number : UInt32)
  | readOnlyControl (control : String)
  | fixedControl (control : String)
  | controlRange (control : String) (value min max : Int32)
  | controlValue (control : String) (value : Int32)
  | controlEncoding (control : String) (value : Int32)
  | reported (text : String)
deriving DecidableEq, Repr

def Refusal.text : Refusal → String
  | registerWidth register =>
      "register " ++ register.text ++ s!" has unsupported width {register.width}"
  | sensorRegisterWidth register =>
      "sensor register 0x" ++ Text.hex 4 register.offset.toNat ++
        s!" has unsupported width {register.width}"
  | sensorPort port => s!"invalid sensor port {port}"
  | vacantPort port => s!"no sensor on port {port}"
  | probeReservedBits value =>
      "debug address 0x" ++ Text.hex 8 value.toNat ++ " has reserved bits set"
  | probeWidth value width =>
      "debug address 0x" ++ Text.hex 8 value.toNat ++ s!" has invalid width {width}"
  | probeUnset => "debug probe address not set"
  | sensorModel model => s!"unsupported sensor model '{model}'"
  | sensorCount count => s!"unsupported sensor count {count}"
  | noSensor model => s!"no valid sensor for model '{model}'"
  | dataLanes count => s!"invalid number of data lanes {count}"
  | firmwareName name => s!"firmware name '{name}' too long"
  | windowPosition position =>
      "firmware window position 0x" ++ Text.hex 0 position ++ " out of range"
  | unknownPad number => s!"invalid pad {number}"
  | sinkCodeIndex index => s!"no sink code at index {index}"
  | sourceCodeIndex index => s!"no source code at index {index}"
  | sensorCodeIndex index => s!"no code at index {index}"
  | frameSizeIndex index => s!"no frame size at index {index}"
  | sinkCode code => "sink does not support " ++ code.text
  | sourceCode code => "source does not support " ++ code.text
  | sensorFrameSize code index => "no frame size for " ++ code.text ++ s!" at index {index}"
  | selectionPad pad => "selection not supported on " ++ pad.name
  | unknownControl number => "unknown control 0x" ++ Text.hex 8 number.toNat
  | readOnlyControl control => s!"{control} is read-only"
  | fixedControl control => s!"{control} cannot be set"
  | controlRange control value min max => s!"{control} value {value} out of range {min}..={max}"
  | controlValue control value => s!"{control} value {value} is not supported"
  | controlEncoding control value => s!"{control} value {value} has no encoding"
  | reported text => text

/-- What was waited for in vain. -/
inductive Timeout where
  | copyEngine
  | firmwareAttempts (count : Nat)
  | reported (text : String)
deriving DecidableEq, Repr

def Timeout.text : Timeout → String
  | copyEngine => "DMA engine did not return to idle"
  | firmwareAttempts count => s!"firmware load failed {count} times"
  | reported text => text

/-- How the device, or what it is wired to, misbehaved. -/
inductive Malfunction where
  | chipVersion (version : UInt32)
  | linkFrequency (hertz : Nat)
  | reported (text : String)
deriving DecidableEq, Repr

def Malfunction.text : Malfunction → String
  | chipVersion version => "unexpected chip version 0x" ++ Text.hex 4 version.toNat
  | linkFrequency hertz => s!"unexpected link frequency {hertz} Hz"
  | reported text => text

/-- What is wrong with a firmware image. -/
inductive Damage where
  | shorterThanHeader (size headerSize : Nat)
  | clockSegment (size total : UInt32)
  | totalSize (total : UInt32) (available : Nat)
  | reported (text : String)
deriving DecidableEq, Repr

def Damage.text : Damage → String
  | shorterThanHeader size headerSize =>
      s!"image is {size} bytes, shorter than the {headerSize} byte header"
  | clockSegment size total => s!"PLL init size {size} exceeds total size {total}"
  | totalSize total available => s!"total size {total} exceeds the {available} byte payload"
  | reported text => text

/-- How a transfer failed. -/
inductive TransferFault where
  | notFound
  | timedOut
  | notConnected
  | interrupted
  | other
deriving DecidableEq, Repr

inductive Error where
  | invalidArgument (cause : Refusal)
  | timeout (cause : Timeout)
  | device (cause : Malfunction)
  | notFound (resource : String)
  | corrupt (cause : Damage)
  | crcMismatch (expected actual : UInt32)
  | transfer (fault : TransferFault) (text : String)
deriving DecidableEq, Repr

namespace Error

/-- A checksum mismatch may pass after a power cycle; nothing else does. -/
def isRetryable : Error → Bool
  | crcMismatch _ _ => true
  | _ => false

def message : Error → String
  | invalidArgument cause => "Invalid argument: " ++ cause.text
  | timeout cause => "Timed out: " ++ cause.text
  | device cause => "Device error: " ++ cause.text
  | notFound resource => "Not found: " ++ resource
  | corrupt cause => "Corrupt firmware: " ++ cause.text
  | crcMismatch expected actual =>
      "Firmware CRC mismatch: expected 0x" ++ Text.hex 4 expected.toNat ++
        ", device reported 0x" ++ Text.hex 4 actual.toNat
  | transfer _ text => "I/O error: " ++ text

/-- The words of the transport under a transfer error. -/
def source? : Error → Option String
  | transfer _ text => some text
  | _ => none

end Error

end IspDriver
