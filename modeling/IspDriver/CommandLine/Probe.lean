import IspDriver.CommandLine.Number
import IspDriver.CommandLine.Task
import IspDriver.Sensor.Probe
import IspDriver.Text.Json
import IspDriver.Text.Quoted

/-! The command that takes a probe address apart or puts one together. -/

namespace IspDriver.CommandLine

open Text (Json hex)

structure Probe where
  /-- An address to take apart. -/
  value? : Option String := none
  port : UInt32 := 0
  width : UInt32 := 2
  /-- The offset of a register to put an address together for. -/
  register? : Option String := none
deriving DecidableEq, Repr

namespace Probe

def description (arguments : Probe) : String :=
  "Args \x7b value: " ++ Text.quotedOption arguments.value? ++
    s!", port: {arguments.port}, width: {arguments.width}, reg: " ++
    Text.quotedOption arguments.register? ++ " \x7d"

def address (arguments : Probe) : Except Failure ProbeAddress :=
  match arguments.value?, arguments.register? with
  | some value, _ => do
      (ProbeAddress.decode (← parseWord value)).mapError .ofError
  | none, some register => do
      let offset ← parseWord register
      if offset < 0x10000 then
        (ProbeAddress.ofParts arguments.port arguments.width offset.toUInt16).mapError .ofError
      else
        .error (.invalidArguments ("Register offset out of range: " ++ register))
  | none, none => .error (.invalidArguments "Either an address value or --reg is required")

private def encodedText (address : ProbeAddress) : String :=
  "0x" ++ hex 8 address.encode.toNat

def json (address : ProbeAddress) : Json :=
  .object [
    ("value", .text (encodedText address)),
    ("port", .number address.port.toNat),
    ("width", .number address.register.width.toNat),
    ("reg", .text ("0x" ++ hex 4 address.register.offset.toNat))]

def text (address : ProbeAddress) : String :=
  encodedText address ++ ": " ++ address.text ++ "\n"

def run (arguments : Probe) (asJson : Bool) : Printout :=
  .ofExcept ((fun address => if asJson then (json address).lines else text address) <$>
    arguments.address)

end Probe

end IspDriver.CommandLine
