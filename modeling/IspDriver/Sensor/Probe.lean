import IspDriver.Error

/-!
The sensor register chosen for debugging. One word carries the sensor port (bit 31), the width in
bytes (bits 26 to 24) and the offset (bits 15 to 0); its other bits are zero.
-/

namespace IspDriver

structure ProbeAddress where
  port : UInt32
  register : Register
deriving DecidableEq, Repr

namespace ProbeAddress

def usedBits : UInt32 := 0x8700ffff

def decode (value : UInt32) : Except Error ProbeAddress :=
  let width := (value >>> 24) &&& 7
  if value &&& ~~~usedBits ≠ 0 then
    .error (.invalidArgument (.probeReservedBits value))
  else if width = 1 ∨ width = 2 then
    .ok ⟨value >>> 31, ⟨(width <<< 24) ||| (value &&& 0xffff)⟩⟩
  else
    .error (.invalidArgument (.probeWidth value width))

def encode (address : ProbeAddress) : UInt32 :=
  (address.port <<< 31) ||| (address.register.width <<< 24) ||| address.register.offset.toUInt32

/-- The address with the parts given; bits of the width that find no room in the word are lost. -/
def ofParts (port width : UInt32) (offset : UInt16) : Except Error ProbeAddress :=
  if 1 < port then .error (.invalidArgument (.sensorPort port))
  else decode ((port <<< 31) ||| (width <<< 24) ||| offset.toUInt32)

def text (address : ProbeAddress) : String :=
  s!"port {address.port} reg 0x" ++ Text.hex 4 address.register.offset.toNat ++
    s!" ({address.register.width * 8}-bit)"

end ProbeAddress

end IspDriver
