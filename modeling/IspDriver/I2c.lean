import IspDriver.Bytes
import IspDriver.Host

/-!
The bus space over I2C. A register offset is two bytes, the high one first. A read is one
transaction, so that nobody else on the wires can come between the offset and the data. A long
write is cut into transactions of limited size, each with the offset of its own data; the bytes of
each are put together in one buffer that the bus keeps.
-/

namespace IspDriver

inductive Acknowledged where
  | address
  | data
  | unknown
deriving DecidableEq, Repr

inductive I2cFault where
  /-- Nobody acknowledged. -/
  | noAcknowledge (what : Acknowledged)
  | arbitrationLoss
  | bus
  | overrun
  | other
deriving DecidableEq, Repr

namespace I2cFault

def name : I2cFault → String
  | noAcknowledge .address => "NoAcknowledge(Address)"
  | noAcknowledge .data => "NoAcknowledge(Data)"
  | noAcknowledge .unknown => "NoAcknowledge(Unknown)"
  | arbitrationLoss => "ArbitrationLoss"
  | bus => "Bus"
  | overrun => "Overrun"
  | other => "Other"

def transferFault : I2cFault → TransferFault
  | noAcknowledge _ => .notConnected
  | arbitrationLoss => .interrupted
  | _ => .other

end I2cFault

/-- The wires, with the transactions they offer to the device at an address. -/
structure I2cWires (σ : Type) where
  write : (address : UInt8) → (bytes : List UInt8) → σ → Except I2cFault Unit × σ
  writeThenRead : (address : UInt8) → (bytes : List UInt8) → (count : Nat) → σ →
    Except I2cFault (Vector UInt8 count) × σ

/-- A device on the wires as a bus. -/
structure I2cBus (σ : Type) where
  /-- The world the wires are in. -/
  world : σ
  address : UInt8
  /-- Where the bytes of a write are put together. It still holds those of the last one. -/
  buffer : List UInt8
deriving Repr

namespace I2cBus

variable {σ : Type}

def clear (bus : I2cBus σ) : I2cBus σ :=
  { bus with buffer := [] }

/-- The bus with more bytes in its buffer. -/
def put (bus : I2cBus σ) (bytes : List UInt8) : I2cBus σ :=
  { bus with buffer := bus.buffer ++ bytes }

end I2cBus

namespace I2c

variable {σ : Type}

/-- Data bytes of one write transaction, at most. -/
def chunkSize : Nat := 1024

def transferError (address : UInt8) (offset : UInt16) (fault : I2cFault) : Error :=
  .transfer fault.transferFault
    ("i2c transfer to 0x" ++ Text.hex 2 address.toNat ++ " at 0x" ++ Text.hex 4 offset.toNat ++
      " failed: " ++ fault.name)

def readBlock (wires : I2cWires σ) (offset : UInt16) (count : Nat) (bus : I2cBus σ) :
    Except Error (Vector UInt8 count) × I2cBus σ :=
  match wires.writeThenRead bus.address (Bytes.ofUInt16 offset) count bus.world with
  | (.ok bytes, world) => (.ok bytes, { bus with world })
  | (.error fault, world) => (.error (transferError bus.address offset fault), { bus with world })

def writeChunks (wires : I2cWires σ) (offset : UInt16) :
    List (List UInt8) → I2cBus σ → Except Error Unit × I2cBus σ
  | [], bus => (.ok (), bus)
  | chunk :: rest, bus =>
      let bus := (bus.clear.put (Bytes.ofUInt16 offset)).put chunk
      match wires.write bus.address bus.buffer bus.world with
      | (.ok (), world) =>
          writeChunks wires (offset + chunk.length.toUInt16) rest { bus with world }
      | (.error fault, world) =>
          (.error (transferError bus.address offset fault), { bus with world })

def writeBlock (wires : I2cWires σ) (offset : UInt16) (data : List UInt8) (bus : I2cBus σ) :
    Except Error Unit × I2cBus σ :=
  writeChunks wires offset (Bytes.chunks chunkSize data) bus

/-- A host with such a bus, which is otherwise as given. -/
def host (wires : I2cWires σ) (others : Host σ) : Host (I2cBus σ) where
  answer
    | .read offset count => fun bus =>
        let (reply, bus) := readBlock wires offset count bus
        (some reply, bus)
    | .write offset data => fun bus =>
        let (reply, bus) := writeBlock wires offset data bus
        (some reply, bus)
    | request => fun bus =>
        let (reply, world) := others.answer request bus.world
        (reply, { bus with world })
  note note bus := { bus with world := others.note note bus.world }

end I2c

end IspDriver
