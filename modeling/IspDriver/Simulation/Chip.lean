import IspDriver.Bytes
import IspDriver.Error
import IspDriver.Firmware.Crc
import IspDriver.Register.Layout
import IspDriver.Simulation.Memory

/-!
A model of the chip's registers. The bus space is a memory with four places of their own: a window
that shows the selected page, a window that takes firmware, the checksum register, which starts a
download when written, and the control register of the copy engine, which starts a copy.

Faults can be set for single offsets, for the copy engine and for the checksum. An access the model
has no answer for, such as a copy past the end of the memory, is no access at all: its reply is
missing.
-/

namespace IspDriver.Simulation

/-- A block that arrived on the bus. -/
structure WriteRecord where
  /-- The selected page, for a block in its window. -/
  page? : Option UInt32
  offset : UInt16
  data : List UInt8
deriving DecidableEq, Repr

/-- The number that the first four bytes make. -/
def WriteRecord.value (record : WriteRecord) : UInt32 :=
  Bytes.bigEndian (record.data.take 4)

structure ChipFaults where
  reads : List UInt16 := []
  writes : List UInt16 := []
  copyStuck : Bool := false
  /-- How many downloads to come report a wrong checksum. -/
  crcFailures : UInt32 := 0
deriving DecidableEq, Repr

/-- What reads of the lane registers find, register by register; `none` is a read that fails. -/
abbrev LaneQueues : Type :=
  List (UInt32 × List (Option UInt32))

namespace LaneQueues

def get (queues : LaneQueues) (key : UInt32) : List (Option UInt32) :=
  (queues.lookup key).getD []

def set (queues : LaneQueues) (key : UInt32) (queue : List (Option UInt32)) : LaneQueues :=
  (key, queue) :: queues.filter (·.1 != key)

end LaneQueues

structure Chip where
  memory : Memory
  pages : UInt32 → Memory
  inReset : Bool
  /-- Sensor registers that were set, by port and offset. -/
  sensors : UInt32 → UInt32 → Option UInt16
  lanes : LaneQueues
  /-- The last one in front. -/
  writes : List WriteRecord
  /-- Offset and length of what arrived in the firmware window, the last one in front. -/
  windowWrites : List (UInt16 × Nat)
  /-- The firmware that arrived since the last download began. -/
  firmware : List UInt8
  /-- Whether the checksum reads back wrong. -/
  spoiled : Bool
  faults : ChipFaults

namespace Chip

/-- Bytes of the bus space. -/
def spaceSize : Nat := 0x10000

/-- The revision that the model reports. -/
def modelRevision : UInt16 := 0x1203

def defaultMemory : Memory :=
  ((Memory.blank.store Layout.chipVersion.offset.toNat
      (Bytes.ofUInt16 Layout.supportedVersion.toUInt16)).store
    Layout.chipRevision.offset.toNat (Bytes.ofUInt16 modelRevision)).store
    Layout.linkFrequency.offset.toNat (Bytes.ofUInt16 890)

/-- What a power-up makes of the registers. Sensors, faults and records stay. -/
def restart (chip : Chip) : Chip :=
  { chip with
    memory := defaultMemory
    pages := fun _ => .blank
    firmware := []
    windowWrites := []
    spoiled := false }

/-- A chip that is powered and out of reset. -/
def fresh : Chip where
  memory := defaultMemory
  pages _ := .blank
  inReset := false
  sensors _ _ := none
  lanes := []
  writes := []
  windowWrites := []
  firmware := []
  spoiled := false
  faults := {}

/-- Moves the reset line. Leaving reset restores the defaults. -/
def setReset (chip : Chip) (active : Bool) : Chip :=
  if active then { chip with inReset := true }
  else if chip.inReset then { chip.restart with inReset := false }
  else chip

def word32 (chip : Chip) (offset : UInt16) : UInt32 :=
  Bytes.bigEndian (chip.memory.load offset.toNat 4)

def currentPage (chip : Chip) : UInt32 :=
  chip.word32 Layout.pageSelect.offset

def inPageWindow (offset : UInt16) : Bool :=
  Register.windowStart ≤ offset && offset.toNat < Register.windowStart.toNat + Register.windowSize

def inFirmwareWindow (offset : UInt16) : Bool :=
  Layout.firmwareWindow ≤ offset &&
    offset.toNat < Layout.firmwareWindow.toNat + Layout.firmwareWindowSize

def busFault (text : String) : Error :=
  .transfer .other text

/-- What is wrong with a block at `offset`, if it runs out of the place it starts in. -/
def spanFault? (offset : UInt16) (count : Nat) : Option Error :=
  let stop := offset.toNat + count
  if inPageWindow offset && Register.windowStart.toNat + Register.windowSize < stop then
    some (busFault "access crosses the advanced window")
  else if inFirmwareWindow offset &&
      Layout.firmwareWindow.toNat + Layout.firmwareWindowSize < stop then
    some (busFault "access crosses the firmware window")
  else if spaceSize < stop then
    some (busFault "access beyond register space")
  else
    none

def storePage (chip : Chip) (page : UInt32) (start : Nat) (data : List UInt8) : Chip :=
  let stored := (chip.pages page).store start data
  { chip with pages := fun other => if other = page then stored else chip.pages other }

def storeDirect (chip : Chip) (offset : UInt16) (data : List UInt8) : Chip :=
  { chip with memory := chip.memory.store offset.toNat data }

/-- Memory inside the bus space, and nothing past its end. -/
def load? (chip : Chip) (offset : UInt16) (count : Nat) : Option (List UInt8) :=
  if offset.toNat + count ≤ spaceSize then some (chip.memory.load offset.toNat count) else none

def store? (chip : Chip) (offset : UInt16) (data : List UInt8) : Option Chip :=
  if offset.toNat + data.length ≤ spaceSize then some (chip.storeDirect offset data) else none

def vector (count : Nat) (byte : Nat → UInt8) : Vector UInt8 count :=
  Vector.ofFn fun i => byte i.val

/-- A read in the page window. A whole lane register takes its value from its queue. -/
def readPage (chip : Chip) (offset : UInt16) (count : Nat) :
    Except Error (Vector UInt8 count) × Chip :=
  let page := chip.currentPage
  let position := (offset - Register.windowStart).toNat
  let shown := chip.pages page
  let fromMemory := vector count fun i => shown.byte (position + i)
  if count = 4 then
    let key := page ||| position.toUInt32
    match chip.lanes.get key with
    | some value :: rest =>
        let bytes := Bytes.ofUInt32 value
        (.ok (vector count fun i => bytes[i]?.getD 0),
          { chip with lanes := chip.lanes.set key rest })
    | none :: rest =>
        (.error (busFault "injected lane read fault"),
          { chip with lanes := chip.lanes.set key rest })
    | [] => (.ok fromMemory, chip)
  else
    (.ok fromMemory, chip)

/-- What a spoiled checksum differs by. -/
def spoiler : List UInt8 := [0x5a, 0xa5]

def readDirect (chip : Chip) (offset : UInt16) (count : Nat) : Vector UInt8 count :=
  let spoils := chip.spoiled && offset == Layout.firmwareCrc.offset && count == 2
  vector count fun i =>
    let byte := chip.memory.byte (offset.toNat + i)
    if spoils then byte ^^^ spoiler[i]?.getD 0 else byte

def read (chip : Chip) (offset : UInt16) (count : Nat) :
    Except Error (Vector UInt8 count) × Chip :=
  if chip.inReset then
    (.error (busFault "device held in reset"), chip)
  else if chip.faults.reads.contains offset then
    (.error (busFault "injected read fault"), chip)
  else
    match spanFault? offset count with
    | some error => (.error error, chip)
    | none =>
        if inPageWindow offset then chip.readPage offset count
        else (.ok (chip.readDirect offset count), chip)

/-- The port and the offset that a sensor address names. -/
def sensorKey (address : UInt32) : UInt32 × UInt32 :=
  ((address >>> 26) &&& 0xf, address &&& 0xffff)

def setSensor (chip : Chip) (port register : UInt32) (value : UInt16) : Chip :=
  { chip with
    sensors := fun otherPort other =>
      if otherPort = port ∧ other = register then some value else chip.sensors otherPort other }

/-- The bytes a copy takes from its source. -/
def copied? (chip : Chip) (control : UInt32) : Option (List UInt8) :=
  let size := max 1 (min 4 (chip.word32 Layout.copySize.offset).toNat)
  let source := chip.word32 Layout.copySource.offset
  if (control >>> 4) &&& 3 = 3 then
    let (port, register) := sensorKey source
    let value := (chip.sensors port register).getD 0
    some (if size = 1 then [value.toUInt8] else Bytes.ofUInt16 value)
  else
    chip.load? source.toUInt16 size

/-- The chip with copied bytes at the target. -/
def place? (chip : Chip) (control : UInt32) (bytes : List UInt8) : Option Chip :=
  let target := chip.word32 Layout.copyTarget.offset
  if (control >>> 8) &&& 3 = 3 then
    let (port, register) := sensorKey target
    some (chip.setSensor port register (Bytes.bigEndian (bytes.take 2)).toUInt16)
  else
    chip.store? target.toUInt16 bytes

/-- Runs the copy that a control word starts, after which the engine is idle. -/
def copy? (chip : Chip) (control : UInt32) : Option Chip :=
  if control &&& Layout.Copy.modeMask = Layout.Copy.start ∧ chip.faults.copyStuck = false then do
    let bytes ← chip.copied? control
    let chip ← chip.place? control bytes
    return chip.storeDirect Layout.copyControl.offset
      (Bytes.ofUInt16 (control &&& ~~~Layout.Copy.modeMask).toUInt16)
  else
    some chip

/-- Firmware that arrives goes into the checksum. -/
def receive (chip : Chip) (offset : UInt16) (data : List UInt8) : Chip :=
  let crc := (Bytes.bigEndian (chip.memory.load Layout.firmwareCrc.offset.toNat 2)).toUInt16
  { chip with
    windowWrites := (offset, data.length) :: chip.windowWrites
    firmware := chip.firmware ++ data
    memory := chip.memory.store Layout.firmwareCrc.offset.toNat
      (Bytes.ofUInt16 (Crc.absorbAll crc data)) }

/-- A new download begins. -/
def beginDownload (chip : Chip) : Chip :=
  let spoiled := chip.faults.crcFailures ≠ 0
  { chip with
    firmware := []
    windowWrites := []
    spoiled
    faults :=
      if spoiled then { chip.faults with crcFailures := chip.faults.crcFailures - 1 }
      else chip.faults }

def record (chip : Chip) (page? : Option UInt32) (offset : UInt16) (data : List UInt8) : Chip :=
  { chip with writes := ⟨page?, offset, data⟩ :: chip.writes }

/-- A write outside the page window. -/
def writeDirect (chip : Chip) (offset : UInt16) (data : List UInt8) :
    Option (Except Error Unit) × Chip :=
  let chip := chip.record none offset data
  if inFirmwareWindow offset then
    (some (.ok ()), chip.receive offset data)
  else
    let chip := chip.storeDirect offset data
    if offset = Layout.firmwareCrc.offset then
      (some (.ok ()), chip.beginDownload)
    else if offset = Layout.copyControl.offset ∧ data.length = 2 then
      match chip.copy? (Bytes.bigEndian data) with
      | some after => (some (.ok ()), after)
      | none => (none, chip)
    else
      (some (.ok ()), chip)

def write (chip : Chip) (offset : UInt16) (data : List UInt8) :
    Option (Except Error Unit) × Chip :=
  if chip.inReset then
    (some (.error (busFault "device held in reset")), chip)
  else if chip.faults.writes.contains offset then
    (some (.error (busFault "injected write fault")), chip)
  else
    match spanFault? offset data.length with
    | some error => (some (.error error), chip)
    | none =>
        if inPageWindow offset then
          let page := chip.currentPage
          let chip := chip.record (some page) offset data
          (some (.ok ()), chip.storePage page (offset - Register.windowStart).toNat data)
        else
          chip.writeDirect offset data

end Chip

end IspDriver.Simulation
