import IspDriver.Simulation.Chip
import IspDriver.Text.Utf8

/-! Looking into the chip model and preparing it, past the bus and its faults. -/

namespace IspDriver.Simulation.Chip

def bytesOf (register : Register) : Nat :=
  if register.width = 4 then 4 else 2

/-- The value of a register, unless it runs out of its page or of the bus space. -/
def peek? (chip : Chip) (register : Register) : Option UInt32 :=
  let count := bytesOf register
  let start := register.offset.toNat
  if register.isPaged then
    if start + count ≤ Register.windowSize then
      some (Bytes.bigEndian ((chip.pages register.page).load start count))
    else
      none
  else
    (chip.load? register.offset count).map Bytes.bigEndian

def poke? (chip : Chip) (register : Register) (value : UInt32) : Option Chip :=
  let data := (Bytes.ofUInt32 value).drop (4 - bytesOf register)
  let start := register.offset.toNat
  if register.isPaged then
    if start + data.length ≤ Register.windowSize then
      some (chip.storePage register.page start data)
    else
      none
  else
    chip.store? register.offset data

/-- Text in the console buffer, cut so that a zero byte follows it. -/
def setConsole (chip : Chip) (text : String) : Chip :=
  let bytes := (Text.encodeUtf8 text.toList).take (Layout.consoleSize - 1)
  chip.storeDirect Layout.consoleOffset
    (bytes ++ List.replicate (Layout.consoleSize - bytes.length) 0)

def sensorRegister? (chip : Chip) (port register : UInt32) : Option UInt16 :=
  chip.sensors port (register &&& 0xffff)

def setSensorRegister (chip : Chip) (port register : UInt32) (value : UInt16) : Chip :=
  chip.setSensor port (register &&& 0xffff) value

/-- Queues what the next reads of a lane register find. -/
def pushLane (chip : Chip) (port lane : UInt32) (samples : List (Option UInt32)) : Chip :=
  let register := Layout.laneStatus port lane
  let key := register.page ||| register.offset.toUInt32
  { chip with lanes := chip.lanes.set key (chip.lanes.get key ++ samples) }

/-- The values written to a register, the first one in front. -/
def writesTo (chip : Chip) (register : Register) : List UInt32 :=
  let page? := if register.isPaged then some register.page else none
  let matching := chip.writes.filter fun record =>
    record.offset == register.busOffset && record.page? == page?
  (matching.map WriteRecord.value).reverse

/-- How often a page was selected. -/
def pageSelects (chip : Chip) : Nat :=
  (chip.writesTo Layout.pageSelect).length

def failReads (chip : Chip) (offset : UInt16) : Chip :=
  { chip with faults := { chip.faults with reads := offset :: chip.faults.reads } }

def failWrites (chip : Chip) (offset : UInt16) : Chip :=
  { chip with faults := { chip.faults with writes := offset :: chip.faults.writes } }

def setCopyStuck (chip : Chip) (stuck : Bool) : Chip :=
  { chip with faults := { chip.faults with copyStuck := stuck } }

def failCrcs (chip : Chip) (count : UInt32) : Chip :=
  { chip with faults := { chip.faults with crcFailures := count } }

def clearFaults (chip : Chip) : Chip :=
  { chip with faults := {} }

def clearWrites (chip : Chip) : Chip :=
  { chip with writes := [] }

end IspDriver.Simulation.Chip
