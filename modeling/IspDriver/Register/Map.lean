import IspDriver.Bytes
import IspDriver.Host
import IspDriver.Register.Layout

/-!
Access to registers by address. A paged register needs its page selected first; the map remembers
the last page it selected, so that a run of accesses to one page selects it once. A failed selection
leaves the page unknown.
-/

namespace IspDriver

structure RegisterMap where
  /-- The page believed to be selected. -/
  page? : Option UInt32 := none
deriving DecidableEq, Repr

/-- A routine on the registers. -/
abbrev Access (σ α : Type) : Type :=
  Routine σ RegisterMap α

namespace Bus

open Routine

variable {σ S : Type}

def read16 (offset : UInt16) : Routine σ S UInt16 := do
  let bytes ← Host.readBlock offset 2
  return (Bytes.bigEndian bytes.toList).toUInt16

def read32 (offset : UInt16) : Routine σ S UInt32 := do
  let bytes ← Host.readBlock offset 4
  return Bytes.bigEndian bytes.toList

def write16 (offset value : UInt16) : Routine σ S Unit :=
  Host.writeBlock offset (Bytes.ofUInt16 value)

def write32 (offset : UInt16) (value : UInt32) : Routine σ S Unit :=
  Host.writeBlock offset (Bytes.ofUInt32 value)

end Bus

namespace RegisterMap

open Routine

variable {σ : Type}

/-- The next paged access has to select its page again. -/
def forgetPage : Access σ Unit :=
  modify fun _ => { page? := none }

def rememberPage (page? : Option UInt32) : Access σ Unit :=
  modify fun _ => { page? }

def checkWidth (register : Register) : Access σ Unit :=
  if register.width = 2 ∨ register.width = 4 then done ()
  else refuse (.registerWidth register)

def selectPage (register : Register) : Access σ Unit := do
  let map ← state
  if !register.isPaged || map.page? = some register.page then
    done ()
  else
    onError (Bus.write32 Layout.pageSelect.offset register.page) fun error => do
      note .error ("Failed to select page for register " ++ register.text ++ ": " ++ error.message)
      rememberPage none
    note .trace ("Selected advanced page 0x" ++ Text.hex 2 (register.page >>> 16).toNat)
    rememberPage (some register.page)

def read (register : Register) : Access σ UInt32 := do
  checkWidth register
  selectPage register
  onError
    (if register.width = 2 then do
      return (← Bus.read16 register.busOffset).toUInt32
    else
      Bus.read32 register.busOffset)
    fun error =>
      note .error ("Register " ++ register.text ++ " read failed: " ++ error.message)

def write (register : Register) (value : UInt32) : Access σ Unit := do
  checkWidth register
  selectPage register
  let value := value &&& register.valueMask
  note .trace (register.text ++ " <= 0x" ++ Text.hex 0 value.toNat)
  onError
    (if register.width = 2 then
      Bus.write16 register.busOffset value.toUInt16
    else
      Bus.write32 register.busOffset value)
    fun error =>
      note .error ("Register " ++ register.text ++ " write of 0x" ++ Text.hex 0 value.toNat ++
        " failed: " ++ error.message)

/-- Gives the bits in `mask` their value in `value`, and writes only what changes. -/
def updateBits (register : Register) (mask value : UInt32) : Access σ Unit := do
  let current ← read register
  let updated := (current &&& ~~~mask) ||| (value &&& mask)
  if updated = current then done () else write register updated

/-- Writes in order, up to the first failure. -/
def writeAll : List (Register × UInt32) → Access σ Unit
  | [] => done ()
  | (register, value) :: rest => do
      write register value
      writeAll rest

def readBlock (offset : UInt16) (count : Nat) : Access σ (Vector UInt8 count) :=
  onError (Host.readBlock offset count) fun error =>
    note .error (s!"Block read of {count} bytes at 0x" ++ Text.hex 4 offset.toNat ++
      " failed: " ++ error.message)

def writeBlock (offset : UInt16) (data : List UInt8) : Access σ Unit :=
  onError (Host.writeBlock offset data) fun error =>
    note .error (s!"Block write of {data.length} bytes at 0x" ++ Text.hex 4 offset.toNat ++
      " failed: " ++ error.message)

end RegisterMap

end IspDriver
