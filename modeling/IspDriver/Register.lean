import IspDriver.Text.Numeral

/-!
Register addresses. One 32-bit word carries the access width in bytes (bits 31 to 24), the page of
the advanced space (bits 23 to 16, zero for the direct space) and the offset (bits 15 to 0). A paged
register is reached through a window of the bus space once its page is selected.
-/

namespace IspDriver

structure Register where
  raw : UInt32
deriving DecidableEq, Repr

namespace Register

/-- First bus offset of the window that shows the selected page. -/
def windowStart : UInt16 := 0xe000

/-- Bytes of a page. -/
def windowSize : Nat := 0x1000

def ofWidth (width address : UInt32) : Register :=
  ⟨(width <<< 24) ||| (address &&& 0x00ffffff)⟩

/-- A register of one byte; only sensors have them. -/
def of8 (address : UInt32) : Register :=
  ofWidth 1 address

def of16 (address : UInt32) : Register :=
  ofWidth 2 address

def of32 (address : UInt32) : Register :=
  ofWidth 4 address

/-- Access width in bytes. -/
def width (register : Register) : UInt32 :=
  register.raw >>> 24

/-- The page, in the place where the page select takes it. -/
def page (register : Register) : UInt32 :=
  register.raw &&& 0x00ff0000

def offset (register : Register) : UInt16 :=
  register.raw.toUInt16

def isPaged (register : Register) : Bool :=
  register.page != 0

/-- Offset in the bus space, with the page selected; past the end of the space it starts over. -/
def busOffset (register : Register) : UInt16 :=
  if register.isPaged then windowStart + register.offset else register.offset

/-- The bits a value of this register's width can have. -/
def valueMask (register : Register) : UInt32 :=
  if register.width = 1 then 0xff
  else if register.width = 2 then 0xffff
  else 0xffffffff

/-- The offset, after the page if there is one. -/
def text (register : Register) : String :=
  if register.isPaged then
    "0x" ++ Text.hex 2 (register.page >>> 16).toNat ++ ":" ++ Text.hex 4 register.offset.toNat
  else
    "0x" ++ Text.hex 4 register.offset.toNat

/-- Width, page and offset in full. -/
def description (register : Register) : String :=
  s!"Reg({register.width}B, 0x" ++ Text.hex 6 (register.raw &&& 0x00ffffff).toNat ++ ")"

end Register

end IspDriver
