import IspDriver.Text.Character
import IspDriver.Text.Numeral

/-! Pixel codes of the media bus. -/

namespace IspDriver

structure PixelCode where
  number : UInt32
deriving DecidableEq, Repr

namespace PixelCode

/-- No particular code, as the pattern generator has it. -/
def unspecified : PixelCode := ⟨0⟩

def uyvy8 : PixelCode := ⟨0x200f⟩
def uyyvyy8 : PixelCode := ⟨0x2026⟩
def sgrbg10 : PixelCode := ⟨0x300a⟩
def sgrbg12 : PixelCode := ⟨0x3010⟩

/-- The codes that have a name. -/
def named : List (PixelCode × String) :=
  [(uyvy8, "UYVY8_1X16"), (uyyvyy8, "UYYVYY8_0_5X24"),
    (sgrbg10, "SGRBG10_1X10"), (sgrbg12, "SGRBG12_1X12")]

def name? (code : PixelCode) : Option String :=
  named.lookup code

/-- The code of a name written in either case. -/
def ofName? (name : String) : Option PixelCode :=
  (named.find? fun (_, known) => Text.sameLetters known.toList name.toList).map Prod.fst

private def hexText (code : PixelCode) : String :=
  "0x" ++ Text.hex 4 code.number.toNat

/-- The name, or the number where there is none. -/
def text (code : PixelCode) : String :=
  code.name?.getD code.hexText

def description (code : PixelCode) : String :=
  "MbusCode(" ++ code.text ++ ")"

end PixelCode

end IspDriver
