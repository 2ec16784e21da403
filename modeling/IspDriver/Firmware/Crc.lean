/-! The 16-bit cyclic checksum over firmware, high bit first, with the polynomial 0x1021. -/

namespace IspDriver.Crc

/-- The register after one bit has moved out at the top. -/
def shift (crc : UInt16) : UInt16 :=
  if crc &&& 0x8000 = 0 then crc <<< 1 else (crc <<< 1) ^^^ 0x1021

def shiftBy : Nat → UInt16 → UInt16
  | 0, crc => crc
  | count + 1, crc => shiftBy count (shift crc)

/-- The register after one more byte. -/
def absorb (crc : UInt16) (byte : UInt8) : UInt16 :=
  shiftBy 8 (crc ^^^ (byte.toUInt16 <<< 8))

def absorbAll (crc : UInt16) (bytes : List UInt8) : UInt16 :=
  bytes.foldl absorb crc

/-- What the register holds before the first byte of an image. -/
def seed : UInt16 := 0xffff

/-- Checksums of two parts follow from each other. -/
theorem absorbAll_append (crc : UInt16) (front back : List UInt8) :
    absorbAll crc (front ++ back) = absorbAll (absorbAll crc front) back :=
  List.foldl_append

end IspDriver.Crc
