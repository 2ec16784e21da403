/-! Numbers as bytes, the high byte first on the bus and the low byte first in files. -/

namespace IspDriver.Bytes

/-- The number whose digits of base 256 are the bytes, modulo `2 ^ 32`. -/
def bigEndian (bytes : List UInt8) : UInt32 :=
  bytes.foldl (fun high byte => (high <<< 8) ||| byte.toUInt32) 0

def ofUInt16 (value : UInt16) : List UInt8 :=
  [(value >>> 8).toUInt8, value.toUInt8]

def ofUInt32 (value : UInt32) : List UInt8 :=
  [(value >>> 24).toUInt8, (value >>> 16).toUInt8, (value >>> 8).toUInt8, value.toUInt8]

/-- The number whose digits of base 256, the lowest first, are the bytes, modulo `2 ^ 32`. -/
def littleEndian (bytes : List UInt8) : UInt32 :=
  bigEndian bytes.reverse

def ofUInt32LittleEndian (value : UInt32) : List UInt8 :=
  (ofUInt32 value).reverse

/-- Cuts a list into pieces of `size` elements; the last piece has the rest. -/
def chunks (size : Nat) : List UInt8 → List (List UInt8)
  | [] => []
  | first :: rest => (first :: rest.take (size - 1)) :: chunks size (rest.drop (size - 1))
termination_by data => data.length

/-- The sum of the bytes, modulo `2 ^ 32`. -/
def sum (bytes : List UInt8) : UInt32 :=
  bytes.foldl (fun total byte => total + byte.toUInt32) 0

end IspDriver.Bytes
