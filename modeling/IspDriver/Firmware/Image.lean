import IspDriver.Bytes
import IspDriver.Host
import IspDriver.Firmware.Crc

/-!
Firmware images. A file is a header of four words, low byte first (checksum, byte sum, length of the
clock segment, length of the payload), then the payload, which starts with the clock segment. Bytes
after the payload belong to nobody.
-/

namespace IspDriver

structure FirmwareHeader where
  crc : UInt32
  checksum : UInt32
  clockSize : UInt32
  totalSize : UInt32
deriving DecidableEq, Repr

namespace FirmwareHeader

def size : Nat := 16

def field (data : List UInt8) (position : Nat) : UInt32 :=
  Bytes.littleEndian ((data.drop position).take 4)

def parse (data : List UInt8) : Except Error FirmwareHeader :=
  if data.length < size then
    .error (.corrupt (.shorterThanHeader data.length size))
  else
    .ok ⟨field data 0, field data 4, field data 8, field data 12⟩

end FirmwareHeader

/-- A file whose header fits what follows it. -/
structure FirmwareImage where
  header : FirmwareHeader
  /-- Everything after the header. -/
  body : List UInt8
  clockSize_le : header.clockSize ≤ header.totalSize
  totalSize_le : header.totalSize.toNat ≤ body.length

namespace FirmwareImage

/-- The bytes to download. -/
def payload (image : FirmwareImage) : List UInt8 :=
  image.body.take image.header.totalSize.toNat

/-- The part that starts the clocks. -/
def clockSegment (image : FirmwareImage) : List UInt8 :=
  image.payload.take image.header.clockSize.toNat

def mainSegment (image : FirmwareImage) : List UInt8 :=
  image.payload.drop image.header.clockSize.toNat

/-- The checksum as the chip's 16-bit register can hold it. -/
def expectedCrc (image : FirmwareImage) : UInt32 :=
  image.header.crc &&& 0xffff

/-- How many bytes follow the payload. -/
def trailing (image : FirmwareImage) : Nat :=
  image.body.length - image.header.totalSize.toNat

/-- The image in a file, unless a length in the header is too large. -/
def parse (data : List UInt8) : Except Error FirmwareImage :=
  match FirmwareHeader.parse data with
  | .error error => .error error
  | .ok header =>
      let body := data.drop FirmwareHeader.size
      if ordered : header.clockSize ≤ header.totalSize then
        if enough : header.totalSize.toNat ≤ body.length then
          .ok ⟨header, body, ordered, enough⟩
        else
          .error (.corrupt (.totalSize header.totalSize body.length))
      else
        .error (.corrupt (.clockSegment header.clockSize header.totalSize))

/-- The image in a file; trailing bytes are worth a warning. -/
def accept {σ S : Type} (data : List UInt8) : Routine σ S FirmwareImage := do
  let image ← Routine.ofExcept (parse data)
  if 0 < image.trailing then
    Routine.note .warn
      s!"Firmware carries {image.trailing} trailing bytes past its declared size"
  return image

/-- A file with these segments and the checksums that belong to them. -/
def encode (clock main : List UInt8) : List UInt8 :=
  let payload := clock ++ main
  Bytes.ofUInt32LittleEndian (Crc.absorbAll Crc.seed payload).toUInt32 ++
    Bytes.ofUInt32LittleEndian (Bytes.sum payload) ++
    Bytes.ofUInt32LittleEndian clock.length.toUInt32 ++
    Bytes.ofUInt32LittleEndian payload.length.toUInt32 ++
    payload

/-- A file to try things out with: `total` bytes of payload, the first `clock` of them, as far as
there are so many, the clock segment. -/
def synthetic (clock total : Nat) : List UInt8 :=
  let payload := (List.range total).map fun i => ((i * 31) ^^^ (i >>> 7)).toUInt8
  encode (payload.take clock) (payload.drop clock)

end FirmwareImage

end IspDriver
