import IspDriver.CommandLine.Task
import IspDriver.Firmware.Image
import IspDriver.Text.Json
import IspDriver.Text.Quoted

/-! The command that shows what a firmware file declares, and whether its payload agrees. -/

namespace IspDriver.CommandLine

open Text (Json hex)

structure Inspect where
  file : String := ""
  /-- Whether a payload with another checksum than declared is a failure. -/
  verify : Bool := false
deriving DecidableEq, Repr

namespace Inspect

def description (arguments : Inspect) : String :=
  "Args \x7b file: " ++ Text.quoted arguments.file ++ ", verify: " ++
    toString arguments.verify ++ " \x7d"

def computedCrc (image : FirmwareImage) : UInt32 :=
  (Crc.absorbAll (Crc.absorbAll 0xffff image.clockSegment) image.mainSegment).toUInt32

def agrees (image : FirmwareImage) : Bool :=
  computedCrc image == image.expectedCrc

def json (file : String) (image : FirmwareImage) : Json :=
  .object [
    ("file", .text file),
    ("file_size", .number (FirmwareHeader.size + image.body.length)),
    ("crc", .number image.header.crc.toNat),
    ("computed_crc", .number (computedCrc image).toNat),
    ("crc_ok", .bool (agrees image)),
    ("checksum", .number image.header.checksum.toNat),
    ("computed_checksum", .number (Bytes.sum image.payload).toNat),
    ("pll_init_size", .number image.header.clockSize.toNat),
    ("total_size", .number image.header.totalSize.toNat),
    ("trailing_bytes", .number image.trailing)]

def text (file : String) (image : FirmwareImage) : String :=
  "Firmware: " ++ file ++ "\n" ++
  s!"  File size:     {FirmwareHeader.size + image.body.length} bytes\n" ++
  s!"  PLL init size: {image.header.clockSize} bytes\n" ++
  s!"  Total size:    {image.header.totalSize} bytes\n" ++
  (if image.trailing = 0 then ""
    else s!"  Trailing:      {image.trailing} bytes (ignored)\n") ++
  "  CRC:           0x" ++ hex 4 image.header.crc.toNat ++ " (payload 0x" ++
    hex 4 (computedCrc image).toNat ++ ") " ++ (if agrees image then "✓" else "✗") ++ "\n" ++
  "  Checksum:      0x" ++ hex 8 image.header.checksum.toNat ++ " (payload 0x" ++
    hex 8 (Bytes.sum image.payload).toNat ++ ")\n"

def verdict (arguments : Inspect) (image : FirmwareImage) : Verdict :=
  if arguments.verify && !agrees image then
    .failed (.corruptFirmware ("CRC mismatch: header 0x" ++ hex 4 image.expectedCrc.toNat ++
      ", payload 0x" ++ hex 4 (computedCrc image).toNat))
  else
    .success

/-- The printout for a file with this content. -/
def report (arguments : Inspect) (asJson : Bool) (data : List UInt8) : Printout :=
  match FirmwareImage.accept data Host.notebook () [] with
  | (.done image, _, notes) =>
      { output :=
          if asJson then (json arguments.file image).lines else text arguments.file image
        verdict := arguments.verdict image
        notes := notes.reverse }
  | (outcome, _, notes) => { verdict := .ofOutcome outcome, notes := notes.reverse }

def run (arguments : Inspect) (asJson : Bool) : Task :=
  .read arguments.file fun
    | .ok data => .done (arguments.report asJson data)
    | .error fault => .done { verdict := .failed (.ofFileFault arguments.file fault) }

end Inspect

end IspDriver.CommandLine
