import IspDriver.Firmware.Crc
import IspDriver.Simulation.Bench
import IspDriver.Simulation.ScriptedWires

/-! What happened on a bench or on scripted wires, as lines of text. -/

namespace IspDriver.Simulation

/-- The bytes themselves when there are at most 64 of them, else their number and checksum. -/
def bytesText (data : List UInt8) : String :=
  if data.length ≤ 64 then
    Text.hexBytes data
  else
    "[" ++ toString data.length ++ ":" ++ Text.hex 4 (Crc.absorbAll 0xffff data).toNat ++ "]"

def lineName : Line → String
  | .reset => "reset"
  | .standby => "standby"
  | .enable => "isp_en"
  | .auxiliary => "aux"

private def bit : Bool → String
  | true => "1"
  | false => "0"

def Event.text : Event → String
  | line which active => "gpio " ++ lineName which ++ " " ++ bit active
  | clock running => "clock " ++ bit running
  | supply consumer name enabled => "supply " ++ consumer ++ "/" ++ name ++ " " ++ bit enabled
  | wait microseconds => "delay " ++ toString microseconds

def WriteRecord.text (record : WriteRecord) : String :=
  let page := match record.page? with
    | some page => Text.hex 0 page.toNat
    | none => "-"
  page ++ ":" ++ Text.hex 4 record.offset.toNat ++ "=" ++ bytesText record.data

def Transfer.text : Transfer → String
  | wrote address bytes => Text.hex 2 address.toNat ++ " w " ++ bytesText bytes
  | read address count => Text.hex 2 address.toNat ++ " r " ++ toString count

/-- The entries past the first `seen`, first one in front, of a list that has the last one in front.
When fewer than `seen` are left, all of them are new. -/
def newEntries {α : Type} (seen : Nat) (entries : List α) : List α :=
  let count := entries.length
  if count < seen then entries.reverse else (entries.take (count - seen)).reverse

end IspDriver.Simulation
