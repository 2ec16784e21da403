import IspDriver.Error

/-! How a command can fail: what it prints, and the exit code it leaves. -/

namespace IspDriver.CommandLine

inductive Failure where
  | invalidArguments (text : String)
  | notFound (text : String)
  | corruptFirmware (text : String)
  | timeout (text : String)
  | general (text : String)
deriving DecidableEq, Repr

namespace Failure

def message : Failure → String
  | invalidArguments text => "Invalid arguments: " ++ text
  | notFound text => "Not found: " ++ text
  | corruptFirmware text => "Corrupt firmware: " ++ text
  | timeout text => "Timeout: " ++ text
  | general text => "Error: " ++ text

def exitCode : Failure → Nat
  | general _ => 1
  | invalidArguments _ => 2
  | notFound _ => 3
  | corruptFirmware _ => 4
  | timeout _ => 6

/-- What an error of the driver means for a command. -/
def ofError : Error → Failure
  | .invalidArgument cause => invalidArguments cause.text
  | .notFound resource => notFound resource
  | .corrupt cause => corruptFirmware cause.text
  | .crcMismatch expected actual => corruptFirmware (Error.crcMismatch expected actual).message
  | .timeout cause => timeout cause.text
  | .transfer .notFound text => notFound text
  | .transfer .timedOut text => timeout ("Operation timed out: " ++ text)
  | .transfer _ text => general ("I/O error: " ++ text)
  | .device cause => general ("Device error: " ++ cause.text)

end Failure

end IspDriver.CommandLine
