import IspDriver.CommandLine.Command

/-! The program: a command line in, two texts and an exit code out. -/

namespace IspDriver.CommandLine

def usage : String :=
  "Inspects firmware of AP130X image processors and brings them up in simulation.\n\n" ++
  "Usage: ap130x [-v|--verbose] [-q|--quiet] [--json] COMMAND\n\n" ++
  "Commands:\n" ++
  "  sensors    [--tpg]\n" ++
  "  fw-name    [-m|--model NAME] [-s|--sensors COUNT]\n" ++
  "  inspect    [--verify] FILE\n" ++
  "  sipm-addr  VALUE | [-p|--port PORT] [-w|--width BYTES] -r|--reg OFFSET\n" ++
  "  simulate   [-m|--model NAME | --tpg] [-s|--sensors PORTS] [--lanes COUNT]\n" ++
  "             [-b|--board FILE] [--firmware-dir PATH] [--crc-failures COUNT]\n" ++
  "             [-f|--format CODE] [--size WxH] [-c|--control NAME=VALUE]...\n" ++
  "             [--follow] [-i|--interval MILLISECONDS]\n" ++
  "  help       [COMMAND]\n"

def versionText : String := "ap130x 0.4.0\n"

/-- The least severe level that is shown. -/
def shownLevel (globals : Globals) : Level :=
  if globals.quiet then .error
  else if globals.verbose then .debug
  else .info

def noteText (note : Note) : String :=
  "[" ++ Text.alignLeft 5 note.level.name ++ "] " ++ note.text ++ "\n"

def readContent (path : String) : IO (Except FileFault (List UInt8)) := do
  try
    return .ok (← IO.FS.readBinFile path).toList
  catch
    | .noFileOrDirectory .. => return .error .missing
    | error => return .error (.unreadable (toString error))

def perform : Task → IO Printout
  | .done printout => return printout
  | .read path next => do perform (next (← readContent path))

def conclude (ending : Ending) : IO UInt32 := do
  match ending with
  | .help => IO.print usage
  | .version => IO.print versionText
  | .misuse => IO.eprint usage
  return ending.exitCode.toUInt32

end IspDriver.CommandLine

open IspDriver IspDriver.CommandLine

def main (words : List String) : IO UInt32 := do
  match parse words with
  | .error ending => conclude ending
  | .ok invocation =>
      let printout ← perform invocation.task
      let shown := printout.notes.filter (·.isShownAt (shownLevel invocation.globals))
      IO.eprint (String.join (shown.map noteText))
      IO.print printout.output
      IO.eprint printout.verdict.message
      return printout.verdict.exitCode.toUInt32
