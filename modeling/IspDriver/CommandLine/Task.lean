import IspDriver.CommandLine.Failure
import IspDriver.Host

/-!
Commands as tasks. A task may have to read files before it is done; what it leaves behind is a
printout: a text, a verdict and the notes made on the way.
-/

namespace IspDriver.CommandLine

inductive Verdict where
  | success
  | failed (failure : Failure)
  /-- Something had no answer to give. -/
  | breakdown
deriving DecidableEq, Repr

namespace Verdict

def exitCode : Verdict → Nat
  | success => 0
  | failed failure => failure.exitCode
  | breakdown => 101

/-- What goes to the error output. -/
def message : Verdict → String
  | success => ""
  | failed failure => failure.message ++ "\n"
  | breakdown => "The command broke down\n"

def ofOutcome {α : Type} : Outcome α → Verdict
  | .done _ => success
  | .failed error => failed (.ofError error)
  | .aborted => breakdown

end Verdict

structure Printout where
  output : String := ""
  verdict : Verdict := .success
  /-- The first one in front. -/
  notes : List Note := []
deriving DecidableEq, Repr

namespace Printout

def ofExcept : Except Failure String → Printout
  | .ok output => { output }
  | .error failure => { verdict := .failed failure }

/-- The printout with notes ahead of its own. -/
def after (notes : List Note) (printout : Printout) : Printout :=
  { printout with notes := notes ++ printout.notes }

end Printout

inductive FileFault where
  | missing
  | unreadable (text : String)
deriving DecidableEq, Repr

inductive Task where
  | done (printout : Printout)
  | read (path : String) (next : Except FileFault (List UInt8) → Task)

/-- A file that cannot be read, as the failure of the command that needs it. -/
def Failure.ofFileFault (path : String) : FileFault → Failure
  | .missing => .notFound path
  | .unreadable text => .general ("Failed to read " ++ path ++ ": " ++ text)

namespace Task

/-- The printout, with files to read from. -/
def run (files : String → Except FileFault (List UInt8)) : Task → Printout
  | done printout => printout
  | read path next => (next (files path)).run files

/-- The task with a note ahead of everything else. -/
def noting (level : Level) (text : String) : Task → Task
  | done printout => done (printout.after [⟨level, text⟩])
  | read path next => read path fun content => (next content).noting level text

end Task

end IspDriver.CommandLine
