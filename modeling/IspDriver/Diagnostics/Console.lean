import IspDriver.Register.Map
import IspDriver.Text.Utf8

/-! The console text that the firmware leaves in a buffer of the chip. -/

namespace IspDriver.Diagnostics

open Routine

variable {σ : Type}

/-- The lines of a text. A newline ends a line and starts none. -/
def lines : List Char → List (List Char)
  | [] => []
  | c :: rest =>
      if c = '\n' then [] :: lines rest
      else match lines rest with
        | [] => [[c]]
        | line :: more => (c :: line) :: more

/-- The lines before the first zero byte. -/
def consoleLines (buffer : List UInt8) : List String :=
  (lines (Text.decodeLenient (buffer.takeWhile (· ≠ 0)))).map String.ofList

def noteLines : List String → Access σ Unit
  | [] => done ()
  | line :: rest => do
      note .info ("console " ++ line)
      noteLines rest

def readConsole : Access σ (List String) := do
  let buffer ← RegisterMap.readBlock Layout.consoleOffset Layout.consoleSize
  let console := consoleLines buffer.toList
  noteLines console
  return console

end IspDriver.Diagnostics
