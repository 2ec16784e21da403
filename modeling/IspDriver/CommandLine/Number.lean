import IspDriver.CommandLine.Failure
import IspDriver.Format.Pad
import IspDriver.Text.Character
import IspDriver.Text.Numeral

/-!
Numbers and sizes as arguments. A number is decimal, or hexadecimal after `0x`; blanks around it and
underscores in it do not count. A size is two decimal numbers with `x`, or else `*`, between them.
-/

namespace IspDriver.CommandLine

/-- The digits of a number argument, with their base. -/
def splitBase : List Char → Nat × List Char
  | '0' :: 'x' :: digits => (16, digits)
  | '0' :: 'X' :: digits => (16, digits)
  | digits => (10, digits)

def wordOf? (text : List Char) : Option UInt32 :=
  let (base, digits) := splitBase (Text.trim text)
  Text.word? base (digits.filter (· ≠ '_'))

def parseWord (text : String) : Except Failure UInt32 :=
  match wordOf? text.toList with
  | some word => .ok word
  | none =>
      .error (.invalidArguments ("Invalid number: " ++ String.ofList (Text.trim text.toList)))

def parseResolution (text : String) : Except Failure Resolution :=
  match Text.cutAt? 'x' text.toList <|> Text.cutAt? '*' text.toList with
  | none =>
      .error (.invalidArguments
        ("Invalid resolution format (expected WxH or W*H): " ++ text))
  | some (before, after) =>
      match Text.word? 10 before with
      | none => .error (.invalidArguments ("Invalid width in resolution: " ++ text))
      | some width =>
          match Text.word? 10 after with
          | none => .error (.invalidArguments ("Invalid height in resolution: " ++ text))
          | some height =>
              if width = 0 ∨ height = 0 then
                .error (.invalidArguments ("Resolution dimensions must be positive: " ++ text))
              else
                .ok ⟨width, height⟩

end IspDriver.CommandLine
