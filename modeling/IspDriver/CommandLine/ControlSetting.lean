import IspDriver.CommandLine.Number
import IspDriver.Control.Spec
import IspDriver.Text.Character

/-!
Control settings as arguments, a name and a number with `=` between them. Dashes, underscores and
the case of letters do not count in a name. A minus sign stands right after the `=`.
-/

namespace IspDriver.CommandLine

structure ControlSetting where
  id : ControlId
  value : Int32
deriving DecidableEq, Repr

namespace ControlSetting

/-- The control of a name as it is written on command lines. -/
def control? (name : List Char) : Option ControlId :=
  let key := name.filter fun c => c ≠ '-' ∧ c ≠ '_'
  ControlId.all.find? fun id => Text.sameLetters id.spec.key.toList key

/-- The number, with a minus sign or without. -/
def number (text : List Char) : Except Failure Int :=
  match text with
  | '-' :: magnitude => do
      return -(Int.ofNat (← parseWord (String.ofList magnitude)).toNat)
  | _ => do
      return Int.ofNat (← parseWord (String.ofList text)).toNat

def parse (text : String) : Except Failure ControlSetting :=
  match Text.cutAt? '=' text.toList with
  | none => .error (.invalidArguments ("Expected NAME=VALUE: " ++ text))
  | some (name, value) =>
      match control? name with
      | none => .error (.invalidArguments ("Unknown control: " ++ String.ofList name))
      | some id => do
          let number ← number value
          if Int32.minValue.toInt ≤ number ∧ number ≤ Int32.maxValue.toInt then
            return ⟨id, .ofInt number⟩
          else
            .error (.invalidArguments ("Control value out of range: " ++ String.ofList value))

end ControlSetting

end IspDriver.CommandLine
