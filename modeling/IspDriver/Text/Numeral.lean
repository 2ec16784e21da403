/-!
Unsigned numbers read from digits of a base, numbers written as hexadecimal text, and columns of fixed
width.
-/

namespace IspDriver.Text

/-- The value of a digit or letter, of either case, below `base`. -/
def digitValue? (base : Nat) (c : Char) : Option Nat :=
  let value? :=
    if '0' ≤ c ∧ c ≤ '9' then some (c.toNat - '0'.toNat)
    else if 'a' ≤ c ∧ c ≤ 'z' then some (c.toNat - 'a'.toNat + 10)
    else if 'A' ≤ c ∧ c ≤ 'Z' then some (c.toNat - 'A'.toNat + 10)
    else none
  value?.filter (· < base)

/-- The number that a run of digits denotes after digits denoting `high`. -/
def digitsAfter? (base high : Nat) : List Char → Option Nat
  | [] => some high
  | c :: rest => do
      let value ← digitValue? base c
      digitsAfter? base (high * base + value) rest

/-- One or more digits, and nothing else. -/
def natural? (base : Nat) : List Char → Option Nat
  | [] => none
  | digits => digitsAfter? base 0 digits

/-- Digits after at most one plus sign. -/
def unsigned? (base : Nat) : List Char → Option Nat
  | '+' :: digits => natural? base digits
  | digits => natural? base digits

/-- An unsigned number below `2 ^ 32`. -/
def word? (base : Nat) (text : List Char) : Option UInt32 :=
  match unsigned? base text with
  | some value => if value < UInt32.size then some value.toUInt32 else none
  | none => none

/-- Cuts at the first `mark`, which belongs to neither part. -/
def cutAt? (mark : Char) : List Char → Option (List Char × List Char)
  | [] => none
  | c :: rest =>
      if c = mark then some ([], rest)
      else (cutAt? mark rest).map fun (before, after) => (c :: before, after)

/-- The lower-case hexadecimal digits of `value`, with leading zeros up to `width` digits. -/
def hex (width value : Nat) : String :=
  String.ofList ((Nat.toDigits 16 value).leftpad width '0')

/-- Two digits for each byte, in order. -/
def hexBytes (bytes : List UInt8) : String :=
  String.join (bytes.map fun byte => hex 2 byte.toNat)

/-- A column flush left, `width` characters wide unless the text is longer. -/
def alignLeft (width : Nat) (text : String) : String :=
  text ++ String.ofList (List.replicate (width - text.length) ' ')

/-- A column flush right, `width` characters wide unless the text is longer. -/
def alignRight (width : Nat) (text : String) : String :=
  String.ofList (List.replicate (width - text.length) ' ') ++ text

end IspDriver.Text
