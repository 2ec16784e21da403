import IspDriver.Text.GraphemeExtend
import IspDriver.Text.Numeral
import IspDriver.Text.Unprintable

/-!
Text between double quotes, as log records show it: quotes, backslashes and the common control
characters have short escapes, other characters without a shape of their own have their code in
braces.
-/

namespace IspDriver.Text

/-- The half-width sound marks, which have a column of their own after the letter they extend. -/
def halfwidthMarks : CodeRanges :=
  [(0xff9e, 0xff9f)]

/-- Whether a character has no shape of its own. -/
def hasNoShape (c : Char) : Bool :=
  unprintable.contains c || (graphemeExtend.contains c && !halfwidthMarks.contains c)

def escapeShown (c : Char) : String :=
  if c = '\x00' then "\\0"
  else if c = '\t' then "\\t"
  else if c = '\n' then "\\n"
  else if c = '\r' then "\\r"
  else if c = '"' then "\\\""
  else if c = '\\' then "\\\\"
  else if hasNoShape c then "\\u\x7b" ++ hex 0 c.toNat ++ "\x7d"
  else String.singleton c

/-- The text between quotes. -/
def quoted (text : String) : String :=
  "\"" ++ String.join (text.toList.map escapeShown) ++ "\""

def quotedOption : Option String → String
  | none => "None"
  | some text => "Some(" ++ quoted text ++ ")"

def bracketed (items : List String) : String :=
  "[" ++ String.intercalate ", " items ++ "]"

end IspDriver.Text
