import IspDriver.Text.Numeral

/-! JSON values that keep the order of their fields, and their text with one item a line. -/

namespace IspDriver.Text

inductive Json where
  | null
  | bool (value : Bool)
  | number (value : Int)
  | text (value : String)
  | list (items : List Json)
  | object (fields : List (String × Json))

namespace Json

/-- A character between quotes. -/
def escape (c : Char) : String :=
  if c = '"' then "\\\""
  else if c = '\\' then "\\\\"
  else if c = '\x08' then "\\b"
  else if c = '\t' then "\\t"
  else if c = '\n' then "\\n"
  else if c = '\x0c' then "\\f"
  else if c = '\r' then "\\r"
  else if c.toNat < 0x20 then "\\u" ++ hex 4 c.toNat
  else String.singleton c

def quote (text : String) : String :=
  "\"" ++ String.join (text.toList.map escape) ++ "\""

private def margin (depth : Nat) : String :=
  "\n" ++ String.ofList (List.replicate (2 * depth) ' ')

/-- Parts between brackets, each on a line of its own. -/
def enclose (opening closing : String) (depth : Nat) : List String → String
  | [] => opening ++ closing
  | parts =>
      opening ++ margin (depth + 1) ++ String.intercalate ("," ++ margin (depth + 1)) parts ++
        margin depth ++ closing

mutual

/-- The text of a value whose line is indented by `depth` levels. -/
def render (depth : Nat) : Json → String
  | null => "null"
  | bool true => "true"
  | bool false => "false"
  | number value => toString value
  | text value => quote value
  | list items => enclose "[" "]" depth (renderItems (depth + 1) items)
  | object fields => enclose "\x7b" "\x7d" depth (renderFields (depth + 1) fields)

def renderItems (depth : Nat) : List Json → List String
  | [] => []
  | item :: rest => render depth item :: renderItems depth rest

def renderFields (depth : Nat) : List (String × Json) → List String
  | [] => []
  | field :: rest => renderField depth field :: renderFields depth rest

def renderField (depth : Nat) : String × Json → String
  | (name, value) => quote name ++ ": " ++ render depth value

end

def lines (value : Json) : String :=
  value.render 0 ++ "\n"

end Json

end IspDriver.Text
