import IspDriver.Board
import IspDriver.CommandLine.Failure
import IspDriver.Text.Numeral

/-!
Board descriptions in files. A file holds a JSON object whose fields are all optional, or a list of
the fields' values in order. It is read in two steps: text to tokens, where a character that starts
no token of a board description refuses the file, and tokens to fields.
-/

namespace IspDriver.CommandLine.BoardFile

inductive Token where
  | openObject
  | closeObject
  | openList
  | closeList
  | comma
  | colon
  | null
  | number (value : Nat)
  | text (value : String)
deriving DecidableEq, Repr

def isSpace (c : Char) : Bool :=
  c == ' ' || c == '\n' || c == '\t' || c == '\r'

/-- The character after a backslash, unless it starts an escape by code. -/
def shortEscape? : Char → Option Char
  | '"' => some '"'
  | '\\' => some '\\'
  | '/' => some '/'
  | 'b' => some '\x08'
  | 'f' => some '\x0c'
  | 'n' => some '\n'
  | 'r' => some '\r'
  | 't' => some '\t'
  | _ => none

/-- The character of a code of four digits, or of two such codes that are a surrogate pair. -/
def ofCode? (code : Nat) : Option Char :=
  if code < 0xd800 ∨ (0xdfff < code ∧ code < 0x110000) then some (Char.ofNat code) else none

def pairCode? (high low : Nat) : Option Nat :=
  if 0xd800 ≤ high ∧ high < 0xdc00 ∧ 0xdc00 ≤ low ∧ low < 0xe000 then
    some (0x10000 + (high - 0xd800) * 0x400 + (low - 0xdc00))
  else
    none

/-- Text up to the closing quote, with what follows it; `read` is the text so far, backwards. -/
def readText? (read : List Char) : List Char → Option (String × List Char)
  | [] => none
  | '"' :: rest => some (String.ofList read.reverse, rest)
  | '\\' :: 'u' :: a :: b :: c :: d :: rest =>
      match Text.natural? 16 [a, b, c, d] with
      | none => none
      | some code =>
          match ofCode? code with
          | some char => readText? (char :: read) rest
          | none =>
              match rest with
              | '\\' :: 'u' :: e :: f :: g :: h :: rest =>
                  match Text.natural? 16 [e, f, g, h] >>= pairCode? code >>= ofCode? with
                  | some char => readText? (char :: read) rest
                  | none => none
              | _ => none
  | '\\' :: c :: rest =>
      match shortEscape? c with
      | some char => readText? (char :: read) rest
      | none => none
  | c :: rest => if c.toNat < 0x20 then none else readText? (c :: read) rest

theorem length_of_readText? {read text : List Char} {value : String} {rest : List Char}
    (found : readText? read text = some (value, rest)) : rest.length < text.length := by
  fun_induction readText? read text <;> simp_all <;> omega

def isDigit (c : Char) : Bool :=
  '0' ≤ c && c ≤ '9'

/-- The token in front, with what follows it. A number starts with zero only when it is zero. -/
def nextToken? : List Char → Option (Token × List Char)
  | '\x7b' :: rest => some (.openObject, rest)
  | '\x7d' :: rest => some (.closeObject, rest)
  | '[' :: rest => some (.openList, rest)
  | ']' :: rest => some (.closeList, rest)
  | ',' :: rest => some (.comma, rest)
  | ':' :: rest => some (.colon, rest)
  | 'n' :: 'u' :: 'l' :: 'l' :: rest => some (.null, rest)
  | '"' :: rest => (readText? [] rest).map fun (value, rest) => (.text value, rest)
  | '0' :: rest => some (.number 0, rest)
  | text =>
      (Text.natural? 10 (text.takeWhile isDigit)).map fun value =>
        (.number value, text.dropWhile isDigit)

theorem length_dropWhile_of_natural? {base value : Nat} {text : List Char} {holds : Char → Bool}
    (found : Text.natural? base (text.takeWhile holds) = some value) :
    (text.dropWhile holds).length < text.length := by
  have whole := congrArg List.length (List.takeWhile_append_dropWhile (p := holds) (l := text))
  have nonempty : (text.takeWhile holds).length ≠ 0 := by
    intro empty
    rw [List.length_eq_zero_iff.mp empty] at found
    simp [Text.natural?] at found
  rw [List.length_append] at whole
  omega

/-- Every token takes something of the text. -/
theorem length_of_nextToken? {text rest : List Char} {token : Token}
    (found : nextToken? text = some (token, rest)) : rest.length < text.length := by
  unfold nextToken? at found
  split at found
  case h_8 =>
    obtain ⟨⟨value, after⟩, read, same⟩ := Option.map_eq_some_iff.mp found
    have shorter := length_of_readText? read
    simp_all
    omega
  case h_10 =>
    obtain ⟨value, read, same⟩ := Option.map_eq_some_iff.mp found
    have shorter := length_dropWhile_of_natural? read
    simp_all
  all_goals
    simp_all
    try omega

def tokens? (text : List Char) : Option (List Token) :=
  if text.all isSpace then
    some []
  else
    match _taken : nextToken? (text.dropWhile isSpace) with
    | none => none
    | some (token, rest) => (tokens? rest).map (token :: ·)
termination_by text.length
decreasing_by
  have shorter := length_of_nextToken? _taken
  have dropped := (List.dropWhile_suffix (l := text) isSpace).length_le
  omega

inductive Value where
  | null
  | number (value : Nat)
  | text (value : String)
  | numbers (values : List Nat)
deriving DecidableEq, Repr

/-- Numbers after the first one of a list, up to its end. -/
def moreNumbers? : List Token → Option (List Nat × List Token)
  | .closeList :: rest => some ([], rest)
  | .comma :: .number value :: rest =>
      (moreNumbers? rest).map fun (values, rest) => (value :: values, rest)
  | _ => none

def value? : List Token → Option (Value × List Token)
  | .null :: rest => some (.null, rest)
  | .number value :: rest => some (.number value, rest)
  | .text value :: rest => some (.text value, rest)
  | .openList :: .closeList :: rest => some (.numbers [], rest)
  | .openList :: .number first :: rest =>
      (moreNumbers? rest).map fun (values, rest) => (.numbers (first :: values), rest)
  | _ => none

/-- Values with a comma ahead of each, at most `limit` of them, up to the bracket that ends the
text. -/
def moreValues? : (limit : Nat) → List Token → Option (List Value)
  | _, [.closeList] => some []
  | limit + 1, .comma :: rest => do
      let (value, rest) ← value? rest
      return value :: (← moreValues? limit rest)
  | _, _ => none

/-- Fields with a comma ahead of each, at most `limit` of them, up to the brace that ends the
text. -/
def moreFields? : (limit : Nat) → List Token → Option (List (String × Value))
  | _, [.closeObject] => some []
  | limit + 1, .comma :: .text name :: .colon :: rest => do
      let (value, rest) ← value? rest
      return (name, value) :: (← moreFields? limit rest)
  | _, _ => none

/-- The names of the fields, in order. -/
def fieldNames : List String := ["model", "sensors", "data_lanes"]

/-- The fields that the tokens give, by name or in order. -/
def fields? : List Token → Option (List (String × Value))
  | [.openObject, .closeObject] => some []
  | .openObject :: rest => moreFields? fieldNames.length (.comma :: rest)
  | [.openList, .closeList] => some []
  | .openList :: rest => (moreValues? fieldNames.length (.comma :: rest)).map fieldNames.zip
  | _ => none

def word? (value : Nat) : Option UInt32 :=
  if value < UInt32.size then some value.toUInt32 else none

/-- The description with one field set. -/
def setField? (config : BoardConfig) : String × Value → Option BoardConfig
  | ("model", .null) => some { config with model? := none }
  | ("model", .text name) => some { config with model? := some name }
  | ("sensors", .numbers values) =>
      (values.mapM word?).map fun sensors => { config with sensors }
  | ("data_lanes", .number value) =>
      (word? value).map fun dataLanes => { config with dataLanes }
  | _ => none

/-- What a file without fields describes. -/
def blank : BoardConfig := ⟨none, [], 4⟩

/-- The description in a text. No field is given twice. -/
def parse? (text : List Char) : Option BoardConfig := do
  let fields ← (tokens? text) >>= fields?
  if (fields.map Prod.fst).Nodup then
    fields.foldlM setField? blank
  else
    none

end IspDriver.CommandLine.BoardFile
