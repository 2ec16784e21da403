import IspDriver.Text.Numeral

/-!
Reading command lines. A grammar lists what can be set in settings of some type; words are read one
after another, each changing the settings or ending the reading. A parameter that takes a value
finds it after `=`, in the rest of a cluster of letters, or in the next word, which must not look
like a parameter itself.
-/

namespace IspDriver.CommandLine

/-- Why there is nothing to run. -/
inductive Ending where
  | help
  | version
  | misuse
deriving DecidableEq, Repr

def Ending.exitCode : Ending → Nat
  | help => 0
  | version => 0
  | misuse => 2

inductive Word where
  | plain (text : String)
  /-- From here on all words are plain. -/
  | separator
  | long (name : String) (value? : Option String)
  | letters (first : Char) (rest : List Char)
deriving DecidableEq, Repr

def Word.ofLong (text : List Char) : Word :=
  match Text.cutAt? '=' text with
  | some (name, value) => .long (String.ofList name) (some (String.ofList value))
  | none => .long (String.ofList text) none

def Word.of (text : String) : Word :=
  match text.toList with
  | ['-', '-'] => .separator
  | '-' :: '-' :: rest => .ofLong rest
  | '-' :: first :: rest => .letters first rest
  | _ => .plain text

/-- What a parameter does to settings of type `S`. -/
inductive Effect (S : Type) where
  | switch (change : S → S)
  /-- A value that is refused has no settings. -/
  | value (change : String → S → Option S)
  | stop (ending : Ending)

structure Parameter (S : Type) where
  name : String
  letter? : Option Char := none
  repeatable : Bool := false
  effect : Effect S

structure Grammar (S : Type) where
  parameters : List (Parameter S)
  /-- The name of the one plain word, and what it does. -/
  place? : Option (String × (String → S → Option S)) := none

structure Reading (S : Type) where
  settings : S
  /-- The names of what was given so far, the last one in front. -/
  given : List String := []
  /-- The parameter that takes the next word. -/
  awaiting? : Option (Parameter S) := none
  /-- Whether all further words are plain. -/
  separated : Bool := false

namespace Grammar

variable {S : Type}

def withName? (grammar : Grammar S) (name : String) : Option (Parameter S) :=
  grammar.parameters.find? (·.name == name)

def withLetter? (grammar : Grammar S) (letter : Char) : Option (Parameter S) :=
  grammar.parameters.find? (·.letter? == some letter)

/-- Takes note of a name that can be given once, or again and again, along with its settings. -/
def give (reading : Reading S) (name : String) (repeatable : Bool) (settings? : Option S) :
    Except Ending (Reading S) :=
  match settings? with
  | some settings =>
      if !repeatable && reading.given.contains name then .error .misuse
      else .ok { reading with settings, given := name :: reading.given, awaiting? := none }
  | none => .error .misuse

def giveValue (reading : Reading S) (parameter : Parameter S) (value : String) :
    Except Ending (Reading S) :=
  match parameter.effect with
  | .value change =>
      give reading parameter.name parameter.repeatable (change value reading.settings)
  | _ => .error .misuse

/-- A parameter without a value of its own. -/
def giveBare (reading : Reading S) (parameter : Parameter S) : Except Ending (Reading S) :=
  match parameter.effect with
  | .switch change =>
      give reading parameter.name parameter.repeatable (some (change reading.settings))
  | .value _ => .ok { reading with awaiting? := some parameter }
  | .stop ending => .error ending

def readPlain (grammar : Grammar S) (reading : Reading S) (text : String) :
    Except Ending (Reading S) :=
  match grammar.place? with
  | some (name, change) => give reading name false (change text reading.settings)
  | none => .error .misuse

def readLong (grammar : Grammar S) (reading : Reading S) (name : String)
    (value? : Option String) : Except Ending (Reading S) :=
  match grammar.withName? name, value? with
  | none, _ => .error .misuse
  | some parameter, none => giveBare reading parameter
  | some parameter, some value => giveValue reading parameter value

/-- A cluster of letters. The first one that takes a value takes the rest of the cluster. -/
def readLetters (grammar : Grammar S) : List Char → Reading S → Except Ending (Reading S)
  | [], reading => .ok reading
  | letter :: rest, reading =>
      match grammar.withLetter? letter with
      | none => .error .misuse
      | some parameter =>
          match parameter.effect, rest with
          | .value _, '=' :: value => giveValue reading parameter (String.ofList value)
          | .value _, next :: value => giveValue reading parameter (String.ofList (next :: value))
          | _, _ => giveBare reading parameter >>= readLetters grammar rest

def readWord (grammar : Grammar S) (reading : Reading S) (text : String) :
    Except Ending (Reading S) :=
  if reading.separated then
    readPlain grammar reading text
  else
    match reading.awaiting?, Word.of text with
    | some parameter, .plain value => giveValue reading parameter value
    | some _, _ => .error .misuse
    | none, .plain _ => readPlain grammar reading text
    | none, .separator => .ok { reading with separated := true }
    | none, .long name value? => readLong grammar reading name value?
    | none, .letters first rest => readLetters grammar (first :: rest) reading

def finish (reading : Reading S) : Except Ending (Reading S) :=
  if reading.awaiting?.isSome then .error .misuse else .ok reading

/-- Reads all words, starting from settings. -/
def read (grammar : Grammar S) (settings : S) (words : List String) :
    Except Ending (Reading S) :=
  words.foldlM (readWord grammar) { settings } >>= finish

/-- Reads up to the first plain word, which is given back along with the words after it. -/
def readUntilPlain (grammar : Grammar S) :
    List String → Reading S → Except Ending (Reading S × String × List String)
  | [], _ => .error .misuse
  | text :: rest, reading =>
      match reading.awaiting?, reading.separated, Word.of text with
      | none, false, .plain _ => .ok (reading, text, rest)
      | _, _, _ => readWord grammar reading text >>= readUntilPlain grammar rest

end Grammar

/-- Decimal digits after at most one sign. Only zero can follow a minus sign. -/
def wordValue? (text : String) : Option UInt32 :=
  match text.toList with
  | '-' :: digits => if Text.natural? 10 digits = some 0 then some 0 else none
  | digits => Text.word? 10 digits

/-- A number below `2 ^ 64`. -/
def sizeValue? (text : String) : Option Nat :=
  (Text.unsigned? 10 text.toList).filter (· < UInt64.size)

/-- A path is not empty. -/
def pathValue? (text : String) : Option String :=
  if text.isEmpty then none else some text

/-- Values with commas between them. -/
def listValue? (text : String) : Option (List UInt32) :=
  (text.splitOn ",").mapM wordValue?

end IspDriver.CommandLine
