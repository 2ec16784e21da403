/-!
Text as UTF-8 bytes. Bytes that are no encoding are read in two ways: strictly, where they refuse
the whole text, and leniently, where each longest start of an encoding that leads nowhere becomes
one replacement character.
-/

namespace IspDriver.Text

def encodeUtf8 (text : List Char) : List UInt8 :=
  text.flatMap String.utf8EncodeChar

/-- The character whose encoding starts the bytes. -/
def leadingChar? (bytes : List UInt8) : Option Char :=
  (bytes.take 4).toByteArray.utf8DecodeChar? 0

private def continues (byte : UInt8) : Bool :=
  0x80 ≤ byte && byte ≤ 0xbf

/-- Whether `second` can follow `first` in an encoding of three or four bytes. -/
private def mayFollow (first second : UInt8) : Bool :=
  continues second &&
    (if first == 0xe0 then 0xa0 ≤ second
     else if first == 0xed then second ≤ 0x9f
     else if first == 0xf0 then 0x90 ≤ second
     else if first == 0xf4 then second ≤ 0x8f
     else 0xe1 ≤ first && first ≤ 0xf3)

/-- How many bytes after an undecodable first one belong to the same broken encoding. -/
def brokenTail (first : UInt8) : List UInt8 → Nat
  | [] => 0
  | second :: rest =>
      if mayFollow first second then
        if first < 0xf0 then 1
        else match rest with
          | [] => 1
          | third :: _ => if continues third then 2 else 1
      else 0

/-- The text of the bytes, with U+FFFD in place of every broken encoding. -/
def decodeLenient : List UInt8 → List Char
  | [] => []
  | first :: rest =>
      match leadingChar? (first :: rest) with
      | some c => c :: decodeLenient (rest.drop (c.utf8Size - 1))
      | none => '\uFFFD' :: decodeLenient (rest.drop (brokenTail first rest))
termination_by bytes => bytes.length

/-- The text of the bytes when all of them are encodings. -/
def decodeStrict? : List UInt8 → Option (List Char)
  | [] => some []
  | first :: rest => do
      let c ← leadingChar? (first :: rest)
      return c :: (← decodeStrict? (rest.drop (c.utf8Size - 1)))
termination_by bytes => bytes.length

end IspDriver.Text
