import IspDriver.Text.Utf8

/-!
Text that goes through UTF-8 bytes comes back as it was. Encodings follow each other without marks
between them, so what is proved of one encoding is proved with any bytes after it.
-/

namespace IspDriver.Text

variable {c : Char} {rest : List UInt8} {text : List Char}

theorem leadingChar?_append (c : Char) (rest : List UInt8) :
    leadingChar? (String.utf8EncodeChar c ++ rest) = some c := by
  have whole : (String.utf8EncodeChar c).take 4 = String.utf8EncodeChar c := by
    refine List.take_of_length_le ?_
    rw [String.length_utf8EncodeChar]
    exact c.utf8Size_le_four
  rw [leadingChar?, List.take_append, whole, List.toByteArray_append,
    ByteArray.utf8DecodeChar?_utf8EncodeChar_append]

theorem decodeLenient_append (c : Char) (rest : List UInt8) :
    decodeLenient (String.utf8EncodeChar c ++ rest) = c :: decodeLenient rest := by
  have length := String.length_utf8EncodeChar c
  have leading := leadingChar?_append c rest
  have positive := c.utf8Size_pos
  cases bytes : String.utf8EncodeChar c with
  | nil =>
      rw [bytes, List.length_nil] at length
      omega
  | cons first others =>
      rw [bytes, List.length_cons] at length
      rw [bytes, List.cons_append] at leading
      rw [List.cons_append, decodeLenient, leading]
      have rest : (others ++ rest).drop (c.utf8Size - 1) = rest := List.drop_left' (by omega)
      simp only [rest]

/-- A text that was encoded is decoded as it was. -/
theorem decodeLenient_encodeUtf8 (text : List Char) : decodeLenient (encodeUtf8 text) = text := by
  induction text with
  | nil => rw [encodeUtf8, List.flatMap_nil, decodeLenient]
  | cons c rest ih =>
      rw [encodeUtf8, List.flatMap_cons, decodeLenient_append]
      exact congrArg (c :: ·) ih

theorem length_encodeUtf8 (text : String) :
    (encodeUtf8 text.toList).length = text.utf8ByteSize := by
  have bytes : text.toByteArray = text.toList.utf8Encode := by
    rw [← String.toByteArray_ofList, String.ofList_toList]
  rw [← String.size_toByteArray, bytes, List.utf8Encode, List.size_toByteArray, encodeUtf8]

theorem zero_eq_ofNat_iff {number : Nat} (small : number < 256) :
    0 = UInt8.ofNat number ↔ number = 0 := by
  rw [← UInt8.toNat_inj, UInt8.toNat_ofNat', Nat.mod_eq_of_lt small, eq_comm]
  rfl

theorem zero_mem_utf8EncodeChar : 0 ∈ String.utf8EncodeChar c ↔ c = '\x00' := by
  have zero : c = '\x00' ↔ c.val.toNat = 0 := by
    rw [← Char.toNat_inj]
    rfl
  rw [zero]
  unfold String.utf8EncodeChar
  dsimp only
  split
  · next short => rw [List.mem_singleton, zero_eq_ofNat_iff (by omega)]
  -- every byte of a longer encoding has its highest bit set
  all_goals
    repeat' split
    all_goals
      simp (disch := omega) only [List.mem_cons, List.not_mem_nil, or_false, zero_eq_ofNat_iff]
      omega

/-- No byte of an encoding is zero but the one that encodes the zero character. -/
theorem zero_mem_encodeUtf8 : 0 ∈ encodeUtf8 text ↔ '\x00' ∈ text := by
  simp [encodeUtf8, zero_mem_utf8EncodeChar]

end IspDriver.Text
