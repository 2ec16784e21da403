import Mathlib.Data.Nat.Digits.Defs
import IspDriver.Firmware.Image
import IspDriver.Proofs.Bytes

/-!
What a firmware file holds. A file is read if and only if the lengths in its header fit it; then the
segments lie where the header says and have the lengths that it gives, whatever follows the payload.
Reading finds the segments, the checksum and the byte sum of which a file was made.
-/

namespace IspDriver

namespace Bytes

theorem positional_reverse (bytes : List UInt8) :
    positional bytes.reverse = Nat.ofDigits 256 (bytes.map UInt8.toNat) := by
  induction bytes with
  | nil => rfl
  | cons byte rest ih =>
      have last : positional [byte] = byte.toNat := by
        rw [positional_cons]
        simp [positional]
      rw [List.reverse_cons, positional_append, ih, last, List.map_cons, Nat.ofDigits_cons,
        List.length_singleton, Nat.pow_one, Nat.mul_comm, Nat.add_comm]

theorem toNat_littleEndian {bytes : List UInt8} (short : bytes.length ≤ 4) :
    (littleEndian bytes).toNat = Nat.ofDigits 256 (bytes.map UInt8.toNat) := by
  have bound := positional_lt bytes.reverse
  have room : 256 ^ bytes.reverse.length ≤ 256 ^ 4 := by
    rw [List.length_reverse]
    exact Nat.pow_le_pow_right (by decide) short
  rw [littleEndian, bigEndian_eq, Nat.toUInt32_eq, UInt32.toNat_ofNat', Nat.mod_eq_of_lt (by omega),
    positional_reverse]

@[simp] theorem littleEndian_ofUInt32LittleEndian (value : UInt32) :
    littleEndian (ofUInt32LittleEndian value) = value := by
  rw [littleEndian, ofUInt32LittleEndian, List.reverse_reverse, bigEndian_ofUInt32]

@[simp] theorem length_ofUInt32LittleEndian (value : UInt32) :
    (ofUInt32LittleEndian value).length = 4 :=
  rfl

theorem toNat_sum (bytes : List UInt8) :
    (sum bytes).toNat = (bytes.map UInt8.toNat).sum % 2 ^ 32 := by
  have started : ∀ total : UInt32,
      (bytes.foldl (fun total byte => total + byte.toUInt32) total).toNat =
        (total.toNat + (bytes.map UInt8.toNat).sum) % 2 ^ 32 := by
    induction bytes with
    | nil =>
        intro total
        have small := total.toNat_lt
        simp only [List.foldl_nil, List.map_nil, List.sum_nil, Nat.add_zero]
        omega
    | cons byte rest ih =>
        intro total
        rw [List.foldl_cons, ih, UInt32.toNat_add, UInt8.toNat_toUInt32, List.map_cons, List.sum_cons]
        omega
  have whole := started 0
  rwa [UInt32.toNat_zero, Nat.zero_add] at whole

end Bytes

namespace FirmwareHeader

variable {data : List UInt8}

/-- The number in four bytes of a file, the low one first. -/
def number (data : List UInt8) (position : Nat) : Nat :=
  Nat.ofDigits 256 (((data.drop position).take 4).map UInt8.toNat)

/-- The lengths that a file declares fit what it holds: the clock segment lies in the payload, and the
payload in what follows the header. -/
def Fits (data : List UInt8) : Prop :=
  size ≤ data.length ∧ number data 8 ≤ number data 12 ∧ number data 12 ≤ data.length - size

theorem toNat_field (data : List UInt8) (position : Nat) :
    (field data position).toNat = number data position :=
  Bytes.toNat_littleEndian (List.length_take_le ..)

theorem field_append {position : Nat} (within : position + 4 ≤ data.length) (more : List UInt8) :
    field (data ++ more) position = field data position := by
  have room : 4 ≤ (data.drop position).length := by
    rw [List.length_drop]
    omega
  unfold field
  rw [List.drop_append_of_le_length (by omega), List.take_append_of_le_length room]

theorem field_word (front : List UInt8) (value : UInt32) (back : List UInt8) :
    field (front ++ (Bytes.ofUInt32LittleEndian value ++ back)) front.length = value := by
  have four := Bytes.length_ofUInt32LittleEndian value
  unfold field
  rw [List.drop_left, ← four, List.take_left, Bytes.littleEndian_ofUInt32LittleEndian]

/-- A header as a file holds it. -/
def bytes (header : FirmwareHeader) : List UInt8 :=
  Bytes.ofUInt32LittleEndian header.crc ++
    (Bytes.ofUInt32LittleEndian header.checksum ++
      (Bytes.ofUInt32LittleEndian header.clockSize ++
        Bytes.ofUInt32LittleEndian header.totalSize))

theorem length_bytes (header : FirmwareHeader) : header.bytes.length = size :=
  rfl

theorem fields_bytes (header : FirmwareHeader) (rest : List UInt8) :
    (⟨field (header.bytes ++ rest) 0, field (header.bytes ++ rest) 4, field (header.bytes ++ rest) 8,
      field (header.bytes ++ rest) 12⟩ : FirmwareHeader) = header := by
  obtain ⟨crc, checksum, clockSize, totalSize⟩ := header
  simp only [bytes, List.append_assoc, FirmwareHeader.mk.injEq]
  refine ⟨field_word [] crc _, field_word (Bytes.ofUInt32LittleEndian crc) checksum _, ?_, ?_⟩
  · rw [← List.append_assoc]
    exact field_word (Bytes.ofUInt32LittleEndian crc ++ Bytes.ofUInt32LittleEndian checksum) clockSize _
  · rw [← List.append_assoc, ← List.append_assoc]
    exact field_word (Bytes.ofUInt32LittleEndian crc ++ Bytes.ofUInt32LittleEndian checksum ++
      Bytes.ofUInt32LittleEndian clockSize) totalSize _

end FirmwareHeader

namespace FirmwareImage

open FirmwareHeader

variable {data : List UInt8} {image : FirmwareImage}

theorem parse_of_fits (fits : Fits data) :
    ∃ image, parse data = .ok image ∧
      image.header = ⟨field data 0, field data 4, field data 8, field data 12⟩ ∧
      image.body = data.drop size := by
  obtain ⟨long, ordered, enough⟩ := fits
  have ordered : field data 8 ≤ field data 12 := by
    rw [UInt32.le_iff_toNat_le, toNat_field, toNat_field]
    exact ordered
  have enough : (field data 12).toNat ≤ (data.drop size).length := by
    rw [toNat_field, List.length_drop]
    exact enough
  refine ⟨⟨⟨field data 0, field data 4, field data 8, field data 12⟩, data.drop size, ordered, enough⟩,
    ?_, rfl, rfl⟩
  unfold parse FirmwareHeader.parse
  simp only [if_neg (Nat.not_lt.mpr long), dif_pos ordered, dif_pos enough]

theorem parse_of_not_fits (unfit : ¬ Fits data) :
    ∃ damage, parse data = .error (.corrupt damage) := by
  unfold parse FirmwareHeader.parse
  by_cases short : data.length < size
  · exact ⟨.shorterThanHeader data.length size, by simp only [if_pos short]⟩
  · simp only [if_neg short]
    split
    · next ordered =>
        split
        · next enough =>
            rw [UInt32.le_iff_toNat_le, toNat_field, toNat_field] at ordered
            rw [toNat_field, List.length_drop] at enough
            exact absurd ⟨Nat.not_lt.mp short, ordered, enough⟩ unfit
        · exact ⟨_, rfl⟩
    · exact ⟨_, rfl⟩

theorem parse_ok_iff : (∃ image, parse data = .ok image) ↔ Fits data := by
  constructor
  · intro read
    obtain ⟨image, parsed⟩ := read
    by_contra unfit
    obtain ⟨damage, failed⟩ := parse_of_not_fits unfit
    cases parsed.symm.trans failed
  · intro fits
    obtain ⟨image, parsed, -⟩ := parse_of_fits fits
    exact ⟨image, parsed⟩

/-- What is read is what the file holds. -/
theorem parts_of_parse (parsed : parse data = .ok image) :
    Fits data ∧ image.header = ⟨field data 0, field data 4, field data 8, field data 12⟩ ∧
      image.body = data.drop size := by
  have fits := parse_ok_iff.mp ⟨image, parsed⟩
  obtain ⟨found, same, parts⟩ := parse_of_fits fits
  cases parsed.symm.trans same
  exact ⟨fits, parts⟩

theorem payload_eq_append (image : FirmwareImage) :
    image.clockSegment ++ image.mainSegment = image.payload :=
  List.take_append_drop ..

theorem length_payload (image : FirmwareImage) :
    image.payload.length = image.header.totalSize.toNat := by
  rw [payload, List.length_take, Nat.min_eq_left image.totalSize_le]

theorem length_clockSegment (image : FirmwareImage) :
    image.clockSegment.length = image.header.clockSize.toNat := by
  have within := UInt32.le_iff_toNat_le.mp image.clockSize_le
  rw [clockSegment, List.length_take, length_payload, Nat.min_eq_left within]

theorem length_mainSegment (image : FirmwareImage) :
    image.mainSegment.length = image.header.totalSize.toNat - image.header.clockSize.toNat := by
  rw [mainSegment, List.length_drop, length_payload]

/-- Images with the same header have the same segments, if one body goes on where the other ends. -/
theorem payload_of_longer {longer : FirmwareImage} {more : List UInt8}
    (header : longer.header = image.header) (body : longer.body = image.body ++ more) :
    longer.payload = image.payload := by
  rw [payload, header, body, List.take_append_of_le_length image.totalSize_le]
  rfl

theorem parse_append (parsed : parse data = .ok image) (more : List UInt8) :
    ∃ longer, parse (data ++ more) = .ok longer ∧ longer.header = image.header ∧
      longer.payload = image.payload := by
  obtain ⟨⟨long, ordered, enough⟩, header, body⟩ := parts_of_parse parsed
  have kept : ∀ position, position ≤ 12 → field (data ++ more) position = field data position :=
    fun position early => field_append (Nat.le_trans (Nat.add_le_add_right early 4) long) more
  have numbers : ∀ position, position ≤ 12 → number (data ++ more) position = number data position := by
    intro position early
    rw [← toNat_field, kept position early, toNat_field]
  have fits : Fits (data ++ more) := by
    refine ⟨?_, ?_, ?_⟩
    · rw [List.length_append]
      omega
    · rw [numbers 8 (by decide), numbers 12 (by decide)]
      exact ordered
    · rw [numbers 12 (by decide), List.length_append]
      omega
  obtain ⟨longer, read, same, rest⟩ := parse_of_fits fits
  rw [kept 0 (by decide), kept 4 (by decide), kept 8 (by decide), kept 12 (by decide), ← header]
    at same
  rw [List.drop_append_of_le_length long, ← body] at rest
  exact ⟨longer, read, same, payload_of_longer same rest⟩

section Encode

variable (clock main : List UInt8)

/-- The header of a file that was made. -/
def madeHeader : FirmwareHeader where
  crc := (Crc.absorbAll Crc.seed (clock ++ main)).toUInt32
  checksum := Bytes.sum (clock ++ main)
  clockSize := clock.length.toUInt32
  totalSize := (clock ++ main).length.toUInt32

theorem encode_eq : encode clock main = (madeHeader clock main).bytes ++ (clock ++ main) := by
  simp only [encode, madeHeader, FirmwareHeader.bytes, List.append_assoc]

variable {clock main}

theorem toNat_totalSize (small : (clock ++ main).length < 2 ^ 32) :
    (madeHeader clock main).totalSize.toNat = (clock ++ main).length := by
  rw [madeHeader, Nat.toUInt32_eq, UInt32.toNat_ofNat', Nat.mod_eq_of_lt small]

theorem toNat_clockSize (small : (clock ++ main).length < 2 ^ 32) :
    (madeHeader clock main).clockSize.toNat = clock.length := by
  rw [List.length_append] at small
  rw [madeHeader, Nat.toUInt32_eq, UInt32.toNat_ofNat', Nat.mod_eq_of_lt (by omega)]

theorem expectedCrc_of_made {image : FirmwareImage} (made : image.header = madeHeader clock main) :
    image.expectedCrc = (Crc.absorbAll Crc.seed (clock ++ main)).toUInt32 := by
  rw [expectedCrc, made, Bytes.and_mask_eq_narrow, madeHeader, UInt16.toUInt16_toUInt32]

/-- The header that was made for two segments fits whatever is as long as they are together. -/
theorem parse_made (small : (clock ++ main).length < 2 ^ 32) {body : List UInt8}
    (long : (clock ++ main).length ≤ body.length) :
    ∃ image, parse ((madeHeader clock main).bytes ++ body) = .ok image ∧
      image.header = madeHeader clock main ∧ image.body = body := by
  have fields := fields_bytes (madeHeader clock main) body
  have total := toNat_totalSize small
  have part := toNat_clockSize small
  have length := @List.length_append _ (madeHeader clock main).bytes body
  rw [length_bytes] at length
  have fits : Fits ((madeHeader clock main).bytes ++ body) := by
    rw [← fields] at total part
    refine ⟨?_, ?_, ?_⟩
    · omega
    · rw [← toNat_field, ← toNat_field, total, part, List.length_append]
      omega
    · rw [← toNat_field, total]
      omega
  obtain ⟨image, parsed, header, rest⟩ := parse_of_fits fits
  exact ⟨image, parsed, header.trans fields, rest.trans (List.drop_left' (length_bytes _))⟩

/-- What was made is what is read, whatever follows it. -/
theorem parse_encode (small : (clock ++ main).length < 2 ^ 32) (more : List UInt8) :
    ∃ image, parse (encode clock main ++ more) = .ok image ∧
      image.header = madeHeader clock main ∧ image.clockSegment = clock ∧ image.mainSegment = main := by
  have long : (clock ++ main).length ≤ (clock ++ main ++ more).length := by
    rw [@List.length_append _ (clock ++ main)]
    exact Nat.le_add_right ..
  obtain ⟨image, parsed, header, body⟩ := parse_made small long
  have payload : image.payload = clock ++ main := by
    rw [FirmwareImage.payload, header, toNat_totalSize small, body, List.take_left]
  rw [encode_eq, List.append_assoc]
  refine ⟨image, parsed, header, ?_, ?_⟩
  · rw [clockSegment, payload, header, toNat_clockSize small, List.take_left]
  · rw [mainSegment, payload, header, toNat_clockSize small, List.drop_left]

end Encode

/-- A file is read if and only if its lengths fit it, and is corrupt otherwise; what is read lies in
the file where the header says, whatever more there is. A file that was made of two segments, none
too long to be counted, is read as these, with their checksum and byte sum. -/
theorem image_format :
    (∀ data : List UInt8,
      ((∃ image, parse data = .ok image) ↔ Fits data) ∧
        ((∃ damage, parse data = .error (.corrupt damage)) ↔ ¬ Fits data) ∧
        ∀ image, parse data = .ok image →
          image.payload = (data.drop 16).take (number data 12) ∧
            image.clockSegment ++ image.mainSegment = image.payload ∧
            image.payload.length = number data 12 ∧
            image.clockSegment.length = number data 8 ∧
            image.mainSegment.length = number data 12 - number data 8 ∧
            ∀ more, ∃ longer, parse (data ++ more) = .ok longer ∧
              longer.payload = image.payload ∧ longer.clockSegment = image.clockSegment ∧
              longer.mainSegment = image.mainSegment) ∧
      ∀ clock main trailing : List UInt8, (clock ++ main).length < 2 ^ 32 →
        ∃ image, parse (encode clock main ++ trailing) = .ok image ∧
          image.clockSegment = clock ∧ image.mainSegment = main ∧
          image.expectedCrc = (Crc.absorbAll 0xffff (clock ++ main)).toUInt32 ∧
          image.header.checksum.toNat = ((clock ++ main).map UInt8.toNat).sum % 2 ^ 32 := by
  refine ⟨fun data => ⟨parse_ok_iff, ⟨?_, parse_of_not_fits⟩, ?_⟩, ?_⟩
  · intro corrupt fits
    obtain ⟨damage, failed⟩ := corrupt
    obtain ⟨image, parsed⟩ := parse_ok_iff.mpr fits
    cases parsed.symm.trans failed
  · intro image parsed
    obtain ⟨-, header, body⟩ := parts_of_parse parsed
    have total : image.header.totalSize.toNat = number data 12 := by rw [header, toNat_field]
    have part : image.header.clockSize.toNat = number data 8 := by rw [header, toNat_field]
    refine ⟨?_, payload_eq_append image, ?_, ?_, ?_, fun more => ?_⟩
    · rw [payload, total, body]
      rfl
    · rw [length_payload, total]
    · rw [length_clockSegment, part]
    · rw [length_mainSegment, total, part]
    · obtain ⟨longer, read, same, payload⟩ := parse_append parsed more
      refine ⟨longer, read, payload, ?_, ?_⟩
      · rw [clockSegment, clockSegment, payload, same]
      · rw [mainSegment, mainSegment, payload, same]
  · intro clock main trailing small
    obtain ⟨image, parsed, header, first, second⟩ := parse_encode small trailing
    refine ⟨image, parsed, first, second, expectedCrc_of_made header, ?_⟩
    rw [header]
    exact Bytes.toNat_sum _

/-- Two segments of one byte and two, and a byte that follows them. -/
theorem three_bytes_and_one :
    ∃ image, parse (encode [0x0a] [0x0b, 0xff] ++ [0x0d]) = .ok image ∧
      image.clockSegment = [0x0a] ∧ image.mainSegment = [0x0b, 0xff] ∧
      image.header.checksum.toNat = 0x114 := by
  have small : ([0x0a] ++ [0x0b, 0xff] : List UInt8).length < 2 ^ 32 := by decide
  obtain ⟨image, parsed, first, second, -, total⟩ :=
    image_format.2 [0x0a] [0x0b, 0xff] [0x0d] small
  exact ⟨image, parsed, first, second, total⟩

end FirmwareImage

end IspDriver
