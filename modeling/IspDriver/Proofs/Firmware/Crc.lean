import Mathlib.Data.Nat.Bitwise
import IspDriver.Firmware.Crc

/-!
The checksum as a shift register. A shift is linear and loses nothing, so the register after some
bytes tells the register before them. Two bytes in a row are one word that is added to the register
before sixteen shifts, so different pairs of bytes leave different registers.
-/

namespace IspDriver.Crc

/-- What the bit that moves out at the top adds to the register. -/
def feedback (out : Bool) : UInt16 :=
  if out then 0x1021 else 0

theorem feedback_xor (first second : Bool) :
    feedback (first ^^ second) = feedback first ^^^ feedback second := by
  cases first <;> cases second <;> rfl

theorem shift_eq (crc : UInt16) : shift crc = (crc <<< 1) ^^^ feedback (crc.toNat.testBit 15) := by
  have masked : (crc &&& 0x8000).toNat = (crc.toNat.testBit 15).toNat * 2 ^ 15 :=
    Nat.and_two_pow crc.toNat 15
  unfold shift
  cases out : crc.toNat.testBit 15 with
  | false =>
      have clear : crc &&& 0x8000 = 0 := UInt16.toNat_inj.mp (by rw [masked, out]; rfl)
      rw [if_pos clear]
      exact UInt16.xor_zero.symm
  | true =>
      have set : crc &&& 0x8000 = 0x8000 := UInt16.toNat_inj.mp (by rw [masked, out]; rfl)
      rw [set]
      rfl

theorem shift_xor (crc other : UInt16) : shift (crc ^^^ other) = shift crc ^^^ shift other := by
  have out : (crc ^^^ other).toNat.testBit 15 = (crc.toNat.testBit 15 ^^ other.toNat.testBit 15) := by
    rw [UInt16.toNat_xor, Nat.testBit_xor]
  rw [shift_eq, shift_eq, shift_eq, out, feedback_xor, UInt16.shiftLeft_xor]
  ac_rfl

theorem toNat_double (crc : UInt16) : (crc <<< 1).toNat = crc.toNat * 2 % 65536 := by
  rw [UInt16.toNat_shiftLeft, Nat.shiftLeft_eq]
  rfl

/-- A register that is empty after a shift was empty before: the word that feeds back is odd, and
what moved up is even. -/
theorem eq_zero_of_shift {crc : UInt16} (empty : shift crc = 0) : crc = 0 := by
  have small := crc.toNat_lt
  have moved := toNat_double crc
  have bit : crc.toNat.testBit 15 = decide (crc.toNat / 2 ^ 15 % 2 = 1) :=
    Nat.testBit_eq_decide_div_mod_eq
  rw [shift_eq, UInt16.xor_eq_zero_iff] at empty
  rw [empty] at moved
  apply UInt16.toNat_inj.mp
  rw [UInt16.toNat_zero]
  cases out : crc.toNat.testBit 15 with
  | false =>
      have nothing : (feedback false).toNat = 0 := rfl
      rw [out, eq_comm, decide_eq_false_iff_not] at bit
      rw [out] at moved
      omega
  | true =>
      have odd : (feedback true).toNat = 0x1021 := rfl
      rw [out] at moved
      omega

theorem shift_injective {crc other : UInt16} (same : shift crc = shift other) : crc = other := by
  have empty : shift (crc ^^^ other) = 0 := by
    rw [shift_xor, same, UInt16.xor_self]
  exact UInt16.xor_eq_zero_iff.mp (eq_zero_of_shift empty)

theorem shiftBy_xor (count : Nat) (crc other : UInt16) :
    shiftBy count (crc ^^^ other) = shiftBy count crc ^^^ shiftBy count other := by
  induction count generalizing crc other with
  | zero => rfl
  | succ count ih => rw [shiftBy, shift_xor, ih, shiftBy, shiftBy]

theorem shiftBy_add (count more : Nat) (crc : UInt16) :
    shiftBy (count + more) crc = shiftBy more (shiftBy count crc) := by
  induction count generalizing crc with
  | zero => rw [Nat.zero_add, shiftBy]
  | succ count ih => rw [Nat.succ_add, shiftBy, ih, shiftBy]

theorem shiftBy_injective {count : Nat} {crc other : UInt16}
    (same : shiftBy count crc = shiftBy count other) : crc = other := by
  induction count generalizing crc other with
  | zero => exact same
  | succ count ih => exact shift_injective (ih same)

/-- As long as nothing but zeros moves out, shifts are doublings. -/
theorem toNat_shiftBy {count : Nat} {crc : UInt16} (room : crc.toNat * 2 ^ count < 65536) :
    (shiftBy count crc).toNat = crc.toNat * 2 ^ count := by
  induction count generalizing crc with
  | zero => rw [shiftBy, Nat.pow_zero, Nat.mul_one]
  | succ count ih =>
      have power : 2 ^ (count + 1) = 2 * 2 ^ count := Nat.pow_succ'
      have some : 1 ≤ 2 ^ count := Nat.one_le_two_pow
      rw [power, ← Nat.mul_assoc] at room ⊢
      have low : crc.toNat * 2 ≤ crc.toNat * 2 * 2 ^ count := Nat.le_mul_of_pos_right _ some
      have clear : crc.toNat.testBit 15 = false := Nat.testBit_lt_two_pow (by omega)
      have shifted : (shift crc).toNat = crc.toNat * 2 := by
        rw [shift_eq, clear, feedback, if_neg Bool.false_ne_true, UInt16.xor_zero, toNat_double]
        exact Nat.mod_eq_of_lt (by omega)
      rw [shiftBy, ih (by rwa [shifted]), shifted]

theorem toNat_highByte (byte : UInt8) : (byte.toUInt16 <<< 8).toNat = byte.toNat * 256 := by
  have small := byte.toNat_lt
  have room : byte.toNat * 256 < 65536 := by omega
  rw [UInt16.toNat_shiftLeft, UInt8.toNat_toUInt16, Nat.shiftLeft_eq]
  exact Nat.mod_eq_of_lt room

/-- A byte moves up into the place where the next one is added. -/
theorem shiftBy_byte (byte : UInt8) : shiftBy 8 byte.toUInt16 = byte.toUInt16 <<< 8 := by
  have small := byte.toNat_lt
  apply UInt16.toNat_inj.mp
  have room : byte.toUInt16.toNat * 2 ^ 8 < 65536 := by
    rw [UInt8.toNat_toUInt16]
    omega
  rw [toNat_highByte, toNat_shiftBy room, UInt8.toNat_toUInt16]
  rfl

theorem absorb_absorb (crc : UInt16) (first second : UInt8) :
    absorb (absorb crc first) second =
      shiftBy 16 (crc ^^^ ((first.toUInt16 <<< 8) ^^^ second.toUInt16)) := by
  rw [absorb, absorb, ← shiftBy_byte second, ← shiftBy_xor, ← shiftBy_add, UInt16.xor_assoc]

theorem word_injective {first second third fourth : UInt8}
    (same : (first.toUInt16 <<< 8) ^^^ second.toUInt16 = (third.toUInt16 <<< 8) ^^^ fourth.toUInt16) :
    (first, second) = (third, fourth) := by
  have low (high low : UInt8) : ((high.toUInt16 <<< 8) ^^^ low.toUInt16).toUInt8 = low := by
    have clear : (high.toUInt16 <<< 8).toUInt8 = 0 := by
      apply UInt8.toNat_inj.mp
      rw [UInt16.toNat_toUInt8, toNat_highByte]
      exact Nat.mul_mod_left ..
    rw [UInt16.toUInt8_xor, clear, UInt8.zero_xor]
    exact UInt8.toUInt8_toUInt16 low
  have lows : second = fourth := by
    rw [← low first second, same, low]
  subst lows
  have highs : first.toUInt16 <<< 8 = third.toUInt16 <<< 8 := (UInt16.xor_left_inj _).mp same
  have numbers : first.toNat * 256 = third.toNat * 256 := by
    rw [← toNat_highByte, highs, toNat_highByte]
  exact congrArg (·, second) (UInt8.toNat_inj.mp (by omega))

theorem absorb_pair_injective {crc : UInt16} {first second third fourth : UInt8}
    (same : absorb (absorb crc first) second = absorb (absorb crc third) fourth) :
    (first, second) = (third, fourth) := by
  rw [absorb_absorb, absorb_absorb] at same
  exact word_injective ((UInt16.xor_right_inj _).mp (shiftBy_injective same))

theorem absorb_injective {crc other : UInt16} {byte : UInt8}
    (same : absorb crc byte = absorb other byte) : crc = other :=
  (UInt16.xor_left_inj _).mp (shiftBy_injective same)

/-- Different registers stay different, whatever comes after. -/
theorem absorbAll_injective {crc other : UInt16} {bytes : List UInt8}
    (same : absorbAll crc bytes = absorbAll other bytes) : crc = other := by
  induction bytes generalizing crc other with
  | nil => exact same
  | cons byte rest ih => exact absorb_injective (ih same)

theorem absorbAll_pair_ne (crc : UInt16) (front back : List UInt8) {first second third fourth : UInt8}
    (differ : (first, second) ≠ (third, fourth)) :
    absorbAll crc (front ++ [first, second] ++ back) ≠
      absorbAll crc (front ++ [third, fourth] ++ back) := by
  intro same
  rw [absorbAll_append, absorbAll_append, absorbAll_append crc (front ++ [third, fourth]),
    absorbAll_append crc front [third, fourth]] at same
  exact differ (absorb_pair_injective (absorbAll_injective same))

end IspDriver.Crc
