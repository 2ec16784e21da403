import Mathlib.Algebra.Ring.Nat
import IspDriver.Bytes

/-! Numbers and their bytes, seen as numbers in base 256. -/

namespace IspDriver.Bytes

/-- The number that bytes make as digits of base 256, the highest first. -/
def positional (bytes : List UInt8) : Nat :=
  bytes.foldl (fun high byte => high * 256 + byte.toNat) 0

theorem shift_or_byte (high : UInt32) (byte : UInt8) :
    (high <<< 8) ||| byte.toUInt32 = high * 256 + byte.toUInt32 := by
  apply UInt32.toNat_inj.mp
  have small := byte.toNat_lt
  have shifted : high.toNat <<< 8 % 2 ^ 32 = (high.toNat % 2 ^ 24) <<< 8 := by
    simp only [Nat.shiftLeft_eq]
    omega
  simp only [UInt32.toNat_or, UInt32.toNat_shiftLeft, UInt8.toNat_toUInt32, UInt32.toNat_add,
    UInt32.toNat_mul, UInt32.reduceToNat, Nat.reduceMod, shifted]
  rw [← Nat.shiftLeft_add_eq_or_of_lt small, Nat.shiftLeft_eq]
  omega

private theorem foldl_positional (high : Nat) (bytes : List UInt8) :
    bytes.foldl (fun (word : UInt32) byte => (word <<< 8) ||| byte.toUInt32) high.toUInt32 =
      (bytes.foldl (fun (number : Nat) byte => number * 256 + byte.toNat) high).toUInt32 := by
  induction bytes generalizing high with
  | nil => rfl
  | cons byte rest ih =>
      simp only [List.foldl_cons]
      rw [← ih, shift_or_byte]
      congr 1
      apply UInt32.toNat_inj.mp
      simp

theorem bigEndian_eq (bytes : List UInt8) : bigEndian bytes = (positional bytes).toUInt32 :=
  foldl_positional 0 bytes

private theorem foldl_eq_add (high : Nat) (bytes : List UInt8) :
    bytes.foldl (fun (number : Nat) byte => number * 256 + byte.toNat) high =
      high * 256 ^ bytes.length + positional bytes := by
  induction bytes generalizing high with
  | nil => simp [positional]
  | cons byte rest ih =>
      have start : positional (byte :: rest) =
          byte.toNat * 256 ^ rest.length + positional rest := by
        rw [positional, List.foldl_cons, ih, Nat.zero_mul, Nat.zero_add]
      rw [List.foldl_cons, ih, start, List.length_cons, Nat.pow_succ', Nat.add_mul, Nat.mul_assoc,
        Nat.add_assoc]

theorem positional_cons (byte : UInt8) (rest : List UInt8) :
    positional (byte :: rest) = byte.toNat * 256 ^ rest.length + positional rest := by
  rw [positional, List.foldl_cons, foldl_eq_add, Nat.zero_mul, Nat.zero_add]

theorem positional_lt (bytes : List UInt8) : positional bytes < 256 ^ bytes.length := by
  induction bytes with
  | nil => decide
  | cons byte rest ih =>
      have small := byte.toNat_lt
      calc positional (byte :: rest)
          = byte.toNat * 256 ^ rest.length + positional rest := positional_cons ..
        _ < (byte.toNat + 1) * 256 ^ rest.length := by rw [Nat.add_mul]; omega
        _ ≤ 256 * 256 ^ rest.length := Nat.mul_le_mul_right _ (by omega)
        _ = 256 ^ (byte :: rest).length := Nat.pow_succ'.symm

theorem digit_positional (bytes : List UInt8) (i : Nat) (within : i < bytes.length) :
    (positional bytes / 256 ^ (bytes.length - 1 - i)).toUInt8 = bytes[i] := by
  induction bytes generalizing i with
  | nil => nomatch within
  | cons byte rest ih =>
      have bound := positional_lt rest
      rw [positional_cons]
      cases i with
      | zero =>
          have place : (byte :: rest).length - 1 - 0 = rest.length := rfl
          rw [place, Nat.mul_comm, Nat.mul_add_div (Nat.pow_pos (by decide)),
            Nat.div_eq_of_lt bound]
          exact UInt8.ofNat_toNat
      | succ i =>
          have inner : i < rest.length := Nat.lt_of_succ_lt_succ within
          have place : (byte :: rest).length - 1 - (i + 1) = rest.length - 1 - i := by
            simp only [List.length_cons]
            omega
          have whole : 256 ^ rest.length = 256 ^ (rest.length - 1 - i) * (256 * 256 ^ i) := by
            rw [← Nat.pow_succ', ← Nat.pow_add]
            congr 1
            omega
          rw [place, whole, Nat.mul_left_comm, Nat.mul_add_div (Nat.pow_pos (by decide)),
            List.getElem_cons_succ, ← ih i inner]
          apply UInt8.toNat_inj.mp
          simp only [Nat.toUInt8_eq, UInt8.toNat_ofNat']
          rw [Nat.mul_left_comm]
          omega

theorem narrow_bigEndian {bytes : List UInt8} (two : bytes.length = 2) :
    (bigEndian bytes).toUInt16.toUInt32 = (positional bytes).toUInt32 := by
  have bound := positional_lt bytes
  rw [two] at bound
  rw [bigEndian_eq]
  apply UInt32.toNat_inj.mp
  simp only [UInt16.toNat_toUInt32, UInt32.toNat_toUInt16, Nat.toUInt32_eq, UInt32.toNat_ofNat']
  omega

@[simp] theorem length_ofUInt16 (value : UInt16) : (ofUInt16 value).length = 2 := rfl

@[simp] theorem length_ofUInt32 (value : UInt32) : (ofUInt32 value).length = 4 := rfl

@[simp] theorem positional_ofUInt32 (value : UInt32) :
    positional (ofUInt32 value) = value.toNat := by
  have small := value.toNat_lt
  simp only [positional, ofUInt32, List.foldl_cons, List.foldl_nil, UInt32.toNat_toUInt8,
    UInt32.toNat_shiftRight, UInt32.reduceToNat, Nat.reduceMod, Nat.shiftRight_eq_div_pow]
  omega

@[simp] theorem positional_ofUInt16 (value : UInt16) :
    positional (ofUInt16 value) = value.toNat := by
  have small := value.toNat_lt
  simp only [positional, ofUInt16, List.foldl_cons, List.foldl_nil, UInt16.toNat_toUInt8,
    UInt16.toNat_shiftRight, UInt16.reduceToNat, Nat.reduceMod, Nat.shiftRight_eq_div_pow]
  omega

@[simp] theorem bigEndian_ofUInt32 (value : UInt32) : bigEndian (ofUInt32 value) = value := by
  rw [bigEndian_eq, positional_ofUInt32]
  exact UInt32.ofNat_toNat

@[simp] theorem bigEndian_ofUInt16 (value : UInt16) :
    bigEndian (ofUInt16 value) = value.toUInt32 := by
  rw [bigEndian_eq, positional_ofUInt16]
  apply UInt32.toNat_inj.mp
  simp

theorem getElem_ofUInt32 (value : UInt32) (i : Nat) (within : i < (ofUInt32 value).length) :
    (ofUInt32 value)[i] = (value.toNat / 256 ^ (3 - i)).toUInt8 := by
  have places : i = 0 ∨ i = 1 ∨ i = 2 ∨ i = 3 := by
    simp only [length_ofUInt32] at within
    omega
  apply UInt8.toNat_inj.mp
  rcases places with rfl | rfl | rfl | rfl <;> simp [ofUInt32, Nat.shiftRight_eq_div_pow]

theorem getElem_ofUInt16 (value : UInt16) (i : Nat) (within : i < (ofUInt16 value).length) :
    (ofUInt16 value)[i] = (value.toNat / 256 ^ (1 - i)).toUInt8 := by
  have places : i = 0 ∨ i = 1 := by
    simp only [length_ofUInt16] at within
    omega
  apply UInt8.toNat_inj.mp
  rcases places with rfl | rfl <;> simp [ofUInt16, Nat.shiftRight_eq_div_pow]

theorem ofUInt16_bigEndian {bytes : List UInt8} (two : bytes.length = 2) :
    ofUInt16 (bigEndian bytes).toUInt16 = bytes := by
  have bound := positional_lt bytes
  rw [two] at bound
  have number : (bigEndian bytes).toUInt16.toNat = positional bytes := by
    rw [bigEndian_eq, UInt32.toNat_toUInt16, Nat.toUInt32_eq, UInt32.toNat_ofNat']
    omega
  apply List.ext_getElem
  · rw [length_ofUInt16, two]
  · intro i inside within
    rw [getElem_ofUInt16, number, ← digit_positional bytes i within, two]

theorem ofUInt32_bigEndian {bytes : List UInt8} (four : bytes.length = 4) :
    ofUInt32 (bigEndian bytes) = bytes := by
  have bound := positional_lt bytes
  rw [four] at bound
  have number : (bigEndian bytes).toNat = positional bytes := by
    rw [bigEndian_eq, Nat.toUInt32_eq, UInt32.toNat_ofNat']
    omega
  apply List.ext_getElem
  · rw [length_ofUInt32, four]
  · intro i inside within
    rw [getElem_ofUInt32, number, ← digit_positional bytes i within, four]

theorem toUInt16_and_mask (value : UInt32) : (value &&& 0xffff).toUInt16 = value.toUInt16 := by
  apply UInt16.toNat_inj.mp
  have low : value.toNat &&& 65535 = value.toNat % 65536 := Nat.and_two_pow_sub_one_eq_mod _ 16
  simp only [UInt32.toNat_toUInt16, UInt32.toNat_and, UInt32.reduceToNat, low]
  omega

theorem and_mask_eq_narrow (value : UInt32) : value &&& 0xffff = value.toUInt16.toUInt32 := by
  apply UInt32.toNat_inj.mp
  have low : value.toNat &&& 65535 = value.toNat % 65536 := Nat.and_two_pow_sub_one_eq_mod _ 16
  simp only [UInt16.toNat_toUInt32, UInt32.toNat_toUInt16, UInt32.toNat_and, UInt32.reduceToNat, low]

theorem and_full_mask (value : UInt32) : value &&& 0xffffffff = value := by
  apply UInt32.toNat_inj.mp
  have all : value.toNat &&& 4294967295 = value.toNat % 4294967296 :=
    Nat.and_two_pow_sub_one_eq_mod _ 32
  have bound := value.toNat_lt
  simp only [UInt32.toNat_and, UInt32.reduceToNat, all]
  omega

theorem toNat_or_low {high : UInt32} (clear : high.toNat % 65536 = 0) (low : UInt16) :
    (high ||| low.toUInt32).toNat = high.toNat + low.toNat := by
  have small := low.toNat_lt
  have shifted : high.toNat = (high.toNat / 65536) <<< 16 := by
    rw [Nat.shiftLeft_eq]
    omega
  rw [UInt32.toNat_or, UInt16.toNat_toUInt32, shifted, Nat.shiftLeft_add_eq_or_of_lt small]

theorem toNat_low_shifted (value : UInt32) :
    ((value &&& 0xffff) <<< 16).toNat = value.toNat % 65536 * 65536 := by
  have low : value.toNat &&& 65535 = value.toNat % 65536 := Nat.and_two_pow_sub_one_eq_mod _ 16
  have bound := Nat.mod_lt value.toNat (show 0 < 65536 by decide)
  simp only [UInt32.toNat_shiftLeft, UInt32.toNat_and, UInt32.reduceToNat, low, Nat.reduceMod,
    Nat.shiftLeft_eq]
  omega

theorem positional_append (front back : List UInt8) :
    positional (front ++ back) = positional front * 256 ^ back.length + positional back := by
  induction front with
  | nil => simp [positional]
  | cons byte rest ih =>
      rw [List.cons_append, positional_cons, positional_cons, ih, List.length_append, Nat.pow_add,
        Nat.add_mul, Nat.mul_assoc, Nat.add_assoc]

theorem positional_append_div (front back : List UInt8) :
    positional (front ++ back) / 256 ^ back.length = positional front := by
  rw [positional_append, Nat.mul_comm, Nat.mul_add_div (Nat.pow_pos (by decide)),
    Nat.div_eq_of_lt (positional_lt back), Nat.add_zero]

theorem bigEndian_append_shiftRight {front back : List UInt8} {shift : UInt32}
    (room : (front ++ back).length ≤ 4) (short : back.length < 4)
    (places : shift.toNat = 8 * back.length) :
    bigEndian (front ++ back) >>> shift = bigEndian front := by
  have bound := positional_lt (front ++ back)
  have whole : 256 ^ (front ++ back).length ≤ 256 ^ 4 := Nat.pow_le_pow_right (by decide) room
  have frontBound : positional front ≤ positional (front ++ back) := by
    rw [← positional_append_div front back]
    exact Nat.div_le_self ..
  have power : 2 ^ (8 * back.length) = 256 ^ back.length := Nat.pow_mul 2 8 back.length
  apply UInt32.toNat_inj.mp
  rw [UInt32.toNat_shiftRight, places, Nat.mod_eq_of_lt (by omega), Nat.shiftRight_eq_div_pow, power,
    bigEndian_eq, bigEndian_eq, Nat.toUInt32_eq, Nat.toUInt32_eq, UInt32.toNat_ofNat',
    UInt32.toNat_ofNat', Nat.mod_eq_of_lt (by omega), Nat.mod_eq_of_lt (by omega),
    positional_append_div]

theorem flatten_chunks (size : Nat) (data : List UInt8) :
    (chunks size data).flatten = data := by
  fun_induction chunks size data with
  | case1 => rfl
  | case2 first rest ih => rw [List.flatten_cons, ih, List.cons_append, List.take_append_drop]

theorem length_le_of_mem_chunks {size : Nat} (positive : 0 < size) {data piece : List UInt8}
    (member : piece ∈ chunks size data) : piece.length ≤ size := by
  fun_induction chunks size data with
  | case1 => nomatch member
  | case2 first rest ih =>
      rcases List.mem_cons.mp member with rfl | later
      · simp only [List.length_cons, List.length_take]
        omega
      · exact ih later

theorem ne_nil_of_mem_chunks {size : Nat} {data piece : List UInt8}
    (member : piece ∈ chunks size data) : piece ≠ [] := by
  fun_induction chunks size data with
  | case1 => nomatch member
  | case2 first rest ih =>
      rcases List.mem_cons.mp member with rfl | later
      · exact List.cons_ne_nil _ _
      · exact ih later

theorem chunks_of_short {size : Nat} {data : List UInt8} (filled : data ≠ [])
    (short : data.length ≤ size) : chunks size data = [data] := by
  cases data with
  | nil => exact absurd rfl filled
  | cons first rest =>
      rw [List.length_cons] at short
      rw [chunks, List.take_of_length_le (by omega), List.drop_eq_nil_of_le (by omega), chunks]

end IspDriver.Bytes
