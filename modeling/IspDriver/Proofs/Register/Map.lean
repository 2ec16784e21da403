import IspDriver.Proofs.Bytes
import IspDriver.Proofs.Routine
import IspDriver.Register.Map

/-! Register accesses as blocks on the bus, on any host. -/

namespace IspDriver.RegisterMap

open Routine

variable {σ S : Type} {host : Host σ} {map : RegisterMap} {world : σ} {register : Register}
  {value : UInt32}

/-- The bytes that go over the bus for a value. -/
def busBytes (register : Register) (value : UInt32) : List UInt8 :=
  if register.width = 2 then Bytes.ofUInt16 value.toUInt16 else Bytes.ofUInt32 value

theorem busBytes_of_two (two : register.width = 2) :
    busBytes register value = Bytes.ofUInt16 value.toUInt16 :=
  if_pos two

theorem busBytes_of_four (four : register.width = 4) :
    busBytes register value = Bytes.ofUInt32 value :=
  if_neg (by simp [four])

theorem length_busBytes (value : UInt32) (width : register.width = 2 ∨ register.width = 4) :
    (busBytes register value).length = register.width.toNat := by
  rcases width with two | four
  · rw [busBytes_of_two two, two]
    rfl
  · rw [busBytes_of_four four, four]
    rfl

theorem getElem_busBytes (width : register.width = 2 ∨ register.width = 4) (i : Nat)
    (within : i < (busBytes register value).length) :
    (busBytes register value)[i] =
      (value.toNat / 256 ^ (register.width.toNat - 1 - i)).toUInt8 := by
  rcases width with two | four
  · simp only [busBytes_of_two two, Bytes.getElem_ofUInt16, two, UInt32.toNat_toUInt16]
    rw [busBytes_of_two two, Bytes.length_ofUInt16] at within
    have places : i = 0 ∨ i = 1 := by omega
    apply UInt8.toNat_inj.mp
    rcases places with rfl | rfl
    · simp
      omega
    · simp
  · simp only [busBytes_of_four four, Bytes.getElem_ofUInt32, four]
    rfl

theorem ends_checkWidth {post : Outcome Unit → RegisterMap → σ → Prop}
    (width : register.width = 2 ∨ register.width = 4) :
    (checkWidth register).Ends host map world post ↔ post (.done ()) map world := by
  rw [checkWidth, if_pos width]
  exact ends_done

theorem write_of_width (width : ¬ (register.width = 2 ∨ register.width = 4)) :
    (write register value : Access σ Unit) = refuse (.registerWidth register) := by
  have refused : (checkWidth register : Access σ Unit) = refuse (.registerWidth register) :=
    if_neg width
  unfold write
  rw [refused]
  rfl

/-- The value of a register goes out as one block. -/
theorem send_eq (width : register.width = 2 ∨ register.width = 4) :
    (if register.width = 2 then
        Bus.write16 register.busOffset (value &&& register.valueMask).toUInt16
      else
        Bus.write32 register.busOffset (value &&& register.valueMask) : Access σ Unit) =
      Host.writeBlock register.busOffset (busBytes register value) := by
  rcases width with two | four
  · have mask : register.valueMask = 0xffff := by simp [Register.valueMask, two]
    rw [if_pos two, mask, Bytes.toUInt16_and_mask, busBytes_of_two two]
    rfl
  · have mask : register.valueMask = 0xffffffff := by simp [Register.valueMask, four]
    rw [if_neg (by simp [four]), mask, Bytes.and_full_mask, busBytes_of_four four]
    rfl

theorem ends_receive {post : Outcome UInt32 → RegisterMap → σ → Prop}
    (width : register.width = 2 ∨ register.width = 4) :
    (if register.width = 2 then do
        return (← Bus.read16 register.busOffset).toUInt32
      else
        Bus.read32 register.busOffset : Access σ UInt32).Ends host map world post ↔
      (Host.readBlock register.busOffset register.width.toNat).Ends host map world
        (followed (fun bytes => post (.done (Bytes.positional bytes.toList).toUInt32)) post) := by
  rcases width with two | four
  · rw [if_pos two, ends_bind]
    unfold Bus.read16
    rw [ends_bind, two]
    refine iff_of_eq (congrArg (Ends _ host map world) ?_)
    funext outcome
    cases outcome with
    | done bytes =>
        have size : bytes.toList.length = 2 := by simp
        simp only [followed, ends_pure, Bytes.narrow_bigEndian size]
    | failed error => rfl
    | aborted => rfl
  · rw [if_neg (by simp [four])]
    unfold Bus.read32
    rw [ends_bind, four]
    refine iff_of_eq (congrArg (Ends _ host map world) ?_)
    funext outcome
    cases outcome with
    | done bytes => simp only [followed, ends_pure, Bytes.bigEndian_eq]
    | failed error => rfl
    | aborted => rfl

theorem busOffset_of_direct (direct : register.page = 0) : register.busOffset = register.offset := by
  simp [Register.busOffset, Register.isPaged, direct]

theorem ends_selectPage_of_direct {post : Outcome Unit → RegisterMap → σ → Prop}
    (direct : register.page = 0) :
    (selectPage register).Ends host map world post ↔ post (.done ()) map world := by
  unfold selectPage
  rw [ends_bind, ends_state]
  simp only [followed]
  rw [if_pos (by simp [Register.isPaged, direct])]
  exact ends_done

end IspDriver.RegisterMap
