import IspDriver.Proofs.Register.Map
import IspDriver.Proofs.Simulation.Chip

/-!
The registers of a chip, seen as a flat memory: bytes keyed by page and offset, without a page
select and without windows. Where a register is plain, a block on the bus is a write of the register
in this memory.
-/

namespace IspDriver.Simulation

open RegisterMap (busBytes length_busBytes getElem_busBytes)

/-- Bytes by page and offset. The page of the direct space is zero. -/
structure FlatMemory where
  byte : UInt32 → Nat → UInt8

namespace FlatMemory

/-- The number that the bytes of a register make, the highest first. -/
def read (flat : FlatMemory) (register : Register) : UInt32 :=
  let bytes := (List.range register.width.toNat).map fun i =>
    flat.byte register.page (register.offset.toNat + i)
  (Bytes.positional bytes).toUInt32

/-- The bytes of the register become the last digits of the value in base 256. -/
def write (flat : FlatMemory) (register : Register) (value : UInt32) : FlatMemory where
  byte page address :=
    let start := register.offset.toNat
    let stop := start + register.width.toNat
    if page = register.page ∧ start ≤ address ∧ address < stop then
      (value.toNat / 256 ^ (stop - 1 - address)).toUInt8
    else
      flat.byte page address

def writeEach (flat : FlatMemory) : List (Register × UInt32) → FlatMemory
  | [] => flat
  | (register, value) :: rest => (flat.write register value).writeEach rest

/-- Nothing but zero in it. -/
def blank : FlatMemory where
  byte _ _ := 0

/-- What a chip holds when it has come out of reset. -/
def powerOn : FlatMemory :=
  blank.writeEach [
    (Layout.chipVersion, Layout.supportedVersion),
    (Layout.chipRevision, Chip.modelRevision.toUInt32),
    (Layout.linkFrequency, 890)]

/-- The registers of a chip, as they are. -/
def ofChip (chip : Chip) : FlatMemory where
  byte page address := if page = 0 then chip.memory.byte address else (chip.pages page).byte address

end FlatMemory

/-- An address of the direct space where nothing happens but reading and writing. -/
def IsPlainAddress (address : Nat) : Prop :=
  address < 0x10000 ∧
    ¬ (0x8000 ≤ address ∧ address ≤ 0x9fff) ∧
    ¬ (0xe000 ≤ address ∧ address ≤ 0xefff) ∧
    ¬ (0xf038 ≤ address ∧ address ≤ 0xf03b) ∧
    ¬ (0xf052 ≤ address ∧ address ≤ 0xf053) ∧
    ¬ (0x60ac ≤ address ∧ address ≤ 0x60ad)

instance (address : Nat) : Decidable (IsPlainAddress address) :=
  inferInstanceAs (Decidable (_ ∧ _))

/-- A register that is nothing but memory: in plain addresses, or in a page and, where a whole lane
register would be read, with nothing queued. -/
def IsPlain (lanes : LaneQueues) (register : Register) : Prop :=
  (register.width = 2 ∨ register.width = 4) ∧
    if register.page = 0 then
      ∀ i < register.width.toNat, IsPlainAddress (register.offset.toNat + i)
    else
      register.offset.toNat + register.width.toNat ≤ Register.windowSize ∧
        (register.width = 4 → lanes.get (register.page ||| register.offset.toUInt32) = [])

instance (lanes : LaneQueues) (register : Register) : Decidable (IsPlain lanes register) := by
  unfold IsPlain
  infer_instance

namespace FlatMemory

variable {flat other : FlatMemory} {chip : Chip} {register : Register} {value : UInt32}
  {lanes : LaneQueues}

/-- The memories hold the same wherever a plain register can be. -/
structure Agrees (flat other : FlatMemory) : Prop where
  direct : ∀ address, IsPlainAddress address → flat.byte 0 address = other.byte 0 address
  paged : ∀ page ≠ 0, ∀ address < Register.windowSize,
    flat.byte page address = other.byte page address

theorem Agrees.trans {third : FlatMemory} (first : flat.Agrees other) (second : other.Agrees third) :
    flat.Agrees third :=
  ⟨fun address plain => (first.direct address plain).trans (second.direct address plain),
    fun page paged address within =>
      (first.paged page paged address within).trans (second.paged page paged address within)⟩

theorem Agrees.read (agrees : flat.Agrees other) (plain : IsPlain lanes register) :
    flat.read register = other.read register := by
  refine congrArg (fun bytes => (Bytes.positional bytes).toUInt32) (List.map_congr_left ?_)
  intro i member
  have within := List.mem_range.mp member
  obtain ⟨-, place⟩ := plain
  split at place
  · next direct =>
      rw [direct]
      exact agrees.direct _ (place i within)
  · next paged => exact agrees.paged _ paged _ (by omega)

theorem Agrees.write (agrees : flat.Agrees other) :
    (flat.write register value).Agrees (other.write register value) := by
  constructor
  · intro address plain
    simp only [FlatMemory.write, agrees.direct address plain]
  · intro page paged address within
    simp only [FlatMemory.write, agrees.paged page paged address within]

theorem write_read (width : register.width = 2 ∨ register.width = 4) :
    flat.write register (flat.read register) = flat := by
  obtain ⟨byte⟩ := flat
  let bytes := (List.range register.width.toNat).map fun i =>
    byte register.page (register.offset.toNat + i)
  have length : bytes.length = register.width.toNat := by simp [bytes]
  have bound : Bytes.positional bytes < 2 ^ 32 := by
    have small := Bytes.positional_lt bytes
    rw [length] at small
    rcases width with two | four
    · rw [two] at small
      exact Nat.lt_trans small (by decide)
    · rw [four] at small
      exact Nat.lt_of_lt_of_le small (by decide)
  have value : (FlatMemory.read ⟨byte⟩ register).toNat = Bytes.positional bytes := by
    simp only [FlatMemory.read, Nat.toUInt32_eq, UInt32.toNat_ofNat']
    exact Nat.mod_eq_of_lt bound
  unfold FlatMemory.write
  congr 1
  funext page address
  simp only [value]
  split
  · next inside =>
      obtain ⟨same, after, before⟩ := inside
      have place : address - register.offset.toNat < bytes.length := by omega
      have digit := Bytes.digit_positional bytes _ place
      have power : bytes.length - 1 - (address - register.offset.toNat) =
          register.offset.toNat + register.width.toNat - 1 - address := by omega
      rw [power] at digit
      rw [digit, List.getElem_map, List.getElem_range, Nat.add_sub_cancel' after, same]
  · rfl

/-- A block at the place of a register is a write of the register. -/
theorem byte_store_busBytes {memory : Memory} {start address : Nat}
    (width : register.width = 2 ∨ register.width = 4) :
    (memory.store start (busBytes register value)).byte address =
      if start ≤ address ∧ address < start + register.width.toNat then
        (value.toNat / 256 ^ (start + register.width.toNat - 1 - address)).toUInt8
      else
        memory.byte address := by
  have length := length_busBytes value width
  split
  · next within =>
      have inside : address - start < (busBytes register value).length := by omega
      have stored := Memory.byte_store_inside memory start inside
      rw [Nat.add_sub_cancel' within.1] at stored
      rw [stored, getElem_busBytes width]
      congr 3
      omega
  · next outside => exact Memory.byte_store_outside (by omega)

theorem ofChip_storeDirect (width : register.width = 2 ∨ register.width = 4)
    (direct : register.page = 0) :
    ofChip (chip.storeDirect register.offset (busBytes register value)) =
      (ofChip chip).write register value := by
  unfold ofChip FlatMemory.write Chip.storeDirect
  congr 1
  funext page address
  simp only [byte_store_busBytes width, direct]
  by_cases same : page = 0
  · simp [same]
  · simp [same]

theorem ofChip_storePage (width : register.width = 2 ∨ register.width = 4)
    (paged : register.page ≠ 0) :
    ofChip (chip.storePage register.page register.offset.toNat (busBytes register value)) =
      (ofChip chip).write register value := by
  unfold ofChip FlatMemory.write Chip.storePage
  congr 1
  funext page address
  by_cases same : page = register.page
  · simp [same, paged, byte_store_busBytes width]
  · simp [same]

theorem agrees_storeDirect_pageSelect {data : List UInt8} (size : data.length = 4) :
    (ofChip (chip.storeDirect Layout.pageSelect.offset data)).Agrees (ofChip chip) := by
  have place : Layout.pageSelect.offset.toNat = 0xf038 := by decide
  constructor
  · intro address plain
    obtain ⟨-, -, -, notSelect, -, -⟩ := plain
    simp only [ofChip, Chip.storeDirect, if_true]
    exact Memory.byte_store_outside (by omega)
  · intro page paged address _
    simp only [ofChip, Chip.storeDirect, if_neg paged]

theorem ofChip_restart (chip : Chip) : ofChip chip.restart = powerOn := by
  let bare : Chip := { chip.restart with memory := .blank }
  have empty : ofChip bare = blank := by
    unfold ofChip blank
    congr 1
    funext page address
    exact ite_self 0
  have stored : chip.restart =
      ((bare.storeDirect Layout.chipVersion.offset
        (busBytes Layout.chipVersion Layout.supportedVersion)).storeDirect
        Layout.chipRevision.offset
        (busBytes Layout.chipRevision Chip.modelRevision.toUInt32)).storeDirect
        Layout.linkFrequency.offset (busBytes Layout.linkFrequency 890) := rfl
  rw [stored, ofChip_storeDirect (by decide) (by decide), ofChip_storeDirect (by decide) (by decide),
    ofChip_storeDirect (by decide) (by decide), empty]
  rfl

end FlatMemory

variable {register : Register} {lanes : LaneQueues}

theorem IsPlain.width_pos (plain : IsPlain lanes register) : 0 < register.width.toNat := by
  rcases plain.1 with two | four
  · simp [two]
  · simp [four]

theorem IsPlain.isOrdinary (plain : IsPlain lanes register) (direct : register.page = 0) :
    Chip.IsOrdinary register.offset := by
  have first : IsPlainAddress register.offset.toNat := by
    have addresses := plain.2
    rw [if_pos direct] at addresses
    exact addresses 0 plain.width_pos
  obtain ⟨-, notFirmware, notPaged, -, notCrc, notControl⟩ := first
  have crc : Layout.firmwareCrc.offset.toNat = 0xf052 := by decide
  have control : Layout.copyControl.offset.toNat = 0x60ac := by decide
  constructor
  · rw [Bool.eq_false_iff, ne_eq, Chip.inPageWindow_iff]
    omega
  · rw [Bool.eq_false_iff, ne_eq, Chip.inFirmwareWindow_iff]
    omega
  · intro same
    rw [same] at notCrc
    omega
  · intro same
    rw [same] at notControl
    omega

theorem IsPlain.direct_fits (plain : IsPlain lanes register) (direct : register.page = 0) :
    register.offset.toNat + register.width.toNat ≤ Chip.spaceSize := by
  have addresses := plain.2
  rw [if_pos direct] at addresses
  have positive := plain.width_pos
  have last := (addresses (register.width.toNat - 1) (by omega)).1
  simp only [Chip.spaceSize]
  omega

theorem IsPlain.currentPage_storeDirect (plain : IsPlain lanes register)
    (direct : register.page = 0) {chip : Chip} {data : List UInt8}
    (length : data.length = register.width.toNat) :
    (chip.storeDirect register.offset data).currentPage = chip.currentPage := by
  have addresses := plain.2
  rw [if_pos direct] at addresses
  have positive := plain.width_pos
  have place : Layout.pageSelect.offset.toNat = 0xf038 := by decide
  have apart : Layout.pageSelect.offset.toNat + 4 ≤ register.offset.toNat ∨
      register.offset.toNat + data.length ≤ Layout.pageSelect.offset.toNat := by
    refine Decidable.byContradiction fun overlap => ?_
    have shared := addresses (0xf038 - register.offset.toNat) (by omega)
    obtain ⟨-, -, -, notSelect, -, -⟩ := shared
    omega
  simp only [Chip.currentPage, Chip.word32, Chip.storeDirect, Memory.load_store_outside apart]

theorem IsPlain.page_fits (plain : IsPlain lanes register) (paged : register.page ≠ 0) :
    register.offset.toNat + register.width.toNat ≤ Register.windowSize := by
  have place := plain.2
  rw [if_neg paged] at place
  exact place.1

theorem IsPlain.toNat_busOffset (plain : IsPlain lanes register) (paged : register.page ≠ 0) :
    register.busOffset.toNat = 0xe000 + register.offset.toNat := by
  have fits := plain.page_fits paged
  have isPaged : register.isPaged = true := by simp [Register.isPaged, paged]
  simp only [Register.windowSize] at fits
  simp only [Register.busOffset, isPaged, if_true, UInt16.toNat_add, Chip.toNat_windowStart]
  omega

theorem IsPlain.inPageWindow (plain : IsPlain lanes register) (paged : register.page ≠ 0) :
    Chip.inPageWindow register.busOffset = true := by
  have fits := plain.page_fits paged
  have positive := plain.width_pos
  simp only [Register.windowSize] at fits
  rw [Chip.inPageWindow_iff, plain.toNat_busOffset paged]
  omega

end IspDriver.Simulation
