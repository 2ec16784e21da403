import IspDriver.Proofs.Bytes
import IspDriver.Simulation.Chip

namespace IspDriver.Simulation

namespace Memory

variable {memory : Memory} {start address : Nat} {data : List UInt8}

theorem byte_store_outside (outside : address < start ∨ start + data.length ≤ address) :
    (memory.store start data).byte address = memory.byte address := by
  rw [byte_store]
  split
  · rw [List.getElem?_eq_none (by omega)]
    rfl
  · rfl

theorem byte_store_inside (memory : Memory) (start : Nat) (within : address < data.length) :
    (memory.store start data).byte (start + address) = data[address] := by
  rw [byte_store, if_pos (Nat.le_add_right start address), Nat.add_sub_cancel_left,
    List.getElem?_eq_getElem within]
  rfl

theorem load_store_same : (memory.store start data).load start data.length = data := by
  apply List.ext_getElem (by simp [length_load])
  intro index _ within
  simpa [load] using byte_store_inside _ _ within

theorem load_store_ofUInt16 (value : UInt16) :
    (memory.store start (Bytes.ofUInt16 value)).load start 2 = Bytes.ofUInt16 value :=
  load_store_same

theorem load_congr {other : Memory} {count : Nat}
    (same : ∀ i < count, memory.byte (start + i) = other.byte (start + i)) :
    memory.load start count = other.load start count := by
  apply List.map_congr_left
  intro i member
  exact same i (List.mem_range.mp member)

theorem load_store_outside {count : Nat}
    (outside : start + count ≤ address ∨ address + data.length ≤ start) :
    (memory.store address data).load start count = memory.load start count :=
  load_congr fun i _ => byte_store_outside (by omega)

end Memory

namespace Chip

variable {chip : Chip} {offset : UInt16} {data : List UInt8} {count : Nat}

@[simp] theorem toNat_windowStart : Register.windowStart.toNat = 0xe000 := rfl

@[simp] theorem toNat_firmwareWindow : Layout.firmwareWindow.toNat = 0x8000 := rfl

theorem inPageWindow_iff :
    inPageWindow offset = true ↔ 0xe000 ≤ offset.toNat ∧ offset.toNat < 0xf000 := by
  simp only [inPageWindow, Bool.and_eq_true, decide_eq_true_eq, UInt16.le_iff_toNat_le]
  rfl

theorem inFirmwareWindow_iff :
    inFirmwareWindow offset = true ↔ 0x8000 ≤ offset.toNat ∧ offset.toNat < 0xa000 := by
  simp only [inFirmwareWindow, Bool.and_eq_true, decide_eq_true_eq, UInt16.le_iff_toNat_le]
  rfl

/-- A block that stays in the place it starts in. -/
def Fits (offset : UInt16) (count : Nat) : Prop :=
  (inPageWindow offset = true → offset.toNat + count ≤ 0xf000) ∧
    (inFirmwareWindow offset = true → offset.toNat + count ≤ 0xa000) ∧
    offset.toNat + count ≤ spaceSize

theorem spanFault?_eq_none (fits : Fits offset count) : spanFault? offset count = none := by
  obtain ⟨page, firmware, space⟩ := fits
  have inPage : ¬ (inPageWindow offset = true ∧
      Register.windowStart.toNat + Register.windowSize < offset.toNat + count) :=
    fun crossing => Nat.not_lt.mpr (page crossing.1) crossing.2
  have inFirmware : ¬ (inFirmwareWindow offset = true ∧
      Layout.firmwareWindow.toNat + Layout.firmwareWindowSize < offset.toNat + count) :=
    fun crossing => Nat.not_lt.mpr (firmware crossing.1) crossing.2
  simp only [spanFault?, Bool.and_eq_true, decide_eq_true_eq, if_neg inPage, if_neg inFirmware,
    if_neg (Nat.not_lt.mpr space)]

theorem fits_of_spanFault? (accepted : spanFault? offset count = none) : Fits offset count := by
  simp only [spanFault?, Bool.and_eq_true, decide_eq_true_eq] at accepted
  split at accepted
  · cases accepted
  · next notPage =>
      split at accepted
      · cases accepted
      · next notFirmware =>
          split at accepted
          · cases accepted
          · next inSpace =>
              exact ⟨fun inside => Nat.not_lt.mp fun past => notPage ⟨inside, past⟩,
                fun inside => Nat.not_lt.mp fun past => notFirmware ⟨inside, past⟩,
                Nat.not_lt.mp inSpace⟩

/-- The first address of a block where a write does nothing but store, and a read nothing but
load. -/
structure IsOrdinary (offset : UInt16) : Prop where
  notPaged : inPageWindow offset = false
  notFirmware : inFirmwareWindow offset = false
  notCrc : offset ≠ Layout.firmwareCrc.offset
  notControl : offset ≠ Layout.copyControl.offset

theorem isOrdinary_pageSelect : IsOrdinary Layout.pageSelect.offset := by
  constructor <;> decide

theorem write_of_inReset (asleep : chip.inReset = true) :
    chip.write offset data = (some (.error (busFault "device held in reset")), chip) := by
  simp [write, asleep]

theorem write_of_fault (awake : chip.inReset = false) (faulty : offset ∈ chip.faults.writes) :
    chip.write offset data = (some (.error (busFault "injected write fault")), chip) := by
  simp [write, awake, faulty]

theorem write_ordinary (awake : chip.inReset = false) (sound : offset ∉ chip.faults.writes)
    (ordinary : IsOrdinary offset) (fits : offset.toNat + data.length ≤ spaceSize) :
    chip.write offset data =
      (some (.ok ()), (chip.record none offset data).storeDirect offset data) := by
  have span : spanFault? offset data.length = none :=
    spanFault?_eq_none ⟨by simp [ordinary.notPaged], by simp [ordinary.notFirmware], fits⟩
  simp [write, awake, sound, span, ordinary.notPaged, writeDirect, ordinary.notFirmware,
    ordinary.notCrc, ordinary.notControl]

theorem write_pageSelect (awake : chip.inReset = false)
    (sound : Layout.pageSelect.offset ∉ chip.faults.writes) (page : UInt32) :
    chip.write Layout.pageSelect.offset (Bytes.ofUInt32 page) =
      (some (.ok ()), (chip.record none Layout.pageSelect.offset (Bytes.ofUInt32 page)).storeDirect
        Layout.pageSelect.offset (Bytes.ofUInt32 page)) :=
  write_ordinary awake sound isOrdinary_pageSelect (by rw [Bytes.length_ofUInt32]; decide)

theorem currentPage_storeDirect_pageSelect (chip : Chip) (page : UInt32) :
    (chip.storeDirect Layout.pageSelect.offset (Bytes.ofUInt32 page)).currentPage = page := by
  have stored : (chip.memory.store Layout.pageSelect.offset.toNat (Bytes.ofUInt32 page)).load
      Layout.pageSelect.offset.toNat 4 = Bytes.ofUInt32 page :=
    Memory.load_store_same
  unfold currentPage word32 storeDirect
  rw [stored, Bytes.bigEndian_ofUInt32]

theorem write_page (awake : chip.inReset = false) (sound : offset ∉ chip.faults.writes)
    (inside : inPageWindow offset = true) (fits : offset.toNat + data.length ≤ 0xf000) :
    chip.write offset data =
      (some (.ok ()), (chip.record (some chip.currentPage) offset data).storePage chip.currentPage
        (offset.toNat - 0xe000) data) := by
  have bounds := inPageWindow_iff.mp inside
  have span : spanFault? offset data.length = none := by
    refine spanFault?_eq_none ⟨fun _ => fits, fun firmware => ?_, ?_⟩
    · have := inFirmwareWindow_iff.mp firmware
      omega
    · exact Nat.le_trans fits (by decide)
  have position : (offset - Register.windowStart).toNat = offset.toNat - 0xe000 :=
    UInt16.toNat_sub_of_le offset Register.windowStart (UInt16.le_iff_toNat_le.mpr bounds.1)
  simp [write, awake, sound, span, inside, position]

@[simp] theorem toList_vector (byte : Nat → UInt8) :
    (vector count byte).toList = (List.range count).map byte := by
  apply List.ext_getElem
  · simp
  · intro i _ _
    simp [vector]

theorem read_of_fault (awake : chip.inReset = false) (faulty : offset ∈ chip.faults.reads) :
    chip.read offset count = (.error (busFault "injected read fault"), chip) := by
  simp [read, awake, faulty]

theorem read_ordinary (awake : chip.inReset = false) (sound : offset ∉ chip.faults.reads)
    (ordinary : IsOrdinary offset) (fits : offset.toNat + count ≤ spaceSize) :
    ∃ bytes : Vector UInt8 count, chip.read offset count = (.ok bytes, chip) ∧
      bytes.toList = chip.memory.load offset.toNat count := by
  have span : spanFault? offset count = none :=
    spanFault?_eq_none ⟨by simp [ordinary.notPaged], by simp [ordinary.notFirmware], fits⟩
  refine ⟨chip.readDirect offset count, ?_, ?_⟩
  · simp [read, awake, sound, span, ordinary.notPaged]
  · simp [readDirect, Memory.load, ordinary.notCrc]

/-- A lane register with nothing queued reads as what its page holds, and so does any other
register of a page. -/
theorem read_page (count : Nat) (awake : chip.inReset = false) (sound : offset ∉ chip.faults.reads)
    (inside : inPageWindow offset = true) (fits : offset.toNat + count ≤ 0xf000)
    (idle : count = 4 →
      chip.lanes.get (chip.currentPage ||| (offset.toNat - 0xe000).toUInt32) = []) :
    ∃ bytes : Vector UInt8 count, chip.read offset count = (.ok bytes, chip) ∧
      bytes.toList = (chip.pages chip.currentPage).load (offset.toNat - 0xe000) count := by
  have bounds := inPageWindow_iff.mp inside
  have span : spanFault? offset count = none := by
    refine spanFault?_eq_none ⟨fun _ => fits, fun firmware => ?_, ?_⟩
    · have := inFirmwareWindow_iff.mp firmware
      omega
    · exact Nat.le_trans fits (by decide)
  have position : (offset - Register.windowStart).toNat = offset.toNat - 0xe000 :=
    UInt16.toNat_sub_of_le offset Register.windowStart (UInt16.le_iff_toNat_le.mpr bounds.1)
  refine ⟨vector count fun i => (chip.pages chip.currentPage).byte (offset.toNat - 0xe000 + i),
    ?_, ?_⟩
  · simp only [read, awake, sound, span, inside, readPage, position, List.contains_eq_mem]
    by_cases whole : count = 4
    · simp [whole, idle whole]
    · simp [whole]
  · simp [Memory.load]

end Chip

end IspDriver.Simulation
