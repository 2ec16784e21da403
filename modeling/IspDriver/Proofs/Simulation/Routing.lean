import IspDriver.Proofs.Firmware.Download
import IspDriver.Proofs.Simulation.Bounds

/-!
Where the bytes of a block go. Every address of the bus space belongs to the memory, to the selected
page or to the firmware, but the chip decides by the first address of a block. A block that starts
in a window has to end there. A block that starts before a window may run into it, and then all of
it goes to the memory.
-/

namespace IspDriver.Simulation

namespace Memory

variable {memory : Memory} {start : Nat}

theorem store_nil (memory : Memory) (start : Nat) : memory.store start [] = memory :=
  eq_of_byte fun _ => byte_store_outside (by simp only [List.length_nil]; omega)

theorem store_append (memory : Memory) (start : Nat) (front back : List UInt8) :
    (memory.store start front).store (start + front.length) back =
      memory.store start (front ++ back) := by
  apply eq_of_byte
  intro address
  by_cases before : address < start
  · rw [byte_store_outside (by omega), byte_store_outside (by omega), byte_store_outside (by omega)]
  · obtain ⟨place, rfl⟩ := Nat.exists_eq_add_of_le (Nat.not_lt.mp before)
    rw [byte_store _ start _ (front ++ back), if_pos (by omega), Nat.add_sub_cancel_left]
    by_cases early : place < front.length
    · rw [byte_store_outside (by omega), byte_store_inside _ _ early,
        List.getElem?_append_left early, List.getElem?_eq_getElem early, Option.getD_some]
    · have shift : start + place - (start + front.length) = place - front.length := by omega
      rw [byte_store, if_pos (by omega), byte_store_outside (by omega), shift,
        List.getElem?_append_right (by omega)]

end Memory

/-- What the byte at an address of the bus space is part of. -/
inductive Store where
  | memory
  | page
  | firmware
deriving DecidableEq

/-- A page shows in its window, and firmware is taken in another one. -/
def storeOf (address : Nat) : Store :=
  if Register.windowStart.toNat ≤ address ∧
      address < Register.windowStart.toNat + Register.windowSize then
    .page
  else if Layout.firmwareWindow.toNat ≤ address ∧
      address < Layout.firmwareWindow.toNat + Layout.firmwareWindowSize then
    .firmware
  else
    .memory

/-- A block whose bytes are all part of one store. -/
def InOneStore (offset : UInt16) (count : Nat) : Prop :=
  ∀ i < count, storeOf (offset.toNat + i) = storeOf offset.toNat

theorem storeOf_eq_page_iff {address : Nat} :
    storeOf address = .page ↔ 0xe000 ≤ address ∧ address < 0xf000 := by
  have window : Register.windowStart.toNat = 0xe000 ∧ Register.windowSize = 0x1000 := ⟨rfl, rfl⟩
  unfold storeOf
  rw [window.1, window.2]
  split
  · next inside => exact iff_of_true rfl inside
  · next outside =>
      refine iff_of_false ?_ outside
      split <;> nofun

theorem storeOf_eq_firmware_iff {address : Nat} :
    storeOf address = .firmware ↔ 0x8000 ≤ address ∧ address < 0xa000 := by
  have page : Register.windowStart.toNat = 0xe000 ∧ Register.windowSize = 0x1000 := ⟨rfl, rfl⟩
  have firmware : Layout.firmwareWindow.toNat = 0x8000 ∧ Layout.firmwareWindowSize = 0x2000 :=
    ⟨rfl, rfl⟩
  unfold storeOf
  rw [page.1, page.2, firmware.1, firmware.2]
  split
  · next inside => exact iff_of_false nofun (by omega)
  · split
    · next inside => exact iff_of_true rfl inside
    · next outside => exact iff_of_false nofun outside

/-- No window follows the one of the page. -/
theorem inOneStore_of_past_windows {offset : UInt16} (past : 0xf000 ≤ offset.toNat) (count : Nat) :
    InOneStore offset count := by
  have memory (address : Nat) (above : 0xf000 ≤ address) : storeOf address = .memory := by
    cases store : storeOf address with
    | memory => rfl
    | page =>
        have inside := storeOf_eq_page_iff.mp store
        omega
    | firmware =>
        have inside := storeOf_eq_firmware_iff.mp store
        omega
  intro i _
  rw [memory _ (by omega), memory _ past]

namespace Chip

variable {chip : Chip} {offset : UInt16} {address count : Nat} {data : List UInt8}

theorem inPageWindow_eq (offset : UInt16) :
    inPageWindow offset = true ↔ storeOf offset.toNat = .page := by
  rw [inPageWindow_iff, storeOf_eq_page_iff]

theorem inFirmwareWindow_eq (offset : UInt16) :
    inFirmwareWindow offset = true ↔ storeOf offset.toNat = .firmware := by
  rw [inFirmwareWindow_iff, storeOf_eq_firmware_iff]

/-- What the checksum register holds. -/
def checksum (chip : Chip) : UInt16 :=
  (Bytes.bigEndian (chip.memory.load Layout.firmwareCrc.offset.toNat 2)).toUInt16

def storeMemory (chip : Chip) (address : Nat) (data : List UInt8) : Chip :=
  { chip with memory := chip.memory.store address data }

/-- The chip with more firmware, which is in the checksum, too. -/
def addFirmware (chip : Chip) (data : List UInt8) : Chip :=
  { chip with
    firmware := chip.firmware ++ data
    memory := chip.memory.store Layout.firmwareCrc.offset.toNat
      (Bytes.ofUInt16 (Crc.absorbAll chip.checksum data)) }

/-- The chip with a byte where it belongs. -/
def routeByte (chip : Chip) (address : Nat) (byte : UInt8) : Chip :=
  match storeOf address with
  | .memory => chip.storeMemory address [byte]
  | .page => chip.storePage chip.currentPage (address - Register.windowStart.toNat) [byte]
  | .firmware => chip.addFirmware [byte]

/-- The chip with bytes from an address on, each where it belongs. -/
def route (chip : Chip) (address : Nat) : List UInt8 → Chip
  | [] => chip
  | byte :: rest => (chip.routeByte address byte).route (address + 1) rest

theorem storeMemory_nil (chip : Chip) (address : Nat) : chip.storeMemory address [] = chip := by
  rw [storeMemory, Memory.store_nil]

theorem storeMemory_cons (chip : Chip) (address : Nat) (byte : UInt8) (rest : List UInt8) :
    (chip.storeMemory address [byte]).storeMemory (address + 1) rest =
      chip.storeMemory address (byte :: rest) := by
  have stored := Memory.store_append chip.memory address [byte] rest
  exact congrArg (fun memory => ({ chip with memory } : Chip)) stored

theorem storePage_nil (chip : Chip) (page : UInt32) (start : Nat) :
    chip.storePage page start [] = chip := by
  have same : (fun other => if other = page then chip.pages page else chip.pages other) =
      chip.pages := by
    funext other
    split
    · next this => rw [this]
    · rfl
  simp only [storePage, Memory.store_nil, same]

theorem storePage_cons (chip : Chip) (page : UInt32) (start : Nat) (byte : UInt8)
    (rest : List UInt8) :
    (chip.storePage page start [byte]).storePage page (start + 1) rest =
      chip.storePage page start (byte :: rest) := by
  have stored : ((chip.pages page).store start [byte]).store (start + 1) rest =
      (chip.pages page).store start (byte :: rest) :=
    Memory.store_append _ _ [byte] rest
  simp only [storePage, if_true, stored, Chip.mk.injEq, true_and, and_true]
  funext other
  split <;> rfl

theorem addFirmware_nil (chip : Chip) : chip.addFirmware [] = chip := by
  have same : chip.memory.store Layout.firmwareCrc.offset.toNat
      (Bytes.ofUInt16 chip.checksum) = chip.memory := by
    rw [checksum, Bytes.ofUInt16_bigEndian (Memory.length_load ..), Memory.store_load]
  simp only [addFirmware, List.append_nil, Crc.absorbAll, List.foldl_nil, same]

theorem checksum_addFirmware (chip : Chip) (data : List UInt8) :
    (chip.addFirmware data).checksum = Crc.absorbAll chip.checksum data := by
  rw [checksum, addFirmware, Memory.load_store_ofUInt16, Bytes.bigEndian_ofUInt16]
  exact UInt16.toUInt16_toUInt32 _

theorem addFirmware_append (chip : Chip) (front back : List UInt8) :
    (chip.addFirmware front).addFirmware back = chip.addFirmware (front ++ back) := by
  have crc := chip.checksum_addFirmware front
  have stored := @Memory.store_store chip.memory Layout.firmwareCrc.offset.toNat
    (Bytes.ofUInt16 (Crc.absorbAll (Crc.absorbAll chip.checksum front) back))
    (Bytes.ofUInt16 (Crc.absorbAll chip.checksum front)) rfl
  unfold addFirmware at crc ⊢
  simp only [crc, stored, List.append_assoc, Crc.absorbAll_append]

theorem shifted {store : Store} {byte : UInt8} {rest : List UInt8}
    (all : ∀ i < (byte :: rest).length, storeOf (address + i) = store) :
    storeOf address = store ∧ ∀ i < rest.length, storeOf (address + 1 + i) = store := by
  refine ⟨all 0 (by simp), fun i inside => ?_⟩
  have next := all (i + 1) (by simpa using inside)
  rwa [Nat.add_comm i 1, ← Nat.add_assoc] at next

theorem route_memory (all : ∀ i < data.length, storeOf (address + i) = .memory) :
    chip.route address data = chip.storeMemory address data := by
  induction data generalizing chip address with
  | nil => exact (chip.storeMemory_nil address).symm
  | cons byte rest ih =>
      obtain ⟨first, others⟩ := shifted all
      simp only [route, routeByte, first]
      rw [ih others, storeMemory_cons]

/-- Bytes in the window go to the page that is selected. -/
theorem route_page (all : ∀ i < data.length, storeOf (address + i) = .page) :
    chip.route address data =
      chip.storePage chip.currentPage (address - Register.windowStart.toNat) data := by
  induction data generalizing chip address with
  | nil => exact (chip.storePage_nil _ _).symm
  | cons byte rest ih =>
      obtain ⟨first, others⟩ := shifted all
      have above := (storeOf_eq_page_iff.mp first).1
      have next : address + 1 - Register.windowStart.toNat =
          address - Register.windowStart.toNat + 1 := by
        rw [toNat_windowStart]
        omega
      have selected : (chip.storePage chip.currentPage
          (address - Register.windowStart.toNat) [byte]).currentPage = chip.currentPage := rfl
      simp only [route, routeByte, first]
      rw [ih others, selected, next, storePage_cons]

/-- Firmware is taken as it comes, wherever in its window. -/
theorem route_firmware (all : ∀ i < data.length, storeOf (address + i) = .firmware) :
    chip.route address data = chip.addFirmware data := by
  induction data generalizing chip address with
  | nil => exact chip.addFirmware_nil.symm
  | cons byte rest ih =>
      obtain ⟨first, others⟩ := shifted all
      simp only [route, routeByte, first]
      rw [ih others, addFirmware_append, List.singleton_append]

theorem all_page (start : storeOf offset.toNat = .page) (fits : Fits offset count) :
    ∀ i < count, storeOf (offset.toNat + i) = .page := by
  intro i inside
  have stop := fits.1 ((inPageWindow_eq offset).mpr start)
  rw [storeOf_eq_page_iff] at start ⊢
  omega

theorem all_firmware (start : storeOf offset.toNat = .firmware) (fits : Fits offset count) :
    ∀ i < count, storeOf (offset.toNat + i) = .firmware := by
  intro i inside
  have stop := fits.2.1 ((inFirmwareWindow_eq offset).mpr start)
  rw [storeOf_eq_firmware_iff] at start ⊢
  omega

/-- A block that is in no one store although it fits starts before a window. -/
theorem storeOf_of_fits (fits : Fits offset count) (spread : ¬ InOneStore offset count) :
    storeOf offset.toNat = .memory := by
  cases start : storeOf offset.toNat with
  | memory => rfl
  | page => exact absurd (fun i inside => (all_page start fits i inside).trans start.symm) spread
  | firmware =>
      exact absurd (fun i inside => (all_firmware start fits i inside).trans start.symm) spread

/-- The stores of two chips hold the same. -/
structure SameStores (chip other : Chip) : Prop where
  memory : chip.memory = other.memory
  pages : chip.pages = other.pages
  firmware : chip.firmware = other.firmware

section Accepted

variable (awake : chip.inReset = false) (sound : offset ∉ chip.faults.writes)

include awake sound

theorem write_of_not_fits (crosses : ¬ Fits offset data.length) :
    ∃ text, chip.write offset data = (some (.error (busFault text)), chip) := by
  cases span : spanFault? offset data.length with
  | none => exact absurd (fits_of_spanFault? span) crosses
  | some error =>
      obtain ⟨text, rfl⟩ := @reported_spanFault _ _ Unit _ span error rfl
      exact ⟨text, by simp [write, awake, sound, span]⟩

theorem write_memory (start : storeOf offset.toNat = .memory) (fits : Fits offset data.length) :
    chip.write offset data = chip.writeDirect offset data ∧ inFirmwareWindow offset = false := by
  have notPaged : inPageWindow offset = false := by
    rw [Bool.eq_false_iff, ne_eq, inPageWindow_eq, start]
    nofun
  have notFirmware : inFirmwareWindow offset = false := by
    rw [Bool.eq_false_iff, ne_eq, inFirmwareWindow_eq, start]
    nofun
  refine ⟨?_, notFirmware⟩
  simp [write, awake, sound, spanFault?_eq_none fits, notPaged]

theorem write_begins (fits : Fits Layout.firmwareCrc.offset data.length)
    (same : offset = Layout.firmwareCrc.offset) :
    chip.write offset data = (some (.ok ()), (chip.taken offset data).beginDownload) := by
  subst same
  obtain ⟨direct, notFirmware⟩ := write_memory awake sound (by decide) fits
  simp [direct, writeDirect, notFirmware, Chip.taken]

/-- Outside of the windows a block is stored, unless it sets something off. -/
theorem write_stores (start : storeOf offset.toNat = .memory) (fits : Fits offset data.length)
    (notCrc : offset ≠ Layout.firmwareCrc.offset) (idle : ¬ chip.StartsCopy offset data) :
    chip.write offset data = (some (.ok ()), chip.taken offset data) := by
  by_cases control : offset = Layout.copyControl.offset ∧ data.length = 2
  · obtain ⟨rfl, two⟩ := control
    have stays : (chip.taken Layout.copyControl.offset data).copy? (Bytes.bigEndian data) =
        some (chip.taken Layout.copyControl.offset data) :=
      if_neg fun starts => idle ⟨rfl, two, starts.1, starts.2⟩
    rw [write_control awake sound two, stays]
  · obtain ⟨direct, notFirmware⟩ := write_memory awake sound start fits
    simp [direct, writeDirect, notFirmware, notCrc, control, Chip.taken]

end Accepted

/-- What becomes of a block in one store: its bytes are where they belong. At the checksum register
it begins a download besides. At the control register of the copy engine it may start a copy, and
then the memory changes on. -/
structure Routed (chip : Chip) (offset : UInt16) (data : List UInt8) : Prop where
  plain : offset ≠ Layout.firmwareCrc.offset → ¬ chip.StartsCopy offset data →
    (chip.write offset data).1 = some (.ok ()) ∧
      SameStores (chip.write offset data).2 (chip.route offset.toNat data)
  begins : offset = Layout.firmwareCrc.offset →
    (chip.write offset data).1 = some (.ok ()) ∧
      SameStores (chip.write offset data).2 { chip.route offset.toNat data with firmware := [] }
  copies : chip.StartsCopy offset data → ∃ memory,
    SameStores (chip.write offset data).2 { chip.route offset.toNat data with memory }

/-- Neither begins a download nor starts a copy what starts in a window. -/
theorem routed_of_window (window : storeOf offset.toNat ≠ .memory)
    (plain : (chip.write offset data).1 = some (.ok ()) ∧
      SameStores (chip.write offset data).2 (chip.route offset.toNat data)) :
    chip.Routed offset data where
  plain _ _ := plain
  begins same := by
    subst same
    exact absurd (by decide) window
  copies starts := by
    obtain rfl := starts.control
    exact absurd (by decide) window

section Accepted

variable (awake : chip.inReset = false) (sound : offset ∉ chip.faults.writes)

include awake sound

theorem routed_page (start : storeOf offset.toNat = .page) (fits : Fits offset data.length) :
    chip.Routed offset data := by
  have inside := (inPageWindow_eq offset).mpr start
  refine routed_of_window (by rw [start]; nofun) ?_
  rw [write_page awake sound inside (fits.1 inside), route_page (all_page start fits)]
  exact ⟨rfl, rfl, rfl, rfl⟩

theorem routed_firmware (start : storeOf offset.toNat = .firmware)
    (fits : Fits offset data.length) : chip.Routed offset data := by
  have inside := (inFirmwareWindow_eq offset).mpr start
  refine routed_of_window (by rw [start]; nofun) ?_
  rw [write_firmware awake sound inside (fits.2.1 inside), route_firmware (all_firmware start fits)]
  exact ⟨rfl, rfl, rfl, rfl⟩

theorem routed_memory (start : storeOf offset.toNat = .memory) (fits : Fits offset data.length)
    (all : InOneStore offset data.length) : chip.Routed offset data := by
  have routed : chip.route offset.toNat data = chip.storeMemory offset.toNat data :=
    route_memory fun i inside => (all i inside).trans start
  constructor
  · intro notCrc idle
    rw [write_stores awake sound start fits notCrc idle, routed]
    exact ⟨rfl, rfl, rfl, rfl⟩
  · rintro rfl
    rw [write_begins awake sound fits rfl, routed]
    exact ⟨rfl, rfl, rfl, rfl⟩
  · intro starts
    obtain rfl := starts.control
    rw [write_control awake sound starts.two, routed]
    split
    · next copied =>
        obtain ⟨memory, sensors, rfl⟩ := copy?_changes copied
        exact ⟨memory, rfl, rfl, rfl⟩
    · exact ⟨_, rfl, rfl, rfl⟩

/-- A block that runs out of the place it starts in is refused, and changes nothing. A block in one
store goes where it belongs. Any other block starts in front of a window and runs into it, and all
of it goes to the memory. -/
theorem block_reaches_its_store :
    (¬ Fits offset data.length →
      ∃ text, chip.write offset data = (some (.error (busFault text)), chip)) ∧
    (Fits offset data.length → InOneStore offset data.length → chip.Routed offset data) ∧
    (Fits offset data.length → ¬ InOneStore offset data.length →
      storeOf offset.toNat = .memory ∧
        chip.write offset data = (some (.ok ()), chip.taken offset data)) := by
  refine ⟨write_of_not_fits awake sound, fun fits all => ?_, fun fits spread => ?_⟩
  · cases start : storeOf offset.toNat with
    | memory => exact routed_memory awake sound start fits all
    | page => exact routed_page awake sound start fits
    | firmware => exact routed_firmware awake sound start fits
  · have start := storeOf_of_fits fits spread
    refine ⟨start, write_stores awake sound start fits ?_ fun starts => ?_⟩
    · rintro rfl
      exact spread (inOneStore_of_past_windows (by decide) _)
    · obtain rfl := starts.control
      rw [starts.two] at spread
      exact spread (by unfold InOneStore; decide)

end Accepted

/-- Two bytes of firmware reach the firmware. -/
theorem fresh_firmware_routed :
    fresh.inReset = false ∧ (0x8000 : UInt16) ∉ fresh.faults.writes ∧
      fresh.Routed 0x8000 [1, 2] := by
  have fits : Fits 0x8000 [1, 2].length := by
    unfold Fits
    decide
  have all : InOneStore 0x8000 [1, 2].length := by
    unfold InOneStore
    decide
  refine ⟨rfl, by decide, ?_⟩
  exact (block_reaches_its_store rfl (by decide)).2.1 fits all

/-- A block that is accepted can have bytes in a window that never reach the firmware. -/
theorem block_spills :
    ¬ ∀ (chip : Chip) (offset : UInt16) (data : List UInt8), chip.Sound →
      (chip.write offset data).1 = some (.ok ()) →
        InOneStore offset data.length ∨
          ∀ i (inside : i < data.length), storeOf (offset.toNat + i) = .firmware →
            data[i] ∈ (chip.write offset data).2.firmware := by
  intro arrives
  have stored : fresh.write 0x7ffe [1, 2, 3, 4] =
      (some (.ok ()), fresh.taken 0x7ffe [1, 2, 3, 4]) :=
    write_ordinary rfl (by decide) (by constructor <;> decide) (by decide)
  rcases arrives fresh 0x7ffe [1, 2, 3, 4] ⟨rfl, rfl, rfl, rfl⟩ (congrArg Prod.fst stored) with
    one | arrived
  · exact absurd (one 2 (by decide)) (by decide)
  · have third := arrived 2 (by decide) (by decide)
    rw [stored] at third
    cases third

end Chip

end IspDriver.Simulation
