import IspDriver.Proofs.Simulation.Frame

/-!
Registers of a chip that answers: a block that the chip does nothing about is stored, a register
that nothing happens to is loaded, and the access leaves the rest of the bench alone.
-/

namespace IspDriver.Simulation

namespace Chip

variable {chip : Chip} {offset : UInt16} {data : List UInt8}

/-- The chip is out of reset, and neither its registers nor its copy engine fail. -/
structure Sound (chip : Chip) : Prop where
  awake : chip.inReset = false
  reads : chip.faults.reads = []
  writes : chip.faults.writes = []
  runs : chip.faults.copyStuck = false

/-- The chip once it has taken a block that it does nothing about. -/
def taken (chip : Chip) (offset : UInt16) (data : List UInt8) : Chip :=
  (chip.record none offset data).storeDirect offset data

theorem Sound.taken (sound : chip.Sound) : (chip.taken offset data).Sound :=
  ⟨sound.awake, sound.reads, sound.writes, sound.runs⟩

/-- A word at the control register is stored, and then a copy runs if there is one. -/
theorem write_control (awake : chip.inReset = false)
    (taken : Layout.copyControl.offset ∉ chip.faults.writes) (two : data.length = 2) :
    chip.write Layout.copyControl.offset data =
      match (chip.taken Layout.copyControl.offset data).copy? (Bytes.bigEndian data) with
      | some after => (some (.ok ()), after)
      | none => (none, chip.taken Layout.copyControl.offset data) := by
  have span : spanFault? Layout.copyControl.offset 2 = none := by decide
  have notPaged : inPageWindow Layout.copyControl.offset = false := by decide
  have notFirmware : inFirmwareWindow Layout.copyControl.offset = false := by decide
  have notCrc : Layout.copyControl.offset ≠ Layout.firmwareCrc.offset := by decide
  unfold Chip.taken
  cases copied : ((chip.record none Layout.copyControl.offset data).storeDirect
      Layout.copyControl.offset data).copy? (Bytes.bigEndian data) <;>
    simp [write, awake, taken, two, span, notPaged, writeDirect, notFirmware, notCrc, copied]

theorem Sound.write (sound : chip.Sound) (ordinary : IsOrdinary offset)
    (fits : offset.toNat + data.length ≤ spaceSize) :
    chip.write offset data = (some (.ok ()), chip.taken offset data) :=
  write_ordinary sound.awake (by simp [sound.writes]) ordinary fits

theorem Sound.read (sound : chip.Sound) {count : Nat} (notPaged : inPageWindow offset = false)
    (notCrc : offset ≠ Layout.firmwareCrc.offset) (span : spanFault? offset count = none) :
    ∃ found : Vector UInt8 count, chip.read offset count = (.ok found, chip) ∧
      found.toList = chip.memory.load offset.toNat count := by
  refine ⟨chip.readDirect offset count, ?_, ?_⟩
  · simp [Chip.read, sound.awake, sound.reads, span, notPaged]
  · simp [readDirect, Memory.load, notCrc]

theorem Sound.shows_taken (sound : chip.Sound) :
    (chip.taken offset data).Shows offset.toNat data :=
  ⟨sound.awake, Memory.load_store_same⟩

theorem Shows.taken {start : Nat} {bytes : List UInt8} (shows : chip.Shows start bytes)
    (apart : offset.toNat + data.length ≤ start ∨ start + bytes.length ≤ offset.toNat) :
    (chip.taken offset data).Shows start bytes := by
  have recorded : (chip.record none offset data).Shows start bytes := ⟨shows.awake, shows.loaded⟩
  exact recorded.storeDirect apart

/-- The chip once it has turned to a page and taken a block in its window. -/
def turned (chip : Chip) (page : UInt32) (offset : UInt16) (data : List UInt8) : Chip :=
  ((chip.taken Layout.pageSelect.offset (Bytes.ofUInt32 page)).record (some page) offset
    data).storePage page (offset.toNat - Register.windowStart.toNat) data

theorem Sound.write_turned (sound : chip.Sound) (page : UInt32) (inside : inPageWindow offset = true)
    (fits : offset.toNat + data.length ≤ 0xf000) :
    (chip.taken Layout.pageSelect.offset (Bytes.ofUInt32 page)).write offset data =
      (some (.ok ()), chip.turned page offset data) := by
  have selected := currentPage_storeDirect_pageSelect
    (chip.record none Layout.pageSelect.offset (Bytes.ofUInt32 page)) page
  have taken : (chip.taken Layout.pageSelect.offset (Bytes.ofUInt32 page)).Sound := sound.taken
  rw [write_page taken.awake (by simp [taken.writes]) inside fits]
  unfold Chip.turned Chip.taken
  rw [selected]
  rfl

theorem Shows.turned {start : Nat} {bytes : List UInt8} {page : UInt32}
    (shows : chip.Shows start bytes)
    (apart : Layout.pageSelect.offset.toNat + 4 ≤ start ∨
      start + bytes.length ≤ Layout.pageSelect.offset.toNat) :
    (chip.turned page offset data).Shows start bytes := by
  have selected : (chip.taken Layout.pageSelect.offset (Bytes.ofUInt32 page)).Shows start bytes :=
    shows.taken (by rw [Bytes.length_ofUInt32]; exact apart)
  exact ⟨selected.awake, selected.loaded⟩

theorem load_turned (chip : Chip) (page : UInt32) (offset : UInt16) (data : List UInt8) :
    ((chip.turned page offset data).pages page).load (offset.toNat - Register.windowStart.toNat)
      data.length = data := by
  simp only [Chip.turned, storePage, if_true]
  exact Memory.load_store_same

end Chip

namespace Bench

open Routine RegisterMap

variable {bench : Bench} {map : RegisterMap} {register : Register} {value : UInt32}

theorem load_gives (width : register.width = 2 ∨ register.width = 4) (direct : register.page = 0)
    (notPaged : Chip.inPageWindow register.offset = false)
    (notCrc : register.offset ≠ Layout.firmwareCrc.offset)
    (span : Chip.spanFault? register.offset register.width.toNat = none)
    (plain : bench.faults.overrides = []) (sound : bench.chip.Sound) :
    (RegisterMap.read register).Gives Bench.host map bench fun found after left =>
      after = map ∧ left.faults = bench.faults ∧ left.chip = bench.chip ∧
        found = Bytes.bigEndian
          (bench.chip.memory.load register.offset.toNat register.width.toNat) := by
  refine (read_direct_ends width direct plain).mono ?_
  intro outcome after left ended
  obtain ⟨same, faults, chip, result⟩ := ended
  obtain ⟨bytes, given, holds⟩ := sound.read notPaged notCrc span
  rw [given] at chip result
  rw [result]
  exact ⟨same, faults, chip, by rw [← holds, Bytes.bigEndian_eq]⟩

theorem store_gives (width : register.width = 2 ∨ register.width = 4) (direct : register.page = 0)
    (ordinary : Chip.IsOrdinary register.offset)
    (fits : register.offset.toNat + register.width.toNat ≤ Chip.spaceSize)
    (sound : bench.chip.Sound) :
    (RegisterMap.write register value).Gives Bench.host map bench fun _ after left =>
      after = map ∧ left.faults = bench.faults ∧
        left.chip = bench.chip.taken register.offset (busBytes register value) := by
  refine (write_direct_ends width direct).mono ?_
  intro outcome after left ended
  obtain ⟨same, faults, rfl, written⟩ := ended
  rw [← length_busBytes value width] at fits
  rw [sound.write ordinary fits] at written ⊢
  exact ⟨same, faults, written⟩

theorem selectPage_gives (unknown : map.page? = none) (paged : register.isPaged = true)
    (sound : bench.chip.Sound) :
    (RegisterMap.selectPage register).Gives Bench.host map bench fun _ _ left =>
      left.chip = bench.chip.taken Layout.pageSelect.offset (Bytes.ofUInt32 register.page) := by
  have selected : bench.chip.write Layout.pageSelect.offset (Bytes.ofUInt32 register.page) =
      (some (.ok ()), bench.chip.taken Layout.pageSelect.offset (Bytes.ofUInt32 register.page)) :=
    sound.write Chip.isOrdinary_pageSelect (by rw [Bytes.length_ofUInt32]; decide)
  unfold RegisterMap.selectPage Bus.write32 Gives
  rw [ends_bind, ends_state]
  simp only [followed, unknown, paged, Bool.not_true, Bool.false_or, reduceCtorEq, decide_false,
    Bool.false_eq_true, if_false]
  rw [ends_bind, ends_onError, ends_writeBlock, selected]
  exact Eq.refl (bench.chip.taken _ _)

theorem page_gives (width : register.width = 2 ∨ register.width = 4) (unknown : map.page? = none)
    (paged : register.isPaged = true) (inside : Chip.inPageWindow register.busOffset = true)
    (fits : register.busOffset.toNat + register.width.toNat ≤ 0xf000) (sound : bench.chip.Sound) :
    (RegisterMap.write register value).Gives Bench.host map bench fun _ _ left =>
      left.chip = bench.chip.turned register.page register.busOffset (busBytes register value) := by
  rw [← length_busBytes value width] at fits
  unfold RegisterMap.write Gives
  rw [ends_bind, ends_checkWidth width]
  simp only [followed]
  refine (selectPage_gives unknown paged sound).bind fun _ _ middle selected => ?_
  rw [ends_bind, ends_note]
  simp only [followed]
  rw [send_eq width, ends_onError, ends_writeBlock]
  simp only [Bench.host, selected]
  rw [sound.write_turned register.page inside fits]
  exact Eq.refl (bench.chip.turned _ _ _)

theorem wait_gives {S : Type} {state : S} {microseconds : UInt32} :
    (Host.wait microseconds).Gives Bench.host state bench fun _ after left =>
      after = state ∧ left = bench.happen (.wait microseconds) :=
  ⟨rfl, rfl⟩

theorem note_gives {level : Level} {text : String} :
    (note level text : Access Bench Unit).Gives Bench.host map bench fun _ _ left =>
      left.faults = bench.faults ∧ left.chip = bench.chip :=
  ⟨rfl, rfl⟩

end Bench

end IspDriver.Simulation
