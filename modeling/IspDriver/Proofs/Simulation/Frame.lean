import IspDriver.Proofs.Device.Traffic
import IspDriver.Proofs.Simulation.Bench
import IspDriver.Proofs.Simulation.Chip

/-!
What the chip keeps in a place of its bus space while blocks go to other places. The copy engine
can put bytes anywhere, so a place is only safe from a copy whose target is known.
-/

namespace IspDriver.Simulation

namespace Chip

variable {chip : Chip} {offset : UInt16} {start count : Nat} {bytes data : List UInt8}

/-- The chip is out of reset and holds these bytes from `start` on. -/
structure Shows (start : Nat) (bytes : List UInt8) (chip : Chip) : Prop where
  awake : chip.inReset = false
  loaded : chip.memory.load start bytes.length = bytes

theorem Shows.peek? {register : Register} {word : UInt16} (two : register.width = 2)
    (direct : register.page = 0) (fits : register.offset.toNat + 2 ≤ spaceSize)
    (shows : chip.Shows register.offset.toNat (Bytes.ofUInt16 word)) :
    chip.peek? register = some word.toUInt32 := by
  have loaded := shows.loaded
  rw [Bytes.length_ofUInt16] at loaded
  have count : bytesOf register = 2 := by simp [bytesOf, two]
  have notPaged : register.isPaged = false := by simp [Register.isPaged, direct]
  simp only [Chip.peek?, count, notPaged, load?, fits, loaded, Bool.false_eq_true, if_true, if_false,
    Option.map_some, Bytes.bigEndian_ofUInt16]

/-- A block that is stored apart from a place and starts neither a copy nor the checksum. -/
def Misses (start count : Nat) (offset : UInt16) (length : Nat) : Prop :=
  (offset.toNat + length ≤ start ∨ start + count ≤ offset.toNat) ∧
    inFirmwareWindow offset = false ∧ offset ≠ Layout.copyControl.offset

instance {length : Nat} : Decidable (Misses start count offset length) :=
  inferInstanceAs (Decidable (_ ∧ _ ∧ _))

theorem Misses.mono {length shorter : Nat} (misses : Misses start count offset length)
    (le : shorter ≤ length) : Misses start count offset shorter := by
  obtain ⟨apart, others⟩ := misses
  refine ⟨?_, others⟩
  omega

theorem Shows.word32 {word : UInt32} (shows : chip.Shows offset.toNat (Bytes.ofUInt32 word)) :
    chip.word32 offset = word := by
  have loaded := shows.loaded
  rw [Bytes.length_ofUInt32] at loaded
  unfold Chip.word32
  rw [loaded, Bytes.bigEndian_ofUInt32]

theorem Shows.storeDirect (shows : Shows start bytes chip)
    (apart : offset.toNat + data.length ≤ start ∨ start + bytes.length ≤ offset.toNat) :
    Shows start bytes (chip.storeDirect offset data) := by
  refine ⟨shows.awake, ?_⟩
  have same : (chip.memory.store offset.toNat data).load start bytes.length =
      chip.memory.load start bytes.length :=
    Memory.load_store_outside (by omega)
  exact same.trans shows.loaded

theorem read_lanes (chip : Chip) (offset : UInt16) (count : Nat) :
    ∃ lanes, (chip.read offset count).2 = { chip with lanes } := by
  unfold read
  split
  · exact ⟨_, rfl⟩
  · split
    · exact ⟨_, rfl⟩
    · split
      · exact ⟨_, rfl⟩
      · split
        · simp only [readPage]
          split
          · split <;> exact ⟨_, rfl⟩
          · exact ⟨_, rfl⟩
        · exact ⟨_, rfl⟩

/-- A read of an ordinary block is refused, or finds what the memory holds. -/
theorem read_cases (chip : Chip) (ordinary : IsOrdinary offset)
    (fits : offset.toNat + count ≤ spaceSize) :
    (∃ error, chip.read offset count = (.error error, chip)) ∨
      chip.inReset = false ∧ ∃ found : Vector UInt8 count,
        chip.read offset count = (.ok found, chip) ∧
          found.toList = chip.memory.load offset.toNat count := by
  cases awake : chip.inReset with
  | true => exact .inl ⟨busFault "device held in reset", by simp [read, awake]⟩
  | false =>
      by_cases faulty : offset ∈ chip.faults.reads
      · exact .inl ⟨_, read_of_fault awake faulty⟩
      · exact .inr ⟨rfl, read_ordinary awake faulty ordinary fits⟩

/-- A write is refused and changes nothing, or it is taken. -/
theorem write_cases (chip : Chip) (offset : UInt16) (data : List UInt8) :
    (∃ error, chip.write offset data = (some (.error error), chip)) ∨
      (inPageWindow offset = true ∧ chip.write offset data =
        (some (.ok ()), (chip.record (some chip.currentPage) offset data).storePage chip.currentPage
          (offset - Register.windowStart).toNat data)) ∨
      (inPageWindow offset = false ∧ chip.write offset data = chip.writeDirect offset data) := by
  unfold write
  split
  · exact .inl ⟨_, rfl⟩
  · split
    · exact .inl ⟨_, rfl⟩
    · split
      · exact .inl ⟨_, rfl⟩
      · split
        · next inside => exact .inr (.inl ⟨inside, rfl⟩)
        · next outside => exact .inr (.inr ⟨by simpa using outside, rfl⟩)

/-- A block that misses a place is answered, and leaves the place alone. -/
theorem Shows.write (shows : Shows start bytes chip)
    (misses : Misses start bytes.length offset data.length) :
    ∃ reply, (chip.write offset data).1 = some reply ∧
      Shows start bytes (chip.write offset data).2 := by
  obtain ⟨apart, notFirmware, notControl⟩ := misses
  rcases write_cases chip offset data with ⟨error, refused⟩ | ⟨-, paged⟩ | ⟨-, direct⟩
  · rw [refused]
    exact ⟨_, rfl, shows⟩
  · rw [paged]
    exact ⟨_, rfl, shows.awake, shows.loaded⟩
  · have recorded : Shows start bytes (chip.record none offset data) :=
      ⟨shows.awake, shows.loaded⟩
    have stored := recorded.storeDirect apart
    simp only [direct, writeDirect, notFirmware, notControl, Bool.false_eq_true, if_false,
      false_and]
    split
    · exact ⟨_, rfl, stored.awake, stored.loaded⟩
    · exact ⟨_, rfl, stored⟩

/-- A place that holds no register of the copy engine. -/
def BesideEngine (start count : Nat) : Prop :=
  start + count ≤ Layout.copySource.offset.toNat ∨ Layout.copyControl.offset.toNat + 2 ≤ start

instance : Decidable (BesideEngine start count) :=
  inferInstanceAs (Decidable (_ ∨ _))

/-- A block that lies in the registers of the copy engine is apart from a place beside them. -/
theorem BesideEngine.apart {length : Nat} (beside : BesideEngine start count)
    (above : Layout.copySource.offset.toNat ≤ offset.toNat)
    (below : offset.toNat + length ≤ Layout.copyControl.offset.toNat + 2) :
    offset.toNat + length ≤ start ∨ start + count ≤ offset.toNat := by
  rcases beside with low | high
  · exact .inr (Nat.le_trans low above)
  · exact .inl (Nat.le_trans below high)

/-- A place that holds neither a register of the copy engine nor the page select. -/
def ClearOfEngine (start count : Nat) : Prop :=
  start + count ≤ Layout.copySource.offset.toNat ∨
    (Layout.copyControl.offset.toNat + 2 ≤ start ∧
      start + count ≤ Layout.pageSelect.offset.toNat)

instance : Decidable (ClearOfEngine start count) :=
  inferInstanceAs (Decidable (_ ∨ _))

theorem ClearOfEngine.beside (clear : ClearOfEngine start count) : BesideEngine start count :=
  clear.imp_right And.left

theorem ClearOfEngine.apart_pageSelect {length : Nat} (clear : ClearOfEngine start count) :
    Layout.pageSelect.offset.toNat + length ≤ start ∨
      start + count ≤ Layout.pageSelect.offset.toNat := by
  rcases clear with low | ⟨-, below⟩
  · exact .inr (Nat.le_trans low (by decide))
  · exact .inr below

/-- How many bytes a copy moves. Of a sensor register there are two. -/
def copyLength (chip : Chip) (control : UInt32) : Nat :=
  let size := max 1 (min 4 (chip.word32 Layout.copySize.offset).toNat)
  if (control >>> 4) &&& 3 = 3 then min 2 size else size

theorem length_of_copied? {control : UInt32} {block : List UInt8}
    (copied : chip.copied? control = some block) : block.length = chip.copyLength control := by
  simp only [copied?] at copied
  simp only [copyLength]
  split at copied
  · next sensor =>
      cases copied
      rw [if_pos sensor]
      split
      · next one =>
          rw [one]
          rfl
      · rw [Bytes.length_ofUInt16]
        omega
  · next notSensor =>
      simp only [load?] at copied
      rw [if_neg notSensor]
      split at copied
      · cases copied
        exact Memory.length_load ..
      · cases copied

theorem length_copied? {control : UInt32} {block : List UInt8}
    (taken : chip.copied? control = some block) : block.length ≤ 4 := by
  rw [length_of_copied? taken, copyLength]
  split <;> omega

/-- A copy that is not started changes nothing. Otherwise bytes are taken and placed, and then the
engine is idle. -/
theorem copy?_cases {control : UInt32} {after : Chip} (copied : chip.copy? control = some after) :
    after = chip ∨ ∃ block moved, control &&& Layout.Copy.modeMask = Layout.Copy.start ∧
      chip.copied? control = some block ∧ chip.place? control block = some moved ∧
        after = moved.storeDirect Layout.copyControl.offset
          (Bytes.ofUInt16 (control &&& ~~~Layout.Copy.modeMask).toUInt16) := by
  simp only [Chip.copy?] at copied
  split at copied
  · next starts =>
      cases taken : chip.copied? control with
      | none => simp [taken] at copied
      | some block =>
          cases placed : chip.place? control block with
          | none => simp [taken, placed] at copied
          | some moved =>
              simp only [taken, placed, Option.bind_eq_bind, Option.bind_some, Option.pure_def,
                Option.some.injEq] at copied
              exact .inr ⟨block, moved, starts.1, rfl, placed, copied.symm⟩
  · cases copied
    exact .inl rfl

/-- Where the copy engine puts the bytes: in a sensor, or in its own target register. -/
def LandsSafely (chip : Chip) (control : UInt32) : Prop :=
  (control >>> 8) &&& 3 = 3 ∨
    (chip.word32 Layout.copyTarget.offset).toUInt16 = Layout.copyTarget.offset

theorem Shows.place? {control : UInt32} {after : Chip} (shows : Shows start bytes chip)
    (beside : BesideEngine start bytes.length) (short : data.length ≤ 4)
    (safe : LandsSafely chip control) (placed : chip.place? control data = some after) :
    Shows start bytes after := by
  simp only [Chip.place?] at placed
  split at placed
  · cases placed
    exact ⟨shows.awake, shows.loaded⟩
  · next toMemory =>
      have target := safe.resolve_left toMemory
      simp only [target, store?] at placed
      split at placed
      · cases placed
        refine shows.storeDirect (beside.apart (by decide) ?_)
        have room : Layout.copyTarget.offset.toNat + 4 ≤ Layout.copyControl.offset.toNat + 2 := by
          decide
        omega
      · cases placed

theorem Shows.copy? {control : UInt32} {after : Chip} (shows : Shows start bytes chip)
    (beside : BesideEngine start bytes.length)
    (safe : control &&& Layout.Copy.modeMask = Layout.Copy.start → LandsSafely chip control)
    (copied : chip.copy? control = some after) : Shows start bytes after := by
  rcases copy?_cases copied with rfl | ⟨block, moved, starts, taken, placed, rfl⟩
  · exact shows
  · have kept := shows.place? beside (length_copied? taken) (safe starts) placed
    exact kept.storeDirect (beside.apart (by decide) (Nat.le_refl _))

/-- Where the engine's own control word is stored makes no difference to where a copy lands. -/
theorem LandsSafely.stored {control : UInt32} {page? : Option UInt32}
    (safe : LandsSafely chip control) :
    LandsSafely ((chip.record page? Layout.copyControl.offset data).storeDirect
      Layout.copyControl.offset data) control := by
  have same : (chip.memory.store Layout.copyControl.offset.toNat data).load
      Layout.copyTarget.offset.toNat 4 = chip.memory.load Layout.copyTarget.offset.toNat 4 :=
    Memory.load_store_outside (.inl (by decide))
  refine safe.imp_right fun known => ?_
  unfold word32 at known ⊢
  rw [Chip.storeDirect, Chip.record, same]
  exact known

/-- A block that is stored apart from a place leaves it alone, if firmware in the block does not
change the place through the checksum, nor a copy that the block starts by where it lands. -/
theorem Shows.write_apart (shows : Shows start bytes chip)
    (beside : BesideEngine start bytes.length)
    (apart : offset.toNat + data.length ≤ start ∨ start + bytes.length ≤ offset.toNat)
    (sums : inFirmwareWindow offset = true → Layout.firmwareCrc.offset.toNat + 2 ≤ start ∨
      start + bytes.length ≤ Layout.firmwareCrc.offset.toNat)
    (safe : offset = Layout.copyControl.offset → data.length = 2 →
      Bytes.bigEndian data &&& Layout.Copy.modeMask = Layout.Copy.start →
        LandsSafely chip (Bytes.bigEndian data)) :
    Shows start bytes (chip.write offset data).2 := by
  rcases write_cases chip offset data with ⟨error, refused⟩ | ⟨-, paged⟩ | ⟨-, direct⟩
  · rw [refused]
    exact shows
  · rw [paged]
    exact ⟨shows.awake, shows.loaded⟩
  · have recorded : Shows start bytes (chip.record none offset data) :=
      ⟨shows.awake, shows.loaded⟩
    have stored := recorded.storeDirect apart
    simp only [direct, writeDirect]
    split
    · next firmware =>
        have kept := @Shows.storeDirect _ Layout.firmwareCrc.offset _ _
          (Bytes.ofUInt16 (Crc.absorbAll (Bytes.bigEndian (chip.memory.load
            Layout.firmwareCrc.offset.toNat 2)).toUInt16 data)) recorded (sums firmware)
        exact ⟨kept.awake, kept.loaded⟩
    · split
      · exact ⟨stored.awake, stored.loaded⟩
      · split
        · next control =>
            obtain ⟨rfl, short⟩ := control
            split
            · next after copied =>
                exact stored.copy? beside (fun starts => (safe rfl short starts).stored) copied
            · exact stored
        · exact stored

/-- A copy that is started with a known target leaves a place clear of the copy engine alone. -/
theorem Shows.write_control {value : UInt16} (shows : Shows start bytes chip)
    (beside : BesideEngine start bytes.length) (safe : LandsSafely chip value.toUInt32) :
    Shows start bytes (chip.write Layout.copyControl.offset (Bytes.ofUInt16 value)).2 := by
  refine shows.write_apart beside (beside.apart (by decide) (Nat.le_refl _)) ?_ ?_
  · intro firmware
    exact absurd firmware (by decide)
  · intro _ _ _
    rwa [Bytes.bigEndian_ofUInt16]

theorem place?_changes {control : UInt32} {after : Chip}
    (placed : chip.place? control data = some after) :
    ∃ memory sensors, after = { chip with memory, sensors } := by
  simp only [place?] at placed
  split at placed
  · cases placed
    exact ⟨_, _, rfl⟩
  · simp only [store?] at placed
    split at placed
    · cases placed
      exact ⟨_, _, rfl⟩
    · cases placed

/-- A copy changes the memory, or a sensor. -/
theorem copy?_changes {control : UInt32} {after : Chip} (copied : chip.copy? control = some after) :
    ∃ memory sensors, after = { chip with memory, sensors } := by
  rcases copy?_cases copied with rfl | ⟨block, moved, -, -, placed, rfl⟩
  · exact ⟨_, _, rfl⟩
  · obtain ⟨memory, sensors, rfl⟩ := place?_changes placed
    exact ⟨_, _, rfl⟩

theorem frame_copy? {control : UInt32} {after : Chip} (copied : chip.copy? control = some after) :
    after.inReset = chip.inReset ∧ after.pages = chip.pages := by
  obtain ⟨memory, sensors, rfl⟩ := copy?_changes copied
  exact ⟨rfl, rfl⟩

theorem frame_writeDirect (chip : Chip) (offset : UInt16) (data : List UInt8) :
    (chip.writeDirect offset data).2.inReset = chip.inReset ∧
      (chip.writeDirect offset data).2.pages = chip.pages := by
  simp only [writeDirect]
  split
  · exact ⟨rfl, rfl⟩
  · split
    · exact ⟨rfl, rfl⟩
    · split
      · split
        · next copied =>
            have kept := frame_copy? copied
            exact kept
        · exact ⟨rfl, rfl⟩
      · exact ⟨rfl, rfl⟩

theorem inReset_write (chip : Chip) (offset : UInt16) (data : List UInt8) :
    (chip.write offset data).2.inReset = chip.inReset := by
  rcases write_cases chip offset data with ⟨error, refused⟩ | ⟨-, paged⟩ | ⟨-, direct⟩
  · rw [refused]
  · rw [paged]
    rfl
  · rw [direct]
    exact (frame_writeDirect chip offset data).1

/-- Only the selected page takes what is written. -/
theorem pages_write {page : UInt32} (other : page ≠ chip.currentPage) :
    (chip.write offset data).2.pages page = chip.pages page := by
  rcases write_cases chip offset data with ⟨error, refused⟩ | ⟨-, paged⟩ | ⟨-, direct⟩
  · rw [refused]
  · rw [paged]
    exact if_neg other
  · rw [direct]
    exact congrFun (frame_writeDirect chip offset data).2 page

/-- A block at `offset` gets no further than the bus. -/
def Refuses (chip : Chip) (offset : UInt16) : Prop :=
  chip.inReset = true ∨ offset ∈ chip.faults.writes

instance : Decidable (Refuses chip offset) :=
  inferInstanceAs (Decidable (_ ∨ _))

theorem write_refused (refuses : Refuses chip offset) :
    ∃ error, chip.write offset data = (some (.error error), chip) := by
  rcases refuses with asleep | faulty
  · exact ⟨_, write_of_inReset asleep⟩
  · cases awake : chip.inReset with
    | true => exact ⟨_, write_of_inReset awake⟩
    | false => exact ⟨_, write_of_fault awake faulty⟩

theorem write_taken (takes : ¬ Refuses chip offset) (ordinary : IsOrdinary offset)
    (fits : offset.toNat + data.length ≤ spaceSize) :
    (chip.write offset data).1 = some (.ok ()) ∧
      Shows offset.toNat data (chip.write offset data).2 ∧
      (chip.write offset data).2.faults = chip.faults := by
  obtain ⟨awake, sound⟩ := not_or.mp takes
  have awake : chip.inReset = false := by simpa using awake
  rw [write_ordinary awake sound ordinary fits]
  exact ⟨rfl, ⟨awake, Memory.load_store_same⟩, rfl⟩

end Chip

namespace Bench

open Routine RegisterMap

variable {bench : Bench} {map : RegisterMap} {register : Register} {value : UInt32} {start : Nat}
  {bytes : List UInt8}

theorem write_fails (width : register.width = 2 ∨ register.width = 4) (direct : register.page = 0)
    (refuses : bench.chip.Refuses register.offset) :
    (RegisterMap.write register value).Fails Bench.host map bench
      fun _ left => left.chip = bench.chip := by
  refine (write_direct_ends width direct).mono ?_
  intro outcome after left ended
  obtain ⟨-, -, rfl, written⟩ := ended
  obtain ⟨error, refused⟩ := @Chip.write_refused _ _ (busBytes register value) refuses
  rw [refused] at written ⊢
  exact ⟨⟨error, rfl⟩, written⟩

theorem write_gives (width : register.width = 2 ∨ register.width = 4) (direct : register.page = 0)
    (ordinary : Chip.IsOrdinary register.offset)
    (fits : register.offset.toNat + register.width.toNat ≤ Chip.spaceSize)
    (takes : ¬ bench.chip.Refuses register.offset) :
    (RegisterMap.write register value).Gives Bench.host map bench fun _ _ left =>
      left.chip.faults = bench.chip.faults ∧
        left.chip.Shows register.offset.toNat (busBytes register value) := by
  refine (write_direct_ends width direct).mono ?_
  intro outcome after left ended
  obtain ⟨-, -, rfl, written⟩ := ended
  rw [← length_busBytes value width] at fits
  obtain ⟨accepted, shows, faults⟩ := Chip.write_taken takes ordinary fits
  rw [accepted]
  simp only [Outcome.ofReply, followed]
  rw [written]
  exact ⟨faults, shows⟩

theorem replied_read {kept broken : Bench → Prop} {offset : UInt16} {count : Nat}
    (holds : ∀ lanes, kept { bench with chip := { bench.chip with lanes } }) :
    Replied kept broken (Bench.host.answer (.read offset count) bench) := by
  obtain ⟨lanes, same⟩ := Chip.read_lanes bench.chip offset count
  have kept := holds lanes
  rw [← same] at kept
  simp only [Bench.host, Bench.read]
  generalize bench.chip.read offset count = answer at kept ⊢
  obtain ⟨reply, chip⟩ := answer
  split
  · split <;> exact kept
  · exact kept

theorem replied_write {kept : Bench → Prop} {offset : UInt16} {data : List UInt8}
    (holds : kept { bench with chip := (bench.chip.write offset data).2 }) :
    Replied kept kept (Bench.host.answer (.write offset data) bench) := by
  simp only [Bench.host]
  cases (bench.chip.write offset data).1 <;> exact holds

/-- Blocks that miss a place leave it alone, and none of them stays without an answer. -/
theorem undisturbed_shows {broken : Bench → Prop}
    (clear : Chip.ClearOfEngine start bytes.length) :
    Undisturbed Bench.host (fun offset data => Chip.Misses start bytes.length offset data.length)
      (fun bench => bench.chip.Shows start bytes) broken where
  read _ _ _ shows := replied_read fun _ => ⟨shows.awake, shows.loaded⟩
  write offset data bench misses shows := by
    obtain ⟨reply, answered, kept⟩ := shows.write misses
    simp only [Bench.host, answered]
    exact kept
  wait _ _ shows := shows
  noted _ _ shows := shows
  select page := ⟨clear.apart_pageSelect, by decide, by decide⟩

theorem maySend_of_misses {count : Nat} (misses : Chip.Misses start count register.busOffset 4) :
    MaySend (fun offset data => Chip.Misses start count offset data.length) register := by
  intro width value
  refine misses.mono ?_
  rw [length_busBytes value width]
  rcases width with two | four
  · rw [two]
    decide
  · rw [four]
    decide

theorem offset_laneStatus (port lane : UInt32) :
    (Layout.laneStatus port lane).offset = 8 + lane.toUInt16 * 0x20 := by
  have page : port.toUInt16 * (0x50000 : UInt32).toUInt16 = 0 := by
    have zero : (0x50000 : UInt32).toUInt16 = 0 := by decide
    rw [zero, UInt16.mul_zero]
  have width : ((4 : UInt32) <<< 24).toUInt16 = 0 := by decide
  have address : (0x00ffffff : UInt32).toUInt16 = -1 := by decide
  unfold Layout.laneStatus Register.of32 Register.ofWidth Register.offset
  simp only [UInt32.toUInt16_or, UInt32.toUInt16_and, UInt32.toUInt16_add, UInt32.toUInt16_mul,
    page, width, address]
  simp

/-- Whatever page a port comes to, its lane registers lie at the start of it. -/
theorem clearsLatches_of_misses {count : Nat}
    (misses : ([0, 1, 2, 3] : List UInt32).all fun lane => [0, Register.windowStart].all fun page =>
      decide (Chip.Misses start count (page + (8 + lane.toUInt16 * 0x20)) 4)) :
    Diagnostics.ClearsLatches fun offset data => Chip.Misses start count offset data.length := by
  simp only [List.all_eq_true, decide_eq_true_eq] at misses
  intro port lane member
  refine maySend_of_misses ?_
  unfold Register.busOffset
  rw [offset_laneStatus]
  split
  · exact misses lane member Register.windowStart (by decide)
  · have direct := misses lane member 0 (by decide)
    rwa [UInt16.zero_add] at direct

/-- Accesses change the chip, and waits and notes are written down; nothing else on the bench
changes. -/
theorem undisturbed_besides {kept : Bench → Prop}
    (chips : ∀ bench chip, kept bench → kept { bench with chip })
    (waits : ∀ bench microseconds, kept bench → kept (bench.happen (.wait microseconds)))
    (notes : ∀ bench notes, kept bench → kept { bench with notes }) :
    Undisturbed Bench.host (fun _ _ => True) kept kept where
  read _ _ bench holds := replied_read fun _ => chips bench _ holds
  write _ _ bench _ holds := replied_write (chips bench _ holds)
  wait microseconds bench holds := waits bench microseconds holds
  noted _ bench holds := notes bench _ holds
  select _ := trivial

/-- A write of the control register changes the chip alone, as the chip's own write does. -/
theorem control_ends {control : UInt32} {kept : RegisterMap → Bench → Prop}
    (chips : ∀ left, left.chip = (bench.chip.write Layout.copyControl.offset
      (Bytes.ofUInt16 control.toUInt16)).2 → kept map left) :
    (RegisterMap.write Layout.copyControl control).Ends Bench.host map bench
      (unlessAborted kept kept) := by
  refine (write_direct_ends (by decide) (by decide)).mono ?_
  intro outcome after left ended
  obtain ⟨rfl, -, -, written⟩ := ended
  rw [busBytes_of_two (by decide)] at written
  have holds := chips left written
  cases outcome with
  | done _ => exact holds
  | failed error => exact holds
  | aborted => exact holds

theorem target_yields :
    (RegisterMap.write Layout.copyTarget value).Yields Bench.host map bench
      fun _ _ left => left.chip.word32 Layout.copyTarget.offset = value := by
  by_cases refuses : bench.chip.Refuses Layout.copyTarget.offset
  · exact (write_fails (by decide) (by decide) refuses).yields
  · have given := @write_gives bench map Layout.copyTarget value (by decide) (by decide)
      (by constructor <;> decide) (by decide) refuses
    refine Ends.yields given ?_
    intro _ after left given
    have shows := given.2
    rw [busBytes_of_four (by decide)] at shows
    exact shows.word32

/-- Sensor accesses are harmless if the writes that describe a copy are, and so is the start of a
copy that lands safely: a copy from a sensor is described to land in the engine itself. -/
theorem harmless_of_landing {allowed : UInt16 → List UInt8 → Prop}
    {kept : RegisterMap → Bench → Prop} (carries : Carries Bench.host allowed kept kept)
    (describes : ∀ register ∈ [Layout.copySize, Layout.copySource, Layout.copyTarget],
      MaySend allowed register)
    (starts : ∀ map bench left (control : UInt16), kept map bench →
      bench.chip.LandsSafely control.toUInt32 →
      left.chip = (bench.chip.write Layout.copyControl.offset (Bytes.ofUInt16 control)).2 →
        kept map left) :
    Bridge.Harmless Bench.host kept kept := by
  have size := describes Layout.copySize (by decide)
  have source := describes Layout.copySource (by decide)
  have target := describes Layout.copyTarget (by decide)
  refine Bridge.harmless_of_copies carries (fun port device register => ?_)
    fun port device register value => ?_
  · refine (carries.keeps_write size).bind fun _ => (carries.keeps_write source).bind fun _ => ?_
    intro map bench holds
    refine Ends.bind (Ends.and (carries.keeps_write target map bench holds) target_yields) ?_
      (fun _ _ _ ended => ended.1) (fun _ _ ended => ended.1)
    intro _ after left ended
    obtain ⟨holds, aimed⟩ := ended
    have safe : left.chip.LandsSafely
        (Layout.Copy.fromSensor ||| Layout.Copy.start).toUInt16.toUInt32 := by
      refine .inr ?_
      rw [aimed]
      decide
    have started := @control_ends left after (Layout.Copy.fromSensor ||| Layout.Copy.start) kept
      fun final => starts after left final _ holds safe
    exact started.bind (fun _ _ _ kept => kept) (fun _ _ _ kept => kept) (fun _ _ kept => kept)
  · refine (carries.keeps_write size).bind fun _ => (carries.keeps_write source).bind fun _ => ?_
    refine (carries.keeps_write target).bind fun _ => ?_
    have started : Keeps Bench.host kept kept
        (RegisterMap.write Layout.copyControl (Layout.Copy.toSensor ||| Layout.Copy.start)) :=
      fun map bench holds => control_ends fun left =>
        starts map bench left _ holds (.inl (by decide))
    exact started.bind fun _ => keeps_done

theorem harmless_shows (clear : Chip.ClearOfEngine start bytes.length) :
    Bridge.Harmless Bench.host (fun _ bench => bench.chip.Shows start bytes)
      (fun _ bench => bench.chip.Shows start bytes) := by
  refine harmless_of_landing (undisturbed_shows clear).carries (fun register described => ?_) ?_
  · have engine : ∀ register ∈ [Layout.copySize, Layout.copySource, Layout.copyTarget],
        Layout.copySource.offset.toNat ≤ register.busOffset.toNat ∧
          register.busOffset.toNat + 4 ≤ Layout.copyControl.offset.toNat + 2 ∧
          Chip.inFirmwareWindow register.busOffset = false ∧
          register.busOffset ≠ Layout.copyControl.offset := by decide
    obtain ⟨above, below, others⟩ := engine register described
    exact maySend_of_misses ⟨clear.beside.apart above below, others⟩
  · intro map bench left control shows safe written
    rw [written]
    exact shows.write_control clear.beside safe

end Bench

end IspDriver.Simulation
