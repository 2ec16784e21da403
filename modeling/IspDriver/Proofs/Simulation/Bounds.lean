import IspDriver.Proofs.Simulation.Effect
import IspDriver.Simulation.Inspection

/-!
How far accesses of the chip model reach. A block is checked against the end of the place it starts
in, so what lies past the end of the memory, or past the end of a page, is neither looked at nor
changed. A copy that a block starts is not checked: it stays without an answer exactly if it runs
past the end of the memory.
-/

namespace IspDriver.Simulation

namespace Memory

variable {memory beyond : Memory} {start count size address : Nat} {data : List UInt8}

/-- The memory with what another one holds from `size` on. -/
def continued (memory beyond : Memory) (size : Nat) : Memory where
  byte address := if address < size then memory.byte address else beyond.byte address

theorem byte_continued (memory beyond : Memory) (inside : address < size) :
    (memory.continued beyond size).byte address = memory.byte address :=
  if_pos inside

theorem load_continued (within : start + count ≤ size) :
    (memory.continued beyond size).load start count = memory.load start count :=
  load_congr fun i _ => byte_continued memory beyond (by omega)

theorem store_continued (within : start + data.length ≤ size) :
    (memory.continued beyond size).store start data =
      (memory.store start data).continued beyond size := by
  apply eq_of_byte
  intro address
  by_cases inside : start ≤ address ∧ address < start + data.length
  · obtain ⟨place, rfl⟩ := Nat.exists_eq_add_of_le inside.1
    have placed : place < data.length := by omega
    rw [byte_store_inside _ _ placed, byte_continued _ _ (by omega), byte_store_inside _ _ placed]
  · rw [byte_store_outside (by omega)]
    simp only [continued]
    rw [byte_store_outside (by omega)]

theorem continued_blank_iff :
    memory.continued .blank size = memory ↔
      ∀ address, size ≤ address → memory.byte address = 0 := by
  constructor
  · intro same address past
    rw [← same]
    exact if_neg (by omega)
  · intro empty
    apply eq_of_byte
    intro address
    simp only [continued]
    split
    · rfl
    · exact (empty address (by omega)).symm

end Memory

namespace Chip

variable {chip after : Chip} {beyond : Memory} {offset : UInt16} {data block : List UInt8}
  {count : Nat} {control : UInt32}

/-! ## Replies -/

/-- An error, if there is one, is one that the bus reports. -/
def Reported {α : Type} (reply : Except Error α) : Prop :=
  ∀ error, reply = .error error → ∃ text, error = busFault text

theorem reported_ok {α : Type} (value : α) : Reported (.ok value) :=
  nofun

theorem reported_busFault {α : Type} (text : String) :
    Reported (.error (busFault text) : Except Error α) := by
  intro error same
  cases same
  exact ⟨text, rfl⟩

theorem reported_spanFault {α : Type} {error : Error}
    (crosses : spanFault? offset count = some error) : Reported (.error error : Except Error α) := by
  simp only [spanFault?] at crosses
  split at crosses
  · cases crosses
    exact reported_busFault _
  · split at crosses
    · cases crosses
      exact reported_busFault _
    · split at crosses
      · cases crosses
        exact reported_busFault _
      · cases crosses

theorem read_reported (chip : Chip) (offset : UInt16) (count : Nat) :
    Reported (chip.read offset count).1 := by
  unfold read
  split
  · exact reported_busFault _
  · split
    · exact reported_busFault _
    · split
      · next crosses => exact reported_spanFault crosses
      · split
        · simp only [readPage]
          split
          · split
            · exact reported_ok _
            · exact reported_busFault _
            · exact reported_ok _
          · exact reported_ok _
        · exact reported_ok _

/-! ## Past the end -/

/-- The chip with other bytes past the end of its memory and of its pages. -/
def continued (chip : Chip) (beyond : Memory) : Chip :=
  { chip with
    memory := chip.memory.continued beyond spaceSize
    pages := fun page => (chip.pages page).continued beyond Register.windowSize }

theorem word32_continued (within : offset.toNat + 4 ≤ spaceSize) :
    (chip.continued beyond).word32 offset = chip.word32 offset :=
  congrArg Bytes.bigEndian (Memory.load_continued within)

theorem currentPage_continued : (chip.continued beyond).currentPage = chip.currentPage :=
  word32_continued (by decide)

theorem storeDirect_continued (within : offset.toNat + data.length ≤ spaceSize) :
    (chip.continued beyond).storeDirect offset data =
      (chip.storeDirect offset data).continued beyond := by
  simp only [storeDirect, continued, Memory.store_continued within]

theorem storePage_continued {page : UInt32} {start : Nat}
    (within : start + data.length ≤ Register.windowSize) :
    (chip.continued beyond).storePage page start data =
      (chip.storePage page start data).continued beyond := by
  simp only [storePage, continued, Memory.store_continued within, Chip.mk.injEq, true_and, and_true]
  funext other
  split <;> rfl

/-- A block that fits in the page window lies in the page. -/
theorem position_le (inside : inPageWindow offset = true) (fits : Fits offset count) :
    (offset - Register.windowStart).toNat + count ≤ Register.windowSize := by
  have bounds := inPageWindow_iff.mp inside
  have ends := fits.1 inside
  have start : (offset - Register.windowStart).toNat = offset.toNat - 0xe000 :=
    UInt16.toNat_sub_of_le offset Register.windowStart (UInt16.le_iff_toNat_le.mpr bounds.1)
  rw [start, Register.windowSize]
  omega

theorem vector_congr {byte other : Nat → UInt8} (same : ∀ i < count, byte i = other i) :
    vector count byte = vector count other := by
  simp only [vector]
  exact congrArg Vector.ofFn (funext fun i => same i.val i.isLt)

theorem readPage_continued
    (within : (offset - Register.windowStart).toNat + count ≤ Register.windowSize) :
    (chip.continued beyond).readPage offset count =
      ((chip.readPage offset count).1, (chip.readPage offset count).2.continued beyond) := by
  have shown : vector count (fun i => ((chip.continued beyond).pages chip.currentPage).byte
        ((offset - Register.windowStart).toNat + i)) =
      vector count fun i => (chip.pages chip.currentPage).byte
        ((offset - Register.windowStart).toNat + i) :=
    vector_congr fun i inside => Memory.byte_continued _ _ (by omega)
  have lanes : (chip.continued beyond).lanes = chip.lanes := rfl
  simp only [readPage, currentPage_continued, shown, lanes]
  split
  · split <;> rfl
  · rfl

theorem readDirect_continued (within : offset.toNat + count ≤ spaceSize) :
    (chip.continued beyond).readDirect offset count = chip.readDirect offset count := by
  unfold readDirect
  refine vector_congr fun i inside => ?_
  have same : (chip.continued beyond).memory.byte (offset.toNat + i) =
      chip.memory.byte (offset.toNat + i) :=
    Memory.byte_continued _ _ (by omega)
  simp only [same]
  rfl

/-- A read does not look past the end. -/
theorem read_continued (chip : Chip) (beyond : Memory) (offset : UInt16) (count : Nat) :
    (chip.continued beyond).read offset count =
      ((chip.read offset count).1, (chip.read offset count).2.continued beyond) := by
  have asleep : (chip.continued beyond).inReset = chip.inReset := rfl
  have faults : (chip.continued beyond).faults = chip.faults := rfl
  simp only [read, asleep, faults]
  split
  · rfl
  · split
    · rfl
    · split
      · rfl
      · next accepted =>
          have fits := fits_of_spanFault? accepted
          split
          · next inside => exact readPage_continued (position_le inside fits)
          · rw [readDirect_continued fits.2.2]

/-! ## Copies -/

/-- A copy from memory that starts too close to its end. -/
def SourceOverruns (chip : Chip) (control : UInt32) : Prop :=
  (control >>> 4) &&& 3 ≠ 3 ∧ spaceSize <
    (chip.word32 Layout.copySource.offset).toUInt16.toNat + chip.copyLength control

/-- A copy to memory that goes too close to its end. -/
def TargetOverruns (chip : Chip) (control : UInt32) : Prop :=
  (control >>> 8) &&& 3 ≠ 3 ∧ spaceSize <
    (chip.word32 Layout.copyTarget.offset).toUInt16.toNat + chip.copyLength control

theorem copied?_eq_none_iff : chip.copied? control = none ↔ chip.SourceOverruns control := by
  simp only [copied?, load?, SourceOverruns, copyLength]
  split
  · next sensor => simp [sensor]
  · next notSensor => simp [notSensor]

theorem place?_eq_none_iff (all : block.length = chip.copyLength control) :
    chip.place? control block = none ↔ chip.TargetOverruns control := by
  simp only [place?, store?, TargetOverruns, all]
  split
  · next sensor => simp [sensor]
  · next notSensor => simp [notSensor]

/-- A copy stays without an answer if it is started and runs past the end. -/
theorem copy?_eq_none_iff : chip.copy? control = none ↔
    control &&& Layout.Copy.modeMask = Layout.Copy.start ∧ chip.faults.copyStuck = false ∧
      (chip.SourceOverruns control ∨ chip.TargetOverruns control) := by
  simp only [copy?]
  split
  · next starts =>
      cases taken : chip.copied? control with
      | none => simp [starts, copied?_eq_none_iff.mp taken]
      | some block =>
          have found : ¬ chip.SourceOverruns control := by
            rw [← copied?_eq_none_iff, taken]
            exact Option.some_ne_none block
          have target := place?_eq_none_iff (length_of_copied? taken)
          cases placed : chip.place? control block with
          | none => simp [starts, placed, target.mp placed]
          | some moved =>
              have room : ¬ chip.TargetOverruns control := by
                rw [← target, placed]
                exact Option.some_ne_none moved
              simp [placed, found, room]
  · next idle =>
      exact iff_of_false (Option.some_ne_none chip) fun starts => idle ⟨starts.1, starts.2.1⟩

theorem load?_continued : (chip.continued beyond).load? offset count = chip.load? offset count := by
  simp only [load?]
  split
  · next within => exact congrArg some (Memory.load_continued within)
  · rfl

theorem store?_continued : (chip.continued beyond).store? offset data =
    (chip.store? offset data).map (·.continued beyond) := by
  simp only [store?]
  split
  · next within => exact congrArg some (storeDirect_continued within)
  · rfl

theorem copied?_continued : (chip.continued beyond).copied? control = chip.copied? control := by
  have size : (chip.continued beyond).word32 Layout.copySize.offset =
      chip.word32 Layout.copySize.offset :=
    word32_continued (by decide)
  have source : (chip.continued beyond).word32 Layout.copySource.offset =
      chip.word32 Layout.copySource.offset :=
    word32_continued (by decide)
  simp only [copied?, size, source, load?_continued]
  rfl

theorem place?_continued : (chip.continued beyond).place? control block =
    (chip.place? control block).map (·.continued beyond) := by
  have target : (chip.continued beyond).word32 Layout.copyTarget.offset =
      chip.word32 Layout.copyTarget.offset :=
    word32_continued (by decide)
  simp only [place?, target, store?_continued]
  split <;> rfl

theorem copy?_continued : (chip.continued beyond).copy? control =
    (chip.copy? control).map (·.continued beyond) := by
  have faults : (chip.continued beyond).faults = chip.faults := rfl
  simp only [copy?, faults, copied?_continued]
  split
  · cases chip.copied? control with
    | none => rfl
    | some block =>
        simp only [Option.bind_eq_bind, Option.bind_some, Option.pure_def, place?_continued]
        cases chip.place? control block with
        | none => rfl
        | some moved =>
            simp only [Option.map_some, Option.bind_some]
            rw [storeDirect_continued (by rw [Bytes.length_ofUInt16]; decide)]
  · rfl

/-! ## Writing -/

theorem receive_continued :
    (chip.continued beyond).receive offset data = (chip.receive offset data).continued beyond := by
  have loaded : (chip.continued beyond).memory.load Layout.firmwareCrc.offset.toNat 2 =
      chip.memory.load Layout.firmwareCrc.offset.toNat 2 :=
    Memory.load_continued (by decide)
  have stored (crc : UInt16) : (chip.continued beyond).memory.store
        Layout.firmwareCrc.offset.toNat (Bytes.ofUInt16 crc) =
      (chip.memory.store Layout.firmwareCrc.offset.toNat (Bytes.ofUInt16 crc)).continued beyond
        spaceSize :=
    Memory.store_continued (by rw [Bytes.length_ofUInt16]; decide)
  simp only [receive, loaded, stored]
  rfl

theorem writeDirect_continued (within : offset.toNat + data.length ≤ spaceSize) :
    (chip.continued beyond).writeDirect offset data =
      ((chip.writeDirect offset data).1, (chip.writeDirect offset data).2.continued beyond) := by
  have recorded : (chip.continued beyond).record none offset data =
      (chip.record none offset data).continued beyond := rfl
  simp only [writeDirect, recorded, receive_continued, storeDirect_continued within]
  split
  · rfl
  · split
    · rfl
    · split
      · rw [copy?_continued]
        cases ((chip.record none offset data).storeDirect offset data).copy?
            (Bytes.bigEndian data) with
        | none => rfl
        | some after => rfl
      · rfl

/-- A write does not look past the end, and changes nothing there. -/
theorem write_continued (chip : Chip) (beyond : Memory) (offset : UInt16) (data : List UInt8) :
    (chip.continued beyond).write offset data =
      ((chip.write offset data).1, (chip.write offset data).2.continued beyond) := by
  have asleep : (chip.continued beyond).inReset = chip.inReset := rfl
  have faults : (chip.continued beyond).faults = chip.faults := rfl
  simp only [write, asleep, faults]
  split
  · rfl
  · split
    · rfl
    · split
      · rfl
      · next accepted =>
          have fits := fits_of_spanFault? accepted
          split
          · next inside =>
              have stored := @storePage_continued
                (chip.record (some chip.currentPage) offset data) beyond data chip.currentPage _
                (position_le inside fits)
              rw [currentPage_continued, ← stored]
              rfl
          · exact writeDirect_continued fits.2.2

/-- A block that the copy engine takes for the start of a copy. -/
structure StartsCopy (chip : Chip) (offset : UInt16) (data : List UInt8) : Prop where
  control : offset = Layout.copyControl.offset
  two : data.length = 2
  starts : Bytes.bigEndian data &&& Layout.Copy.modeMask = Layout.Copy.start
  runs : chip.faults.copyStuck = false

/-- A block that starts a copy past the end of the memory. -/
structure StartsOverrun (chip : Chip) (offset : UInt16) (data : List UInt8) : Prop
    extends chip.StartsCopy offset data where
  awake : chip.inReset = false
  taken : offset ∉ chip.faults.writes
  overruns : chip.SourceOverruns (Bytes.bigEndian data) ∨ chip.TargetOverruns (Bytes.bigEndian data)

/-- The registers that describe a copy are apart from the one that starts it. -/
theorem word32_taken_control (register : Register)
    (described : register.offset.toNat + 4 ≤ Layout.copyControl.offset.toNat) :
    (chip.taken Layout.copyControl.offset data).word32 register.offset =
      chip.word32 register.offset :=
  congrArg Bytes.bigEndian (Memory.load_store_outside (.inl described))

theorem overruns_taken_iff :
    ((chip.taken Layout.copyControl.offset data).SourceOverruns control ↔
        chip.SourceOverruns control) ∧
      ((chip.taken Layout.copyControl.offset data).TargetOverruns control ↔
        chip.TargetOverruns control) := by
  have size := @word32_taken_control chip data Layout.copySize (by decide)
  have source := @word32_taken_control chip data Layout.copySource (by decide)
  have target := @word32_taken_control chip data Layout.copyTarget (by decide)
  simp only [SourceOverruns, TargetOverruns, copyLength, size, source, target, and_self]

theorem write_reported {reply : Except Error Unit}
    (answered : (chip.write offset data).1 = some reply) : Reported reply := by
  revert answered
  unfold write
  split
  · rintro ⟨⟩
    exact reported_busFault _
  · split
    · rintro ⟨⟩
      exact reported_busFault _
    · split
      · next crosses =>
          rintro ⟨⟩
          exact reported_spanFault crosses
      · split
        · rintro ⟨⟩
          exact reported_ok _
        · simp only [writeDirect]
          split
          · rintro ⟨⟩
            exact reported_ok _
          · split
            · rintro ⟨⟩
              exact reported_ok _
            · split
              · split
                · rintro ⟨⟩
                  exact reported_ok _
                · rintro ⟨⟩
              · rintro ⟨⟩
                exact reported_ok _

/-- Only the copy engine leaves a write without an answer. -/
theorem write_answered (other : ¬ (offset = Layout.copyControl.offset ∧ data.length = 2)) :
    ∃ reply, (chip.write offset data).1 = some reply := by
  rcases write_cases chip offset data with ⟨error, refused⟩ | ⟨-, paged⟩ | ⟨-, direct⟩
  · exact ⟨_, congrArg Prod.fst refused⟩
  · exact ⟨_, congrArg Prod.fst paged⟩
  · simp only [direct, writeDirect, if_neg other]
    split
    · exact ⟨_, rfl⟩
    · split <;> exact ⟨_, rfl⟩

/-- A write is answered, unless it starts a copy past the end of the memory. -/
theorem write_eq_none_iff :
    (chip.write offset data).1 = none ↔ chip.StartsOverrun offset data := by
  by_cases control : offset = Layout.copyControl.offset ∧ data.length = 2
  · obtain ⟨rfl, two⟩ := control
    by_cases refuses : chip.Refuses Layout.copyControl.offset
    · obtain ⟨error, refused⟩ := @write_refused _ _ data refuses
      rw [refused]
      refine iff_of_false nofun fun starts => refuses.elim ?_ starts.taken
      simp [starts.awake]
    · obtain ⟨awake, taken⟩ := not_or.mp refuses
      have awake : chip.inReset = false := by simpa using awake
      have unanswered := @copy?_eq_none_iff (chip.taken Layout.copyControl.offset data)
        (Bytes.bigEndian data)
      rw [overruns_taken_iff.1, overruns_taken_iff.2] at unanswered
      rw [write_control awake taken two]
      constructor
      · intro missing
        have none : (chip.taken Layout.copyControl.offset data).copy? (Bytes.bigEndian data) =
            none := by
          cases copied : (chip.taken Layout.copyControl.offset data).copy?
              (Bytes.bigEndian data) with
          | none => rfl
          | some after => simp [copied] at missing
        obtain ⟨starts, runs, overruns⟩ := unanswered.mp none
        exact ⟨⟨rfl, two, starts, runs⟩, awake, taken, overruns⟩
      · intro starts
        rw [unanswered.mpr ⟨starts.starts, starts.runs, starts.overruns⟩]
  · obtain ⟨reply, answered⟩ := @write_answered chip offset data control
    rw [answered]
    exact iff_of_false nofun fun starts => control ⟨starts.control, starts.two⟩

/-- A write without an answer stores its block, and nothing else. -/
theorem write_of_startsOverrun (starts : chip.StartsOverrun offset data) :
    chip.write offset data = (none, chip.taken offset data) := by
  obtain ⟨⟨rfl, two, copies, runs⟩, awake, taken, overruns⟩ := starts
  have unanswered := (@copy?_eq_none_iff (chip.taken Layout.copyControl.offset data)
    (Bytes.bigEndian data)).mpr ⟨copies, runs, by
      rwa [overruns_taken_iff.1, overruns_taken_iff.2]⟩
  rw [write_control awake taken two, unanswered]

/-! ## Any chip -/

/-- The wrong checksums to come are counted down to zero, and not past it. -/
def CountsDown (before after : Chip) : Prop :=
  after.faults.crcFailures = before.faults.crcFailures ∨
    after.faults.crcFailures.toNat + 1 = before.faults.crcFailures.toNat

theorem countsDown_beginDownload (chip : Chip) : CountsDown chip chip.beginDownload := by
  by_cases none : chip.faults.crcFailures = 0
  · exact .inl (by simp [beginDownload, none])
  · refine .inr ?_
    have positive : chip.faults.crcFailures.toNat ≠ 0 :=
      fun zero => none (UInt32.toNat_inj.mp zero)
    have one : (1 : UInt32) ≤ chip.faults.crcFailures := by
      rw [UInt32.le_iff_toNat_le]
      exact Nat.pos_of_ne_zero positive
    simp only [beginDownload, none, ne_eq, not_false_eq_true, decide_true, if_true,
      UInt32.toNat_sub_of_le _ _ one]
    exact Nat.sub_add_cancel (Nat.pos_of_ne_zero positive)

theorem countsDown_write (chip : Chip) (offset : UInt16) (data : List UInt8) :
    CountsDown chip (chip.write offset data).2 := by
  rcases write_cases chip offset data with ⟨error, refused⟩ | ⟨-, paged⟩ | ⟨-, direct⟩
  · rw [refused]
    exact .inl rfl
  · rw [paged]
    exact .inl rfl
  · rw [direct]
    simp only [writeDirect]
    split
    · exact .inl rfl
    · split
      · exact countsDown_beginDownload _
      · split
        · split
          · next copied =>
              obtain ⟨memory, sensors, rfl⟩ := copy?_changes copied
              exact .inl rfl
          · exact .inl rfl
        · exact .inl rfl

/-- A read ends with a value or with an error of the bus, and does not look past the end of the
memory or of a page. -/
structure ReadsInside (chip : Chip) (offset : UInt16) (count : Nat) : Prop where
  reported : Reported (chip.read offset count).1
  inside : ∀ beyond, (chip.continued beyond).read offset count =
    ((chip.read offset count).1, (chip.read offset count).2.continued beyond)

/-- A write ends likewise, unless it starts a copy past the end of the memory: then it only stores
its block. Neither it nor a copy that it starts looks past an end, or changes anything there. -/
structure WritesInside (chip : Chip) (offset : UInt16) (data : List UInt8) : Prop where
  reported : ∀ reply, (chip.write offset data).1 = some reply → Reported reply
  missing : (chip.write offset data).1 = none ↔ chip.StartsOverrun offset data
  stopped : chip.StartsOverrun offset data → (chip.write offset data).2 = chip.taken offset data
  inside : ∀ beyond, (chip.continued beyond).write offset data =
    ((chip.write offset data).1, (chip.write offset data).2.continued beyond)
  countsDown : CountsDown chip (chip.write offset data).2

theorem readsInside (chip : Chip) (offset : UInt16) (count : Nat) :
    chip.ReadsInside offset count where
  reported := chip.read_reported offset count
  inside beyond := chip.read_continued beyond offset count

theorem writesInside (chip : Chip) (offset : UInt16) (data : List UInt8) :
    chip.WritesInside offset data where
  reported _ answered := write_reported answered
  missing := write_eq_none_iff
  stopped starts := congrArg Prod.snd (write_of_startsOverrun starts)
  inside beyond := chip.write_continued beyond offset data
  countsDown := chip.countsDown_write offset data

/-! ## Chips that were used -/

/-- Nothing is stored past the end of the memory, or past the end of a page. -/
structure Closed (chip : Chip) : Prop where
  memory : ∀ address, spaceSize ≤ address → chip.memory.byte address = 0
  pages : ∀ page address, Register.windowSize ≤ address → (chip.pages page).byte address = 0

theorem closed_iff_continued : chip.Closed ↔ chip.continued .blank = chip := by
  constructor
  · intro closed
    have memory := Memory.continued_blank_iff.mpr closed.memory
    have pages (page : UInt32) := Memory.continued_blank_iff.mpr (closed.pages page)
    simp only [continued, memory, pages]
  · intro same
    have memory := congrArg Chip.memory same
    have pages (page : UInt32) := congrArg (Chip.pages · page) same
    exact ⟨Memory.continued_blank_iff.mp memory,
      fun page => Memory.continued_blank_iff.mp (pages page)⟩

theorem byte_defaultMemory {address : Nat} (past : spaceSize ≤ address) :
    defaultMemory.byte address = 0 := by
  have beside (register : Register) (value : UInt16) (memory : Memory)
      (inside : register.offset.toNat + 2 ≤ spaceSize) :
      (memory.store register.offset.toNat (Bytes.ofUInt16 value)).byte address =
        memory.byte address :=
    Memory.byte_store_outside (.inr (Nat.le_trans inside past))
  unfold defaultMemory
  rw [beside _ _ _ (by decide), beside _ _ _ (by decide), beside _ _ _ (by decide)]
  rfl

theorem closed_restart (chip : Chip) : chip.restart.Closed :=
  ⟨fun _ past => byte_defaultMemory past, fun _ _ _ => rfl⟩

theorem closed_fresh : fresh.Closed :=
  ⟨fun _ past => byte_defaultMemory past, fun _ _ _ => rfl⟩

theorem Closed.setReset (closed : chip.Closed) (active : Bool) : (chip.setReset active).Closed := by
  unfold Chip.setReset
  split
  · exact ⟨closed.memory, closed.pages⟩
  · split
    · exact ⟨chip.closed_restart.memory, chip.closed_restart.pages⟩
    · exact closed

theorem Closed.read (closed : chip.Closed) (offset : UInt16) (count : Nat) :
    (chip.read offset count).2.Closed := by
  obtain ⟨lanes, same⟩ := read_lanes chip offset count
  rw [same]
  exact ⟨closed.memory, closed.pages⟩

theorem Closed.write (closed : chip.Closed) (offset : UInt16) (data : List UInt8) :
    (chip.write offset data).2.Closed := by
  have inside := congrArg Prod.snd (chip.write_continued .blank offset data)
  rw [closed_iff_continued.mp closed] at inside
  exact closed_iff_continued.mpr inside.symm

end Chip

/-- What is done to a chip from outside. -/
inductive ChipStep where
  | setReset (active : Bool)
  | failReads (offset : UInt16)
  | failWrites (offset : UInt16)
  | setCopyStuck (stuck : Bool)
  | failCrcs (count : UInt32)
  | pushLane (port lane : UInt32) (samples : List (Option UInt32))
  | clearFaults
  | read (offset : UInt16) (count : Nat)
  | write (offset : UInt16) (data : List UInt8)

namespace ChipStep

def act (chip : Chip) : ChipStep → Chip
  | setReset active => chip.setReset active
  | failReads offset => chip.failReads offset
  | failWrites offset => chip.failWrites offset
  | setCopyStuck stuck => chip.setCopyStuck stuck
  | failCrcs count => chip.failCrcs count
  | pushLane port lane samples => chip.pushLane port lane samples
  | clearFaults => chip.clearFaults
  | read offset count => (chip.read offset count).2
  | write offset data => (chip.write offset data).2

/-- The chip after these steps, a write without an answer among them or not. -/
def actEach (chip : Chip) (steps : List ChipStep) : Chip :=
  steps.foldl act chip

theorem closed_act {chip : Chip} (closed : chip.Closed) (step : ChipStep) :
    (act chip step).Closed := by
  cases step with
  | setReset active => exact closed.setReset active
  | failReads offset => exact ⟨closed.memory, closed.pages⟩
  | failWrites offset => exact ⟨closed.memory, closed.pages⟩
  | setCopyStuck stuck => exact ⟨closed.memory, closed.pages⟩
  | failCrcs count => exact ⟨closed.memory, closed.pages⟩
  | pushLane port lane samples => exact ⟨closed.memory, closed.pages⟩
  | clearFaults => exact ⟨closed.memory, closed.pages⟩
  | read offset count => exact closed.read offset count
  | write offset data => exact closed.write offset data

theorem closed_actEach {chip : Chip} (closed : chip.Closed) (steps : List ChipStep) :
    (actEach chip steps).Closed := by
  induction steps generalizing chip with
  | nil => exact closed
  | cons step rest ih => exact ih (closed_act closed step)

end ChipStep

namespace Bench

open Routine

variable {S : Type} {state : S} {bench : Bench} {offset value : UInt16} {count : Nat}
  {data : List UInt8}

/-- What comes of an access that is answered: a value, or an error of the bus. -/
def Settled {α : Type} (outcome : Outcome α) : Prop :=
  (∃ value, outcome = .done value) ∨ ∃ text, outcome = .failed (Chip.busFault text)

theorem settled_of_reported {α : Type} {reply : Except Error α} (reported : Chip.Reported reply) :
    Settled (.ofReply (some reply)) := by
  cases reply with
  | ok value => exact .inl ⟨value, rfl⟩
  | error error =>
      obtain ⟨text, rfl⟩ := reported error rfl
      exact .inr ⟨text, rfl⟩

/-- Bytes that override a read stand in for its value only. -/
theorem read_reported (bench : Bench) (offset : UInt16) (count : Nat) :
    Chip.Reported (bench.read offset count).1 := by
  have reported := bench.chip.read_reported offset count
  simp only [Bench.read]
  split
  · split
    · exact Chip.reported_ok _
    · exact reported
  · exact reported

theorem readBlock_settles :
    (Host.readBlock offset count).Ends Bench.host state bench fun outcome _ _ =>
      Settled outcome := by
  have settled := settled_of_reported (bench.read_reported offset count)
  unfold Host.readBlock
  rw [ends_bind, ends_ask]
  simp only [Bench.host]
  generalize bench.read offset count = answer at settled
  obtain ⟨_ | _, left⟩ := answer
  · exact settled
  · exact settled

/-- The outcome of a write: there is none exactly if the write starts a copy past the end. -/
def SettledWrite (chip : Chip) (offset : UInt16) (data : List UInt8) (outcome : Outcome Unit) :
    Prop :=
  (outcome = .aborted ↔ chip.StartsOverrun offset data) ∧ (outcome ≠ .aborted → Settled outcome)

theorem writeBlock_settles :
    (Host.writeBlock offset data).Ends Bench.host state bench fun outcome _ _ =>
      SettledWrite bench.chip offset data outcome := by
  rw [ends_writeBlock]
  have inside := bench.chip.writesInside offset data
  cases answered : (bench.chip.write offset data).1 with
  | none => exact ⟨iff_of_true rfl (inside.missing.mp answered), fun some => absurd rfl some⟩
  | some reply =>
      have settled := settled_of_reported (inside.reported reply answered)
      refine ⟨iff_of_false ?_ fun starts => ?_, fun _ => settled⟩
      · cases reply <;> nofun
      · cases answered.symm.trans (inside.missing.mpr starts)

/-- The accessors of two and of four bytes end as the blocks they are made of. A write of four bytes
starts no copy. -/
structure SizedSettle (state : S) (bench : Bench) : Prop where
  read16 : ∀ offset, (Bus.read16 offset).Ends Bench.host state bench fun outcome _ _ =>
    Settled outcome
  read32 : ∀ offset, (Bus.read32 offset).Ends Bench.host state bench fun outcome _ _ =>
    Settled outcome
  write16 : ∀ offset value, (Bus.write16 offset value).Ends Bench.host state bench
    fun outcome _ _ => SettledWrite bench.chip offset (Bytes.ofUInt16 value) outcome
  write32 : ∀ offset value, (Bus.write32 offset value).Ends Bench.host state bench
    fun outcome _ _ => Settled outcome

theorem settled_map {α β : Type} {routine : Routine Bench S α} {convert : α → β}
    (settles : routine.Ends Bench.host state bench fun outcome _ _ => Settled outcome) :
    (routine >>= fun value => pure (convert value)).Ends Bench.host state bench
      fun outcome _ _ => Settled outcome := by
  refine settles.bind (fun value _ _ _ => .inl ⟨convert value, rfl⟩) ?_ ?_
  · rintro error _ _ (⟨value, none⟩ | ⟨text, same⟩)
    · cases none
    · cases same
      exact .inr ⟨text, rfl⟩
  · rintro _ _ (⟨value, none⟩ | ⟨text, none⟩)
    · cases none
    · cases none

theorem sizedSettle (state : S) (bench : Bench) : SizedSettle state bench where
  read16 _ := settled_map readBlock_settles
  read32 _ := settled_map readBlock_settles
  write16 _ _ := writeBlock_settles
  write32 offset value := by
    refine Ends.mono (@writeBlock_settles S state bench offset (Bytes.ofUInt32 value)) ?_
    intro outcome _ _ ⟨missing, settled⟩
    refine settled fun aborted => ?_
    have two := (missing.mp aborted).two
    rw [Bytes.length_ofUInt32] at two
    cases two

end Bench

/-- Whatever was done to a chip, nothing lies past the end of its memory or of its pages, and every
access stays inside them. An access ends with a value or with an error of the bus, except for a
write that starts a copy past the end of the memory. -/
theorem accesses_stay_inside {S : Type} (state : S) (bench : Bench) (steps : List ChipStep) :
    let chip := ChipStep.actEach .fresh steps
    chip.Closed ∧ (∀ offset count, chip.ReadsInside offset count) ∧
      (∀ offset data, chip.WritesInside offset data) ∧
      Bench.SizedSettle state { bench with chip } := by
  intro chip
  exact ⟨ChipStep.closed_actEach Chip.closed_fresh steps, chip.readsInside, chip.writesInside,
    Bench.sizedSettle state _⟩

/-- A copy of four bytes from the last address can be described, and then be started. -/
theorem copy_overruns :
    ¬ ∀ (steps : List ChipStep) (offset : UInt16) (data : List UInt8),
      ∃ reply, ((ChipStep.actEach .fresh steps).write offset data).1 = some reply := by
  intro answered
  obtain ⟨reply, some⟩ := answered
    [.write Layout.copySize.offset (Bytes.ofUInt32 4),
      .write Layout.copySource.offset (Bytes.ofUInt32 0xffff)]
    Layout.copyControl.offset (Bytes.ofUInt16 2)
  have none : ((ChipStep.actEach .fresh
      [.write Layout.copySize.offset (Bytes.ofUInt32 4),
        .write Layout.copySource.offset (Bytes.ofUInt32 0xffff)]).write
      Layout.copyControl.offset (Bytes.ofUInt16 2)).1.isNone = true := by
    decide +kernel
  rw [some] at none
  cases none

end IspDriver.Simulation
