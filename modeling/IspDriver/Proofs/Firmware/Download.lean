import IspDriver.CommandLine.Inspect
import IspDriver.Firmware.Download
import IspDriver.Proofs.Firmware.Image
import IspDriver.Proofs.Simulation.Sound
import IspDriver.Simulation.Inspection

/-!
A download against the payload that a file declares. Through every cut of the payload the chip has
received what was sent so far, and its checksum is the checksum of that; so the download ends as a
look at the file alone says.
-/

namespace IspDriver

open Routine Simulation

namespace FirmwareHeader

/-- The payload, as far as the file declares one. -/
def declaredPayload (data : List UInt8) : List UInt8 :=
  (data.drop size).take (field data 12).toNat

/-- The checksum in the header, as the chip's register can hold it. -/
def declaredCrc (data : List UInt8) : UInt32 :=
  field data 0 &&& 0xffff

end FirmwareHeader

namespace FirmwareImage

variable {data : List UInt8} {image : FirmwareImage}

theorem eq_of_parse (parsed : parse data = .ok image) :
    image.payload = FirmwareHeader.declaredPayload data ∧
      image.expectedCrc = FirmwareHeader.declaredCrc data := by
  obtain ⟨-, header, body⟩ := parts_of_parse parsed
  rw [payload, expectedCrc, header, body]
  exact ⟨rfl, rfl⟩

theorem accept_gives {σ S : Type} {host : Host σ} {state : S} {world : σ}
    (parsed : parse data = .ok image) :
    (accept data).Gives host state world fun found _ _ => found = image := by
  have given : (Routine.ofExcept (parse data) : Routine σ S FirmwareImage).Gives host state world
      fun found _ _ => found = image := by
    rw [parsed]
    exact gives_done rfl
  refine given.bind fun found _ _ same => ?_
  subst same
  split
  · rw [ends_bind, ends_note]
    exact rfl
  · exact rfl

end FirmwareImage

theorem CommandLine.Inspect.computedCrc_eq (image : FirmwareImage) :
    computedCrc image = (Crc.absorbAll Crc.seed image.payload).toUInt32 := by
  rw [computedCrc, ← Crc.absorbAll_append, image.payload_eq_append]
  rfl

theorem CommandLine.Inspect.verdict_report {arguments : Inspect} {asJson : Bool}
    {data : List UInt8} {image : FirmwareImage} (parsed : FirmwareImage.parse data = .ok image) :
    (arguments.report asJson data).verdict = arguments.verdict image := by
  have given : (FirmwareImage.accept data).Gives Host.notebook () [] fun found _ _ => found = image :=
    FirmwareImage.accept_gives parsed
  obtain ⟨found, ended, same⟩ := given.ends
  subst same
  unfold report
  generalize FirmwareImage.accept data Host.notebook () [] = run at ended ⊢
  obtain ⟨outcome, after, notes⟩ := run
  subst ended
  rfl

namespace Simulation

/-- The faults of a chip once a download has begun: it takes a wrong checksum to report, if there
are any. -/
def ChipFaults.begun (faults : ChipFaults) : ChipFaults :=
  if faults.crcFailures ≠ 0 then { faults with crcFailures := faults.crcFailures - 1 } else faults

namespace Chip

/-- The checksum as it reads back. -/
def reported (spoiled : Bool) (crc : UInt16) : UInt16 :=
  if spoiled then crc ^^^ 0x5aa5 else crc

/-- A chip out of reset, with these faults but none of its registers, that has received these bytes
of a download. -/
structure Received (chip : Chip) (left : ChipFaults) (marked : Bool) (bytes : List UInt8) :
    Prop where
  awake : chip.inReset = false
  faults : chip.faults = left
  readable : left.reads = []
  writable : left.writes = []
  spoiled : chip.spoiled = marked
  firmware : chip.firmware = bytes
  checksum : chip.memory.load Layout.firmwareCrc.offset.toNat 2 =
    Bytes.ofUInt16 (Crc.absorbAll Crc.seed bytes)

variable {chip : Chip} {bytes block : List UInt8} {offset : UInt16} {faults : ChipFaults}
  {spoiled : Bool}

theorem Received.reads (received : chip.Received faults spoiled bytes) : chip.faults.reads = [] := by
  rw [received.faults]
  exact received.readable

theorem Received.writes (received : chip.Received faults spoiled bytes) :
    chip.faults.writes = [] := by
  rw [received.faults]
  exact received.writable

theorem write_firmware (awake : chip.inReset = false) (sound : offset ∉ chip.faults.writes)
    (inside : inFirmwareWindow offset = true) (fits : offset.toNat + block.length ≤ 0xa000) :
    chip.write offset block =
      (some (.ok ()), (chip.record none offset block).receive offset block) := by
  have bounds := inFirmwareWindow_iff.mp inside
  have notPaged : inPageWindow offset = false := by
    rw [Bool.eq_false_iff, ne_eq, inPageWindow_iff]
    omega
  have span : spanFault? offset block.length = none :=
    spanFault?_eq_none ⟨by simp [notPaged], fun _ => fits, Nat.le_trans fits (by decide)⟩
  simp [write, awake, sound, span, notPaged, writeDirect, inside]

theorem Received.receive (received : chip.Received faults spoiled bytes) :
    ((chip.record none offset block).receive offset block).Received faults spoiled
      (bytes ++ block) := by
  refine ⟨received.awake, received.faults, received.readable, received.writable, received.spoiled,
    congrArg (· ++ block) received.firmware, ?_⟩
  have before : (Bytes.bigEndian (chip.memory.load Layout.firmwareCrc.offset.toNat 2)).toUInt16 =
      Crc.absorbAll Crc.seed bytes := by
    rw [received.checksum, Bytes.bigEndian_ofUInt16]
    exact UInt16.toUInt16_toUInt32 _
  simp only [Simulation.Chip.receive, Simulation.Chip.record, before, Crc.absorbAll_append]
  exact Memory.load_store_ofUInt16 _

theorem writesTo_record_other {register : Register} {page? : Option UInt32}
    (other : offset ≠ register.busOffset) :
    (chip.record page? offset block).writesTo register = chip.writesTo register := by
  simp [writesTo, record, other]

theorem writesTo_record_stage (chip : Chip) (stage : UInt32) :
    (chip.record none Layout.bootStage.offset
      (RegisterMap.busBytes Layout.bootStage stage)).writesTo Layout.bootStage =
        chip.writesTo Layout.bootStage ++ [stage.toUInt16.toUInt32] := by
  have value : WriteRecord.value ⟨none, Layout.bootStage.offset,
      RegisterMap.busBytes Layout.bootStage stage⟩ = stage.toUInt16.toUInt32 := by
    rw [WriteRecord.value, RegisterMap.busBytes_of_two rfl]
    exact Bytes.bigEndian_ofUInt16 _
  have place : Layout.bootStage.busOffset = Layout.bootStage.offset := by decide
  have direct : Layout.bootStage.isPaged = false := by decide
  simp [writesTo, record, place, direct, value]

theorem received_of_begin (awake : chip.inReset = false) (readable : chip.faults.reads = [])
    (writable : chip.faults.writes = []) :
    ∃ after, chip.write Layout.firmwareCrc.offset (Bytes.ofUInt16 Crc.seed) =
      (some (.ok ()), after) ∧
        after.Received chip.faults.begun (decide (chip.faults.crcFailures ≠ 0)) [] ∧
        after.writesTo Layout.bootStage = chip.writesTo Layout.bootStage := by
  have span : spanFault? Layout.firmwareCrc.offset 2 = none := by decide
  have notPaged : inPageWindow Layout.firmwareCrc.offset = false := by decide
  have notFirmware : inFirmwareWindow Layout.firmwareCrc.offset = false := by decide
  let stored := (chip.record none Layout.firmwareCrc.offset (Bytes.ofUInt16 Crc.seed)).storeDirect
    Layout.firmwareCrc.offset (Bytes.ofUInt16 Crc.seed)
  have elsewhere : Layout.firmwareCrc.offset ≠ Layout.bootStage.busOffset := by decide
  refine ⟨stored.beginDownload, ?_, ?_, writesTo_record_other elsewhere⟩
  · simp [write, awake, writable, span, notPaged, writeDirect, notFirmware, stored]
  · refine ⟨awake, ?_, ?_, ?_, rfl, rfl, ?_⟩
    · simp only [beginDownload, ChipFaults.begun, stored, storeDirect, record]
    · unfold ChipFaults.begun
      split <;> exact readable
    · unfold ChipFaults.begun
      split <;> exact writable
    · simp only [beginDownload, stored, storeDirect, record, Crc.absorbAll, List.foldl_nil]
      exact Memory.load_store_ofUInt16 Crc.seed

theorem ofUInt16_reported (crc : UInt16) :
    Bytes.ofUInt16 (reported true crc) =
      [(crc >>> 8).toUInt8 ^^^ 0x5a, crc.toUInt8 ^^^ 0xa5] := by
  have high : (0x5aa5 : UInt16) >>> 8 = 0x5a := rfl
  simp only [reported, if_true, Bytes.ofUInt16, UInt16.shiftRight_xor, UInt16.toUInt8_xor, high]
  rfl

theorem Received.read_checksum (received : chip.Received faults spoiled bytes) :
    ∃ found : Vector UInt8 Layout.firmwareCrc.width.toNat,
      chip.read Layout.firmwareCrc.offset Layout.firmwareCrc.width.toNat = (.ok found, chip) ∧
        found.toList = Bytes.ofUInt16 (reported spoiled (Crc.absorbAll Crc.seed bytes)) := by
  have two : Layout.firmwareCrc.width.toNat = 2 := by decide
  rw [two]
  have span : spanFault? Layout.firmwareCrc.offset 2 = none := by decide
  have notPaged : inPageWindow Layout.firmwareCrc.offset = false := by decide
  refine ⟨chip.readDirect Layout.firmwareCrc.offset 2, ?_, ?_⟩
  · simp [read, received.awake, received.reads, span, notPaged]
  · have marked := received.spoiled
    have held := received.checksum
    cases spoiled with
    | false =>
        have same : reported false (Crc.absorbAll Crc.seed bytes) = Crc.absorbAll Crc.seed bytes :=
          rfl
        rw [same, ← held]
        simp [readDirect, Memory.load, marked]
    | true =>
        rw [ofUInt16_reported]
        simp only [Memory.load, List.range_succ, List.range_zero, List.map_cons,
          List.map_nil, List.nil_append, List.cons_append, Nat.add_zero, Bytes.ofUInt16,
          List.cons.injEq, and_true] at held
        simp [readDirect, marked, spoiler, List.range_succ, held.1, held.2]

theorem reported_ne (crc : UInt16) : reported true crc ≠ crc := by
  intro same
  have cancelled : (0x5aa5 : UInt16) = 0 := by
    have both : crc ^^^ (crc ^^^ 0x5aa5) = crc ^^^ crc := congrArg (crc ^^^ ·) same
    rwa [← UInt16.xor_assoc, UInt16.xor_self, UInt16.zero_xor] at both
  exact absurd cancelled (by decide)

end Chip

end Simulation

namespace Firmware

/-- A block that lies in the window. -/
def InWindow (placed : Nat × List UInt8) : Prop :=
  placed.1 < Layout.firmwareWindowSize ∧
    placed.1 + placed.2.length ≤ Layout.firmwareWindowSize

/-- A bench whose registers do not fail, and whose chip has received these bytes of a download and
was ever told these stages. -/
structure Listening (faults : ChipFaults) (spoiled : Bool) (bytes : List UInt8)
    (told : List UInt32) (bench : Bench) : Prop where
  received : bench.chip.Received faults spoiled bytes
  plain : bench.faults.overrides = []
  stages : bench.chip.writesTo Layout.bootStage = told

variable {S : Type} {map : RegisterMap} {bench : Bench} {bytes data : List UInt8} {position : Nat}
  {faults : ChipFaults} {spoiled : Bool} {told : List UInt32}

theorem writeBlock_gives {block : List UInt8} (listening : Listening faults spoiled bytes told bench)
    (within : InWindow (position, block)) :
    (RegisterMap.writeBlock (Layout.firmwareWindow + position.toUInt16) block).Gives Bench.host map
      bench fun _ _ left => Listening faults spoiled (bytes ++ block) told left := by
  obtain ⟨received, plain, stages⟩ := listening
  obtain ⟨start, stop⟩ := within
  simp only [Layout.firmwareWindowSize] at start stop
  have place : (Layout.firmwareWindow + position.toUInt16).toNat = 0x8000 + position := by
    rw [UInt16.toNat_add, Chip.toNat_firmwareWindow, Nat.toUInt16_eq, UInt16.toNat_ofNat']
    omega
  have inside : Chip.inFirmwareWindow (Layout.firmwareWindow + position.toUInt16) = true := by
    rw [Chip.inFirmwareWindow_iff]
    omega
  have sound : Layout.firmwareWindow + position.toUInt16 ∉ bench.chip.faults.writes := by
    simp [received.writes]
  have elsewhere : Layout.firmwareWindow + position.toUInt16 ≠ Layout.bootStage.busOffset := by
    intro same
    rw [same] at inside
    exact absurd inside (by decide)
  unfold RegisterMap.writeBlock Gives
  rw [ends_onError, Bench.ends_writeBlock,
    Chip.write_firmware received.awake sound inside (by omega)]
  exact ⟨received.receive, plain, (Chip.writesTo_record_other elsewhere).trans stages⟩

theorem sendBlocks_gives (position : WindowPosition) (data : List UInt8)
    (listening : Listening faults spoiled bytes told bench) :
    (sendBlocks position data).Gives Bench.host map bench fun _ _ left =>
      Listening faults spoiled (bytes ++ data) told left := by
  fun_induction sendBlocks position data generalizing map bench bytes with
  | case1 =>
      refine gives_done ?_
      rwa [List.append_nil]
  | case2 position data filled ih =>
      have within : InWindow (position, data.take (position.room data)) := by
        refine ⟨position.isLt, ?_⟩
        simp only [List.length_take, WindowPosition.room]
        omega
      refine (writeBlock_gives listening within).bind fun _ _ _ listening => ?_
      refine (ih listening).mono fun _ _ _ listening => ?_
      rwa [List.append_assoc, List.take_append_drop] at listening

/-- All that is sent through the window is received, wherever in the window it begins. -/
theorem writeWindow_gives (listening : Listening faults spoiled bytes told bench)
    (inside : position < Layout.firmwareWindowSize) :
    (writeWindow position data).Gives Bench.host map bench fun next _ left =>
      next < Layout.firmwareWindowSize ∧ Listening faults spoiled (bytes ++ data) told left := by
  unfold writeWindow
  rw [dif_pos inside]
  refine (sendBlocks_gives ⟨position, inside⟩ data listening).bind fun next _ _ listening => ?_
  exact ⟨next.isLt, listening⟩

variable {σ : Type}

def sendClock (registers : Part S RegisterMap) (image : FirmwareImage) : Routine σ S Nat := do
  let position ← registers.act (writeWindow 0 image.clockSegment)
  registers.act (RegisterMap.write Layout.bootStage Layout.BootStage.clockReady)
  Host.wait clockLockMicroseconds
  return position

def sendMain (registers : Part S RegisterMap) (image : FirmwareImage) (position : Nat) :
    Routine σ S UInt32 := do
  let _ ← registers.act (writeWindow position image.mainSegment)
  Host.wait (Host.millisecondsToWait settleMilliseconds)
  registers.act (RegisterMap.read Layout.firmwareCrc)

/-- A download up to the checksum that the chip makes of it. -/
def transfer (registers : Part S RegisterMap) (enter : BootStage → Routine σ S Unit)
    (image : FirmwareImage) : Routine σ S UInt32 := do
  registers.act (RegisterMap.write Layout.firmwareCrc Crc.seed.toUInt32)
  enter .clockLoading
  let position ← sendClock registers image
  enter .mainLoading
  sendMain registers image position

def judge (registers : Part S RegisterMap) (image : FirmwareImage) (crc : UInt32) :
    Routine σ S Unit :=
  if crc = image.expectedCrc then
    registers.act (RegisterMap.write Layout.bootStage Layout.BootStage.complete)
  else do
    note .warn ("CRC mismatch: expected 0x" ++ Text.hex 4 image.expectedCrc.toNat ++
      ", got 0x" ++ Text.hex 4 crc.toNat)
    fail (.crcMismatch image.expectedCrc crc)

theorem download_eq (registers : Part S RegisterMap) (enter : BootStage → Routine σ S Unit)
    (image : FirmwareImage) :
    download registers enter image = (do
      let crc ← transfer registers enter image
      judge registers image crc) := by
  simp only [download, transfer, sendClock, sendMain, judge, bind_assoc, pure_bind]

theorem begin_gives (awake : bench.chip.inReset = false) (readable : bench.chip.faults.reads = [])
    (writable : bench.chip.faults.writes = []) (plain : bench.faults.overrides = []) :
    (RegisterMap.write Layout.firmwareCrc Crc.seed.toUInt32).Gives Bench.host map bench
      fun _ _ left => Listening bench.chip.faults.begun
        (decide (bench.chip.faults.crcFailures ≠ 0)) [] (bench.chip.writesTo Layout.bootStage)
        left := by
  obtain ⟨begun, answer, received, untold⟩ := Chip.received_of_begin awake readable writable
  have bytes : RegisterMap.busBytes Layout.firmwareCrc Crc.seed.toUInt32 =
      Bytes.ofUInt16 Crc.seed := by decide
  refine (Bench.write_direct_ends (by decide) (by decide)).mono ?_
  rw [bytes, answer]
  intro outcome after left ended
  obtain ⟨-, same, rfl, chip⟩ := ended
  exact ⟨by rw [chip]; exact received, by rw [same]; exact plain, by rw [chip]; exact untold⟩

theorem writeStage_gives {stage : UInt32} (listening : Listening faults spoiled bytes told bench) :
    (RegisterMap.write Layout.bootStage stage).Gives Bench.host map bench fun _ _ left =>
      Listening faults spoiled bytes (told ++ [stage.toUInt16.toUInt32]) left ∧
        left.chip.Shows Layout.bootStage.offset.toNat
          (RegisterMap.busBytes Layout.bootStage stage) := by
  obtain ⟨received, plain, stages⟩ := listening
  have sound : Layout.bootStage.offset ∉ bench.chip.faults.writes := by simp [received.writes]
  have ordinary : Chip.IsOrdinary Layout.bootStage.offset := by constructor <;> decide
  have length : (RegisterMap.busBytes Layout.bootStage stage).length = 2 :=
    RegisterMap.length_busBytes stage (by decide)
  refine (Bench.write_direct_ends (by decide) (by decide)).mono ?_
  rw [Chip.write_ordinary received.awake sound ordinary (by rw [length]; decide)]
  intro outcome after left ended
  obtain ⟨-, same, rfl, chip⟩ := ended
  refine ⟨⟨?_, by rw [same]; exact plain, ?_⟩, ?_⟩
  · rw [chip]
    refine ⟨received.awake, received.faults, received.readable, received.writable,
      received.spoiled, received.firmware, ?_⟩
    rw [← received.checksum]
    simp only [Chip.storeDirect, Chip.record]
    refine Memory.load_store_outside (.inr ?_)
    rw [length]
    decide
  · rw [chip, ← stages]
    exact Chip.writesTo_record_stage bench.chip stage
  · rw [chip]
    refine ⟨received.awake, ?_⟩
    simp only [Chip.storeDirect, Chip.record]
    exact Memory.load_store_same

theorem readChecksum_gives (listening : Listening faults spoiled bytes told bench) :
    (RegisterMap.read Layout.firmwareCrc).Gives Bench.host map bench fun crc _ left =>
      crc = (Chip.reported spoiled (Crc.absorbAll Crc.seed bytes)).toUInt32 ∧
        Listening faults spoiled bytes told left := by
  obtain ⟨received, plain, stages⟩ := listening
  obtain ⟨found, answer, content⟩ := received.read_checksum
  have value : (Bytes.positional found.toList).toUInt32 =
      (Chip.reported spoiled (Crc.absorbAll Crc.seed bytes)).toUInt32 := by
    rw [content, Bytes.positional_ofUInt16]
    simp
  refine (Bench.read_direct_ends (by decide) (by decide) plain).mono ?_
  rw [answer]
  intro outcome after left ended
  obtain ⟨-, same, chip, rfl⟩ := ended
  exact ⟨value, by rw [chip]; exact received, by rw [same]; exact plain, by rw [chip]; exact stages⟩

theorem wait_gives {state : S} {microseconds : UInt32}
    (listening : Listening faults spoiled bytes told bench) :
    (Host.wait microseconds).Gives Bench.host state bench fun _ _ left =>
      Listening faults spoiled bytes told left :=
  ends_ask.mpr ⟨listening.received, listening.plain, listening.stages⟩

/-- The stages of a download are announced to someone who leaves the bench alone. -/
def Announces (enter : BootStage → Routine Bench S Unit) : Prop :=
  ∀ stage state bench, (enter stage).Gives Bench.host state bench fun _ _ left =>
    left.chip = bench.chip ∧ left.faults = bench.faults

theorem Announces.gives {enter : BootStage → Routine Bench S Unit} {stage : BootStage} {state : S}
    (announces : Announces enter) (listening : Listening faults spoiled bytes told bench) :
    (enter stage).Gives Bench.host state bench fun _ _ left =>
      Listening faults spoiled bytes told left := by
  refine (announces stage state bench).mono ?_
  intro _ _ _ ended
  obtain ⟨chip, same⟩ := ended
  exact ⟨by rw [chip]; exact listening.received, by rw [same]; exact listening.plain,
    by rw [chip]; exact listening.stages⟩

variable {image : FirmwareImage} {registers : Part S RegisterMap}
  {enter : BootStage → Routine Bench S Unit} {state : S}

theorem sendClock_gives (listening : Listening faults spoiled [] told bench) :
    (sendClock registers image).Gives Bench.host state bench fun position _ left =>
      position < Layout.firmwareWindowSize ∧
        Listening faults spoiled image.clockSegment (told ++ [Layout.BootStage.clockReady]) left := by
  refine (writeWindow_gives listening (by decide)).act.bind ?_
  intro position _ _ ended
  obtain ⟨inside, listening⟩ := ended
  refine (writeStage_gives listening).act.bind fun _ _ _ ended => ?_
  exact (wait_gives ended.1).bind fun _ _ _ listening => gives_done ⟨inside, listening⟩

theorem sendMain_gives {position : Nat} (inside : position < Layout.firmwareWindowSize)
    (listening : Listening faults spoiled image.clockSegment told bench) :
    (sendMain registers image position).Gives Bench.host state bench fun crc _ left =>
      crc = (Chip.reported spoiled (Crc.absorbAll Crc.seed image.payload)).toUInt32 ∧
        Listening faults spoiled image.payload told left := by
  refine (writeWindow_gives listening inside).act.bind ?_
  intro _ _ _ ended
  obtain ⟨-, listening⟩ := ended
  rw [image.payload_eq_append] at listening
  exact (wait_gives listening).bind fun _ _ _ listening => (readChecksum_gives listening).act

theorem transfer_gives (awake : bench.chip.inReset = false) (readable : bench.chip.faults.reads = [])
    (writable : bench.chip.faults.writes = []) (plain : bench.faults.overrides = [])
    (announces : Announces enter) :
    let spoiled := decide (bench.chip.faults.crcFailures ≠ 0)
    (transfer registers enter image).Gives Bench.host state bench fun crc _ left =>
      crc = (Chip.reported spoiled (Crc.absorbAll Crc.seed image.payload)).toUInt32 ∧
        Listening bench.chip.faults.begun spoiled image.payload
          (bench.chip.writesTo Layout.bootStage ++ [Layout.BootStage.clockReady]) left := by
  intro spoiled
  refine (begin_gives awake readable writable plain).act.bind fun _ _ _ listening => ?_
  refine (announces.gives listening).bind fun _ _ _ listening => ?_
  refine (sendClock_gives listening).bind ?_
  intro position _ _ ended
  obtain ⟨inside, listening⟩ := ended
  exact (announces.gives listening).bind fun _ _ _ listening => sendMain_gives inside listening

/-- What a download of a payload comes to on a chip whose registers do not fail, whatever the chip
held, also if it reports a wrong checksum. -/
theorem download_reported (awake : bench.chip.inReset = false)
    (readable : bench.chip.faults.reads = []) (writable : bench.chip.faults.writes = [])
    (plain : bench.faults.overrides = []) (announces : Announces enter) :
    let spoiled := decide (bench.chip.faults.crcFailures ≠ 0)
    let crc := (Chip.reported spoiled (Crc.absorbAll Crc.seed image.payload)).toUInt32
    (download registers enter image).Ends Bench.host state bench fun outcome _ left =>
      left.chip.Received bench.chip.faults.begun spoiled image.payload ∧
        outcome = (if crc = image.expectedCrc then .done ()
          else .failed (.crcMismatch image.expectedCrc crc)) ∧
        (crc = image.expectedCrc → left.chip.Shows Layout.bootStage.offset.toNat
          (RegisterMap.busBytes Layout.bootStage Layout.BootStage.complete)) ∧
        (crc ≠ image.expectedCrc → left.chip.writesTo Layout.bootStage =
          bench.chip.writesTo Layout.bootStage ++ [Layout.BootStage.clockReady]) := by
  intro spoiled crc
  rw [download_eq]
  refine (transfer_gives awake readable writable plain announces).bind ?_
  intro found _ _ ended
  obtain ⟨same, listening⟩ := ended
  have same : found = crc := same
  subst same
  unfold judge
  split
  · next agree =>
      refine (writeStage_gives listening).act.ends.mono ?_
      intro _ _ _ ended
      obtain ⟨_, rfl, listening, shows⟩ := ended
      exact ⟨listening.received, rfl, fun _ => shows, fun differ => absurd agree differ⟩
  · next differ =>
      exact ⟨listening.received, rfl, fun agree => absurd agree differ, fun _ => listening.stages⟩

/-- What a download of a payload comes to on a chip without faults, whatever the chip held. -/
theorem download_ends (awake : bench.chip.inReset = false)
    (readable : bench.chip.faults.reads = []) (writable : bench.chip.faults.writes = [])
    (honest : bench.chip.faults.crcFailures = 0) (plain : bench.faults.overrides = [])
    (announces : Announces enter) :
    (download registers enter image).Ends Bench.host state bench fun outcome _ left =>
      left.chip.firmware = image.payload ∧
        outcome =
          if (Crc.absorbAll Crc.seed image.payload).toUInt32 = image.expectedCrc then .done ()
          else .failed
            (.crcMismatch image.expectedCrc (Crc.absorbAll Crc.seed image.payload).toUInt32) := by
  have ended := @download_reported S bench image registers enter state awake readable writable plain
    announces
  have unspoiled : decide (bench.chip.faults.crcFailures ≠ 0) = false := by simp [honest]
  rw [unspoiled] at ended
  exact Ends.mono ended fun _ _ _ ended => ⟨ended.1.firmware, ended.2.1⟩

open CommandLine (Inspect)

/-- Looking at a file tells what its download comes to: the download succeeds if and only if the
check of the checksum does, and else reports both checksums; and either way the chip is left with
the declared payload, byte for byte. -/
theorem download_iff_verified (file : String) (asJson : Bool)
    (parsed : FirmwareImage.parse data = .ok image) (awake : bench.chip.inReset = false)
    (readable : bench.chip.faults.reads = []) (writable : bench.chip.faults.writes = [])
    (honest : bench.chip.faults.crcFailures = 0) (plain : bench.faults.overrides = [])
    (announces : Announces enter) :
    let payload := FirmwareHeader.declaredPayload data
    let expected := FirmwareHeader.declaredCrc data
    let actual := (Crc.absorbAll 0xffff payload).toUInt32
    let inspect : Inspect := ⟨file, true⟩
    ((inspect.report asJson data).verdict = .success ↔ actual = expected) ∧
      (download registers enter image).Ends Bench.host state bench fun outcome _ left =>
        (outcome = .done () ↔ (inspect.report asJson data).verdict = .success) ∧
          (outcome ≠ .done () → outcome = .failed (.crcMismatch expected actual)) ∧
          left.chip.firmware = payload := by
  obtain ⟨payload, expected⟩ := FirmwareImage.eq_of_parse parsed
  have verified : ((⟨file, true⟩ : Inspect).report asJson data).verdict = .success ↔
      (Crc.absorbAll Crc.seed image.payload).toUInt32 = image.expectedCrc := by
    rw [Inspect.verdict_report parsed, ← Inspect.computedCrc_eq]
    by_cases agree : Inspect.computedCrc image = image.expectedCrc
    · simp [Inspect.verdict, Inspect.agrees, agree]
    · simp [Inspect.verdict, Inspect.agrees, agree]
  intro declared expectedCrc actual inspect
  rw [payload, expected] at verified
  refine ⟨verified, ?_⟩
  refine (download_ends awake readable writable honest plain announces).mono ?_
  intro outcome _ left ended
  obtain ⟨received, result⟩ := ended
  rw [payload, expected] at result
  rw [payload] at received
  refine ⟨?_, ?_, received⟩
  · rw [verified, result]
    split
    · next agree => exact ⟨fun _ => agree, fun _ => rfl⟩
    · next differ => exact ⟨fun done => (nomatch done), fun agree => absurd agree differ⟩
  · intro notDone
    rw [result] at notDone ⊢
    split
    · next agree =>
        rw [if_pos agree] at notDone
        exact absurd rfl notDone
    · rfl

/-- A file that declares a wrong checksum and goes on after its payload, on a chip that reported a
wrong one before. -/
theorem download_wrong_checksum :
    let data : List UInt8 :=
      [0x34, 0x12, 0xff, 0, 0, 0, 0, 0, 1, 0, 0, 0, 3, 0, 0, 0, 0x0a, 0x0b, 0x0c, 0x0d]
    let bench : Bench := { Bench.fresh with chip := { Chip.fresh with spoiled := true } }
    let registers : Part RegisterMap RegisterMap := ⟨id, fun after _ => after⟩
    let enter : BootStage → Access Bench Unit := fun stage => note .debug stage.text
    ∃ image, FirmwareImage.parse data = .ok image ∧ bench.chip.inReset = false ∧
      bench.chip.faults.reads = [] ∧ bench.chip.faults.writes = [] ∧
      bench.chip.faults.crcFailures = 0 ∧ bench.faults.overrides = [] ∧ Announces enter ∧
      (download registers enter image).Ends Bench.host {} bench fun outcome _ left =>
        outcome = .failed (.crcMismatch 0x1234 0x162b) ∧ left.chip.firmware = [0x0a, 0x0b, 0x0c] := by
  intro data bench registers enter
  have parsed : FirmwareImage.parse data =
      .ok ⟨⟨0x00ff1234, 0, 1, 3⟩, [0x0a, 0x0b, 0x0c, 0x0d], by decide, by decide⟩ := rfl
  have announces : Announces enter := fun _ _ _ => ⟨rfl, rfl⟩
  have payload : FirmwareHeader.declaredPayload data = [0x0a, 0x0b, 0x0c] := by decide
  have expected : FirmwareHeader.declaredCrc data = 0x1234 := by decide
  have actual : (Crc.absorbAll 0xffff [0x0a, 0x0b, 0x0c]).toUInt32 = 0x162b := by cbv
  refine ⟨_, parsed, rfl, rfl, rfl, rfl, rfl, announces, ?_⟩
  obtain ⟨verified, ended⟩ := @download_iff_verified _ bench data _ registers enter {} "fw.bin" false
    parsed rfl rfl rfl rfl rfl announces
  rw [payload, expected, actual] at verified ended
  refine ended.mono ?_
  intro outcome _ left agreed
  obtain ⟨same, mismatch, received⟩ := agreed
  refine ⟨mismatch fun done => ?_, received⟩
  exact absurd (verified.mp (same.mp done)) (by decide)

end Firmware

end IspDriver
