import IspDriver.Proofs.Simulation.Effect
import IspDriver.Simulation.Inspection

/-!
Copies that go through: on a chip that answers and whose copy engine runs and is idle, a sensor
register takes what the engine finds in its source register, and its value arrives in the target
register. One byte is taken from, and arrives in, the top of a register, whatever half of it the
value was put into.
-/

namespace IspDriver

namespace Simulation

theorem Memory.load_add (memory : Memory) (start count more : Nat) :
    memory.load start (count + more) =
      memory.load start count ++ memory.load (start + count) more := by
  simp [Memory.load, List.range_add, Nat.add_assoc]

theorem Memory.take_load {memory : Memory} {start count whole : Nat} (le : count ≤ whole) :
    (memory.load start whole).take count = memory.load start count := by
  rw [Memory.load, ← List.map_take, List.take_range, Nat.min_eq_left le, Memory.load]

namespace Chip

variable {chip : Chip} {offset : UInt16} {data : List UInt8}

theorem sensorKey_or {high : UInt32} (clear : high.toNat % 65536 = 0) (low : UInt16) :
    sensorKey (high ||| low.toUInt32) = ((high >>> 26) &&& 0xf, low.toUInt32) := by
  have whole := Bytes.toNat_or_low clear low
  have small := low.toNat_lt
  have low4 : ∀ number : Nat, number &&& 15 = number % 16 :=
    fun number => Nat.and_two_pow_sub_one_eq_mod number 4
  have low16 : ∀ number : Nat, number &&& 65535 = number % 65536 :=
    fun number => Nat.and_two_pow_sub_one_eq_mod number 16
  unfold sensorKey
  refine Prod.ext (UInt32.toNat_inj.mp ?_) (UInt32.toNat_inj.mp ?_)
  · simp only [UInt32.toNat_and, UInt32.toNat_shiftRight, whole, UInt32.reduceToNat, Nat.reduceMod,
      Nat.shiftRight_eq_div_pow, low4]
    omega
  · simp only [UInt32.toNat_and, whole, UInt32.reduceToNat, low16, UInt16.toNat_toUInt32]
    omega

theorem sensorKey_descriptor {port device : UInt32} (register : Register)
    (port_mem : port ∈ [0, 1]) (device_mem : device ∈ SensorModel.all.map (·.address)) :
    sensorKey (Bridge.descriptor port device register) = (port, register.offset.toUInt32) := by
  -- There are few heads of a descriptor; the offset is any number below them.
  have heads : [0, 1].all fun port => (SensorModel.all.map (·.address)).all fun device =>
      [Layout.Copy.sensorData16, 0].all fun wide => decide (
        (Layout.Copy.sensorPort port ||| wide ||| Layout.Copy.sensorAddress16 |||
          Layout.Copy.sensorDevice device).toNat % 65536 = 0 ∧
        ((Layout.Copy.sensorPort port ||| wide ||| Layout.Copy.sensorAddress16 |||
          Layout.Copy.sensorDevice device) >>> 26) &&& 0xf = port) := by decide
  simp only [List.all_eq_true, decide_eq_true_eq] at heads
  obtain ⟨clear, same⟩ := heads port port_mem device device_mem
    (if register.width = 2 then Layout.Copy.sensorData16 else 0) (by split <;> simp)
  unfold Bridge.descriptor
  rw [sensorKey_or clear, same]

/-- The copy engine has nothing to do. -/
def EngineIdle (chip : Chip) : Prop :=
  ∃ control, chip.peek? Layout.copyControl = some control ∧
    control &&& Layout.Copy.modeMask = Layout.Copy.idle

variable {before middle after : Chip}

/-- Nothing changed but the registers of the copy engine, short of the record. -/
structure SameBesideEngine (before after : Chip) : Prop where
  became : before.Became after.memory after
  byte : ∀ address, BesideEngine address 1 → after.memory.byte address = before.memory.byte address

theorem SameBesideEngine.trans (first : SameBesideEngine before middle)
    (second : SameBesideEngine middle after) : SameBesideEngine before after :=
  ⟨first.became.trans second.became, fun address beside =>
    (second.byte address beside).trans (first.byte address beside)⟩

theorem SameBesideEngine.sensors (same : SameBesideEngine before after) :
    after.sensors = before.sensors := by
  have sensors := congrArg Chip.sensors same.became
  exact sensors

theorem sameBesideEngine_storeDirect (chip : Chip)
    (above : Layout.copySource.offset.toNat ≤ offset.toNat)
    (below : offset.toNat + data.length ≤ Layout.copyControl.offset.toNat + 2) :
    SameBesideEngine chip (chip.storeDirect offset data) := by
  refine ⟨rfl, fun address beside => Memory.byte_store_outside ?_⟩
  have apart := beside.apart above below
  omega

theorem sameBesideEngine_taken (chip : Chip)
    (above : Layout.copySource.offset.toNat ≤ offset.toNat)
    (below : offset.toNat + data.length ≤ Layout.copyControl.offset.toNat + 2) :
    SameBesideEngine chip (chip.taken offset data) :=
  ⟨rfl, (sameBesideEngine_storeDirect chip above below).byte⟩

/-- The registers of the copy engine say what a copy moves. -/
structure Described (size source target : UInt32) (chip : Chip) : Prop where
  sound : chip.Sound
  size : chip.Shows Layout.copySize.offset.toNat (Bytes.ofUInt32 size)
  source : chip.Shows Layout.copySource.offset.toNat (Bytes.ofUInt32 source)
  target : chip.Shows Layout.copyTarget.offset.toNat (Bytes.ofUInt32 target)

theorem Described.taken {size source target : UInt32} (described : Described size source target chip)
    (data : List UInt8) :
    Described size source target (chip.taken Layout.copyControl.offset data) where
  sound := described.sound.taken
  size := described.size.taken (.inr (by rw [Bytes.length_ofUInt32]; decide))
  source := described.source.taken (.inr (by rw [Bytes.length_ofUInt32]; decide))
  target := described.target.taken (.inr (by rw [Bytes.length_ofUInt32]; decide))

/-- What a sensor register of this width takes of a value: of one byte it is the wrong one. -/
def carried (width value : UInt32) : UInt16 :=
  if width = 2 then value.toUInt16 else (value >>> 8).toUInt8.toUInt16

/-- What a copy of this width takes of a sensor register. -/
def fetched (width : UInt32) (value : UInt16) : List UInt8 :=
  if width = 1 then [value.toUInt8] else Bytes.ofUInt16 value

/-- The source word of a copy to a sensor, with the value in its upper half. -/
def sourceWord (value : UInt32) : UInt32 :=
  ((value &&& 0xffff) <<< 16) ||| Layout.copySource.offset.toUInt32

theorem toNat_sourceWord (value : UInt32) :
    (sourceWord value).toNat = value.toNat % 65536 * 65536 + 0x60a0 := by
  have shifted := Bytes.toNat_low_shifted value
  have whole := Bytes.toNat_or_low (by rw [shifted]; omega) Layout.copySource.offset
  rw [shifted] at whole
  exact whole

theorem sourceWord_high (value : UInt32) :
    (sourceWord value >>> 24).toUInt8.toNat = value.toNat / 256 % 256 ∧
      (sourceWord value >>> 16).toUInt8.toNat = value.toNat % 256 := by
  simp only [UInt32.toNat_toUInt8, UInt32.toNat_shiftRight, UInt32.reduceToNat, Nat.reduceMod,
    Nat.shiftRight_eq_div_pow, toNat_sourceWord]
  omega

theorem toNat_carried_one (value : UInt32) :
    (carried 1 value).toNat = value.toNat / 256 % 256 := by
  have narrow : carried 1 value = (value >>> 8).toUInt8.toUInt16 := rfl
  rw [narrow, UInt8.toNat_toUInt16, UInt32.toNat_toUInt8, UInt32.toNat_shiftRight,
    Nat.shiftRight_eq_div_pow]
  rfl

theorem toNat_carried_two (value : UInt32) : (carried 2 value).toNat = value.toNat % 65536 := by
  have wide : carried 2 value = value.toUInt16 := rfl
  rw [wide, UInt32.toNat_toUInt16]

theorem take_sourceWord {width : UInt32} (value : UInt32) (sensor : width = 1 ∨ width = 2) :
    (Bytes.bigEndian ((Bytes.ofUInt32 (sourceWord value)).take width.toNat)).toUInt16 =
      carried width value := by
  obtain ⟨first, second⟩ := sourceWord_high value
  apply UInt16.toNat_inj.mp
  rw [Bytes.bigEndian_eq, UInt32.toNat_toUInt16, Nat.toUInt32_eq, UInt32.toNat_ofNat']
  rcases sensor with rfl | rfl
  · have front : (Bytes.ofUInt32 (sourceWord value)).take (1 : UInt32).toNat =
        [(sourceWord value >>> 24).toUInt8] := rfl
    have number : Bytes.positional [(sourceWord value >>> 24).toUInt8] =
        value.toNat / 256 % 256 := by
      rw [Bytes.positional_cons, first]
      simp [Bytes.positional]
    rw [front, number, toNat_carried_one]
    omega
  · have front : (Bytes.ofUInt32 (sourceWord value)).take (2 : UInt32).toNat =
        [(sourceWord value >>> 24).toUInt8, (sourceWord value >>> 16).toUInt8] := rfl
    have number : Bytes.positional
        [(sourceWord value >>> 24).toUInt8, (sourceWord value >>> 16).toUInt8] =
          value.toNat % 65536 := by
      rw [Bytes.positional_cons, Bytes.positional_cons, first, second]
      simp only [Bytes.positional, List.foldl_nil, List.length_cons, List.length_nil]
      omega
    rw [front, number, toNat_carried_two]
    omega

theorem length_fetched {width : UInt32} (sensor : width = 1 ∨ width = 2) (value : UInt16) :
    (fetched width value).length = width.toNat := by
  rcases sensor with rfl | rfl <;> rfl

theorem engineIdle_storeDirect (chip : Chip) {control : UInt16}
    (idle : control.toUInt32 &&& Layout.Copy.modeMask = Layout.Copy.idle) :
    (chip.storeDirect Layout.copyControl.offset (Bytes.ofUInt16 control)).EngineIdle := by
  have stored : (chip.memory.store Layout.copyControl.offset.toNat (Bytes.ofUInt16 control)).load
      Layout.copyControl.offset.toNat 2 = Bytes.ofUInt16 control :=
    Memory.load_store_ofUInt16 control
  refine ⟨control.toUInt32, ?_, idle⟩
  have shown : ∀ chip : Chip, chip.peek? Layout.copyControl =
      some (Bytes.bigEndian (chip.memory.load Layout.copyControl.offset.toNat 2)) := fun _ => rfl
  rw [shown, Chip.storeDirect, stored, Bytes.bigEndian_ofUInt16]

variable {width value source target : UInt32}

theorem clamp_width (sensor : width = 1 ∨ width = 2) : max 1 (min 4 width.toNat) = width.toNat := by
  rcases sensor with rfl | rfl <;> rfl

theorem copy?_toSensor (described : Described width (sourceWord value) target chip)
    (sensor : width = 1 ∨ width = 2) :
    ∃ after, chip.copy? (Layout.Copy.toSensor ||| Layout.Copy.start) = some after ∧
      after.Sound ∧ after.EngineIdle ∧ after.sensors =
        (chip.setSensor (sensorKey target).1 (sensorKey target).2 (carried width value)).sensors := by
  have address : (sourceWord value).toUInt16 = Layout.copySource.offset := by
    apply UInt16.toNat_inj.mp
    have number : Layout.copySource.offset.toNat = 0x60a0 := rfl
    rw [UInt32.toNat_toUInt16, toNat_sourceWord, number]
    omega
  have found : chip.memory.load Layout.copySource.offset.toNat width.toNat =
      (Bytes.ofUInt32 (sourceWord value)).take width.toNat := by
    have small : width.toNat ≤ (Bytes.ofUInt32 (sourceWord value)).length := by
      rcases sensor with rfl | rfl <;> simp
    rw [← Memory.take_load small, described.source.loaded]
  have inside : Layout.copySource.offset.toNat + width.toNat ≤ spaceSize := by
    rcases sensor with rfl | rfl <;> decide
  have copied : chip.copied? (Layout.Copy.toSensor ||| Layout.Copy.start) =
      some ((Bytes.ofUInt32 (sourceWord value)).take width.toNat) := by
    simp only [copied?, described.size.word32, described.source.word32, clamp_width sensor]
    rw [if_neg (by decide), address, load?, if_pos inside, found]
  have short : ((Bytes.ofUInt32 (sourceWord value)).take width.toNat).take 2 =
      (Bytes.ofUInt32 (sourceWord value)).take width.toNat := by
    rcases sensor with rfl | rfl <;> rfl
  have placed : chip.place? (Layout.Copy.toSensor ||| Layout.Copy.start)
      ((Bytes.ofUInt32 (sourceWord value)).take width.toNat) =
        some (chip.setSensor (sensorKey target).1 (sensorKey target).2 (carried width value)) := by
    simp only [place?, described.target.word32]
    rw [if_pos (by decide), short, take_sourceWord value sensor]
  have sound := described.sound
  have stopped : ((Layout.Copy.toSensor ||| Layout.Copy.start) &&& ~~~Layout.Copy.modeMask) =
      Layout.Copy.toSensor := by decide
  refine ⟨(chip.setSensor (sensorKey target).1 (sensorKey target).2
    (carried width value)).storeDirect Layout.copyControl.offset
      (Bytes.ofUInt16 Layout.Copy.toSensor.toUInt16), ?_,
    ⟨sound.awake, sound.reads, sound.writes, sound.runs⟩, ?_, rfl⟩
  · simp only [copy?, copied, placed, Option.bind_eq_bind, Option.bind_some, Option.pure_def, stopped]
    rw [if_pos ⟨by decide, sound.runs⟩]
  · exact engineIdle_storeDirect _ (by decide)

theorem copy?_fromSensor
    (described : Described width source Layout.copyTarget.offset.toUInt32 chip)
    (sensor : width = 1 ∨ width = 2) :
    ∃ after, chip.copy? (Layout.Copy.fromSensor ||| Layout.Copy.start) = some after ∧
      after.Sound ∧ after.EngineIdle ∧ chip.SameBesideEngine after ∧
        after.memory.load Layout.copyTarget.offset.toNat width.toNat = fetched width
          ((chip.sensors (sensorKey source).1 (sensorKey source).2).getD 0) := by
  have one : max 1 (min 4 width.toNat) = 1 ↔ width = 1 := by
    rcases sensor with rfl | rfl <;> decide
  have copied : chip.copied? (Layout.Copy.fromSensor ||| Layout.Copy.start) =
      some (fetched width ((chip.sensors (sensorKey source).1 (sensorKey source).2).getD 0)) := by
    simp only [copied?, described.size.word32, described.source.word32, one, fetched]
    rw [if_pos (by decide)]
  have placed : ∀ value, chip.place? (Layout.Copy.fromSensor ||| Layout.Copy.start)
      (fetched width value) =
        some (chip.storeDirect Layout.copyTarget.offset (fetched width value)) := by
    intro value
    have inside : Layout.copyTarget.offset.toNat + (fetched width value).length ≤ spaceSize := by
      rw [length_fetched sensor]
      rcases sensor with rfl | rfl <;> decide
    simp only [place?, described.target.word32]
    rw [if_neg (by decide), UInt16.toUInt16_toUInt32, store?, if_pos inside]
  have sound := described.sound
  have stopped : ((Layout.Copy.fromSensor ||| Layout.Copy.start) &&& ~~~Layout.Copy.modeMask) =
      Layout.Copy.fromSensor := by decide
  generalize (chip.sensors (sensorKey source).1 (sensorKey source).2).getD 0 = value at copied
  have short : Layout.copyTarget.offset.toNat + (fetched width value).length ≤
      Layout.copyControl.offset.toNat + 2 := by
    rw [length_fetched sensor]
    rcases sensor with rfl | rfl <;> decide
  have stored := sameBesideEngine_storeDirect chip (by decide) short
  have released := @sameBesideEngine_storeDirect Layout.copyControl.offset
    (Bytes.ofUInt16 Layout.Copy.fromSensor.toUInt16)
    (chip.storeDirect Layout.copyTarget.offset (fetched width value)) (by decide) (by decide)
  refine ⟨(chip.storeDirect Layout.copyTarget.offset (fetched width value)).storeDirect
    Layout.copyControl.offset (Bytes.ofUInt16 Layout.Copy.fromSensor.toUInt16), ?_,
    ⟨sound.awake, sound.reads, sound.writes, sound.runs⟩, ?_, stored.trans released, ?_⟩
  · simp only [copy?, copied, placed, Option.bind_eq_bind, Option.bind_some, Option.pure_def, stopped]
    rw [if_pos ⟨by decide, sound.runs⟩]
  · exact engineIdle_storeDirect _ (by decide)
  · have arrived : (chip.storeDirect Layout.copyTarget.offset (fetched width value)).Shows
        Layout.copyTarget.offset.toNat (fetched width value) :=
      ⟨sound.awake, Memory.load_store_same⟩
    have kept := @Shows.storeDirect _ Layout.copyControl.offset _ _
      (Bytes.ofUInt16 Layout.Copy.fromSensor.toUInt16) arrived (.inr ?_)
    · rw [← length_fetched sensor value]
      exact kept.loaded
    · rw [length_fetched sensor]
      rcases sensor with rfl | rfl <;> decide

/-- A word at the control register sets off the copy that the other registers describe. -/
theorem Sound.write_control (sound : chip.Sound) {control : UInt16} {after : Chip}
    (copied : (chip.taken Layout.copyControl.offset (Bytes.ofUInt16 control)).copy?
      control.toUInt32 = some after) :
    chip.write Layout.copyControl.offset (Bytes.ofUInt16 control) = (some (.ok ()), after) := by
  have missed : Layout.copyControl.offset ∉ chip.faults.writes := by simp [sound.writes]
  rw [Chip.write_control sound.awake missed (Bytes.length_ofUInt16 control),
    Bytes.bigEndian_ofUInt16, copied]

end Chip

theorem Bench.undisturbed_awake :
    Undisturbed Bench.host (fun _ _ => True) (fun bench => bench.chip.inReset = false)
      (fun bench => bench.chip.inReset = false) where
  read _ _ _ awake := Bench.replied_read fun _ => awake
  write offset data bench _ awake :=
    Bench.replied_write ((bench.chip.inReset_write offset data).trans awake)
  wait _ _ awake := awake
  noted _ _ awake := awake
  select _ := trivial

namespace Bench

open Routine RegisterMap

variable {bench : Bench} {map : RegisterMap} {register : Register} {value : UInt32}
  {size source target control : UInt32}

/-- Nothing that is asked of the bench for a copy fails, and none is under way. -/
structure Ready (bench : Bench) : Prop where
  plain : bench.faults.overrides = []
  sound : bench.chip.Sound
  idle : bench.chip.EngineIdle

theorem waitIdle_gives (ready : bench.Ready) :
    Bridge.waitIdle.Gives Bench.host map bench fun _ _ left =>
      left.faults = bench.faults ∧ left.chip = bench.chip := by
  obtain ⟨control, shown, idle⟩ := ready.idle
  have found : control = Bytes.bigEndian (bench.chip.memory.load Layout.copyControl.offset.toNat
      Layout.copyControl.width.toNat) := (Option.some.inj shown).symm
  unfold Bridge.waitIdle Bridge.pollLimit Bridge.pollIdle
  refine (load_gives (.inl (by decide)) (by decide) (by decide) (by decide) (by decide) ready.plain
    ready.sound).bind fun word after left given => ?_
  obtain ⟨-, faults, chip, rfl⟩ := given
  rw [found] at idle
  rw [if_pos idle]
  exact ⟨faults, chip⟩

/-- The four writes of a copy run it, as the first three describe it. -/
theorem copy_gives {post : Chip → Prop} (sound : bench.chip.Sound)
    (short : control.toUInt16.toUInt32 = control)
    (runs : ∀ chip, Chip.Described size source target chip → bench.chip.SameBesideEngine chip →
      ∃ after, chip.copy? control = some after ∧ post after) :
    (RegisterMap.writeAll [(Layout.copySize, size), (Layout.copySource, source),
      (Layout.copyTarget, target), (Layout.copyControl, control)]).Gives Bench.host map bench
      fun _ _ left => left.faults = bench.faults ∧ post left.chip := by
  refine (store_gives (.inr (by decide)) (by decide) (by constructor <;> decide) (by decide)
    sound).bind fun _ map sized given => ?_
  obtain ⟨-, sizedFaults, sizedChip⟩ := given
  have sizedSound : sized.chip.Sound := sizedChip ▸ sound.taken
  refine (store_gives (.inr (by decide)) (by decide) (by constructor <;> decide) (by decide)
    sizedSound).bind fun _ map sourced given => ?_
  obtain ⟨-, sourcedFaults, sourcedChip⟩ := given
  have sourcedSound : sourced.chip.Sound := sourcedChip ▸ sizedSound.taken
  refine (store_gives (.inr (by decide)) (by decide) (by constructor <;> decide) (by decide)
    sourcedSound).bind fun _ map aimed given => ?_
  obtain ⟨-, aimedFaults, aimedChip⟩ := given
  rw [busBytes_of_four (by decide)] at sizedChip sourcedChip aimedChip
  have faults : aimed.faults = bench.faults :=
    aimedFaults.trans (sourcedFaults.trans sizedFaults)
  have described : Chip.Described size source target aimed.chip := by
    rw [aimedChip, sourcedChip, sizedChip]
    refine ⟨sound.taken.taken.taken, ?_, ?_, sound.taken.taken.shows_taken⟩
    · refine (sound.shows_taken.taken ?_).taken ?_ <;> simp only [Bytes.length_ofUInt32] <;> decide
    · refine sound.taken.shows_taken.taken ?_
      simp only [Bytes.length_ofUInt32]
      decide
  have same : bench.chip.SameBesideEngine (aimed.chip.taken Layout.copyControl.offset
      (Bytes.ofUInt16 control.toUInt16)) := by
    have wide (chip : Chip) (word : UInt32) (register : Register)
        (above : Layout.copySource.offset.toNat ≤ register.offset.toNat)
        (below : register.offset.toNat + 4 ≤ Layout.copyControl.offset.toNat + 2) :
        chip.SameBesideEngine (chip.taken register.offset (Bytes.ofUInt32 word)) :=
      chip.sameBesideEngine_taken above (by rwa [Bytes.length_ofUInt32])
    rw [aimedChip, sourcedChip, sizedChip]
    refine (wide _ _ _ (by decide) (by decide)).trans ((wide _ _ _ (by decide) (by decide)).trans
      ((wide _ _ _ (by decide) (by decide)).trans (Chip.sameBesideEngine_taken _ (by decide) ?_)))
    rw [Bytes.length_ofUInt16]
  have last : (RegisterMap.write Layout.copyControl control).Gives Bench.host map aimed
      fun _ _ left => left.faults = bench.faults ∧ post left.chip := by
    refine (write_direct_ends (.inl (by decide)) (by decide)).mono ?_
    intro outcome final left ended
    obtain ⟨-, still, rfl, written⟩ := ended
    obtain ⟨after, copied, holds⟩ :=
      runs _ (described.taken (Bytes.ofUInt16 control.toUInt16)) same
    have copied : (aimed.chip.taken Layout.copyControl.offset
        (Bytes.ofUInt16 control.toUInt16)).copy? control.toUInt16.toUInt32 = some after := by
      rw [short]
      exact copied
    rw [busBytes_of_two (by decide), described.sound.write_control copied] at written ⊢
    exact ⟨still.trans faults, written ▸ holds⟩
  exact last.bind fun _ _ _ ended => ended

theorem checkWidth_bind {α : Type} (sensor : register.width = 1 ∨ register.width = 2)
    {next : Unit → Access Bench α} : (Bridge.checkWidth register >>= next) = next () := by
  unfold Bridge.checkWidth
  rw [if_pos sensor]
  rfl

theorem writeSensor_gives {port device : UInt32} (ready : bench.Ready)
    (sensor : register.width = 1 ∨ register.width = 2) (port_mem : port ∈ [0, 1])
    (device_mem : device ∈ SensorModel.all.map (·.address)) :
    (Bridge.writeSensor port device register value).Gives Bench.host map bench fun _ _ left =>
      left.Ready ∧ left.chip.sensors = (bench.chip.setSensor port register.offset.toUInt32
        (Chip.carried register.width value)).sensors := by
  unfold Bridge.writeSensor
  rw [checkWidth_bind sensor]
  refine (waitIdle_gives ready).bind fun _ map polled given => ?_
  obtain ⟨polledFaults, polledChip⟩ := given
  refine note_gives.bind fun _ map noted given => ?_
  obtain ⟨notedFaults, notedChip⟩ := given
  have chip : noted.chip = bench.chip := notedChip.trans polledChip
  refine (@copy_gives noted map register.width (Chip.sourceWord value)
    (Bridge.descriptor port device register) (Layout.Copy.toSensor ||| Layout.Copy.start)
    (fun after => after.Sound ∧ after.EngineIdle ∧
      after.sensors = (bench.chip.setSensor port register.offset.toUInt32
        (Chip.carried register.width value)).sensors) (chip ▸ ready.sound) (by decide) ?_).bind
    fun _ map left given => ?_
  · intro described describes kept
    obtain ⟨after, copied, sound, idle, sensors⟩ := Chip.copy?_toSensor describes sensor
    refine ⟨after, copied, sound, idle, ?_⟩
    rw [sensors, Chip.sensorKey_descriptor register port_mem device_mem]
    simp only [Chip.setSensor, kept.sensors, chip]
  · obtain ⟨same, sound, idle, sensors⟩ := given
    have plain : left.faults.overrides = [] := by
      rw [same, notedFaults, polledFaults]
      exact ready.plain
    refine (waitIdle_gives ⟨plain, sound, idle⟩).mono fun _ _ final given => ?_
    obtain ⟨still, chip⟩ := given
    rw [chip]
    exact ⟨⟨still ▸ plain, chip ▸ sound, chip ▸ idle⟩, sensors⟩

theorem readSensor_gives {port device : UInt32} (ready : bench.Ready)
    (sensor : register.width = 1 ∨ register.width = 2) (port_mem : port ∈ [0, 1])
    (device_mem : device ∈ SensorModel.all.map (·.address)) :
    (Bridge.readSensor port device register).Gives Bench.host map bench fun found _ left =>
      left.Ready ∧ bench.chip.SameBesideEngine left.chip ∧
        found = Bytes.bigEndian (Chip.fetched register.width
          ((bench.chip.sensors port register.offset.toUInt32).getD 0)) := by
  unfold Bridge.readSensor
  rw [checkWidth_bind sensor]
  refine (waitIdle_gives ready).bind fun _ map polled given => ?_
  obtain ⟨polledFaults, polledChip⟩ := given
  refine (@copy_gives polled map register.width
    (Bridge.descriptor port device register) Layout.copyTarget.offset.toUInt32
    (Layout.Copy.fromSensor ||| Layout.Copy.start)
    (fun after => after.Sound ∧ after.EngineIdle ∧ bench.chip.SameBesideEngine after ∧
      after.memory.load Layout.copyTarget.offset.toNat register.width.toNat =
        Chip.fetched register.width ((bench.chip.sensors port register.offset.toUInt32).getD 0))
    (polledChip ▸ ready.sound) (by decide) ?_).bind fun _ map left given => ?_
  · intro described describes kept
    obtain ⟨after, copied, sound, idle, same, loaded⟩ := Chip.copy?_fromSensor describes sensor
    rw [polledChip] at kept
    refine ⟨after, copied, sound, idle, kept.trans same, ?_⟩
    rw [loaded, kept.sensors, Chip.sensorKey_descriptor register port_mem device_mem]
  · obtain ⟨faults, sound, idle, same, loaded⟩ := given
    have plain : left.faults.overrides = [] := by
      rw [faults, polledFaults]
      exact ready.plain
    refine (waitIdle_gives ⟨plain, sound, idle⟩).bind fun _ map waited given => ?_
    obtain ⟨still, chip⟩ := given
    refine (load_gives (.inr (by decide)) (by decide) (by decide) (by decide) (by decide)
      (still ▸ plain) (chip ▸ sound)).bind fun word map final given => ?_
    obtain ⟨-, finalFaults, unchanged, rfl⟩ := given
    refine note_gives.bind fun _ map noted given => ends_pure.mpr ?_
    obtain ⟨notedFaults, notedChip⟩ := given
    have last : noted.chip = left.chip := notedChip.trans (unchanged.trans chip)
    refine ⟨⟨?_, last ▸ sound, last ▸ idle⟩, last ▸ same, ?_⟩
    · rw [notedFaults, finalFaults, still]
      exact plain
    · have four : Layout.copyTarget.width.toNat =
          register.width.toNat + (4 - register.width.toNat) := by
        rcases sensor with one | two
        · rw [one]
          rfl
        · rw [two]
          rfl
      have front := Chip.length_fetched sensor
        ((bench.chip.sensors port register.offset.toUInt32).getD 0)
      have width : register.width.toNat = 1 ∨ register.width.toNat = 2 :=
        sensor.imp (congrArg UInt32.toNat) (congrArg UInt32.toNat)
      have shift : (32 - register.width * 8).toNat = 8 * (4 - register.width.toNat) := by
        rcases sensor with one | two
        · rw [one]
          rfl
        · rw [two]
          rfl
      rw [chip, four, Memory.load_add, loaded]
      refine Bytes.bigEndian_append_shiftRight ?_ ?_ ?_
      · rw [List.length_append, front, Memory.length_load]
        omega
      · rw [Memory.length_load]
        omega
      · rw [Memory.length_load, shift]

end Bench

end Simulation

end IspDriver
