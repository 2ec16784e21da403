import IspDriver.Proofs.Firmware.Crc
import IspDriver.Proofs.Firmware.Download

/-!
Damaged firmware. If what is wrong with a payload lies within two adjacent bytes, the chip makes
another checksum of it than the header declares; so the download fails, and the chip is never told
that it is complete.
-/

namespace IspDriver

open Routine Simulation

namespace Bytes

variable {data other : List UInt8} {position : Nat}

/-- Nothing differs outside the places `position` and `position + 1`. -/
def AgreeBeside (position : Nat) (data other : List UInt8) : Prop :=
  ∀ i, i ≠ position → i ≠ position + 1 → data[i]? = other[i]?

theorem eq_pair_between (inside : position + 1 < data.length) :
    data = data.take position ++ [data[position], data[position + 1]] ++ data.drop (position + 2) := by
  have second := List.drop_eq_getElem_cons inside
  have first := List.drop_eq_getElem_cons (Nat.lt_of_succ_lt inside)
  calc data
      = data.take position ++ data.drop position := (List.take_append_drop ..).symm
    _ = data.take position ++ data[position] :: data[position + 1] :: data.drop (position + 2) := by
        rw [first, second]
    _ = _ := by rw [List.append_assoc]; rfl

theorem AgreeBeside.take_eq (agree : AgreeBeside position data other) :
    data.take position = other.take position := by
  apply List.ext_getElem?
  intro i
  rw [List.getElem?_take, List.getElem?_take]
  split
  · next before => exact agree i (Nat.ne_of_lt before) (Nat.ne_of_lt (Nat.lt_succ_of_lt before))
  · rfl

theorem AgreeBeside.drop_eq (agree : AgreeBeside position data other) :
    data.drop (position + 2) = other.drop (position + 2) := by
  apply List.ext_getElem?
  intro i
  rw [List.getElem?_drop, List.getElem?_drop]
  exact agree _ (by omega) (by omega)

/-- Two runs of bytes that agree outside a pair are the same but for it. -/
theorem AgreeBeside.exists_pairs (agree : AgreeBeside position data other)
    (inside : position + 1 < other.length) (same : data.length = other.length) :
    ∃ front back first second third fourth,
      data = front ++ [first, second] ++ back ∧ other = front ++ [third, fourth] ++ back := by
  have within : position + 1 < data.length := by rwa [same]
  have whole := eq_pair_between within
  rw [agree.take_eq, agree.drop_eq] at whole
  exact ⟨_, _, _, _, _, _, whole, eq_pair_between inside⟩

theorem AgreeBeside.absorbAll_ne (agree : AgreeBeside position data other) (differ : data ≠ other)
    (inside : position + 1 < other.length) (same : data.length = other.length) (seed : UInt16) :
    Crc.absorbAll seed data ≠ Crc.absorbAll seed other := by
  obtain ⟨front, back, first, second, third, fourth, rfl, rfl⟩ := agree.exists_pairs inside same
  refine Crc.absorbAll_pair_ne seed front back fun equal => differ ?_
  obtain ⟨rfl, rfl⟩ := Prod.mk.inj equal
  rfl

end Bytes

namespace FirmwareImage

variable {clock main data : List UInt8} {position : Nat}

/-- A file that is wrong in two adjacent bytes of its payload has the header that was made. -/
theorem made_of_agreeBeside (long : data.length = (encode clock main).length)
    (agree : Bytes.AgreeBeside (FirmwareHeader.size + position) data (encode clock main)) :
    ∃ body, data = (madeHeader clock main).bytes ++ body ∧
      body.length = (clock ++ main).length ∧
      Bytes.AgreeBeside position body (clock ++ main) := by
  have size := FirmwareHeader.length_bytes (madeHeader clock main)
  rw [encode_eq] at long agree
  have lengths := @List.length_append _ (madeHeader clock main).bytes (clock ++ main)
  have header : data.take FirmwareHeader.size = (madeHeader clock main).bytes := by
    have shorter := congrArg (List.take FirmwareHeader.size) agree.take_eq
    rw [List.take_take, List.take_take, Nat.min_eq_left (Nat.le_add_right ..),
      List.take_left' size] at shorter
    exact shorter
  refine ⟨data.drop FirmwareHeader.size, ?_, ?_, ?_⟩
  · rw [← header, List.take_append_drop]
  · rw [List.length_drop]
    omega
  · intro i first second
    have same := agree (FirmwareHeader.size + i) (by omega) (by omega)
    rw [List.getElem?_drop, same, List.getElem?_append_right (by omega), size,
      Nat.add_sub_cancel_left]

end FirmwareImage

namespace Firmware

open FirmwareImage (encode)

variable {S : Type} {clock main data : List UInt8} {position : Nat} {bench : Bench} {state : S}
  {registers : Part S RegisterMap} {enter : BootStage → Routine Bench S Unit}
  {image : FirmwareImage}

/-- A download whose payload has another checksum than the image declares fails, and the chip is told
no more than that its clocks can start. -/
theorem download_of_wrong_payload (awake : bench.chip.inReset = false)
    (readable : bench.chip.faults.reads = []) (writable : bench.chip.faults.writes = [])
    (honest : bench.chip.faults.crcFailures = 0) (plain : bench.faults.overrides = [])
    (announces : Announces enter)
    (wrong : (Crc.absorbAll Crc.seed image.payload).toUInt32 ≠ image.expectedCrc) :
    (download registers enter image).Ends Bench.host state bench fun outcome _ left =>
      outcome = .failed
          (.crcMismatch image.expectedCrc (Crc.absorbAll Crc.seed image.payload).toUInt32) ∧
        left.chip.writesTo Layout.bootStage =
          bench.chip.writesTo Layout.bootStage ++ [Layout.BootStage.clockReady] := by
  have ended := @download_reported S bench image registers enter state awake readable writable plain
    announces
  have unspoiled : decide (bench.chip.faults.crcFailures ≠ 0) = false := by simp [honest]
  rw [unspoiled] at ended
  refine Ends.mono ended ?_
  intro outcome _ left ended
  obtain ⟨-, result, -, told⟩ := ended
  exact ⟨result.trans (if_neg wrong), told wrong⟩

/-- Two different pairs of bytes at the same place of the same bytes make different checksums. So if
a file was made and then changed within two adjacent bytes of its payload, it is read, but its
download to a chip without faults fails with both checksums; of the stages the chip is told only
that its clocks can start, and never that the download is complete. -/
theorem adjacent_damage_detected :
    (∀ (seed : UInt16) (front back : List UInt8) (first second third fourth : UInt8),
      (first, second) ≠ (third, fourth) →
        Crc.absorbAll seed (front ++ [first, second] ++ back) ≠
          Crc.absorbAll seed (front ++ [third, fourth] ++ back)) ∧
      ∀ (clock main data : List UInt8) (position : Nat),
        (clock ++ main).length < 2 ^ 32 → position + 1 < (clock ++ main).length →
        data.length = (encode clock main).length → data ≠ encode clock main →
        (∀ i, i ≠ 16 + position → i ≠ 16 + position + 1 → data[i]? = (encode clock main)[i]?) →
        ∃ image, FirmwareImage.parse data = .ok image ∧
          ∀ (S : Type) (registers : Part S RegisterMap) (enter : BootStage → Routine Bench S Unit)
            (state : S) (bench : Bench),
            bench.chip.inReset = false → bench.chip.faults.reads = [] →
            bench.chip.faults.writes = [] → bench.chip.faults.crcFailures = 0 →
            bench.faults.overrides = [] → Announces enter →
            (download registers enter image).Ends Bench.host state bench fun outcome _ left =>
              outcome = .failed (.crcMismatch (Crc.absorbAll 0xffff (clock ++ main)).toUInt32
                  (Crc.absorbAll 0xffff (data.drop 16)).toUInt32) ∧
                left.chip.writesTo Layout.bootStage =
                  bench.chip.writesTo Layout.bootStage ++ [Layout.BootStage.clockReady] ∧
                Layout.BootStage.complete ∉ [Layout.BootStage.clockReady] := by
  refine ⟨fun seed front back _ _ _ _ => Crc.absorbAll_pair_ne seed front back, ?_⟩
  intro clock main data position small inside long differ agree
  obtain ⟨body, made, length, beside⟩ := FirmwareImage.made_of_agreeBeside long agree
  have changed : body ≠ clock ++ main := by
    intro same
    rw [made, same, ← FirmwareImage.encode_eq] at differ
    exact differ rfl
  obtain ⟨image, parsed, header, rest⟩ := FirmwareImage.parse_made small (Nat.le_of_eq length.symm)
  have payload : image.payload = body := by
    rw [FirmwareImage.payload, header, FirmwareImage.toNat_totalSize small, rest, ← length,
      List.take_length]
  have expected := FirmwareImage.expectedCrc_of_made header
  have wrong : (Crc.absorbAll Crc.seed image.payload).toUInt32 ≠ image.expectedCrc := by
    rw [payload, expected]
    intro same
    exact beside.absorbAll_ne changed inside length Crc.seed (UInt16.toUInt32_inj.mp same)
  rw [← made] at parsed
  refine ⟨image, parsed, fun S registers enter state bench awake readable writable honest plain
    announces => ?_⟩
  refine (download_of_wrong_payload awake readable writable honest plain announces wrong).mono ?_
  intro outcome _ left ended
  obtain ⟨result, told⟩ := ended
  rw [payload, expected] at result
  have dropped : data.drop 16 = body := by
    rw [made]
    exact List.drop_left' (FirmwareHeader.length_bytes _)
  rw [dropped]
  exact ⟨result, told, by decide⟩

/-- A wrong byte on the border of the segments, sent to a chip fresh from its reset. -/
theorem damage_between_segments_detected :
    let data := (encode [0x0a] [0x0b, 0x0c]).set 17 0x0f
    let registers : Part RegisterMap RegisterMap := ⟨id, fun after _ => after⟩
    let enter : BootStage → Access Bench Unit := fun stage => note .debug stage.text
    ∃ image, FirmwareImage.parse data = .ok image ∧
      (download registers enter image).Ends Bench.host {} Bench.fresh fun outcome _ left =>
        outcome = .failed (.crcMismatch 0x162b 0xdaef) ∧
          left.chip.writesTo Layout.bootStage = [Layout.BootStage.clockReady] := by
  intro data registers enter
  have announces : Announces enter := fun _ _ _ => ⟨rfl, rfl⟩
  have differ : data ≠ encode [0x0a] [0x0b, 0x0c] := by decide +kernel
  have agree : ∀ i, i ≠ 16 + 1 → i ≠ 16 + 1 + 1 → data[i]? = (encode [0x0a] [0x0b, 0x0c])[i]? :=
    fun i first _ => List.getElem?_set_ne first.symm
  obtain ⟨image, parsed, fails⟩ := adjacent_damage_detected.2 [0x0a] [0x0b, 0x0c] data 1
    (by decide) (by decide) (List.length_set ..) differ agree
  refine ⟨image, parsed, ?_⟩
  refine (fails _ registers enter {} Bench.fresh rfl rfl rfl rfl rfl announces).mono ?_
  intro outcome _ left ended
  obtain ⟨result, told, -⟩ := ended
  have expected : (Crc.absorbAll 0xffff ([0x0a] ++ [0x0b, 0x0c])).toUInt32 = 0x162b := by cbv
  have actual : (Crc.absorbAll 0xffff (data.drop 16)).toUInt32 = 0xdaef := by decide +kernel
  rw [expected, actual] at result
  exact ⟨result, told⟩

end Firmware

end IspDriver
