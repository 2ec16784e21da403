import IspDriver.Proofs.Device.Boot
import IspDriver.Proofs.Firmware.Handshake
import IspDriver.Proofs.Power.Schedule

/-!
The attempts of a boot, on any host. Each begins with a full power-up and with no page selected; only
a checksum that disagrees leads to the next one, through a full power-down, and only so often;
everything else ends the boot, and its error is returned once all is powered off.
-/

namespace IspDriver.Device

open Routine Firmware

/-! ## One attempt -/

def identityRequests : List Request :=
  [.read Layout.chipVersion.offset 2, .read Layout.chipRevision.offset 2]

/-- A stall after a power-up, when no page is selected. -/
def stallRequests : List Request :=
  [.write Layout.systemStart.offset (Bytes.ofUInt16 0x8040),
    .write Layout.systemStart.offset (Bytes.ofUInt16 0x8140), .wait 200000,
    .write Layout.pageSelect.offset (Bytes.ofUInt32 0x00230000),
    .write 0xe000 (Bytes.ofUInt32 0xc8)]

/-- What comes of detection and download when the record is `past`. -/
inductive Tried (image : FirmwareImage) (past : List Exchange) :
    List Exchange → Outcome Unit → Prop
  | unread {log : List Exchange} {outcome : Outcome Unit}
      (reads : Follows identityRequests log outcome) (stops : outcome ≠ .done ()) :
      Tried image past log outcome
  | unsupported {log : List Exchange} {version revision : UInt32}
      (reads : Follows identityRequests log (Outcome.done ()))
      (found : log.map Exchange.word? = [some version, some revision]) (differs : version ≠ 0x0265) :
      Tried image past log (.failed (.device (.chipVersion version)))
  | loaded {seen log : List Exchange} {revision : UInt32} {outcome : Outcome Unit}
      {told : List (BootStage × List Exchange)}
      (reads : Follows identityRequests seen (Outcome.done ()))
      (found : seen.map Exchange.word? = [some 0x0265, some revision])
      (handshake : Handshake image (past ++ seen) log told outcome) :
      Tried image past (seen ++ log) outcome

variable {σ : Type} {host : Host σ} {image : FirmwareImage} {past log : List Exchange}
  {outcome : Outcome Unit} {standby : Bool} {sensors : List SensorPower} {device : Device}

/-- The chip is told that a download is complete after it reported the supported version and the
checksum of the image, and not before. -/
theorem Tried.complete_last (tried : Tried image past log outcome) {exchange : Exchange}
    (member : exchange ∈ log) (complete : exchange.request = completeRequest) :
    ∃ seen revision front, log = seen ++ front ++ [exchange] ∧
      seen.map Exchange.word? = [some 0x0265, some revision] ∧
      Follows (transferRequests image) front (Outcome.done ()) ∧
      lastWord? front = some image.expectedCrc := by
  have other : exchange.request ∉ identityRequests := by
    rw [complete]
    decide
  cases tried with
  | unread reads stops => exact absurd member (reads.not_mem other)
  | unsupported reads found differs => exact absurd member (reads.not_mem other)
  | loaded reads found handshake =>
      rcases List.mem_append.mp member with early | late
      · exact absurd early (reads.not_mem other)
      · obtain ⟨front, rfl, transferred, agreed⟩ := handshake.complete_last late complete
        exact ⟨_, _, front, (List.append_assoc ..).symm, found, transferred, agreed⟩

/-- The device has these wires and sensors. -/
structure Wired (standby : Bool) (sensors : List SensorPower) (device : Device) : Prop where
  standby : device.power.hasStandby = standby
  sensors : device.sensorPowers = sensors

/-- An attempt: a power-up, and detection and download after it. -/
structure Attempt (σ : Type) where
  powerUp : List Exchange
  /-- The device and the world that detection begins with. -/
  device : Device
  world : σ
  log : List Exchange
  result : Outcome Unit
  /-- How the stall ended, if it came to that. -/
  stalled? : Option (Outcome Unit)

namespace Attempt

def Mismatches (attempt : Attempt σ) : Prop :=
  ∃ expected actual, attempt.result = .failed (.crcMismatch expected actual)

/-- The attempt is made when the record is `past`. -/
structure Made (host : Host σ) (image : FirmwareImage) (standby : Bool) (past : List Exchange)
    (attempt : Attempt σ) : Prop where
  powered : Follows (IspPower.powerUpRequests standby) attempt.powerUp (Outcome.done ())
  forgotten : attempt.device.registers.page? = none
  ran : (detectAndLoad image).Ends host.recording attempt.device
    (attempt.world, past ++ attempt.powerUp) fun outcome _ left =>
      outcome = attempt.result ∧ left.2 = past ++ attempt.powerUp ++ attempt.log
  tried : Tried image (past ++ attempt.powerUp) attempt.log attempt.result

end Attempt

/-- What comes of `left` attempts that begin when the record is `past`: those that were made, what
they add to the record with all around them, and the outcome. -/
inductive Attempts {σ : Type} (host : Host σ) (image : FirmwareImage) (standby : Bool)
    (sensors : List SensorPower) :
    (left : Nat) → (past : List Exchange) → List (Attempt σ) → List Exchange → Outcome Unit → Prop
  | exhausted {past log : List Exchange} {outcome : Outcome Unit}
      (closes : Closes (SensorPower.disableRequests sensors)
        (.failed (.timeout (.firmwareAttempts attemptLimit))) log outcome) :
      Attempts host image standby sensors 0 past [] log outcome
  | unpowered {left : Nat} {past front rest : List Exchange} {cause outcome : Outcome Unit}
      (unwinds : Unwinds (IspPower.powerUpRequests standby) Request.Releases front cause)
      (stops : cause ≠ .done ())
      (closes : Closes (SensorPower.disableRequests sensors) cause rest outcome) :
      Attempts host image standby sensors (left + 1) past [] (front ++ rest) outcome
  | refused {left : Nat} {past rest : List Exchange} {attempt : Attempt σ} {outcome : Outcome Unit}
      (made : attempt.Made host image standby past) (unstalled : attempt.stalled? = none)
      (stops : attempt.result ≠ .done ()) (agrees : ¬ attempt.Mismatches)
      (closes : Closes
        (IspPower.powerDownRequests standby ++ SensorPower.disableRequests sensors)
        attempt.result rest outcome) :
      Attempts host image standby sensors (left + 1) past [attempt]
        (attempt.powerUp ++ attempt.log ++ rest) outcome
  | again {left : Nat} {past down rest : List Exchange} {attempt : Attempt σ}
      {attempts : List (Attempt σ)} {outcome : Outcome Unit}
      (made : attempt.Made host image standby past) (unstalled : attempt.stalled? = none)
      (mismatches : attempt.Mismatches)
      (off : Insists (IspPower.powerDownRequests standby) down (Outcome.done ()))
      (others : Attempts host image standby sensors left
        (past ++ (attempt.powerUp ++ attempt.log ++ down)) attempts rest outcome) :
      Attempts host image standby sensors (left + 1) past (attempt :: attempts)
        (attempt.powerUp ++ attempt.log ++ down ++ rest) outcome
  | lost {left : Nat} {past down : List Exchange} {attempt : Attempt σ}
      (made : attempt.Made host image standby past) (unstalled : attempt.stalled? = none)
      (mismatches : attempt.Mismatches)
      (off : Insists (IspPower.powerDownRequests standby) down (Outcome.aborted : Outcome Unit)) :
      Attempts host image standby sensors (left + 1) past [attempt]
        (attempt.powerUp ++ attempt.log ++ down) .aborted
  | unstalled {left : Nat} {past front rest : List Exchange} {attempt : Attempt σ}
      {cause outcome : Outcome Unit}
      (made : attempt.Made host image standby past) (loaded : attempt.result = .done ())
      (stalls : Follows stallRequests front cause) (stalled : attempt.stalled? = some cause)
      (stops : cause ≠ .done ())
      (closes : Closes
        (IspPower.powerDownRequests standby ++ SensorPower.disableRequests sensors) cause rest
        outcome) :
      Attempts host image standby sensors (left + 1) past [attempt]
        (attempt.powerUp ++ attempt.log ++ (front ++ rest)) outcome
  | booted {left : Nat} {past front : List Exchange} {attempt : Attempt σ}
      (made : attempt.Made host image standby past) (loaded : attempt.result = .done ())
      (stalls : Follows stallRequests front (Outcome.done ()))
      (stalled : attempt.stalled? = some (.done ())) :
      Attempts host image standby sensors (left + 1) past [attempt]
        (attempt.powerUp ++ attempt.log ++ front) (.done ())

namespace Attempts

variable {left : Nat} {attempts : List (Attempt σ)}

theorem length_le (made : Attempts host image standby sensors left past attempts log outcome) :
    attempts.length ≤ left := by
  induction made with
  | exhausted => exact Nat.le_refl 0
  | again _ _ _ _ _ ih => exact Nat.succ_le_succ ih
  | unpowered => exact Nat.zero_le _
  | refused => exact Nat.succ_le_succ (Nat.zero_le _)
  | lost => exact Nat.succ_le_succ (Nat.zero_le _)
  | unstalled => exact Nat.succ_le_succ (Nat.zero_le _)
  | booted => exact Nat.succ_le_succ (Nat.zero_le _)

/-- An error that does not lead to another attempt is passed on. -/
theorem returned (made : Attempts host image standby sensors left past attempts log outcome) :
    ∀ attempt ∈ attempts, ∀ error,
      attempt.result = .failed error ∧ ¬ attempt.Mismatches ∨
        attempt.stalled? = some (.failed error) →
      outcome = .failed error ∨ outcome = .aborted := by
  induction made with
  | exhausted => exact List.forall_mem_nil _
  | unpowered => exact List.forall_mem_nil _
  | refused made unstalled stops agrees closes =>
      refine List.forall_mem_singleton.mpr ?_
      rintro error (⟨failed, -⟩ | stalled)
      · rw [failed] at closes
        exact closes.error_or_aborted
      · cases unstalled.symm.trans stalled
  | again made unstalled mismatches off others ih =>
      refine List.forall_mem_cons.mpr ⟨?_, ih⟩
      rintro error (⟨-, agrees⟩ | stalled)
      · exact absurd mismatches agrees
      · cases unstalled.symm.trans stalled
  | lost made unstalled mismatches off => exact fun _ _ _ _ => .inr rfl
  | unstalled made loaded stalls stalled stops closes =>
      refine List.forall_mem_singleton.mpr ?_
      rintro error (⟨failed, -⟩ | failed)
      · cases loaded.symm.trans failed
      · rw [Option.some.inj (stalled.symm.trans failed)] at closes
        exact closes.error_or_aborted
  | booted made loaded stalls stalled =>
      refine List.forall_mem_singleton.mpr ?_
      rintro error (⟨failed, -⟩ | failed)
      · cases loaded.symm.trans failed
      · cases stalled.symm.trans failed

end Attempts

variable {world : σ × List Exchange}

end IspDriver.Device
