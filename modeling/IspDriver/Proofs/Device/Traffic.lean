import IspDriver.Device.Access
import IspDriver.Device.Stream
import IspDriver.Firmware.Download
import IspDriver.Proofs.Register.Traffic

/-!
What the routines of a device send, so that what they leave alone follows: control values, copies
between the chip and its sensors, diagnostics.
-/

namespace IspDriver

open Routine

variable {σ : Type} {host : Host σ} {allowed : UInt16 → List UInt8 → Prop}
  {kept broken : RegisterMap → σ → Prop}

namespace ControlId

/-- The register of a control. -/
def register : ControlId → Register
  | whiteBalance => Layout.whiteBalance
  | exposure => Layout.exposureControl
  | exposureMetering => Layout.exposureMetering
  | gain => Layout.manualGain
  | gamma => Layout.gamma
  | contrast => Layout.contrast
  | brightness => Layout.brightness
  | saturation => Layout.saturation
  | zoom => Layout.zoomTarget
  | colorEffect => Layout.colorEffect
  | sceneMode => Layout.sceneMode
  | powerLineFrequency => Layout.flicker
  | linkFrequency => Layout.linkFrequency

theorem keeps_apply (carries : Carries host allowed kept broken) (id : ControlId)
    (value : Int32) (sends : MaySend allowed id.register) :
    Keeps host kept broken (id.apply value) := by
  cases id with
  | whiteBalance => exact keeps_ofExcept.bind fun _ => carries.keeps_updateBits sends
  | exposure => exact carries.keeps_updateBits sends
  | exposureMetering => exact carries.keeps_write sends
  | gain => exact carries.keeps_write sends
  | gamma => exact carries.keeps_write sends
  | contrast => exact carries.keeps_write sends
  | brightness => exact carries.keeps_write sends
  | saturation => exact carries.keeps_write sends
  | zoom => exact carries.keeps_write sends
  | colorEffect => exact keeps_ofExcept.bind fun _ => carries.keeps_write sends
  | sceneMode => exact keeps_ofExcept.bind fun _ => carries.keeps_write sends
  | powerLineFrequency => exact keeps_ofExcept.bind fun _ => carries.keeps_write sends
  | linkFrequency => exact keeps_done

theorem keeps_readLinkFrequency (carries : Carries host allowed kept broken) :
    Keeps host kept broken readLinkFrequency := by
  refine carries.keeps_read.bind fun raw => ?_
  simp only
  split
  · exact keeps_pure
  · exact carries.keeps_note.bind fun _ => keeps_fail

end ControlId

theorem Controls.keeps_applyEach (carries : Carries host allowed kept broken)
    (controls : Controls) (ids : List ControlId) (sends : ∀ id ∈ ids, MaySend allowed id.register) :
    Keeps host kept broken (controls.applyEach ids) := by
  induction ids with
  | nil => exact keeps_done
  | cons id rest ih =>
      have first := sends id (List.mem_cons_self ..)
      refine (ControlId.keeps_apply carries id (controls.get id) first).bind fun _ => ?_
      exact ih fun id member => sends id (List.mem_cons_of_mem _ member)

namespace Bridge

/-- The registers of the copy engine that are written for a copy. -/
def registers : List Register :=
  [Layout.copySize, Layout.copySource, Layout.copyTarget, Layout.copyControl]

/-- What sets a copy from a sensor going. -/
def fetchWrites (port device : UInt32) (register : Register) : List (Register × UInt32) :=
  [(Layout.copySize, register.width),
    (Layout.copySource, descriptor port device register),
    (Layout.copyTarget, Layout.copyTarget.offset.toUInt32),
    (Layout.copyControl, Layout.Copy.fromSensor ||| Layout.Copy.start)]

/-- What sets a copy to a sensor going. -/
def storeWrites (port device : UInt32) (register : Register) (value : UInt32) :
    List (Register × UInt32) :=
  [(Layout.copySize, register.width),
    (Layout.copySource, ((value &&& 0xffff) <<< 16) ||| Layout.copySource.offset.toUInt32),
    (Layout.copyTarget, descriptor port device register),
    (Layout.copyControl, Layout.Copy.toSensor ||| Layout.Copy.start)]

theorem keeps_checkWidth {register : Register} :
    Keeps host kept broken (Bridge.checkWidth register) := by
  unfold Bridge.checkWidth
  split
  · exact keeps_done
  · exact keeps_refuse

theorem keeps_pollIdle (carries : Carries host allowed kept broken) (polls : Nat) :
    Keeps host kept broken (pollIdle polls) := by
  induction polls with
  | zero => exact carries.keeps_note.bind fun _ => keeps_fail
  | succ polls ih =>
      refine carries.keeps_read.bind fun control => ?_
      split
      · exact keeps_done
      · exact carries.keeps_wait.bind fun _ => ih

/-- Accesses to a sensor, wherever it sits, leave `kept` true. -/
structure Harmless {σ : Type} (host : Host σ) (kept broken : RegisterMap → σ → Prop) : Prop where
  reads : ∀ port device register,
    Keeps host kept broken (Bridge.readSensor port device register)
  writes : ∀ port device register value,
    Keeps host kept broken (Bridge.writeSensor port device register value)

theorem Harmless.known (harmless : Harmless host kept broken) (fact : Prop) :
    Harmless host (fun map world => fact ∧ kept map world)
      (fun map world => fact ∧ broken map world) where
  reads port device register := (harmless.reads port device register).known fact
  writes port device register value := (harmless.writes port device register value).known fact

theorem Harmless.some {ι : Type} {kept broken : ι → RegisterMap → σ → Prop}
    (each : ∀ i, Harmless host (kept i) (broken i)) :
    Harmless host (fun map world => ∃ i, kept i map world)
      (fun map world => ∃ i, broken i map world) where
  reads port device register := Keeps.some fun i => (each i).reads port device register
  writes port device register value := Keeps.some fun i => (each i).writes port device register value

/-- Around the four writes that set a copy going there are only reads, waits and notes. -/
theorem harmless_of_copies (carries : Carries host allowed kept broken)
    (fetches : ∀ port device register, Keeps host kept broken
      (RegisterMap.writeAll (fetchWrites port device register)))
    (stores : ∀ port device register value, Keeps host kept broken
      (RegisterMap.writeAll (storeWrites port device register value))) :
    Harmless host kept broken where
  reads port device register := by
    refine keeps_checkWidth.bind fun _ => (keeps_pollIdle carries _).bind fun _ => ?_
    refine Keeps.bind (fetches port device register) fun _ => ?_
    refine (keeps_pollIdle carries _).bind fun _ => carries.keeps_read.bind fun _ => ?_
    exact carries.keeps_note.bind fun _ => keeps_pure
  writes port device register value := by
    refine keeps_checkWidth.bind fun _ => (keeps_pollIdle carries _).bind fun _ => ?_
    refine carries.keeps_note.bind fun _ => ?_
    exact Keeps.bind (stores port device register value) fun _ => keeps_pollIdle carries _

theorem harmless_of_sends (carries : Carries host allowed kept broken)
    (sends : ∀ register ∈ registers, MaySend allowed register) : Harmless host kept broken := by
  refine harmless_of_copies carries (fun port device register => ?_)
    fun port device register value => ?_
  · refine carries.keeps_writeAll ?_
    simpa [registers, fetchWrites] using sends
  · refine carries.keeps_writeAll ?_
    simpa [registers, storeWrites] using sends

end Bridge

namespace Firmware

theorem keeps_sendBlocks {invariant unanswered : RegisterMap → σ → Prop}
    (block : ∀ offset data, Keeps host invariant unanswered (RegisterMap.writeBlock offset data))
    (position : WindowPosition) (data : List UInt8) :
    Keeps host invariant unanswered (sendBlocks position data) := by
  fun_induction sendBlocks position data with
  | case1 => exact keeps_done
  | case2 position data filled ih => exact (block _ _).bind fun _ => ih

theorem keeps_writeWindow_of_block {invariant unanswered : RegisterMap → σ → Prop}
    (block : ∀ offset data, Keeps host invariant unanswered (RegisterMap.writeBlock offset data))
    (position : Nat) (data : List UInt8) :
    Keeps host invariant unanswered (writeWindow position data) := by
  unfold writeWindow
  split
  · exact (keeps_sendBlocks block _ _).bind fun _ => keeps_pure
  · exact keeps_refuse

theorem keeps_writeWindow (carries : Carries host allowed kept broken)
    (everything : ∀ offset data, allowed offset data) (position : Nat) (data : List UInt8) :
    Keeps host kept broken (writeWindow position data) :=
  keeps_writeWindow_of_block (fun _ _ => carries.keeps_writeBytes (everything _ _)) position data

theorem keeps_fact_writeWindow {fact : RegisterMap → Prop} (position : Nat) (data : List UInt8) :
    Keeps host (fun map _ => fact map) (fun _ _ => True) (writeWindow position data) := by
  refine keeps_writeWindow_of_block (fun _ _ => ?_) position data
  exact (keeps_fact_ask.bind fun _ => keeps_ofExcept).onError fun _ => keeps_fact_note

theorem keeps_download {S : Type} {invariant unanswered : S → σ → Prop}
    {registers : Part S RegisterMap} {enter : BootStage → Routine σ S Unit}
    (written : ∀ register ∈ [Layout.firmwareCrc, Layout.bootStage], ∀ value,
      Keeps host invariant unanswered (registers.act (RegisterMap.write register value)))
    (read : Keeps host invariant unanswered (registers.act (RegisterMap.read Layout.firmwareCrc)))
    (sent : ∀ position data, Keeps host invariant unanswered
      (registers.act (writeWindow position data)))
    (waited : ∀ microseconds, Keeps host invariant unanswered (Host.wait microseconds))
    (noted : ∀ level text, Keeps host invariant unanswered (note level text))
    (announced : ∀ stage, Keeps host invariant unanswered (enter stage)) (image : FirmwareImage) :
    Keeps host invariant unanswered (download registers enter image) := by
  have crc := written Layout.firmwareCrc (by decide)
  have stage := written Layout.bootStage (by decide)
  refine (crc _).bind fun _ => (announced _).bind fun _ => (sent _ _).bind fun _ => ?_
  refine (stage _).bind fun _ => (waited _).bind fun _ => (announced _).bind fun _ => ?_
  refine (sent _ _).bind fun _ => (waited _).bind fun _ => read.bind fun crc => ?_
  split
  · exact stage _
  · exact (noted _ _).bind fun _ => keeps_fail

end Firmware

namespace Diagnostics

theorem keeps_noteLines (carries : Carries host allowed kept broken) (lines : List String) :
    Keeps host kept broken (noteLines lines) := by
  induction lines with
  | nil => exact keeps_done
  | cons line rest ih => exact carries.keeps_note.bind fun _ => ih

theorem keeps_readConsole (carries : Carries host allowed kept broken) :
    Keeps host kept broken readConsole :=
  carries.keeps_readBytes.bind fun _ => (keeps_noteLines carries _).bind fun _ => keeps_pure

theorem keeps_readLane (carries : Carries host allowed kept broken) (port lane : UInt32) :
    Keeps host kept broken (readLane port lane) := by
  refine carries.keeps_read.attempt.bind fun result => ?_
  cases result with
  | error error => exact keeps_pure
  | ok status => exact keeps_pure

theorem keeps_readLanes (carries : Carries host allowed kept broken) (port : UInt32) :
    Keeps host kept broken (readLanes port) := by
  refine (keeps_readLane carries port 0).bind fun lane0 => ?_
  cases lane0 with
  | none => exact keeps_pure
  | some lane0 =>
      refine (keeps_readLane carries port 1).bind fun lane1 => ?_
      cases lane1 with
      | none => exact keeps_pure
      | some lane1 =>
          refine (keeps_readLane carries port 2).bind fun lane2 => ?_
          cases lane2 with
          | none => exact keeps_pure
          | some lane2 =>
              refine (keeps_readLane carries port 3).bind fun lane3 => ?_
              cases lane3 with
              | none => exact keeps_pure
              | some lane3 => exact keeps_pure

theorem keeps_collectSamples (carries : Carries host allowed kept broken) (port : UInt32)
    (count : Nat) (tally : Tally) :
    Keeps host kept broken (collectSamples port count tally) := by
  induction count generalizing tally with
  | zero => exact keeps_pure
  | succ count ih =>
      refine (keeps_readLanes carries port).bind fun sample? => ?_
      cases sample? with
      | none => exact ih tally
      | some sample => exact ih (tally.add sample)

theorem keeps_noteReports (carries : Carries host allowed kept broken) (port : UInt32)
    (reports : List LaneReport) :
    Keeps host kept broken (noteReports port reports) := by
  induction reports with
  | nil => exact keeps_done
  | cons report rest ih => exact carries.keeps_note.bind fun _ => ih

theorem keeps_clearLatches (carries : Carries host allowed kept broken) (port : UInt32)
    (lanes : List UInt32)
    (clears : ∀ lane ∈ lanes, Keeps host kept broken (RegisterMap.write
      (Layout.laneStatus port lane) (Layout.LaneStatus.error ||| Layout.LaneStatus.abort))) :
    Keeps host kept broken (clearLatches port lanes) := by
  induction lanes with
  | nil => exact keeps_done
  | cons lane rest ih =>
      have first := clears lane (List.mem_cons_self ..)
      refine first.attempt.bind fun result => ?_
      have others := ih fun lane member => clears lane (List.mem_cons_of_mem _ member)
      cases result with
      | ok _ => exact keeps_done.bind fun _ => others
      | error error => exact carries.keeps_note.bind fun _ => others

/-- The lanes whose latches are cleared can be written. -/
def ClearsLatches (allowed : UInt16 → List UInt8 → Prop) : Prop :=
  ∀ port, ∀ lane ∈ [0, 1, 2, 3], MaySend allowed (Layout.laneStatus port lane)

theorem ClearsLatches.keeps (clears : ClearsLatches allowed)
    (carries : Carries host allowed kept broken) (port : UInt32) :
    Keeps host kept broken (clearLatches port [0, 1, 2, 3]) :=
  keeps_clearLatches carries port _ fun lane member => carries.keeps_write (clears port lane member)

theorem keeps_samplePort (carries : Carries host allowed kept broken) (port : UInt32)
    (clears : Keeps host kept broken (clearLatches port [0, 1, 2, 3])) :
    Keeps host kept broken (samplePort port) := by
  refine (keeps_collectSamples carries port _ _).bind fun tally => ?_
  refine (keeps_noteReports carries port _).bind fun _ => ?_
  exact clears.bind fun _ => keeps_pure

theorem keeps_samplePorts (carries : Carries host allowed kept broken) (ports : List UInt32)
    (clears : ∀ port ∈ ports, Keeps host kept broken (clearLatches port [0, 1, 2, 3])) :
    Keeps host kept broken (samplePorts ports) := by
  induction ports with
  | nil => exact keeps_pure
  | cons port rest ih =>
      have first := clears port (List.mem_cons_self ..)
      have others := ih fun port member => clears port (List.mem_cons_of_mem _ member)
      exact (keeps_samplePort carries port first).bind fun _ => others.bind fun _ => keeps_pure

theorem keeps_noteWarnings (carries : Carries host allowed kept broken)
    (names : List String) :
    Keeps host kept broken (noteWarnings names) := by
  induction names with
  | nil => exact keeps_done
  | cons name rest ih => exact carries.keeps_note.bind fun _ => ih

theorem keeps_readStatus (carries : Carries host allowed kept broken) (ports : List UInt32)
    (clears : ∀ port ∈ ports, Keeps host kept broken (clearLatches port [0, 1, 2, 3])) :
    Keeps host kept broken (readStatus ports) := by
  refine (keeps_readConsole carries).bind fun _ => ?_
  refine carries.keeps_read.bind fun _ => carries.keeps_read.bind fun _ => ?_
  refine carries.keeps_read.bind fun _ => carries.keeps_note.bind fun _ => ?_
  refine carries.keeps_read.bind fun _ => carries.keeps_read.bind fun _ => ?_
  refine carries.keeps_note.bind fun _ => carries.keeps_read.bind fun _ => ?_
  refine carries.keeps_read.bind fun _ => carries.keeps_read.bind fun _ => ?_
  refine carries.keeps_read.bind fun _ => carries.keeps_note.bind fun _ => ?_
  refine (keeps_noteWarnings carries _).bind fun _ => ?_
  refine carries.keeps_read.bind fun _ => carries.keeps_read.bind fun _ => ?_
  refine carries.keeps_note.bind fun _ => ?_
  exact (keeps_samplePorts carries ports clears).bind fun _ => keeps_pure

end Diagnostics

end IspDriver
