import IspDriver.Proofs.Register.FlatMemory
import IspDriver.Proofs.Simulation.Bench

/-!
A register map on the bench against the flat memory. A session is any sequence of accesses to plain
registers, with faults that come and go and with power cycles. Every read in it finds what the flat
memory holds after the writes that have succeeded, and nothing fails but for a fault. What carries
this through a session is that a page that is remembered is the page that is selected.
-/

namespace IspDriver.Simulation

open Routine
open RegisterMap (busBytes)

inductive SessionStep where
  | read (register : Register)
  | write (register : Register) (value : UInt32)
  | updateBits (register : Register) (mask value : UInt32)
  /-- Writes up to the first that fails. -/
  | writeAll (writes : List (Register × UInt32))
  | forgetPage
  /-- From here on these offsets fail to be read, and those to be written. -/
  | setFaults (reads writes : List UInt16)
  | powerCycle
deriving DecidableEq, Repr

namespace SessionStep

def setFaultsOf (chip : Chip) (reads writes : List UInt16) : Chip :=
  { chip with faults := { chip.faults with reads, writes } }

/-- What a step does; the value is that of a read. -/
def perform : SessionStep → Access Bench (Option UInt32)
  | read register => do return some (← RegisterMap.read register)
  | write register value => do
      RegisterMap.write register value
      return none
  | updateBits register mask value => do
      RegisterMap.updateBits register mask value
      return none
  | writeAll writes => do
      RegisterMap.writeAll writes
      return none
  | forgetPage => do
      RegisterMap.forgetPage
      return none
  | setFaults reads writes => fun _ map bench =>
      (.done none, map, { bench with chip := setFaultsOf bench.chip reads writes })
  | powerCycle => fun _ map bench =>
      (.done none, map, { bench with chip := (bench.chip.setReset true).setReset false })

def IsPlain (lanes : LaneQueues) : SessionStep → Prop
  | read register => Simulation.IsPlain lanes register
  | write register _ => Simulation.IsPlain lanes register
  | updateBits register _ _ => Simulation.IsPlain lanes register
  | writeAll writes => ∀ entry ∈ writes, Simulation.IsPlain lanes entry.1
  | forgetPage | setFaults _ _ | powerCycle => True

instance (lanes : LaneQueues) : (step : SessionStep) → Decidable (step.IsPlain lanes)
  | read register | write register _ | updateBits register _ _ =>
      inferInstanceAs (Decidable (Simulation.IsPlain lanes register))
  | writeAll writes =>
      inferInstanceAs (Decidable (∀ entry ∈ writes, Simulation.IsPlain lanes entry.1))
  | forgetPage | setFaults _ _ | powerCycle => inferInstanceAs (Decidable True)

def isAccess : SessionStep → Bool
  | read _ | write _ _ | updateBits _ _ _ | writeAll _ => true
  | forgetPage | setFaults _ _ | powerCycle => false

/-- Whether, after the step, the remembered page may be from before a power cycle. -/
def losesPage (lost : Bool) : SessionStep → Bool
  | forgetPage => false
  | powerCycle => true
  | _ => lost

end SessionStep

/-- After a power cycle the page is forgotten before the next access. -/
def ForgetsPages : (lost : Bool) → List SessionStep → Prop
  | _, [] => True
  | lost, step :: rest =>
      (lost = true → step.isAccess = false) ∧ ForgetsPages (step.losesPage lost) rest

instance decidableForgetsPages :
    (lost : Bool) → (steps : List SessionStep) → Decidable (ForgetsPages lost steps)
  | _, [] => inferInstanceAs (Decidable True)
  | lost, step :: rest =>
      have := decidableForgetsPages (step.losesPage lost) rest
      inferInstanceAs (Decidable (_ ∧ _))

/-- The writes of a chain that are made, those before the first that fails. -/
def madeWrites : List (Register × UInt32) → RegisterMap → Bench → List (Register × UInt32)
  | [], _, _ => []
  | (register, value) :: rest, map, bench =>
      match RegisterMap.write register value Bench.host map bench with
      | (.done (), after, left) => (register, value) :: madeWrites rest after left
      | _ => []

namespace SessionStep

/-- The flat memory after the step: a write that fails leaves no trace in it. -/
def apply (step : SessionStep) (map : RegisterMap) (bench : Bench)
    (outcome : Outcome (Option UInt32)) (flat : FlatMemory) : FlatMemory :=
  match step, outcome with
  | write register value, .done _ => flat.write register value
  | updateBits register mask value, .done _ =>
      flat.write register ((flat.read register &&& ~~~mask) ||| (value &&& mask))
  | writeAll writes, _ => flat.writeEach (madeWrites writes map bench)
  | powerCycle, _ => .powerOn
  | _, _ => flat

/-- The register, or the select of its page, is at an offset that fails. -/
def MayFail (faults : ChipFaults) (offsets : List UInt16) (register : Register) : Prop :=
  register.busOffset ∈ offsets ∨
    (register.isPaged = true ∧ Layout.pageSelect.offset ∈ faults.writes)

/-- What has to come of the step: a read finds what the flat memory holds, and nothing fails but
for a fault. -/
def Answers (step : SessionStep) (flat : FlatMemory) (faults : ChipFaults)
    (outcome : Outcome (Option UInt32)) : Prop :=
  match step with
  | read register =>
      outcome = .done (some (flat.read register)) ∨
        (∃ error, outcome = .failed error) ∧ MayFail faults faults.reads register
  | write register _ =>
      outcome = .done none ∨
        (∃ error, outcome = .failed error) ∧ MayFail faults faults.writes register
  | updateBits register _ _ =>
      outcome = .done none ∨
        (∃ error, outcome = .failed error) ∧ MayFail faults (faults.reads ++ faults.writes) register
  | writeAll writes =>
      outcome = .done none ∨
        (∃ error, outcome = .failed error) ∧
          ∃ entry ∈ writes, MayFail faults faults.writes entry.1
  | _ => outcome = .done none

end SessionStep

/-- Every step of a session comes to what the flat memory says. -/
def Faithful : FlatMemory → List SessionStep → RegisterMap → Bench → Prop
  | _, [], _, _ => True
  | flat, step :: rest, map, bench =>
      match step.perform Bench.host map bench with
      | (outcome, after, left) =>
          step.Answers flat bench.chip.faults outcome ∧
            Faithful (step.apply map bench outcome flat) rest after left

/-- The chip holds the flat memory, and the page that is remembered is the page that is selected. -/
structure Holds (lanes : LaneQueues) (flat : FlatMemory) (map : RegisterMap) (chip : Chip) :
    Prop where
  awake : chip.inReset = false
  queues : chip.lanes = lanes
  agrees : (FlatMemory.ofChip chip).Agrees flat
  selected : ∀ page, map.page? = some page → chip.currentPage = page

/-- Nothing has happened to the faults. -/
structure SameFaults (before after : Bench) : Prop where
  wiring : after.faults = before.faults
  chip : after.chip.faults = before.chip.faults

variable {lanes : LaneQueues} {flat : FlatMemory} {map : RegisterMap} {bench : Bench} {chip : Chip}
  {register : Register} {value : UInt32}

theorem SameFaults.trans {first second third : Bench} (before : SameFaults first second)
    (after : SameFaults second third) : SameFaults first third :=
  ⟨after.wiring.trans before.wiring, after.chip.trans before.chip⟩

theorem Holds.forget (holds : Holds lanes flat map chip) : Holds lanes flat {} chip :=
  ⟨holds.awake, holds.queues, holds.agrees, fun _ remembered => nomatch remembered⟩

theorem selectPage_ends (holds : Holds lanes flat map bench.chip) :
    (RegisterMap.selectPage register).Ends Bench.host map bench fun outcome after left =>
      Holds lanes flat after left.chip ∧ SameFaults bench left ∧
        (outcome = .done () ∧ (register.page ≠ 0 → left.chip.currentPage = register.page) ∨
          (∃ error, outcome = .failed error) ∧
            register.isPaged = true ∧ Layout.pageSelect.offset ∈ bench.chip.faults.writes) := by
  unfold RegisterMap.selectPage
  rw [ends_bind, ends_state]
  simp only [followed]
  split
  · next known =>
      refine ends_done.mpr ⟨holds, ⟨rfl, rfl⟩, .inl ⟨rfl, fun paged => ?_⟩⟩
      refine holds.selected register.page ?_
      simpa [Register.isPaged, paged] using known
  · next unknown =>
      have paged : register.isPaged = true := by
        revert unknown
        cases register.isPaged <;> simp
      rw [ends_bind, ends_onError]
      unfold Bus.write32
      rw [Bench.ends_writeBlock]
      by_cases faulty : Layout.pageSelect.offset ∈ bench.chip.faults.writes
      · rw [Chip.write_of_fault holds.awake faulty]
        simp only [ends_bind, ends_note, followed, RegisterMap.rememberPage, ends_modify]
        exact ⟨holds.forget, ⟨rfl, rfl⟩, .inr ⟨⟨_, rfl⟩, paged, faulty⟩⟩
      · have selected := Chip.currentPage_storeDirect_pageSelect
          (bench.chip.record none Layout.pageSelect.offset (Bytes.ofUInt32 register.page))
          register.page
        rw [Chip.write_pageSelect holds.awake faulty]
        simp only [ends_bind, ends_note, followed, RegisterMap.rememberPage, ends_modify]
        refine ⟨⟨holds.awake, holds.queues, ?_, fun page remembered => ?_⟩, ⟨rfl, rfl⟩,
          .inl ⟨trivial, fun _ => selected⟩⟩
        · exact (FlatMemory.agrees_storeDirect_pageSelect rfl).trans holds.agrees
        · cases remembered
          exact selected

theorem readBlock_ends (holds : Holds lanes flat map bench.chip)
    (direct : bench.faults.overrides = []) (plain : IsPlain lanes register)
    (selected : register.page ≠ 0 → bench.chip.currentPage = register.page) :
    (Host.readBlock register.busOffset register.width.toNat).Ends Bench.host map bench
      fun outcome after left => after = map ∧ left = bench ∧
        ((∃ bytes, outcome = .done bytes ∧
            (Bytes.positional bytes.toList).toUInt32 = flat.read register) ∨
          (∃ error, outcome = .failed error) ∧ register.busOffset ∈ bench.chip.faults.reads) := by
  rw [Bench.ends_readBlock direct]
  by_cases faulty : register.busOffset ∈ bench.chip.faults.reads
  · rw [Chip.read_of_fault holds.awake faulty]
    exact ⟨rfl, rfl, .inr ⟨⟨_, rfl⟩, faulty⟩⟩
  · rw [← holds.agrees.read plain]
    by_cases paged : register.page = 0
    · have ordinary := plain.isOrdinary paged
      rw [RegisterMap.busOffset_of_direct paged] at faulty ⊢
      obtain ⟨bytes, found, content⟩ :=
        Chip.read_ordinary holds.awake faulty ordinary (plain.direct_fits paged)
      rw [found]
      refine ⟨rfl, rfl, .inl ⟨bytes, rfl, ?_⟩⟩
      simp [content, FlatMemory.read, FlatMemory.ofChip, paged, Memory.load]
    · have place := plain.toNat_busOffset paged
      have fits := plain.page_fits paged
      simp only [Register.windowSize] at fits
      have relative : register.busOffset.toNat - 0xe000 = register.offset.toNat := by omega
      obtain ⟨bytes, found, content⟩ := Chip.read_page register.width.toNat holds.awake faulty
        (plain.inPageWindow paged) (by omega) (by
          intro whole
          have four : register.width = 4 := UInt32.toNat_inj.mp whole
          have queue := plain.2
          rw [if_neg paged] at queue
          have narrow : register.offset.toNat.toUInt32 = register.offset.toUInt32 := by simp
          rw [selected paged, relative, holds.queues, narrow]
          exact queue.2 four)
      rw [found]
      refine ⟨rfl, rfl, .inl ⟨bytes, rfl, ?_⟩⟩
      rw [content, selected paged, relative]
      simp [FlatMemory.read, FlatMemory.ofChip, paged, Memory.load]

theorem writeBlock_ends (holds : Holds lanes flat map bench.chip) (plain : IsPlain lanes register)
    (selected : register.page ≠ 0 → bench.chip.currentPage = register.page) :
    (Host.writeBlock register.busOffset (busBytes register value)).Ends Bench.host map
      bench fun outcome after left => SameFaults bench left ∧
        (outcome = .done () ∧ Holds lanes (flat.write register value) after left.chip ∨
          (∃ error, outcome = .failed error) ∧ Holds lanes flat after left.chip ∧
            register.busOffset ∈ bench.chip.faults.writes) := by
  have length := RegisterMap.length_busBytes value plain.1
  rw [Bench.ends_writeBlock]
  by_cases faulty : register.busOffset ∈ bench.chip.faults.writes
  · rw [Chip.write_of_fault holds.awake faulty]
    exact ⟨⟨rfl, rfl⟩, .inr ⟨⟨_, rfl⟩, holds, faulty⟩⟩
  · by_cases paged : register.page = 0
    · rw [RegisterMap.busOffset_of_direct paged] at faulty ⊢
      rw [Chip.write_ordinary holds.awake faulty (plain.isOrdinary paged)
        (by rw [length]; exact plain.direct_fits paged)]
      refine ⟨⟨rfl, rfl⟩, .inl ⟨rfl, holds.awake, holds.queues, ?_, fun page remembered => ?_⟩⟩
      · rw [FlatMemory.ofChip_storeDirect plain.1 paged]
        exact FlatMemory.Agrees.write holds.agrees
      · rw [← holds.selected page remembered]
        exact plain.currentPage_storeDirect paged length
    · have place := plain.toNat_busOffset paged
      have fits := plain.page_fits paged
      simp only [Register.windowSize] at fits
      have relative : register.busOffset.toNat - 0xe000 = register.offset.toNat := by omega
      rw [Chip.write_page holds.awake faulty (plain.inPageWindow paged) (by omega)]
      refine ⟨⟨rfl, rfl⟩, .inl ⟨rfl, holds.awake, holds.queues, ?_, holds.selected⟩⟩
      rw [relative, selected paged, FlatMemory.ofChip_storePage plain.1 paged]
      exact FlatMemory.Agrees.write holds.agrees

open SessionStep (MayFail)

theorem read_ends (holds : Holds lanes flat map bench.chip)
    (direct : bench.faults.overrides = []) (plain : IsPlain lanes register) :
    (RegisterMap.read register).Ends Bench.host map bench fun outcome after left =>
      Holds lanes flat after left.chip ∧ SameFaults bench left ∧
        (outcome = .done (flat.read register) ∨
          (∃ error, outcome = .failed error) ∧
            MayFail bench.chip.faults bench.chip.faults.reads register) := by
  unfold RegisterMap.read
  rw [ends_bind, RegisterMap.ends_checkWidth plain.1]
  simp only [followed]
  rw [ends_bind]
  refine (selectPage_ends holds).mono ?_
  intro _ after left ended
  obtain ⟨holds, same, ⟨rfl, selected⟩ | ⟨⟨error, rfl⟩, faulty⟩⟩ := ended
  · simp only [followed]
    rw [ends_onError]
    rw [RegisterMap.ends_receive plain.1]
    refine (readBlock_ends holds (same.wiring ▸ direct) plain selected).mono ?_
    intro _ _ _ ended
    obtain ⟨rfl, rfl, ⟨bytes, rfl, content⟩ | ⟨⟨error, rfl⟩, faulty⟩⟩ := ended
    · exact ⟨holds, same, .inl (congrArg Outcome.done content)⟩
    · exact ⟨holds, ⟨same.wiring, same.chip⟩, .inr ⟨⟨error, rfl⟩, .inl (same.chip ▸ faulty)⟩⟩
  · exact ⟨holds, same, .inr ⟨⟨error, rfl⟩, .inr faulty⟩⟩

/-- A write of a plain register is a write of the flat memory, or leaves no trace in it. -/
theorem write_ends (value : UInt32) (holds : Holds lanes flat map bench.chip)
    (plain : IsPlain lanes register) :
    (RegisterMap.write register value).Ends Bench.host map bench fun outcome after left =>
      SameFaults bench left ∧
        (outcome = .done () ∧ Holds lanes (flat.write register value) after left.chip ∨
          (∃ error, outcome = .failed error) ∧ Holds lanes flat after left.chip ∧
            MayFail bench.chip.faults bench.chip.faults.writes register) := by
  unfold RegisterMap.write
  rw [ends_bind, RegisterMap.ends_checkWidth plain.1]
  simp only [followed]
  rw [ends_bind]
  refine (selectPage_ends holds).mono ?_
  intro _ after left ended
  obtain ⟨holds, same, ⟨rfl, selected⟩ | ⟨⟨error, rfl⟩, faulty⟩⟩ := ended
  · simp only [followed]
    rw [ends_bind, ends_note]
    simp only [followed]
    rw [RegisterMap.send_eq plain.1, ends_onError]
    refine (@writeBlock_ends _ _ _ (Bench.host.note _ left) _ _ holds plain selected).mono ?_
    intro _ _ _ ended
    obtain ⟨sent, ⟨rfl, holds⟩ | ⟨⟨error, rfl⟩, holds, faulty⟩⟩ := ended
    · exact ⟨same.trans ⟨sent.wiring, sent.chip⟩, .inl ⟨rfl, holds⟩⟩
    · exact ⟨same.trans ⟨sent.wiring, sent.chip⟩,
        .inr ⟨⟨error, rfl⟩, holds, .inl (same.chip ▸ faulty)⟩⟩
  · exact ⟨same, .inr ⟨⟨error, rfl⟩, holds, .inr faulty⟩⟩

theorem updateBits_ends {mask : UInt32} (holds : Holds lanes flat map bench.chip)
    (direct : bench.faults.overrides = []) (plain : IsPlain lanes register) :
    (RegisterMap.updateBits register mask value).Ends Bench.host map bench fun outcome after left =>
      SameFaults bench left ∧
        (outcome = .done () ∧
            Holds lanes (flat.write register ((flat.read register &&& ~~~mask) ||| (value &&& mask)))
              after left.chip ∨
          (∃ error, outcome = .failed error) ∧ Holds lanes flat after left.chip ∧
            MayFail bench.chip.faults (bench.chip.faults.reads ++ bench.chip.faults.writes)
              register) := by
  unfold RegisterMap.updateBits
  rw [ends_bind]
  refine (read_ends holds direct plain).mono ?_
  intro _ after left ended
  obtain ⟨holds, same, rfl | ⟨⟨error, rfl⟩, faulty⟩⟩ := ended
  · simp only [followed]
    split
    · next unchanged =>
        rw [unchanged, FlatMemory.write_read plain.1]
        exact ⟨same, .inl ⟨rfl, holds⟩⟩
    · refine (write_ends _ holds plain).mono ?_
      intro _ _ _ ended
      obtain ⟨sent, ⟨rfl, holds⟩ | ⟨failed, holds, faulty⟩⟩ := ended
      · exact ⟨same.trans sent, .inl ⟨rfl, holds⟩⟩
      · rw [same.chip] at faulty
        exact ⟨same.trans sent, .inr ⟨failed, holds, faulty.imp_left (List.mem_append_right _)⟩⟩
  · exact ⟨same, .inr ⟨⟨error, rfl⟩, holds, faulty.imp_left (List.mem_append_left _)⟩⟩

/-- A chain makes its writes up to the first that fails. -/
theorem writeAll_ends (holds : Holds lanes flat map bench.chip)
    (direct : bench.faults.overrides = []) {writes : List (Register × UInt32)}
    (plain : ∀ entry ∈ writes, IsPlain lanes entry.1) :
    (RegisterMap.writeAll writes).Ends Bench.host map bench fun outcome after left =>
      SameFaults bench left ∧
        Holds lanes (flat.writeEach (madeWrites writes map bench)) after left.chip ∧
        (outcome = .done () ∧ madeWrites writes map bench = writes ∨
          (∃ error, outcome = .failed error) ∧
            ∃ entry ∈ writes, MayFail bench.chip.faults bench.chip.faults.writes entry.1) := by
  induction writes generalizing flat map bench with
  | nil => exact ⟨⟨rfl, rfl⟩, holds, .inl ⟨rfl, rfl⟩⟩
  | cons entry rest ih =>
      obtain ⟨register, value⟩ := entry
      have firstPlain : IsPlain lanes register := plain (register, value) (List.mem_cons_self ..)
      have first := write_ends value holds firstPlain
      rw [RegisterMap.writeAll, ends_bind, madeWrites]
      unfold Ends at first ⊢
      generalize RegisterMap.write register value Bench.host map bench = run at first ⊢
      obtain ⟨_ | _ | _, after, left⟩ := run
      · obtain ⟨same, ⟨-, holds⟩ | ⟨⟨_, failed⟩, -⟩⟩ := first
        · obtain ⟨sent, holds, ⟨done, all⟩ | ⟨failed, entry, member, faulty⟩⟩ :=
            ih holds (same.wiring ▸ direct)
              fun entry member => plain entry (List.mem_cons_of_mem _ member)
          · exact ⟨same.trans sent, holds, .inl ⟨done, congrArg _ all⟩⟩
          · exact ⟨same.trans sent, holds, .inr ⟨failed, entry, List.mem_cons_of_mem _ member,
              same.chip ▸ faulty⟩⟩
        · cases failed
      · obtain ⟨same, ⟨done, -⟩ | ⟨-, holds, faulty⟩⟩ := first
        · cases done
        · exact ⟨same, holds, .inr ⟨⟨_, rfl⟩, _, List.mem_cons_self .., faulty⟩⟩
      · obtain ⟨-, ⟨done, -⟩ | ⟨⟨_, failed⟩, -⟩⟩ := first
        · cases done
        · cases failed

variable {step : SessionStep} {steps : List SessionStep} {lost : Bool}

theorem Holds.powerCycle {chip : Chip} (holds : Holds lanes flat map chip) :
    Holds lanes .powerOn {} ((chip.setReset true).setReset false) := by
  have restarted : (chip.setReset true).setReset false = { chip.restart with inReset := false } := by
    rfl
  rw [restarted]
  refine ⟨rfl, holds.queues, ?_, fun _ remembered => nomatch remembered⟩
  rw [← FlatMemory.ofChip_restart chip]
  exact ⟨fun _ _ => rfl, fun _ _ _ _ => rfl⟩

theorem access_ends (access : step.isAccess = true) (plain : step.IsPlain lanes)
    (holds : Holds lanes flat map bench.chip) (direct : bench.faults.overrides = []) :
    step.perform.Ends Bench.host map bench fun outcome after left =>
      SameFaults bench left ∧ step.Answers flat bench.chip.faults outcome ∧
        Holds lanes (step.apply map bench outcome flat) after left.chip := by
  cases step with
  | read register =>
      refine ends_bind.mpr ((read_ends holds direct plain).mono ?_)
      intro _ after left ended
      obtain ⟨holds, same, rfl | ⟨⟨error, rfl⟩, faulty⟩⟩ := ended
      · exact ⟨same, .inl rfl, holds⟩
      · exact ⟨same, .inr ⟨⟨error, rfl⟩, faulty⟩, holds⟩
  | write register value =>
      refine ends_bind.mpr ((write_ends value holds plain).mono ?_)
      intro _ after left ended
      obtain ⟨same, ⟨rfl, holds⟩ | ⟨⟨error, rfl⟩, holds, faulty⟩⟩ := ended
      · exact ⟨same, .inl rfl, holds⟩
      · exact ⟨same, .inr ⟨⟨error, rfl⟩, faulty⟩, holds⟩
  | updateBits register mask value =>
      refine ends_bind.mpr ((updateBits_ends holds direct plain).mono ?_)
      intro _ after left ended
      obtain ⟨same, ⟨rfl, holds⟩ | ⟨⟨error, rfl⟩, holds, faulty⟩⟩ := ended
      · exact ⟨same, .inl rfl, holds⟩
      · exact ⟨same, .inr ⟨⟨error, rfl⟩, faulty⟩, holds⟩
  | writeAll writes =>
      refine ends_bind.mpr ((writeAll_ends holds direct plain).mono ?_)
      intro _ after left ended
      obtain ⟨same, holds, ⟨rfl, -⟩ | ⟨⟨error, rfl⟩, faulty⟩⟩ := ended
      · exact ⟨same, .inl rfl, holds⟩
      · exact ⟨same, .inr ⟨⟨error, rfl⟩, faulty⟩, holds⟩
  | forgetPage => cases access
  | setFaults reads writes => cases access
  | powerCycle => cases access

/-- What a step does to the chip and to the remembered page, which does not count while it is
lost. -/
theorem step_ends (plain : step.IsPlain lanes) (kept : lost = true → step.isAccess = false)
    (holds : Holds lanes flat (if lost then {} else map) bench.chip)
    (direct : bench.faults.overrides = []) :
    step.perform.Ends Bench.host map bench fun outcome after left =>
      left.faults.overrides = [] ∧ step.Answers flat bench.chip.faults outcome ∧
        Holds lanes (step.apply map bench outcome flat)
          (if step.losesPage lost then {} else after) left.chip := by
  cases access : step.isAccess with
  | true =>
      cases lost with
      | true => rw [kept rfl] at access; cases access
      | false =>
          refine (access_ends access plain holds direct).mono ?_
          intro outcome after left ended
          obtain ⟨same, answers, holds⟩ := ended
          have found : step.losesPage false = false := by cases step <;> first | rfl | cases access
          rw [found]
          exact ⟨same.wiring ▸ direct, answers, holds⟩
  | false =>
      cases step with
      | forgetPage => exact ⟨direct, rfl, holds.forget⟩
      | setFaults reads writes =>
          exact ⟨direct, rfl, holds.awake, holds.queues, holds.agrees, holds.selected⟩
      | powerCycle => exact ⟨direct, rfl, holds.powerCycle⟩
      | read _ => cases access
      | write _ _ => cases access
      | updateBits _ _ _ => cases access
      | writeAll _ => cases access

theorem faithful_of_holds (plain : ∀ step ∈ steps, step.IsPlain lanes)
    (forgets : ForgetsPages lost steps)
    (holds : Holds lanes flat (if lost then {} else map) bench.chip)
    (direct : bench.faults.overrides = []) : Faithful flat steps map bench := by
  induction steps generalizing flat map bench lost with
  | nil => trivial
  | cons step rest ih =>
      obtain ⟨kept, forgets⟩ := forgets
      have run := step_ends (plain step (List.mem_cons_self ..)) kept holds direct
      unfold Ends at run
      unfold Faithful
      generalize step.perform Bench.host map bench = ended at run ⊢
      obtain ⟨outcome, after, left⟩ := ended
      obtain ⟨direct, answers, holds⟩ := run
      exact ⟨answers,
        ih (fun step member => plain step (List.mem_cons_of_mem _ member)) forgets holds direct⟩

/-- Over any session of plain registers the bus, with its one window for all pages, is a flat
memory: every read that succeeds finds what the memory holds after the writes that succeeded, a
write that fails leaves no trace, and only a fault makes an access fail. -/
theorem session_faithful (awake : bench.chip.inReset = false) (direct : bench.faults.overrides = [])
    (plain : ∀ step ∈ steps, step.IsPlain bench.chip.lanes) (forgets : ForgetsPages false steps) :
    Faithful (.ofChip bench.chip) steps {} bench :=
  faithful_of_holds plain forgets
    ⟨awake, rfl, ⟨fun _ _ => rfl, fun _ _ _ _ => rfl⟩, fun _ remembered => nomatch remembered⟩
    direct

/-- Two pages that share the window, with faults of a register and of the page select, a chain that
breaks off and a power cycle. -/
def busySession : List SessionStep :=
  let low := Register.of16 0x010080
  let high := Register.of32 0x02007e
  [.write low 0x12345, .setFaults [] [Layout.pageSelect.offset], .write high 7, .read low,
    .setFaults [high.busOffset] [], .updateBits high 0xff 3, .setFaults [] [], .read low,
    .writeAll [(high, 0xcafef00d), (Register.of16 0x1000, 5)], .updateBits high 0xff 3, .read high,
    .powerCycle, .setFaults [] [0x1000], .forgetPage,
    .writeAll [(low, 1), (Register.of16 0x1000, 9), (high, 2)], .read low]

theorem busySession_faithful :
    Bench.fresh.chip.inReset = false ∧ Bench.fresh.faults.overrides = [] ∧
      (∀ step ∈ busySession, step.IsPlain Bench.fresh.chip.lanes) ∧
      ForgetsPages false busySession ∧
      Faithful (.ofChip Bench.fresh.chip) busySession {} Bench.fresh := by
  have plain : ∀ step ∈ busySession, step.IsPlain Bench.fresh.chip.lanes := by decide
  have forgets : ForgetsPages false busySession := by decide
  exact ⟨rfl, rfl, plain, forgets, session_faithful rfl rfl plain forgets⟩

end IspDriver.Simulation
