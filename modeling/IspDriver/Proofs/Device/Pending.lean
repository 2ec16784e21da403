import IspDriver.Proofs.Device.LiveControls
import IspDriver.Proofs.Simulation.Copy
import IspDriver.Proofs.Simulation.Effect

/-!
Controls that are set before a start and after one, where nothing fails. A device that is stopped
keeps the values and a start writes each control once; a device that streams writes every value as it
comes. The registers of the chip do not tell the two apart: registers of different controls share
nothing, and of the values of one control the last one stays.
-/

namespace IspDriver

open Routine Simulation

theorem merge_merge (current mask first second : UInt32) :
    (Step.merge (Step.merge current mask first).toUInt16.toUInt32 mask second).toUInt16 =
      (Step.merge current mask second).toUInt16 := by
  apply UInt16.toBitVec_inj.mp
  apply BitVec.eq_of_getElem_eq
  intro i within
  simp only [Step.merge, UInt32.toBitVec_toUInt16, UInt32.toBitVec_or, UInt32.toBitVec_and,
    UInt32.toBitVec_not, UInt16.toBitVec_toUInt32, BitVec.getElem_setWidth, BitVec.getLsbD_or,
    BitVec.getLsbD_and, BitVec.getLsbD_not, BitVec.getLsbD_setWidth]
  have inside : i < 32 := by omega
  cases mask.toBitVec.getLsbD i <;> simp [within, inside]

namespace ControlId

variable {id other : ControlId}

theorem register_plain (id : ControlId) : id.register.IsPlain :=
  ⟨id.register_width, id.register_direct.2, id.register_ordinary, by cases id <;> decide⟩

theorem register_apart (differ : other ≠ id) : other.register.IsApart id.register := by
  revert differ
  cases id <;> cases other <;> decide

/-- Of two values for one control the second one stays. -/
theorem store_step_again (id : ControlId) (first second : UInt32) (memory : Memory) :
    (id.step second).store ((id.step first).store memory) = (id.step second).store memory := by
  unfold step
  split
  · simp only [Step.store, Step.found, Step.word, Step.register]
    have again (word : UInt16) : Bytes.bigEndian ((memory.store id.register.offset.toNat
        (Bytes.ofUInt16 word)).load id.register.offset.toNat 2) = word.toUInt32 := by
      rw [Memory.load_store_ofUInt16, Bytes.bigEndian_ofUInt16]
    rw [again, merge_merge]
    exact Memory.store_store rfl
  · exact Memory.store_store rfl

end ControlId

namespace Controls

variable {controls : Controls} {id : ControlId} {ids : List ControlId} {value : Int32}
  {code : UInt32} {memory : Memory}

theorem storeEach_set (coded : id.code value = .ok code) (nodup : ids.Nodup) (member : id ∈ ids) :
    Step.storeEach (ids.map fun other => other.step ((controls.set id value).codes other)) memory =
      (id.step code).store
        (Step.storeEach (ids.map fun other => other.step (controls.codes other)) memory) := by
  induction ids generalizing memory with
  | nil => cases member
  | cons other rest ih =>
      obtain ⟨fresh, distinct⟩ := List.nodup_cons.mp nodup
      rw [List.map_cons, List.map_cons, Step.storeEach_cons, Step.storeEach_cons, codes_set coded]
      by_cases same : other = id
      · subst same
        have unchanged : (rest.map fun next => next.step ((controls.set other value).codes next)) =
            rest.map fun next => next.step (controls.codes next) := by
          refine List.map_congr_left fun next among => ?_
          have differs : next ≠ other := fun same => fresh (same ▸ among)
          rw [codes_set coded, if_neg differs]
        have apart : ∀ step ∈ rest.map fun next => next.step (controls.codes next),
            ∀ code, step.register.IsApart (other.step code).register := by
          intro step among code
          obtain ⟨next, later, rfl⟩ := List.mem_map.mp among
          rw [next.register_step, other.register_step]
          exact ControlId.register_apart fun same => fresh (same ▸ later)
        rw [if_pos rfl, unchanged, Step.storeEach_comm fun step among => apart step among code,
          Step.storeEach_comm fun step among => apart step among (controls.codes other),
          ControlId.store_step_again]
      · rw [if_neg same]
        exact ih distinct ((List.mem_cons.mp member).resolve_left (Ne.symm same))

/-- The controls once a value was asked for. -/
def ask (controls : Controls) (call : ControlId × Int32) : Controls :=
  match call.1.spec.validate call.2 with
  | .ok value => controls.set call.1 value
  | .error _ => controls

theorem Valid.ask (valid : controls.Valid) (call : ControlId × Int32) :
    (controls.ask call).Valid := by
  unfold Controls.ask
  cases accepted : call.1.spec.validate call.2 with
  | ok value => exact valid.set accepted
  | error error => exact valid

theorem Valid.askEach (valid : controls.Valid) (calls : List (ControlId × Int32)) :
    (calls.foldl Controls.ask controls).Valid := by
  induction calls generalizing controls with
  | nil => exact valid
  | cons call rest ih => exact ih (valid.ask call)

end Controls

namespace Device

/-- Asks for one value after the other, whatever comes of each. -/
def setControls {σ : Type} : List (ControlId × Int32) → Operation σ (List (Except Error Int32))
  | [] => pure []
  | call :: rest => do
      let result ← attempt (setControl call.1 call.2)
      let results ← setControls rest
      return result :: results

variable {device : Device} {bench : Bench} {base : Chip} {memory : Memory}

/-- What a start makes of the memory of a chip. -/
def launch (device : Device) (memory : Memory) : Memory :=
  Step.storeEach (device.startSteps device.controls.codes) memory

/-- What the memory of a chip is to the device: as a start left it, while the device streams. -/
def shown (device : Device) (memory : Memory) : Memory :=
  if device.streaming then device.launch memory else memory

theorem shown_of_streaming (streaming : device.streaming = true) :
    device.shown memory = device.launch memory :=
  if_pos streaming

theorem shown_of_stopped (stopped : ¬ device.streaming = true) : device.shown memory = memory :=
  if_neg stopped

theorem plain_of_mem_startSteps {codes : ControlId → UInt32} :
    ∀ step ∈ device.startSteps codes, step.register.IsPlain := by
  have source : ∀ register ∈ Action.configured ++ [Layout.systemStart], register.IsPlain := by
    intro register member
    simp only [Action.configured, List.cons_append, List.nil_append, List.mem_cons,
      List.not_mem_nil, or_false] at member
    rcases member with rfl | rfl | rfl | rfl | rfl
    all_goals exact ⟨by decide, by decide, by constructor <;> decide, by decide⟩
  intro step member
  simp only [startSteps, preparation, List.mem_append] at member
  obtain (early | control) | last := member
  · obtain ⟨entry, written, rfl⟩ := List.mem_map.mp early
    have named : entry.1 ∈ device.sourceWrites.map Prod.fst := List.mem_map_of_mem written
    exact source entry.1 (List.mem_append_left _ named)
  · obtain ⟨id, -, rfl⟩ := List.mem_map.mp control
    rw [id.register_step]
    exact id.register_plain
  · rw [List.mem_singleton.mp last]
    exact source _ (by decide)

/-- A value that is written after a start might as well have been there before. -/
theorem launch_set {id : ControlId} {value : Int32} {code : UInt32}
    (writable : id ∈ Controls.writable) (coded : id.code value = .ok code) :
    launch { device with controls := device.controls.set id value } memory =
      (id.step code).store (device.launch memory) := by
  have settled := @Controls.storeEach_set device.controls id Controls.writable value code
    (Step.storeEach (device.sourceWrites.map fun entry => .write entry.1 entry.2) memory) coded
    (by decide) writable
  have last : ∀ step ∈ [Step.write Layout.systemStart Layout.SystemStart.running],
      step.register.IsApart (id.step code).register := by
    intro step member
    rw [List.mem_singleton.mp member, id.register_step]
    cases id <;> decide
  unfold launch startSteps preparation
  simp only [Step.storeEach_append]
  rw [← Step.storeEach_comm last]
  exact congrArg (Step.storeEach _) settled

theorem shown_set_live {id : ControlId} {value : Int32} {code : UInt32}
    (streaming : device.streaming = true) (writable : id ∈ Controls.writable)
    (coded : id.code value = .ok code) :
    shown { device with controls := device.controls.set id value } memory =
      (id.step code).store (device.shown memory) := by
  rw [shown_of_streaming streaming, ← launch_set writable coded]
  exact shown_of_streaming streaming

theorem shown_set_pending {id : ControlId} {value : Int32} (stopped : ¬ device.streaming = true) :
    shown { device with controls := device.controls.set id value } memory = device.shown memory := by
  rw [shown_of_stopped stopped]
  exact shown_of_stopped stopped

theorem onRegisters_gives {access : Access Bench Unit} {post : Bench → Prop}
    (run : access.Gives Bench.host device.registers bench fun _ map left =>
      map = device.registers ∧ post left) :
    (onRegisters access).Gives Bench.host device bench fun _ after left =>
      after = device ∧ post left := by
  refine ends_act.mpr (Ends.mono run ?_)
  intro outcome map left ended
  cases outcome with
  | done _ =>
      obtain ⟨rfl, rest⟩ := ended
      exact ⟨rfl, rest⟩
  | failed error => exact ended
  | aborted => exact ended

/-- A start carries out its steps. -/
theorem start_gives (valid : device.controls.Valid) (direct : bench.faults.overrides = [])
    (sound : bench.chip.Sound) :
    (do
      configure
      unstall : Operation Bench Unit).Gives Bench.host device bench fun _ after left =>
      after = device ∧ left.faults = bench.faults ∧
        bench.chip.Became (device.launch bench.chip.memory) left.chip := by
  have plain := @plain_of_mem_startSteps device device.controls.codes
  simp only [startSteps, preparation, List.forall_mem_append] at plain
  obtain ⟨⟨sources, controls⟩, last⟩ := plain
  have configured : configure.Gives Bench.host device bench fun _ after left =>
      after = device ∧ left.faults = bench.faults ∧ bench.chip.Became
        (Step.storeEach (device.preparation device.controls.codes) bench.chip.memory) left.chip := by
    refine (ends_configure valid.code_get).mpr ?_
    refine (onRegisters_gives (Step.runEach_gives sources direct sound)).bind ?_
    intro _ middle between ended
    obtain ⟨rfl, faults, became⟩ := ended
    have still : between.faults.overrides = [] := by rw [faults]; exact direct
    refine (onRegisters_gives (Step.runEach_gives controls still (became.sound sound))).mono ?_
    intro _ after left ended
    obtain ⟨same, kept, more⟩ := ended
    rw [became.memory_eq, ← Step.storeEach_append] at more
    exact ⟨same, kept.trans faults, became.trans more⟩
  refine configured.bind ?_
  intro _ middle between ended
  obtain ⟨rfl, faults, became⟩ := ended
  have still : between.faults.overrides = [] := by rw [faults]; exact direct
  refine (onRegisters_gives (Step.run_gives (last _ (List.mem_singleton_self _)) still
    (became.sound sound))).mono ?_
  intro _ after left ended
  obtain ⟨same, kept, more⟩ := ended
  rw [became.memory_eq] at more
  refine ⟨same, kept.trans faults, ?_⟩
  unfold launch startSteps
  rw [Step.storeEach_append]
  exact became.trans more

theorem setStream_shown (stopped : device.streaming = false) (valid : device.controls.Valid)
    (direct : bench.faults.overrides = []) (sound : base.Sound)
    (became : base.Became (device.shown base.memory) bench.chip) :
    (setStream true).Gives Bench.host device bench fun _ after left =>
      after = { device with streaming := true } ∧ left.faults = bench.faults ∧
        base.Became (after.shown base.memory) left.chip := by
  rw [shown_of_stopped (by simp [stopped])] at became
  unfold setStream
  refine ends_bind.mpr (ends_state.mpr ?_)
  simp only [followed, stopped, Bool.false_eq_true, if_false, if_true]
  refine (start_gives valid direct (became.sound sound)).onError.bind ?_
  intro _ after left ended
  obtain ⟨rfl, faults, launched⟩ := ended
  rw [became.memory_eq] at launched
  exact ⟨rfl, faults, became.trans launched⟩

theorem setControl_shown (id : ControlId) (requested : Int32) (valid : device.controls.Valid)
    (direct : bench.faults.overrides = []) (sound : base.Sound)
    (became : base.Became (device.shown base.memory) bench.chip) :
    (setControl id requested).attempt.Gives Bench.host device bench fun result after left =>
      result = id.spec.validate requested ∧
        after = { device with controls := device.controls.ask (id, requested) } ∧
        left.faults = bench.faults ∧ base.Became (after.shown base.memory) left.chip := by
  unfold setControl Controls.ask
  cases accepted : id.spec.validate requested with
  | error error => exact ⟨rfl, rfl, rfl, became⟩
  | ok value =>
      have writable : id ∈ Controls.writable := by
        rw [ControlId.mem_writable]
        intro same
        subst same
        cases accepted
      obtain ⟨code, coded, -⟩ := ControlId.code_of_valid writable
        (ControlSpec.validate_idempotent id.hasGrid accepted)
      rw [ofExcept_ok_bind]
      refine ends_attempt.mpr (ends_bind.mpr (ends_state.mpr ?_))
      simp only [followed]
      split
      · next streaming =>
          have plain : (id.step code).register.IsPlain := by
            rw [id.register_step]
            exact id.register_plain
          rw [ControlId.apply_eq_run writable coded]
          refine (onRegisters_gives (Step.run_gives plain direct (became.sound sound))).bind ?_
          intro _ after left ended
          obtain ⟨rfl, faults, written⟩ := ended
          rw [became.memory_eq, ← shown_set_live streaming writable coded] at written
          exact ⟨rfl, rfl, faults, became.trans written⟩
      · next stopped =>
          rw [← @shown_set_pending device base.memory id value stopped] at became
          exact ⟨rfl, rfl, rfl, became⟩

theorem setControls_shown (calls : List (ControlId × Int32)) (valid : device.controls.Valid)
    (direct : bench.faults.overrides = []) (sound : base.Sound)
    (became : base.Became (device.shown base.memory) bench.chip) :
    (setControls calls).Gives Bench.host device bench fun results after left =>
      results = calls.map (fun call => call.1.spec.validate call.2) ∧
        after = { device with controls := calls.foldl Controls.ask device.controls } ∧
        left.faults = bench.faults ∧ base.Became (after.shown base.memory) left.chip := by
  induction calls generalizing device bench with
  | nil => exact gives_done ⟨rfl, rfl, rfl, became⟩
  | cons call rest ih =>
      refine (setControl_shown call.1 call.2 valid direct sound became).bind ?_
      intro result after left ended
      obtain ⟨rfl, rfl, faults, became⟩ := ended
      have others := @ih { device with controls := device.controls.ask call } left
        (valid.ask call) (by rw [faults]; exact direct) became
      refine Gives.bind others ?_
      intro results final last ended
      obtain ⟨rfl, rfl, still, became⟩ := ended
      exact gives_done ⟨rfl, rfl, still.trans faults, became⟩

/-- Neither the registers nor the copy engine fail, and reads find what the chip holds. -/
structure Faultless (bench : Bench) : Prop where
  reads : bench.chip.faults.reads = []
  writes : bench.chip.faults.writes = []
  runs : bench.chip.faults.copyStuck = false
  overrides : bench.faults.overrides = []

theorem Faultless.sound (faultless : Faultless bench) (awake : bench.chip.inReset = false) :
    bench.chip.Sound :=
  ⟨awake, faultless.reads, faultless.writes, faultless.runs⟩

theorem became_of_stopped (stopped : device.streaming = false) :
    bench.chip.Became (device.shown bench.chip.memory) bench.chip := by
  rw [shown_of_stopped (by simp [stopped])]
  exact bench.chip.became_self

/-- The controls are valid, and the chip is out of reset. -/
structure Ready (device : Device) (bench : Bench) : Prop where
  valid : device.controls.Valid
  awake : bench.chip.inReset = false

theorem takeAll_ready (turns : List Turn) {course : Course}
    (ready : Ready course.device course.bench) :
    Ready (Course.takeAll turns course).device (Course.takeAll turns course).bench := by
  refine @Course.takeAll_keeps (fun course => Ready course.device course.bench) _ _ ?_ ready
  intro turn _ course ready
  cases turn with
  | act action =>
      have valid := @perform_valid _ Bench.host course.device course.bench action ready.valid
      have awake := @Action.perform_undisturbed _ Bench.host course.device course.bench _ action
        Bench.undisturbed_awake ready.awake
      exact ⟨valid, awake⟩
  | faults faults => exact ⟨ready.valid, ready.awake⟩

theorem attach_ready {S : Type} {state : S} (wiring : Wiring) (config : BoardConfig) :
    (attach wiring config).Yields Bench.host state bench fun device _ left => Ready device left := by
  have stalled := @yields_attach Bench S Bench.host (StartsWith Layout.SystemStart.stalled) state
    bench stall_yields (fun _ _ starts => starts) wiring config
  refine ((attach_installs wiring config).and stalled).mono ?_
  intro device _ left ended
  obtain ⟨installed, -, starts⟩ := ended
  refine ⟨?_, starts.awake⟩
  rw [installed.controls]
  exact Controls.valid_defaults

/-- What two runs leave behind that set the same values, one before a start and one after it. The
chip may have recorded other blocks. -/
structure Alike (calls : List (ControlId × Int32)) (results others : List (Except Error Int32))
    (after final : Device) (left last : Bench) : Prop where
  answered : results = calls.map fun call => call.1.spec.validate call.2
  agreed : others = results
  streaming : after.streaming = true
  device : final = after
  chip : last.chip.unrecorded = left.chip.unrecorded

/-- The device streams with all values stored that were asked for, and the registers show it. -/
structure Reached (device : Device) (base : Chip) (calls : List (ControlId × Int32))
    (results : List (Except Error Int32)) (after : Device) (left : Bench) : Prop where
  answered : results = calls.map fun call => call.1.spec.validate call.2
  device : after =
    { device with controls := calls.foldl Controls.ask device.controls, streaming := true }
  chip : base.Became (after.shown base.memory) left.chip

theorem reached_pending (ready : Ready device bench) (stopped : device.streaming = false)
    (faultless : Faultless bench) (calls : List (ControlId × Int32)) :
    (do
      let results ← setControls calls
      setStream true
      return results).Gives Bench.host device bench (Reached device bench.chip calls) := by
  refine (setControls_shown calls ready.valid faultless.overrides (faultless.sound ready.awake)
    (became_of_stopped stopped)).bind ?_
  intro results settled between ended
  obtain ⟨answered, same, faults, became⟩ := ended
  have still : between.faults.overrides = [] := by rw [faults]; exact faultless.overrides
  have idle : settled.streaming = false := by rw [same]; exact stopped
  have valid : settled.controls.Valid := by rw [same]; exact ready.valid.askEach calls
  refine (setStream_shown idle valid still (faultless.sound ready.awake) became).bind ?_
  intro _ after left ended
  obtain ⟨started, -, shows⟩ := ended
  rw [same] at started
  exact ⟨answered, started, shows⟩

theorem reached_live (ready : Ready device bench) (stopped : device.streaming = false)
    (faultless : Faultless bench) (calls : List (ControlId × Int32)) :
    (do
      setStream true
      setControls calls).Gives Bench.host device bench (Reached device bench.chip calls) := by
  refine (setStream_shown stopped ready.valid faultless.overrides (faultless.sound ready.awake)
    (became_of_stopped stopped)).bind ?_
  intro _ running between ended
  obtain ⟨started, faults, became⟩ := ended
  have still : between.faults.overrides = [] := by rw [faults]; exact faultless.overrides
  have valid : running.controls.Valid := by rw [started]; exact ready.valid
  refine (setControls_shown calls valid still (faultless.sound ready.awake) became).mono ?_
  intro results after left ended
  obtain ⟨answered, stored, -, shows⟩ := ended
  rw [started] at stored
  exact ⟨answered, stored, shows⟩

/-- From an attach on, after anything asked of the device and with no fault left: on a device that is
stopped, values that are set before a start and values that are set after it come to the same. Each
of them is answered alike, and the device and the chip end alike, all registers included. -/
theorem pending_as_live {S : Type} (wiring : Wiring) (config : BoardConfig) (state : S)
    (bench : Bench) :
    (attach wiring config).Yields Bench.host state bench fun device _ left => ∀ turns,
      match Course.takeAll turns ⟨device, left, false⟩ with
      | ⟨device, bench, _⟩ => device.streaming = false → Faultless bench → ∀ calls,
          (do
            let results ← setControls calls
            setStream true
            return results).Gives Bench.host device bench fun results after left =>
            (do
              setStream true
              setControls calls).Gives Bench.host device bench fun others final last =>
              Alike calls results others after final left last := by
  refine (attach_ready wiring config).mono ?_
  intro device _ left ready turns
  have ready := @takeAll_ready turns ⟨device, left, false⟩ ready
  generalize Course.takeAll turns ⟨device, left, false⟩ = course at ready ⊢
  intro stopped faultless calls
  refine (reached_pending ready stopped faultless calls).mono ?_
  intro results after left pending
  refine (reached_live ready stopped faultless calls).mono ?_
  intro others final last live
  have device := live.device.trans pending.device.symm
  have chip := live.chip
  rw [device] at chip
  refine ⟨pending.answered, live.answered.trans pending.answered.symm, ?_, device,
    chip.unique pending.chip⟩
  rw [pending.device]

/-- A stream during which a gain cannot be written. -/
def pausedStream : List Turn :=
  [.act (.setControl .exposure 4), .act (.setStream true),
    .faults { writes := [Layout.manualGain.busOffset] }, .act (.setControl .gain 0x200), .faults {},
    .act (.setStream false)]

/-- A white balance twice, a gain between points of its grid, and a value for a control that takes
none. -/
def changes : List (ControlId × Int32) :=
  [(.whiteBalance, ControlId.flashPreset), (.linkFrequency, 0), (.gain, 0x2ff), (.whiteBalance, 2)]

/-- What shows after an attach and some turns: the flag, and what can fail. -/
def faultsAfter (turns : List Turn) : Outcome Device × Unit × Bench →
    Option (Bool × ChipFaults × List (UInt16 × List UInt8))
  | (.done device, _, left) =>
      match Course.takeAll turns ⟨device, left, false⟩ with
      | ⟨device, bench, _⟩ => some (device.streaming, bench.chip.faults, bench.faults.overrides)
  | _ => none

theorem oneSensor_changes :
    (attach ⟨true, true⟩ oneSensor).Gives Bench.host () stockedBench fun device _ left =>
      match Course.takeAll pausedStream ⟨device, left, false⟩ with
      | ⟨device, bench, _⟩ => device.streaming = false ∧ Faultless bench ∧
          (do
            let results ← setControls changes
            setStream true
            return results).Gives Bench.host device bench fun results after left =>
            (do
              setStream true
              setControls changes).Gives Bench.host device bench fun others final last =>
              Alike changes results others after final left last := by
  have alike := pending_as_live ⟨true, true⟩ oneSensor () stockedBench
  have shown : faultsAfter pausedStream
      (attach ⟨true, true⟩ oneSensor Bench.host () stockedBench) = some (false, {}, []) := by
    decide +kernel
  refine alike.gives_of_seen shown (fun _ _ _ => rfl) (fun _ _ => rfl) ?_
  intro device _ left shown alike
  have reached := alike pausedStream
  simp only [faultsAfter, Option.some.injEq, Prod.mk.injEq] at shown
  generalize Course.takeAll pausedStream ⟨device, left, false⟩ = course at reached shown ⊢
  obtain ⟨device, bench, _⟩ := course
  obtain ⟨stopped, faults, overrides⟩ := shown
  have faultless : Faultless bench := by
    refine ⟨?_, ?_, ?_, overrides⟩
    all_goals rw [faults]
  exact ⟨stopped, faultless, reached stopped faultless changes⟩

end Device

end IspDriver
