import IspDriver.Proofs.Device.Pending
import IspDriver.Proofs.Simulation.Overwrite

/-!
Starts that fail. A start that the chip cuts short leaves the device as it was, and in the registers
a front of what it would have written. Every start writes the same registers, so the one that goes
through in the end leaves nothing of the ones before it.
-/

namespace IspDriver

open Routine Simulation

theorem ControlId.covers_step (id : ControlId) (code other : UInt32) :
    (id.step code).Covers (id.step other) := by
  refine ⟨?_, id.store_step_again other code⟩
  rw [id.register_step, id.register_step]

namespace Device

variable {device later : Device} {codes others : ControlId → UInt32} {bench : Bench}
  {memory : Memory} {front : List Step}

/-- The registers that a start writes, whatever it writes there. -/
def startRegisters : List Register :=
  Action.configured ++ Controls.writable.map ControlId.register ++ [Layout.systemStart]

theorem startRegisters_apart : startRegisters.Pairwise Register.IsApart := by
  decide +kernel

theorem registers_startSteps (device : Device) (codes : ControlId → UInt32) :
    (device.startSteps codes).map Step.register = startRegisters := by
  have controls : (Controls.writable.map fun id => id.step (codes id)).map Step.register =
      Controls.writable.map ControlId.register := by
    rw [List.map_map]
    exact List.map_congr_left fun id _ => id.register_step (codes id)
  unfold startSteps preparation startRegisters
  rw [List.map_append, List.map_append, controls]
  rfl

theorem startSteps_cover (later device : Device) (codes others : ControlId → UInt32) :
    List.Forall₂ Step.Covers (later.startSteps codes) (device.startSteps others) := by
  have sources : List.Forall₂ Step.Covers
      (later.sourceWrites.map fun entry => .write entry.1 entry.2)
      (device.sourceWrites.map fun entry => .write entry.1 entry.2) :=
    .cons (Step.covers_write ..) (.cons (Step.covers_write ..)
      (.cons (Step.covers_write ..) (.cons (Step.covers_write ..) .nil)))
  have controls : List.Forall₂ Step.Covers (Controls.writable.map fun id => id.step (codes id))
      (Controls.writable.map fun id => id.step (others id)) := by
    rw [List.forall₂_map_left_iff, List.forall₂_map_right_iff, List.forall₂_same]
    exact fun id _ => id.covers_step (codes id) (others id)
  exact List.rel_append (List.rel_append sources controls)
    (.cons (Step.covers_write ..) .nil)

/-- A start makes up for what a start before it stored. -/
theorem launch_front (early : front <+: device.startSteps codes) (later : Device)
    (memory : Memory) : later.launch (Step.storeEach front memory) = later.launch memory := by
  refine Step.storeEach_covers_each
    (startSteps_cover later device later.controls.codes codes) ?_ early.subset memory
  rw [registers_startSteps]
  exact startRegisters_apart

theorem carriesOut_onRegisters {access : Access Bench Unit} {steps : List Step}
    (carries : CarriesOut access device.registers steps) :
    CarriesOut (onRegisters access) device steps := by
  intro bench direct
  refine ends_act.mpr ((carries bench direct).mono ?_)
  intro outcome map left ended
  obtain ⟨rfl, stored⟩ := ended
  exact ⟨rfl, stored⟩

theorem carriesOut_start (valid : device.controls.Valid) :
    CarriesOut (do
      configure
      unstall) device (device.startSteps device.controls.codes) := by
  have plain := @plain_of_mem_startSteps device device.controls.codes
  simp only [startSteps, preparation, List.forall_mem_append] at plain
  obtain ⟨⟨sources, controls⟩, last⟩ := plain
  have configured : CarriesOut configure device (device.preparation device.controls.codes) := by
    intro bench direct
    rw [ends_configure valid.code_get]
    exact (carriesOut_onRegisters (Step.carriesOut_runEach sources _)).bind
      (carriesOut_onRegisters (Step.carriesOut_runEach controls _)) bench direct
  exact configured.bind
    (carriesOut_onRegisters (Step.carriesOut_run (last _ (List.mem_singleton_self _)) _))

theorem setStream_leaves_front (stopped : device.streaming = false) (valid : device.controls.Valid)
    (direct : bench.faults.overrides = []) :
    (setStream true).Ends Bench.host device bench fun outcome after left =>
      ∀ error, outcome = .failed error → after = device ∧ left.faults = bench.faults ∧
        ∃ front, front <+: device.startSteps device.controls.codes ∧
          bench.chip.Became (Step.storeEach front bench.chip.memory) left.chip := by
  unfold setStream
  rw [ends_bind, ends_state]
  simp only [followed, stopped, Bool.false_eq_true, if_false, if_true]
  rw [ends_bind, ends_onError]
  refine (carriesOut_start valid bench direct).mono ?_
  intro outcome after left ended
  obtain ⟨rfl, stored⟩ := ended
  cases outcome with
  | done _ => rintro error ⟨⟩
  | failed error =>
      rintro _ -
      obtain ⟨front, early, -, became⟩ := stored.stored
      exact ⟨rfl, stored.faults, front, early, became⟩
  | aborted => rintro error ⟨⟩

/-- Asks for a format or for the value of a control. -/
def Action.IsSetting : Action → Prop
  | setFormat _ _ | setControl _ _ => True
  | _ => False

/-- The values in force after an action on a stopped device. -/
def Action.controlsAfter (controls : Controls) : Action → Controls
  | setControl id requested => controls.ask (id, requested)
  | _ => controls

/-- The device once a setting was asked for. -/
def adjusted (device : Device) (action : Action) : Device :=
  { device with
    formats := action.formatsAfter device.formats
    controls := action.controlsAfter device.controls }

/-- Nothing of a setting shows on the chip before a start. -/
theorem setting_ends {action : Action} (stopped : device.streaming = false)
    (setting : action.IsSetting) :
    action.perform.Ends Bench.host device bench fun _ after left =>
      after = device.adjusted action ∧ left.chip = bench.chip ∧ left.faults = bench.faults := by
  cases action with
  | setFormat pad requested =>
      unfold Action.perform Device.setFormat adjusted
      rw [ends_bind, ends_bind, ends_state]
      simp only [followed, Action.formatsAfter, Action.controlsAfter]
      cases device.formats.set? pad requested with
      | none => exact ⟨rfl, rfl, rfl⟩
      | some chosen => exact ⟨rfl, rfl, rfl⟩
  | setControl id requested =>
      unfold Action.perform Device.setControl adjusted
      simp only [Action.formatsAfter, Action.controlsAfter, Controls.ask]
      cases id.spec.validate requested with
      | error error => exact ⟨rfl, rfl, rfl⟩
      | ok value =>
          rw [ofExcept_ok_bind, ends_bind, ends_bind, ends_state]
          simp only [followed]
          rw [if_neg (by simp [stopped])]
          exact ⟨rfl, rfl, rfl⟩
  | _ => exact setting.elim

theorem take_setting {course : Course} {action : Action}
    (stopped : course.device.streaming = false) (setting : action.IsSetting) :
    (course.take (.act action)).device = course.device.adjusted action ∧
      (course.take (.act action)).bench.chip = course.bench.chip ∧
      (course.take (.act action)).bench.faults = course.bench.faults :=
  @setting_ends course.device course.bench action stopped setting

/-- The turn asks for a start. -/
def Turn.isStart : Turn → Bool
  | .act (.setStream true) => true
  | _ => false

/-- What may come before a start that goes through: settings, starts that do not, and changes of
what the chip fails at. -/
def Turn.Prepares : Turn → Prop
  | .act action => action.IsSetting ∨ action = .setStream true
  | .faults _ => True

/-- What the starts among the turns come to. -/
def startOutcomes : List Turn → Course → List (Outcome Unit)
  | [], _ => []
  | turn :: rest, course =>
      let later := startOutcomes rest (course.take turn)
      if turn.isStart then (setStream true Bench.host course.device course.bench).1 :: later
      else later

/-- A start goes through after either run, and leaves the same behind: the device with all that it
stores, and every register. The chip may have recorded other blocks. -/
structure StartsAlike (course other : Course) : Prop where
  gives : (setStream true).Gives Bench.host course.device course.bench fun _ after left =>
    (setStream true).Gives Bench.host other.device other.bench fun _ final last =>
      after.streaming = true ∧ final = after ∧ last.chip.unrecorded = left.chip.unrecorded

/-- The devices of two runs are one, which is stopped. What the chip of the first run holds besides
is lost in any start. -/
structure Alongside (course other : Course) : Prop where
  ready : Ready other.device other.bench
  device : course.device = other.device
  stopped : other.device.streaming = false
  faults : course.bench.faults = other.bench.faults
  direct : other.bench.faults.overrides = []
  chip : other.bench.chip.Became course.bench.chip.memory course.bench.chip
  lost : ∀ later : Device,
    later.launch course.bench.chip.memory = later.launch other.bench.chip.memory

namespace Alongside

variable {course other : Course}

theorem course_stopped (alongside : Alongside course other) : course.device.streaming = false := by
  rw [alongside.device]
  exact alongside.stopped

theorem course_valid (alongside : Alongside course other) : course.device.controls.Valid := by
  rw [alongside.device]
  exact alongside.ready.valid

theorem course_direct (alongside : Alongside course other) :
    course.bench.faults.overrides = [] := by
  rw [alongside.faults]
  exact alongside.direct

theorem faulted (alongside : Alongside course other) (faults : ChipFaults) :
    Alongside (course.take (.faults faults)) (other.take (.faults faults)) where
  ready := takeAll_ready [.faults faults] alongside.ready
  device := alongside.device
  stopped := alongside.stopped
  faults := alongside.faults
  direct := alongside.direct
  chip := by
    have became := alongside.chip
    unfold Chip.Became at became ⊢
    exact congrArg (fun chip : Chip => { chip with faults }) became
  lost := alongside.lost

theorem set (alongside : Alongside course other) {action : Action} (setting : action.IsSetting) :
    Alongside (course.take (.act action)) (other.take (.act action)) := by
  have ready := takeAll_ready [.act action] alongside.ready
  obtain ⟨device, chip, faults⟩ := take_setting alongside.course_stopped setting
  obtain ⟨deviceOther, chipOther, faultsOther⟩ := take_setting alongside.stopped setting
  refine ⟨ready, ?_, ?_, ?_, ?_, ?_, ?_⟩
  · rw [device, deviceOther, alongside.device]
  · rw [deviceOther]
    exact alongside.stopped
  · rw [faults, faultsOther]
    exact alongside.faults
  · rw [faultsOther]
    exact alongside.direct
  · rw [chip, chipOther]
    exact alongside.chip
  · rw [chip, chipOther]
    exact alongside.lost

/-- A failed start adds to what will be lost. -/
theorem failed (alongside : Alongside course other) {error : Error}
    (fails : (setStream true Bench.host course.device course.bench).1 = .failed error) :
    Alongside (course.take (.act (.setStream true))) other := by
  obtain ⟨device, faults, front, early, became⟩ := setStream_leaves_front
    alongside.course_stopped alongside.course_valid alongside.course_direct error fails
  have device : (course.take (.act (.setStream true))).device = course.device := device
  have faults : (course.take (.act (.setStream true))).bench.faults = course.bench.faults := faults
  have became : course.bench.chip.Became (Step.storeEach front course.bench.chip.memory)
      (course.take (.act (.setStream true))).bench.chip := became
  refine ⟨alongside.ready, device.trans alongside.device, alongside.stopped,
    faults.trans alongside.faults, alongside.direct, ?_, ?_⟩
  · rw [became.memory_eq]
    exact alongside.chip.trans became
  · intro later
    rw [became.memory_eq, launch_front early later]
    exact alongside.lost later

/-- Settings are taken in both runs; the run without starts stands still while one fails. -/
theorem takeAll (alongside : Alongside course other) {turns : List Turn}
    (prepares : ∀ turn ∈ turns, turn.Prepares)
    (fail : ∀ outcome ∈ startOutcomes turns course, ∃ error, outcome = .failed error) :
    Alongside (Course.takeAll turns course)
      (Course.takeAll (turns.filter fun turn => !turn.isStart) other) := by
  induction turns generalizing course other with
  | nil => exact alongside
  | cons turn rest ih =>
      obtain ⟨first, others⟩ := List.forall_mem_cons.mp prepares
      cases turn with
      | faults faults => exact ih (alongside.faulted faults) others fail
      | act action =>
          rcases first with setting | start
          · cases action with
            | setFormat pad requested => exact ih (alongside.set setting) others fail
            | setControl id requested => exact ih (alongside.set setting) others fail
            | _ => exact setting.elim
          · subst start
            obtain ⟨⟨error, fails⟩, fail⟩ := List.forall_mem_cons.mp fail
            exact ih (alongside.failed fails) others fail

/-- The last start makes up for all that was lost. -/
theorem startsAlike (alongside : Alongside course other) (faultless : Faultless other.bench) :
    StartsAlike course other := by
  have sound := faultless.sound alongside.ready.awake
  have started := @setStream_shown course.device course.bench course.bench.chip
    alongside.course_stopped alongside.course_valid alongside.course_direct
    (alongside.chip.sound sound) (became_of_stopped alongside.course_stopped)
  have startedOther := @setStream_shown other.device other.bench other.bench.chip alongside.stopped
    alongside.ready.valid alongside.direct sound (became_of_stopped alongside.stopped)
  refine ⟨started.mono ?_⟩
  intro _ after left ended
  refine startedOther.mono ?_
  intro _ final last endedOther
  obtain ⟨device, -, shows⟩ := ended
  obtain ⟨deviceOther, -, showsOther⟩ := endedOther
  have streaming : after.streaming = true := by rw [device]
  have same : final = after := by rw [device, deviceOther, alongside.device]
  rw [same, shown_of_streaming streaming] at showsOther
  rw [shown_of_streaming streaming, alongside.lost] at shows
  exact ⟨streaming, same, showsOther.unique (alongside.chip.trans shows)⟩

end Alongside

/-- From an attach on, after anything asked of the device, where reads find what the chip holds:
take any settings on the device while it is stopped, and starts between them that all fail, whatever
the chip fails at. A start without faults then succeeds, and it leaves the device and the registers
as if the failed starts had been left out. -/
theorem failed_starts_leave_nothing {S : Type} (wiring : Wiring) (config : BoardConfig) (state : S)
    (bench : Bench) :
    (attach wiring config).Yields Bench.host state bench fun device _ left => ∀ earlier course,
      Course.takeAll earlier ⟨device, left, false⟩ = course → course.device.streaming = false →
      course.bench.faults.overrides = [] → ∀ turns, (∀ turn ∈ turns, turn.Prepares) →
      (∀ outcome ∈ startOutcomes turns course, ∃ error, outcome = .failed error) →
        StartsAlike ((Course.takeAll turns course).take (.faults {}))
          ((Course.takeAll (turns.filter fun turn => !turn.isStart) course).take (.faults {})) := by
  refine (attach_ready wiring config).mono ?_
  intro device _ left ready earlier course reached stopped direct turns prepares fail
  have ready : Ready course.device course.bench := by
    rw [← reached]
    exact @takeAll_ready earlier ⟨device, left, false⟩ ready
  have start : Alongside course course :=
    ⟨ready, rfl, stopped, rfl, direct, course.bench.chip.became_self, fun _ => rfl⟩
  have alongside := (start.takeAll prepares fail).faulted {}
  exact alongside.startsAlike ⟨rfl, rfl, rfl, alongside.direct⟩

/-- Two starts that fail, one at a write and one at a read, with settings before and between. -/
def failedStarts : List Turn :=
  [.act (.setControl .gain 0x300), .faults { writes := [Layout.manualGain.busOffset] },
    .act (.setStream true), .act (.setFormat .source ⟨.uyyvyy8, 1001, 701⟩),
    .act (.setControl .whiteBalance 2), .faults { reads := [Layout.exposureControl.busOffset] },
    .act (.setStream true)]

/-- What shows after an attach and some turns: the flag, which reads are overridden, and what the
starts among more turns come to. -/
def failuresAfter (earlier turns : List Turn) : Outcome Device × Unit × Bench →
    Option (Bool × List (UInt16 × List UInt8) × List (Outcome Unit))
  | (.done device, _, left) =>
      match Course.takeAll earlier ⟨device, left, false⟩ with
      | course =>
          some (course.device.streaming, course.bench.faults.overrides, startOutcomes turns course)
  | _ => none

theorem oneSensor_starts_in_the_end :
    (attach ⟨true, true⟩ oneSensor).Gives Bench.host () stockedBench fun device _ left =>
      ∃ course, Course.takeAll pausedStream ⟨device, left, false⟩ = course ∧
        course.device.streaming = false ∧ course.bench.faults.overrides = [] ∧
        (∀ turn ∈ failedStarts, turn.Prepares) ∧
        startOutcomes failedStarts course = [.failed (.transfer .other "injected write fault"),
          .failed (.transfer .other "injected read fault")] ∧
        StartsAlike ((Course.takeAll failedStarts course).take (.faults {}))
          ((Course.takeAll (failedStarts.filter fun turn => !turn.isStart) course).take
            (.faults {})) := by
  have alike := failed_starts_leave_nothing ⟨true, true⟩ oneSensor () stockedBench
  have shown : failuresAfter pausedStream failedStarts
      (attach ⟨true, true⟩ oneSensor Bench.host () stockedBench) =
      some (false, [], [.failed (.transfer .other "injected write fault"),
        .failed (.transfer .other "injected read fault")]) := by
    decide +kernel
  refine alike.gives_of_seen shown (fun _ _ _ => rfl) (fun _ _ => rfl) ?_
  intro device _ left shown alike
  have reached := alike pausedStream
  simp only [failuresAfter, Option.some.injEq, Prod.mk.injEq] at shown
  generalize Course.takeAll pausedStream ⟨device, left, false⟩ = course at reached shown ⊢
  obtain ⟨stopped, direct, outcomes⟩ := shown
  have prepares : ∀ turn ∈ failedStarts, turn.Prepares := by
    simp [failedStarts, Turn.Prepares, Action.IsSetting]
  refine ⟨course, rfl, stopped, direct, prepares, outcomes,
    reached course rfl stopped direct failedStarts prepares ?_⟩
  intro outcome member
  rw [outcomes] at member
  simp only [List.mem_cons, List.not_mem_nil, or_false] at member
  rcases member with rfl | rfl
  all_goals exact ⟨_, rfl⟩

end Device

end IspDriver
