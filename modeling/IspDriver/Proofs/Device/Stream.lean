import IspDriver.Proofs.Device.Action
import IspDriver.Proofs.Device.Boot
import IspDriver.Proofs.Simulation.Frame

/-!
The streaming flag of a device and the start register of the chip on its bench. The flag changes
only when a start or a stop succeeds. A start writes the register last, so one that fails leaves it
as it was; a stop writes it first, so one that fails after that leaves the chip stalled with the
flag still set. Such a stop is cut short, and stays so until a stop succeeds.
-/

namespace IspDriver.Device

open Routine Simulation

variable {device : Device} {bench : Bench} {word : UInt32}

/-- The chip is out of reset, and its start register holds a word. -/
def StartsWith (word : UInt32) (bench : Bench) : Prop :=
  bench.chip.Shows Layout.systemStart.offset.toNat (RegisterMap.busBytes Layout.systemStart word)

theorem peek?_of_startsWith (starts : StartsWith word bench) :
    bench.chip.peek? Layout.systemStart = some word.toUInt16.toUInt32 := by
  unfold StartsWith at starts
  rw [RegisterMap.busBytes_of_two (by decide)] at starts
  exact starts.peek? (by decide) (by decide) (by decide)

theorem systemStart_clear (word : UInt32) :
    Chip.ClearOfEngine Layout.systemStart.offset.toNat
      (RegisterMap.busBytes Layout.systemStart word).length := by
  rw [RegisterMap.length_busBytes word (by decide)]
  decide

/-- Blocks of the bus that are stored apart from the start register. -/
def Elsewhere (offset : UInt16) (data : List UInt8) : Prop :=
  Chip.Misses Layout.systemStart.offset.toNat 2 offset data.length

theorem maySend_elsewhere {register : Register}
    (misses : Chip.Misses Layout.systemStart.offset.toNat 2 register.busOffset 4) :
    MaySend Elsewhere register :=
  Bench.maySend_of_misses misses

theorem control_elsewhere (id : ControlId) : MaySend Elsewhere id.register := by
  refine maySend_elsewhere ?_
  cases id <;> decide

theorem latches_elsewhere : Diagnostics.ClearsLatches Elsewhere :=
  Bench.clearsLatches_of_misses (by decide)

theorem configured_elsewhere :
    ∀ register ∈ Action.configured, MaySend Elsewhere register := by
  intro register member
  refine maySend_elsewhere ?_
  have misses : ∀ register ∈ Action.configured,
      Chip.Misses Layout.systemStart.offset.toNat 2 register.busOffset 4 := by decide
  exact misses register member

theorem interruptEnable_elsewhere : MaySend Elsewhere Layout.interruptEnable :=
  maySend_elsewhere (by decide)

theorem undisturbed_start {broken : Bench → Prop} (word : UInt32) :
    Undisturbed Bench.host Elsewhere (StartsWith word) broken := by
  have undisturbed := @Bench.undisturbed_shows _ _ broken (systemStart_clear word)
  rwa [RegisterMap.length_busBytes word (by decide)] at undisturbed

theorem harmless_start (word : UInt32) :
    Bridge.Harmless Bench.host (fun _ => StartsWith word) (fun _ => StartsWith word) :=
  Bench.harmless_shows (systemStart_clear word)

theorem unpaged_streaming : UnpagedView Device.streaming :=
  fun _ _ => rfl

theorem hidden_streaming {action : Action} (steady : ∀ enable, action ≠ .setStream enable) :
    action.Hidden Device.streaming := by
  refine ⟨unpaged_streaming, ?_⟩
  cases action with
  | setStream enable => exact absurd rfl (steady enable)
  | _ => first | trivial | exact fun _ _ => rfl

/-- The chip on the bench does not take what is sent to its start register. -/
def RefusesStart (bench : Bench) : Prop :=
  bench.chip.Refuses Layout.systemStart.offset

instance : Decidable (RefusesStart bench) :=
  inferInstanceAs (Decidable (bench.chip.Refuses Layout.systemStart.offset))

theorem writeStart_fails {map : RegisterMap} (refuses : RefusesStart bench) (value : UInt32) :
    (RegisterMap.write Layout.systemStart value).Fails Bench.host map bench
      fun _ left => left.chip = bench.chip :=
  Bench.write_fails (by decide) (by decide) refuses

theorem writeStart_gives {map : RegisterMap} (takes : ¬ RefusesStart bench) (value : UInt32) :
    (RegisterMap.write Layout.systemStart value).Gives Bench.host map bench
      fun _ _ left => ¬ RefusesStart left ∧ StartsWith value left := by
  refine (Bench.write_gives (by decide) (by decide) (by constructor <;> decide) (by decide)
    takes).mono ?_
  intro _ after left given
  obtain ⟨faults, starts⟩ := given
  refine ⟨fun refuses => takes (.inr ?_), starts⟩
  unfold RefusesStart Chip.Refuses at refuses
  rw [faults, starts.awake] at refuses
  exact refuses.resolve_left Bool.false_ne_true

theorem unstall_fails (refuses : RefusesStart bench) :
    unstall.Fails Bench.host device bench fun after left =>
      after.streaming = device.streaming ∧ left.chip = bench.chip := by
  refine ends_act.mpr (Ends.mono (writeStart_fails refuses Layout.SystemStart.running) ?_)
  intro outcome after left failed
  exact ⟨failed.1, rfl, failed.2⟩

theorem unstall_gives (takes : ¬ RefusesStart bench) :
    unstall.Gives Bench.host device bench fun _ after left =>
      after.streaming = device.streaming ∧ StartsWith Layout.SystemStart.running left := by
  refine ends_act.mpr (Ends.mono (writeStart_gives takes Layout.SystemStart.running) ?_)
  intro outcome after left given
  cases outcome with
  | done _ => exact ⟨rfl, given.2⟩
  | failed error => exact given
  | aborted => exact given

theorem stall_fails (refuses : RefusesStart bench) :
    stall.Fails Bench.host device bench fun after left =>
      after.streaming = device.streaming ∧ left.chip = bench.chip := by
  have first : (onRegisters (RegisterMap.writeAll [
      (Layout.systemStart, Layout.SystemStart.stallPrepared),
      (Layout.systemStart, Layout.SystemStart.stalled)])).Fails Bench.host device bench
      fun after left => after.streaming = device.streaming ∧ left.chip = bench.chip := by
    refine ends_act.mpr (Ends.mono (writeStart_fails refuses _).bind ?_)
    intro outcome after left failed
    exact ⟨failed.1, rfl, failed.2⟩
  exact first.bind

/-- Once the chip takes the words of a stall it is stalled, also if the rest of the stall fails. -/
theorem stall_ends (takes : ¬ RefusesStart bench) :
    stall.Ends Bench.host device bench fun outcome after left =>
      after.streaming = device.streaming ∧ StartsWith Layout.SystemStart.stalled left ∧
        outcome ≠ .aborted := by
  have sends : (onRegisters (RegisterMap.writeAll [
      (Layout.systemStart, Layout.SystemStart.stallPrepared),
      (Layout.systemStart, Layout.SystemStart.stalled)])).Gives Bench.host device bench
      fun _ after left => after.streaming = device.streaming ∧
        StartsWith Layout.SystemStart.stalled left := by
    refine ends_act.mpr ((writeStart_gives takes _).bind fun _ _ middle given => ?_)
    refine (writeStart_gives given.1 _).bind fun _ _ left given => ?_
    exact ⟨rfl, given.2⟩
  have reports := @keeps_interruptEnable Bench Bool Bench.host Elsewhere
    (fun shown _ left => shown = device.streaming ∧ StartsWith Layout.SystemStart.stalled left)
    (fun shown _ _ => shown = device.streaming ∧ False) Device.streaming unpaged_streaming
    (fun shown => ((undisturbed_start _).known _).carries) interruptEnable_elsewhere
    (Layout.Interrupt.sensorPorts ||| Layout.Interrupt.fifoWrite)
  refine sends.bind fun _ after middle given => (reports after middle given).mono ?_
  intro outcome final left kept
  cases outcome with
  | done _ => exact ⟨kept.1, kept.2, by simp⟩
  | failed error => exact ⟨kept.1, kept.2, by simp⟩
  | aborted => exact kept.2.elim

theorem stall_yields (device : Device) (bench : Bench) (idle : device.Idle) :
    stall.Yields Bench.host device bench fun _ after left =>
      after.Idle ∧ StartsWith Layout.SystemStart.stalled left := by
  by_cases refuses : RefusesStart bench
  · exact (stall_fails refuses).yields
  · refine (stall_ends refuses).yields ?_
    intro _ after left ended
    exact ⟨ended.1.trans idle, ended.2.1⟩

/-- The words that the start register may hold, by the flag and by whether a stop was cut short. -/
def startWord (streaming cutShort : Bool) : UInt32 :=
  if streaming && !cutShort then Layout.SystemStart.running else Layout.SystemStart.stalled

/-- The start register agrees with the flag, or the flag stands after a stop that was cut short. -/
structure Truthful (cutShort : Bool) (device : Device) (bench : Bench) : Prop where
  starts : StartsWith (startWord device.streaming cutShort) bench
  cut : cutShort = true → device.streaming = true

theorem Truthful.of_starts (starts : StartsWith (startWord device.streaming false) bench) :
    Truthful false device bench :=
  ⟨starts, fun cut => absurd cut Bool.false_ne_true⟩

theorem peek?_of_startWord {cutShort : Bool} (truthful : Truthful cutShort device bench) :
    bench.chip.peek? Layout.systemStart = some (startWord device.streaming cutShort) := by
  have short : ∀ streaming cutShort : Bool,
      (startWord streaming cutShort).toUInt16.toUInt32 = startWord streaming cutShort := by decide
  rw [peek?_of_startsWith truthful.starts, short]

/-- Whether a stop is cut short after an action: one that failed although the chip took the stall,
with no stop since then that succeeded. -/
def cutShortAfter (cutShort takesStall : Bool) : Action → Outcome Unit → Bool
  | .setStream false, .failed _ => cutShort || takesStall
  | .setStream false, .done _ => false
  | _, _ => cutShort

theorem configure_ends (starts : StartsWith word bench) :
    configure.Ends Bench.host device bench fun outcome after left =>
      after.streaming = device.streaming ∧ StartsWith word left ∧ outcome ≠ .aborted := by
  have kept := @keeps_configure Bench Bool Bench.host Elsewhere
    (fun shown _ left => shown = device.streaming ∧ StartsWith word left)
    (fun shown _ _ => shown = device.streaming ∧ False) Device.streaming unpaged_streaming
    (fun shown => ((undisturbed_start _).known _).carries) control_elsewhere configured_elsewhere
  refine (kept device bench ⟨rfl, starts⟩).mono ?_
  intro outcome after left ended
  cases outcome with
  | done _ => exact ⟨ended.1, ended.2, by simp⟩
  | failed error => exact ⟨ended.1, ended.2, by simp⟩
  | aborted => exact ended.2.elim

theorem start_ends (starts : StartsWith Layout.SystemStart.stalled bench) :
    (do
      configure
      unstall : Operation Bench Unit).Ends Bench.host device bench fun outcome after left =>
      after.streaming = device.streaming ∧
        ((outcome = .done () ∧ StartsWith Layout.SystemStart.running left) ∨
          ((∃ error, outcome = .failed error) ∧ StartsWith Layout.SystemStart.stalled left)) := by
  refine (configure_ends starts).bind ?_ ?_ ?_
  · intro _ middle between ended
    obtain ⟨same, starts, -⟩ := ended
    by_cases refuses : RefusesStart between
    · refine Ends.mono (unstall_fails refuses) ?_
      intro outcome after left failed
      refine ⟨failed.2.1.trans same, .inr ⟨failed.1, ?_⟩⟩
      unfold StartsWith
      rw [failed.2.2]
      exact starts
    · refine (unstall_gives refuses).ends.mono ?_
      intro outcome after left given
      obtain ⟨_, rfl, streaming, running⟩ := given
      exact ⟨streaming.trans same, .inl ⟨rfl, running⟩⟩
  · intro error after left ended
    exact ⟨ended.1, .inr ⟨⟨error, rfl⟩, ended.2.1⟩⟩
  · intro after left ended
    exact absurd rfl ended.2.2

theorem cutShortAfter_switched {cutShort takesStall enable : Bool}
    (truthful : Truthful cutShort device bench) (differs : device.streaming ≠ enable) :
    cutShortAfter cutShort takesStall (.setStream enable) (.done ()) = false := by
  cases enable with
  | false => rfl
  | true =>
      cases cutShort with
      | false => rfl
      | true => exact absurd (truthful.cut rfl) differs

/-- The switch itself, before the flag is set. -/
def Switched (cutShort : Bool) (bench : Bench) (enable : Bool) :
    Outcome Unit → Device → Bench → Prop
  | .done _ => fun _ left => StartsWith (startWord enable false) left
  | .failed error =>
      Truthful (cutShortAfter cutShort (!decide (RefusesStart bench)) (.setStream enable)
        (.failed error))
  | .aborted => fun _ _ => False

theorem switch_ends {cutShort enable : Bool} (truthful : Truthful cutShort device bench)
    (differs : device.streaming ≠ enable) :
    (if enable then (do
      configure
      unstall : Operation Bench Unit) else stall).Ends Bench.host device bench
      (Switched cutShort bench enable) := by
  have starts := truthful.starts
  cases enable with
  | true =>
      have idle : device.streaming = false := by simpa using differs
      have whole : cutShort = false := @cutShortAfter_switched _ _ _ false true truthful differs
      rw [idle, whole] at starts
      rw [if_pos rfl]
      refine (start_ends starts).mono ?_
      intro outcome after left ended
      obtain ⟨same, ⟨rfl, running⟩ | ⟨⟨error, rfl⟩, stalled⟩⟩ := ended
      · exact running
      · refine ⟨?_, fun cutAfter => ?_⟩
        · rw [same, idle]
          exact stalled
        · exact absurd (whole.symm.trans cutAfter) Bool.false_ne_true
  | false =>
      have busy : device.streaming = true := by simpa using differs
      rw [if_neg Bool.false_ne_true]
      by_cases refuses : RefusesStart bench
      · refine Ends.mono (stall_fails refuses) ?_
        intro outcome after left failed
        obtain ⟨⟨error, rfl⟩, same, unchanged⟩ := failed
        have still : cutShortAfter cutShort (!decide (RefusesStart bench)) (.setStream false)
            (.failed error) = cutShort := by
          simp [cutShortAfter, refuses]
        refine ⟨?_, fun _ => same.trans busy⟩
        rw [still, same]
        unfold StartsWith
        rw [unchanged]
        exact starts
      · refine (stall_ends refuses).mono ?_
        intro outcome after left ended
        obtain ⟨same, stalled, answered⟩ := ended
        cases outcome with
        | done _ => exact stalled
        | failed error =>
            have cutNow : cutShortAfter cutShort (!decide (RefusesStart bench)) (.setStream false)
                (.failed error) = true := by
              simp [cutShortAfter, refuses]
            refine ⟨?_, fun _ => same.trans busy⟩
            rw [cutNow, same, busy]
            exact stalled
        | aborted => exact absurd rfl answered

theorem setStream_ends {cutShort : Bool} (truthful : Truthful cutShort device bench)
    (enable : Bool) :
    (setStream enable).Ends Bench.host device bench fun outcome after left =>
      Truthful (cutShortAfter cutShort (!decide (RefusesStart bench)) (.setStream enable) outcome)
          after left ∧
        (outcome = .done () → after.streaming = enable) := by
  refine ends_bind.mpr (ends_state.mpr ?_)
  simp only [followed]
  split
  · next same =>
      refine ends_done.mpr ⟨?_, fun _ => same⟩
      cases enable with
      | true => exact truthful
      | false =>
          have starts := truthful.starts
          refine .of_starts ?_
          rw [same] at starts ⊢
          exact starts
  · next differs =>
      refine ends_bind.mpr (ends_onError.mpr ((switch_ends truthful differs).mono ?_))
      intro outcome after left switched
      cases outcome with
      | done _ =>
          have whole := @cutShortAfter_switched _ _ _ (!decide (RefusesStart bench)) _ truthful
            differs
          have kept : Truthful (cutShortAfter cutShort (!decide (RefusesStart bench))
              (.setStream enable) (.done ())) { after with streaming := enable } left := by
            rw [whole]
            exact .of_starts switched
          exact ⟨⟨kept.starts, kept.cut⟩, fun _ => rfl⟩
      | failed error =>
          refine ⟨⟨switched.starts, switched.cut⟩, fun done => ?_⟩
          cases done
      | aborted => exact switched.elim

theorem perform_ends {cutShort : Bool} (truthful : Truthful cutShort device bench) (action : Action)
    (allowed : ∀ register value, action ≠ .writeRegister register value) :
    action.perform.Ends Bench.host device bench fun outcome after left =>
      Truthful (cutShortAfter cutShort (!decide (RefusesStart bench)) action outcome) after left := by
  by_cases steady : ∀ enable, action ≠ .setStream enable
  · have sends : action.Sends Elsewhere := by
      cases action with
      | setStream enable => exact absurd rfl (steady enable)
      | writeRegister register value => exact absurd rfl (allowed register value)
      | setControl id requested => exact control_elsewhere id
      | status => exact latches_elsewhere
      | lanes port => exact latches_elsewhere
      | tryFormat pad requested => trivial
      | setFormat pad requested => trivial
      | control id => trivial
      | readRegister register => trivial
      | readSensor port register => trivial
      | writeSensor port register value => trivial
      | setProbe value => trivial
      | readProbe => trivial
      | writeProbe value => trivial
      | console => trivial
    have kept := @Action.keeps_perform Bench Bool Bench.host Elsewhere
      (fun shown _ left => (cutShort = true → shown = true) ∧
        StartsWith (startWord shown cutShort) left)
      (fun shown _ left => (cutShort = true → shown = true) ∧
        StartsWith (startWord shown cutShort) left)
      Device.streaming action (hidden_streaming steady)
      (fun _ => ((undisturbed_start _).known _).carries)
      (fun _ => (harmless_start _).known _) (fun _ _ _ holds => holds) sends
    refine (kept device bench ⟨truthful.cut, truthful.starts⟩).mono ?_
    intro outcome after left ended
    have unchanged : cutShortAfter cutShort (!decide (RefusesStart bench)) action outcome =
        cutShort := by
      cases action with
      | setStream enable => exact absurd rfl (steady enable)
      | _ => rfl
    rw [unchanged]
    cases outcome with
    | done _ => exact ⟨ended.2, ended.1⟩
    | failed error => exact ⟨ended.2, ended.1⟩
    | aborted => exact ⟨ended.2, ended.1⟩
  · cases action with
    | setStream enable =>
        exact (setStream_ends truthful enable).mono fun _ _ _ ended => ended.1
    | _ => exact absurd (fun _ => by simp) steady

/-- Something that happens while a device is attached: it is asked for something, or the faults of
the chip change. -/
inductive Turn where
  | act (action : Action)
  | faults (faults : ChipFaults)

/-- A device on its bench, and whether a stop of it was cut short. -/
structure Course where
  device : Device
  bench : Bench
  cutShort : Bool

namespace Course

def take (course : Course) : Turn → Course
  | .act action =>
      match action.perform Bench.host course.device course.bench with
      | (outcome, device, bench) =>
          { device, bench
            cutShort := cutShortAfter course.cutShort (!decide (RefusesStart course.bench)) action
              outcome }
  | .faults faults =>
      { course with bench := { course.bench with chip := { course.bench.chip with faults } } }

/-- The turns in order, whatever comes of each of them. -/
def takeAll : List Turn → Course → Course
  | [], course => course
  | turn :: rest, course => takeAll rest (course.take turn)

theorem takeAll_keeps {holds : Course → Prop} {turns : List Turn} {course : Course}
    (step : ∀ turn ∈ turns, ∀ course, holds course → holds (course.take turn))
    (start : holds course) : holds (takeAll turns course) := by
  induction turns generalizing course with
  | nil => exact start
  | cons turn rest ih =>
      obtain ⟨first, others⟩ := List.forall_mem_cons.mp step
      exact ih others (first course start)

end Course

theorem take_truthful {course : Course}
    (truthful : Truthful course.cutShort course.device course.bench) (turn : Turn)
    (allowed : ∀ register value, turn ≠ .act (.writeRegister register value)) :
    Truthful (course.take turn).cutShort (course.take turn).device (course.take turn).bench := by
  cases turn with
  | act action =>
      have plain : ∀ register value, action ≠ .writeRegister register value :=
        fun register value same => allowed register value (congrArg Turn.act same)
      exact perform_ends truthful action plain
  | faults faults => exact ⟨⟨truthful.starts.awake, truthful.starts.loaded⟩, truthful.cut⟩

theorem takeAll_truthful (turns : List Turn) {course : Course}
    (truthful : Truthful course.cutShort course.device course.bench)
    (allowed : ∀ register value, .act (.writeRegister register value) ∉ turns) :
    Truthful (Course.takeAll turns course).cutShort (Course.takeAll turns course).device
      (Course.takeAll turns course).bench := by
  refine @Course.takeAll_keeps
    (fun course => Truthful course.cutShort course.device course.bench) _ _ ?_ truthful
  intro turn member course truthful
  exact take_truthful truthful turn fun register value same => allowed register value (same ▸ member)

/-- From an attach on, through anything asked of the device but a plain register write, and through
any faults of the chip: while the flag is down the chip is stalled, and while it is up the chip runs,
unless a stop was cut short, which leaves the chip stalled under a flag that is up. Short of that,
the chip runs after every request to stream that succeeds. -/
theorem flag_agrees_with_chip {S : Type} (wiring : Wiring) (config : BoardConfig) (state : S)
    (bench : Bench) :
    (attach wiring config).Yields Bench.host state bench fun device _ left => ∀ turns,
      (∀ register value, .act (.writeRegister register value) ∉ turns) →
        match Course.takeAll turns ⟨device, left, false⟩ with
        | ⟨device, bench, cutShort⟩ =>
            bench.chip.peek? Layout.systemStart =
              some (if device.streaming && !cutShort then Layout.SystemStart.running
                else Layout.SystemStart.stalled) ∧
              (cutShort = true → device.streaming = true) ∧
              (cutShort = false → (setStream true).Yields Bench.host device bench fun _ after left =>
                after.streaming = true ∧
                  left.chip.peek? Layout.systemStart = some Layout.SystemStart.running) := by
  have attached := @yields_attach Bench S Bench.host (StartsWith Layout.SystemStart.stalled) state
    bench stall_yields (fun _ _ starts => starts) wiring config
  refine Ends.yields attached ?_
  intro device _ left ended turns allowed
  obtain ⟨idle, stalled⟩ := ended
  have start : Truthful false device left := by
    refine .of_starts ?_
    rw [idle]
    exact stalled
  have truthful := @takeAll_truthful turns ⟨device, left, false⟩ start allowed
  generalize Course.takeAll turns ⟨device, left, false⟩ = course at truthful ⊢
  obtain ⟨device, bench, cutShort⟩ := course
  refine ⟨?_, truthful.cut, fun whole => ?_⟩
  · exact peek?_of_startWord truthful
  · refine (setStream_ends truthful true).yields ?_
    intro _ after left ended
    obtain ⟨truthful, switched⟩ := ended
    have shown := peek?_of_startWord truthful
    rw [switched rfl] at shown
    refine ⟨switched rfl, shown.trans ?_⟩
    have still : cutShortAfter cutShort (!decide (RefusesStart bench)) (.setStream true)
        (.done ()) = false := whole
    rw [still]
    rfl

/-- A board with one sensor. -/
def oneSensor : BoardConfig :=
  ⟨some "onnn,ar0144", [0], 4⟩

/-- A bench whose store has one small file under every name. -/
def stockedBench : Bench :=
  { Bench.fresh with files := fun _ => .ok (FirmwareImage.synthetic 1 2) }

/-- A start, then a stop that fails because the sensor ports cannot be told to report. -/
def failedStop : List Turn :=
  [.act (.setStream true), .faults { writes := [Layout.interruptEnable.busOffset] },
    .act (.setStream false), .faults {}]

/-- What shows after an attach and some turns: the flag, whether a stop was cut short, and the start
register. -/
def shownAfter (turns : List Turn) : Outcome Device × Unit × Bench →
    Option (Bool × Bool × Option UInt32)
  | (.done device, _, left) =>
      match Course.takeAll turns ⟨device, left, false⟩ with
      | ⟨device, bench, cutShort⟩ =>
          some (device.streaming, cutShort, bench.chip.peek? Layout.systemStart)
  | _ => none

/-- The flag alone does not tell whether the chip runs, not even after a request to stream that
succeeds: after a failed stop it does nothing, and the chip stays stalled. -/
theorem flag_alone_disagrees :
    ¬ ∀ (wiring : Wiring) (config : BoardConfig) (bench : Bench) (turns : List Turn),
      (∀ register value, .act (.writeRegister register value) ∉ turns) →
        (attach wiring config).Yields Bench.host () bench fun device _ left =>
          match Course.takeAll turns ⟨device, left, false⟩ with
          | ⟨device, bench, _⟩ =>
              bench.chip.peek? Layout.systemStart =
                some (if device.streaming then Layout.SystemStart.running
                  else Layout.SystemStart.stalled) := by
  intro agrees
  have held := agrees ⟨true, true⟩ oneSensor stockedBench (failedStop ++ [.act (.setStream true)])
    (by simp [failedStop])
  have shown : shownAfter (failedStop ++ [.act (.setStream true)])
      (attach ⟨true, true⟩ oneSensor Bench.host () stockedBench) =
        some (true, true, some Layout.SystemStart.stalled) := by
    decide +kernel
  unfold Routine.Yields Routine.Ends at held
  generalize attach ⟨true, true⟩ oneSensor Bench.host () stockedBench = run at held shown
  obtain ⟨outcome, _, left⟩ := run
  cases outcome with
  | done device =>
      simp only [shownAfter, Option.some.injEq, Prod.mk.injEq] at shown
      obtain ⟨streaming, -, stalled⟩ := shown
      simp only [followed] at held
      rw [streaming, stalled] at held
      exact absurd held (by decide)
  | failed error => cases shown
  | aborted => cases shown

/-- A second stop makes up for one that was cut short; the chip runs again after the next start. -/
theorem flag_agrees_after_second_stop :
    (attach ⟨true, true⟩ oneSensor).Gives Bench.host () stockedBench fun device _ left =>
      (∀ register value, .act (.writeRegister register value) ∉
        failedStop ++ [.act (.setStream false), .act (.setStream true)]) ∧
        match Course.takeAll (failedStop ++ [.act (.setStream false), .act (.setStream true)])
          ⟨device, left, false⟩ with
        | ⟨device, bench, cutShort⟩ =>
            device.streaming = true ∧ cutShort = false ∧
              bench.chip.peek? Layout.systemStart = some Layout.SystemStart.running ∧
              (setStream true).Yields Bench.host device bench fun _ after left =>
                after.streaming = true ∧
                  left.chip.peek? Layout.systemStart = some Layout.SystemStart.running := by
  have plain : ∀ register value, .act (.writeRegister register value) ∉
      failedStop ++ [.act (.setStream false), .act (.setStream true)] := by
    simp [failedStop]
  have agrees := flag_agrees_with_chip ⟨true, true⟩ oneSensor () stockedBench
  have shown : shownAfter (failedStop ++ [.act (.setStream false), .act (.setStream true)])
      (attach ⟨true, true⟩ oneSensor Bench.host () stockedBench) =
        some (true, false, some Layout.SystemStart.running) := by
    decide +kernel
  unfold Routine.Gives
  unfold Routine.Yields Routine.Ends at agrees
  unfold Routine.Ends
  generalize attach ⟨true, true⟩ oneSensor Bench.host () stockedBench = run at agrees shown ⊢
  obtain ⟨outcome, _, left⟩ := run
  cases outcome with
  | done device =>
      simp only [followed] at agrees ⊢
      refine ⟨plain, ?_⟩
      have held := agrees _ plain
      simp only [shownAfter, Option.some.injEq, Prod.mk.injEq] at shown
      generalize Course.takeAll _ ⟨device, left, false⟩ = course at held shown ⊢
      obtain ⟨device, bench, cutShort⟩ := course
      obtain ⟨streaming, whole, -⟩ := shown
      obtain ⟨register, -, runs⟩ := held
      rw [streaming, whole] at register
      exact ⟨streaming, whole, register, runs whole⟩
  | failed error => cases shown
  | aborted => cases shown

end IspDriver.Device
