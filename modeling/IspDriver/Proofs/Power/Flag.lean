import IspDriver.Proofs.Power.Failure

/-!
What the flag of the processor tells about its power, over any course of power-ups and power-downs
on any host that answers. A processor whose flag is down has nothing on. One whose flag is up has
everything on, unless it was powered up again while it was on and this failed after it had begun to
enable: what was enabled is then off, and the flag is still up, until the next call that settles the
power.
-/

namespace IspDriver

open Routine

inductive PowerCall where
  | up
  | down
deriving DecidableEq, Repr

/-- What came of a call. -/
structure PowerTurn where
  call : PowerCall
  /-- Whether the flag was up before the call. -/
  wasOn : Bool
  outcome : Outcome Unit
  /-- What the call exchanged. -/
  log : List Exchange

namespace PowerTurn

/-- Everything is on after it, or everything is off. -/
def Settles (turn : PowerTurn) : Prop :=
  turn.call = .down ∨ turn.outcome = .done ()

/-- A power-up of what was on that failed, though not before it had switched something. -/
structure Breaks (turn : PowerTurn) : Prop where
  up : turn.call = .up
  wasOn : turn.wasOn = true
  failed : ∃ error, turn.outcome = .failed error
  switched : switchesIn turn.log ≠ []

/-- A call broke the power, and none has settled it since. -/
def Broken (history : List PowerTurn) : Prop :=
  ∃ front turn back, history = front ++ turn :: back ∧ turn.Breaks ∧ ∀ later ∈ back, ¬ later.Settles

variable {history : List PowerTurn} {turn : PowerTurn}

theorem not_broken_nil : ¬ Broken [] := by
  rintro ⟨front, turn, back, split, -⟩
  simp at split

theorem broken_concat :
    Broken (history ++ [turn]) ↔ turn.Breaks ∨ (Broken history ∧ ¬ turn.Settles) := by
  constructor
  · rintro ⟨front, first, back, split, breaks, unsettled⟩
    rcases List.eq_nil_or_concat back with rfl | ⟨back, last, rfl⟩
    · obtain ⟨rfl, same⟩ := List.append_inj' split rfl
      cases same
      exact .inl breaks
    · rw [List.concat_eq_append] at split unsettled
      have regrouped : history ++ [turn] = (front ++ first :: back) ++ [last] := by simp [split]
      obtain ⟨rfl, same⟩ := List.append_inj' regrouped rfl
      cases same
      refine .inr ⟨⟨front, first, back, rfl, breaks, fun later member => ?_⟩, ?_⟩
      · exact unsettled later (List.mem_append_left _ member)
      · exact unsettled turn (by simp)
  · rintro (breaks | ⟨⟨front, first, back, rfl, breaks, unsettled⟩, unsettling⟩)
    · exact ⟨history, turn, [], rfl, breaks, by simp⟩
    · refine ⟨front, first, back ++ [turn], by simp, breaks, fun later member => ?_⟩
      rcases List.mem_append.mp member with early | late
      · exact unsettled later early
      · rwa [List.mem_singleton.mp late]

end PowerTurn

namespace IspPower

variable {σ : Type} {host : Host σ}

def make : PowerCall → Routine σ IspPower Unit
  | .up => powerOn
  | .down => powerOff

/-- How far a course of calls has come. -/
structure Course (σ : Type) where
  history : List PowerTurn
  power : IspPower
  world : σ × List Exchange

namespace Course

/-- The switches of supplies and clock so far. -/
def switches (course : Course σ) : List Switch :=
  switchesIn course.world.2

def take (host : Host σ) (course : Course σ) (call : PowerCall) : Course σ :=
  let (outcome, power, world) := make call host.recording course.power course.world
  let turn := ⟨call, course.power.isOn, outcome, world.2.drop course.world.2.length⟩
  { history := course.history ++ [turn], power, world }

def takeAll (host : Host σ) (course : Course σ) (calls : List PowerCall) : Course σ :=
  calls.foldl (take host) course

end Course

/-- The clock and all supplies are on. -/
def AllOn (switches : List Switch) : Prop :=
  ∀ resource ∈ resources, resource.IsOn switches

def AllOff (switches : List Switch) : Prop :=
  ∀ resource ∈ resources, ¬ resource.IsOn switches

/-- What is known of the power from its flag and from the calls that were made. -/
structure Course.Told (course : Course σ) : Prop where
  off : course.power.isOn = false → AllOff course.switches
  on : course.power.isOn = true → ¬ PowerTurn.Broken course.history → AllOn course.switches
  broken : PowerTurn.Broken course.history →
    course.power.isOn = true ∧ ¬ AllOn course.switches

variable {switches : List Switch} {turned : List Resource} {resource : Resource}

theorem isOn_turnedOff (member : resource ∈ turned) :
    ¬ resource.IsOn (switches ++ turned.map Resource.turnedOff) := by
  have off : resource.levels (turned.map Resource.turnedOff) =
      List.replicate (turned.count resource) false := Resource.levels_turned false
  have some : turned.count resource ≠ 0 := by simpa [List.count_eq_zero] using member
  simp [Resource.IsOn, Resource.levels_append, off, List.getLast?_append, List.getLast?_replicate,
    some]

theorem not_allOn_of_allOff (off : AllOff switches) : ¬ AllOn switches :=
  fun on => off .clock (List.mem_cons_self ..) (on .clock (List.mem_cons_self ..))

theorem mem_taken_iff {standby : Bool} :
    resource ∈ PowerStep.taken (powerUpSteps standby) ↔ resource ∈ resources := by
  rw [taken_powerUpSteps, resources, ← resource_rails, List.mem_append, List.mem_singleton,
    List.mem_cons, List.map_reverse, List.mem_reverse, or_comm]

variable {power : IspPower} {world : σ × List Exchange}

theorem powerOff_ends (answers : Answers host) :
    powerOff.Ends host.recording power world fun outcome after left =>
      outcome = .done () ∧ after.isOn = false ∧ AllOff (switchesIn left.2) := by
  have lowers : powerOff.Yields host.recording power world fun _ after _ => after.isOn = false := by
    refine yields_last fun _ _ _ => yields_last fun _ _ _ => yields_last fun _ _ _ => ?_
    refine yields_last fun power _ _ => ?_
    cases power.hasStandby with
    | false => exact yields_last fun _ _ _ => rfl
    | true =>
        refine yields_last fun _ _ _ => yields_last fun _ _ _ => yields_last fun _ _ _ => ?_
        exact yields_last fun _ _ _ => yields_last fun _ _ _ => rfl
  have appends := @appends_powerOff σ host True answers power world trivial
  refine (appends.and_yields lowers).ends.mono ?_
  rintro outcome after left ⟨_, rfl, ⟨-, switched⟩, down⟩
  refine ⟨rfl, down, fun resource member => ?_⟩
  rw [switched]
  exact isOn_turnedOff member

/-- A power-up raises the flag and leaves everything on, or it fails and leaves the flag. Then it
turned off all that it had turned on, and nothing else. -/
theorem powerOn_switches (answers : Answers host) :
    powerOn.Ends host.recording power world fun outcome after left =>
      (outcome = .done () ∧ after.isOn = true ∧ AllOn (switchesIn left.2)) ∨
        ((∃ error, outcome = .failed error) ∧ after = power ∧
          ∃ gone, (∀ resource ∈ gone, resource ∈ resources) ∧
            (gone = [] ↔ switchesIn (left.2.drop world.2.length) = []) ∧
            ∀ resource : Resource, resource.IsOn (switchesIn left.2) ↔
              resource ∉ gone ∧ resource.IsOn (switchesIn world.2)) := by
  refine (powerOn_ends answers world).mono ?_
  rintro outcome after left ⟨same, log, logged, transacts⟩
  cases outcome with
  | done _ =>
      rw [if_pos rfl] at same
      subst same
      refine .inl ⟨rfl, rfl, fun resource member => ?_⟩
      rw [logged, switchesIn_append, transacts.switches_of_done]
      exact Resource.isOn_turnedOn (mem_taken_iff.mpr member)
  | failed error =>
      rw [if_neg (by rintro ⟨⟩)] at same
      obtain ⟨gone, early, switched⟩ := transacts.switches_of_failed
      refine .inr ⟨⟨error, rfl⟩, same, gone, fun resource member => ?_, ?_, fun resource => ?_⟩
      · exact mem_taken_iff.mp (early.subset member)
      · rw [logged, List.drop_left, switched]
        simp
      · rw [logged, switchesIn_append, switched, Resource.isOn_turnedBack]
  | aborted => cases transacts

namespace Course

variable {course : Course σ} {call : PowerCall}

theorem take_of_ends {post : Outcome Unit → IspPower → σ × List Exchange → Prop}
    (run : (make call).Ends host.recording course.power course.world post) :
    ∃ outcome after left, post outcome after left ∧ course.take host call =
      { history := course.history ++
          [⟨call, course.power.isOn, outcome, left.2.drop course.world.2.length⟩]
        power := after
        world := left } :=
  ⟨_, _, _, run, rfl⟩

theorem told_of_off (down : course.power.isOn = false) (off : AllOff course.switches)
    (sound : ¬ PowerTurn.Broken course.history) : course.Told :=
  ⟨fun _ => off, fun up => by simp [down] at up, fun broken => absurd broken sound⟩

theorem told_take_down (answers : Answers host) (course : Course σ) :
    (course.take host .down).Told := by
  obtain ⟨outcome, after, left, ⟨-, down, off⟩, taken⟩ :=
    @take_of_ends σ host course .down _ (powerOff_ends answers)
  rw [taken]
  refine told_of_off down off fun broken => ?_
  rcases PowerTurn.broken_concat.mp broken with breaks | ⟨-, unsettled⟩
  · cases breaks.up
  · exact unsettled (.inl rfl)

theorem Told.take_up (answers : Answers host) (told : course.Told) :
    (course.take host .up).Told := by
  obtain ⟨outcome, after, left,
    ⟨rfl, up, on⟩ | ⟨⟨error, rfl⟩, rfl, gone, among, unswitched, left_iff⟩, taken⟩ :=
    @take_of_ends σ host course .up _ (powerOn_switches answers)
  · rw [taken]
    refine ⟨fun down => by simp [up] at down, fun _ _ => on, fun broken => ?_⟩
    rcases PowerTurn.broken_concat.mp broken with breaks | ⟨-, unsettled⟩
    · obtain ⟨error, failed⟩ := breaks.failed
      cases failed
    · exact absurd (.inr rfl) unsettled
  · rw [taken]
    constructor
    · intro down resource member on
      exact told.off down resource member ((left_iff resource).mp on).2
    · intro up sound resource member
      have kept : gone = [] := by
        by_contra some
        exact sound (PowerTurn.broken_concat.mpr (.inl ⟨rfl, up, ⟨error, rfl⟩,
          fun none => some (unswitched.mpr none)⟩))
      have before : ¬ PowerTurn.Broken course.history := fun broken =>
        sound (PowerTurn.broken_concat.mpr (.inr ⟨broken, by simp [PowerTurn.Settles]⟩))
      refine (left_iff resource).mpr ⟨by simp [kept], told.on up before resource member⟩
    · intro broken
      rcases PowerTurn.broken_concat.mp broken with breaks | ⟨broken, -⟩
      · have some : gone ≠ [] := fun none => breaks.switched (unswitched.mp none)
        obtain ⟨resource, rest, rfl⟩ := List.exists_cons_of_ne_nil some
        refine ⟨breaks.wasOn, fun on => ?_⟩
        have here := on resource (among resource (List.mem_cons_self ..))
        exact ((left_iff resource).mp here).1 (List.mem_cons_self ..)
      · obtain ⟨up, dim⟩ := told.broken broken
        refine ⟨up, fun on => dim fun resource member => ?_⟩
        exact ((left_iff resource).mp (on resource member)).2

theorem Told.take (answers : Answers host) (told : course.Told) (call : PowerCall) :
    (course.take host call).Told := by
  cases call with
  | up => exact told.take_up answers
  | down => exact told_take_down answers course

theorem Told.takeAll (answers : Answers host) (told : course.Told) (calls : List PowerCall) :
    (course.takeAll host calls).Told := by
  induction calls generalizing course with
  | nil => exact told
  | cons call rest ih => exact ih (told.take answers call)

end Course

/-- After any calls the flag is up exactly if everything is on, unless the power is broken: then it
is up, and not everything is on. While the flag is down everything is off. A power-up that fails
next leaves the flag as it is, and everything off if the flag is down. -/
theorem flag_tells_power (answers : Answers host) (power : IspPower) (world : σ × List Exchange)
    (down : power.isOn = false) (off : AllOff (switchesIn world.2)) (calls : List PowerCall) :
    let course := Course.takeAll host ⟨[], power, world⟩ calls
    ((course.power.isOn = true ↔ AllOn course.switches) ↔ ¬ PowerTurn.Broken course.history) ∧
      (PowerTurn.Broken course.history → course.power.isOn = true) ∧
      (course.power.isOn = false → AllOff course.switches) ∧
      powerOn.Ends host.recording course.power course.world fun outcome after left =>
        ∀ error, outcome = .failed error → after.isOn = course.power.isOn ∧
          (course.power.isOn = false → AllOff (switchesIn left.2)) := by
  intro course
  have start : Course.Told ⟨[], power, world⟩ :=
    Course.told_of_off down off PowerTurn.not_broken_nil
  have told : course.Told := start.takeAll answers calls
  refine ⟨⟨fun agrees broken => ?_, fun sound => ?_⟩, fun broken => (told.broken broken).1,
    told.off, ?_⟩
  · obtain ⟨up, dim⟩ := told.broken broken
    exact dim (agrees.mp up)
  · refine ⟨fun up => told.on up sound, fun on => ?_⟩
    by_contra lowered
    exact not_allOn_of_allOff (told.off (by simpa using lowered)) on
  · refine (powerOn_switches answers).mono ?_
    rintro outcome after left ended error failed
    rcases ended with ⟨done, -⟩ | ⟨-, rfl, gone, -, -, left_iff⟩
    · cases done.symm.trans failed
    · refine ⟨rfl, fun low resource member on => ?_⟩
      exact told.off low resource member ((left_iff resource).mp on).2

/-- A host that grants everything but a second start of the clock. -/
def startsOnce : Host Nat where
  answer
    | .enableClock => fun starts =>
        (some (if starts = 0 then .ok () else .error (.device (.reported "no clock"))), starts + 1)
    | request => fun starts => (((hostWithout "" "").answer request ()).1, starts)
  note _ starts := starts

theorem answers_startsOnce : Answers startsOnce := by
  intro request starts
  cases request <;> rfl

/-- A processor that was powered up twice, on that host. -/
def poweredTwice : Course Nat :=
  Course.takeAll startsOnce ⟨[], ⟨true, false⟩, 0, claimed⟩ [.up, .up]

theorem up_poweredTwice : poweredTwice.power.isOn = true := by
  decide +kernel

theorem not_allOn_poweredTwice : ¬ AllOn poweredTwice.switches := by
  intro on
  have first : Resource.supply consumer "DVDD" ∈ resources := by decide
  have last : ((Resource.supply consumer "DVDD").levels poweredTwice.switches).getLast? =
      some false := by
    decide +kernel
  cases (on _ first).symm.trans last

theorem poweredTwice_broken :
    Answers startsOnce ∧ AllOff (switchesIn claimed) ∧ PowerTurn.Broken poweredTwice.history := by
  have told := flag_tells_power answers_startsOnce ⟨true, false⟩ (0, claimed) rfl off_claimed.dark
    [.up, .up]
  refine ⟨answers_startsOnce, off_claimed.dark, ?_⟩
  by_contra sound
  exact not_allOn_poweredTwice ((told.1.mpr sound).mp up_poweredTwice)

/-- The flag can be up while the supplies are off. -/
theorem flag_outlives_power :
    ¬ ∀ host : Host Nat, Answers host → ∀ (power : IspPower) (past : List Exchange),
      power.isOn = false → AllOff (switchesIn past) → ∀ calls,
        let course := Course.takeAll host ⟨[], power, 0, past⟩ calls
        (course.power.isOn = true ↔ AllOn course.switches) := by
  intro tells
  have agrees := tells startsOnce answers_startsOnce ⟨true, false⟩ claimed rfl off_claimed.dark
    [.up, .up]
  exact not_allOn_poweredTwice (agrees.mp up_poweredTwice)

end IspPower

end IspDriver
