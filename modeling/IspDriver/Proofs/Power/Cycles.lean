import IspDriver.Power.Isp
import IspDriver.Power.Sensors
import IspDriver.Proofs.Routine
import IspDriver.Simulation.Bench

/-!
Power cycles of the processor, on a bench of which nothing fails but the chip. A power-up and a
power-down each add their events in one order, whatever the board wires, and move the reset of the
chip. The sensors have supplies of their own, so powering them adds nothing.
-/

namespace IspDriver

open Routine

namespace Simulation

/-- Belongs to the power of the processor: its reset line, its clock and its supplies. -/
def Event.isProcessors : Event → Bool
  | .line moved _ => moved == .reset
  | .clock _ => true
  | .supply consumer _ _ => consumer == IspPower.consumer
  | .wait _ => false

namespace Bench

/-- What happened to the power of the processor, the first event in front. -/
def powerEvents (bench : Bench) : List Event :=
  (bench.events.filter Event.isProcessors).reverse

/-- A bench without faults of its own that differs from the one before in its chip, and in power
events that were added. -/
structure Moved (change : Chip → Chip) (events : List Event) (before after : Bench) : Prop where
  plain : after.faults = {}
  files : after.files = before.files
  chip : after.chip = change before.chip
  happened : after.powerEvents = before.powerEvents ++ events

variable {bench before middle after : Bench} {change first second : Chip → Chip}
  {events more : List Event}

theorem powerEvents_happen (bench : Bench) (event : Event) :
    (bench.happen event).powerEvents = bench.powerEvents ++ [event].filter Event.isProcessors := by
  simp only [powerEvents, happen, List.filter_cons, List.filter_nil]
  split
  · exact List.reverse_cons
  · exact (List.append_nil _).symm

theorem moved_same (plain : bench.faults = {}) (notes : List Note) :
    Moved id [] bench { bench with notes } :=
  ⟨plain, rfl, rfl, (List.append_nil _).symm⟩

theorem moved_happen (plain : bench.faults = {}) (event : Event) :
    Moved id ([event].filter Event.isProcessors) bench (bench.happen event) :=
  ⟨plain, rfl, rfl, powerEvents_happen bench event⟩

theorem Moved.trans (front : Moved first events before middle)
    (back : Moved second more middle after) :
    Moved (fun chip => second (first chip)) (events ++ more) before after := by
  refine ⟨back.plain, back.files.trans front.files, ?_, ?_⟩
  · rw [back.chip, front.chip]
  · rw [back.happened, front.happened, List.append_assoc]

end Bench

/-- On a bench without faults of its own the routine succeeds, and moves it so. -/
def Moves {S α : Type} (change : Chip → Chip) (events : List Event)
    (routine : Routine Bench S α) : Prop :=
  ∀ state bench, bench.faults = {} → routine.Gives Bench.host state bench fun _ _ left =>
    bench.Moved change events left

variable {S T α β : Type} {change first second : Chip → Chip} {events more : List Event}

theorem Moves.congr {routine : Routine Bench S α} {other : Chip → Chip} {same : List Event}
    (moves : Moves change events routine) (changes : ∀ chip, change chip = other chip)
    (listed : events = same) : Moves other same routine := by
  intro state bench plain
  refine (moves state bench plain).mono fun _ _ left moved => ?_
  exact ⟨moved.plain, moved.files, moved.chip.trans (changes _), listed ▸ moved.happened⟩

theorem Moves.bind {routine : Routine Bench S α} {next : α → Routine Bench S β}
    (front : Moves first events routine) (back : ∀ value, Moves second more (next value)) :
    Moves (fun chip => second (first chip)) (events ++ more) (routine >>= next) := by
  intro state bench plain
  refine (front state bench plain).bind fun value after middle moved => ?_
  exact (back value after middle moved.plain).mono fun _ _ _ => moved.trans

theorem Moves.attempt {routine : Routine Bench S α} (moves : Moves change events routine) :
    Moves change events routine.attempt := by
  intro state bench plain
  refine (moves state bench plain).attempt.mono fun _ _ left given => ?_
  obtain ⟨_, _, moved⟩ := given
  exact moved

theorem Moves.onError {routine : Routine Bench S α} {cleanup : Error → Routine Bench S Unit}
    (moves : Moves change events routine) : Moves change events (routine.onError cleanup) :=
  fun state bench plain => (moves state bench plain).onError

theorem Moves.act {part : Part S T} {routine : Routine Bench T α}
    (moves : Moves change events routine) : Moves change events (part.act routine) :=
  fun state bench plain => (moves (part.get state) bench plain).act

theorem moves_done {value : α} : Moves id [] (done value : Routine Bench S α) :=
  fun _ bench plain => Bench.moved_same plain bench.notes

theorem moves_state : Moves id [] (Routine.state : Routine Bench S S) :=
  fun _ bench plain => Bench.moved_same plain bench.notes

theorem moves_modify {change : S → S} : Moves id [] (modify change : Routine Bench S Unit) :=
  fun _ bench plain => Bench.moved_same plain bench.notes

theorem moves_note {level : Level} {text : String} :
    Moves id [] (note level text : Routine Bench S Unit) :=
  fun _ _ plain => Bench.moved_same plain _

theorem moves_ask {request : Request} {result : Reply request → Except Error α}
    (granted : ∀ bench : Bench, bench.faults = {} → ∃ reply after,
      Bench.host.answer request bench = (some reply, after) ∧ bench.Moved change events after ∧
        ∃ value, result reply = .ok value) :
    Moves change events (do ofExcept (result (← ask request)) : Routine Bench S α) := by
  intro state bench plain
  obtain ⟨reply, after, answered, moved, value, accepted⟩ := granted bench plain
  refine ends_bind.mpr (ends_ask.mpr ?_)
  rw [answered]
  simp only [followed, accepted]
  exact moved

theorem moves_setLine {line : Line} {active : Bool} (other : line ≠ .reset) :
    Moves id [] (Host.setLine line active : Routine Bench S Unit) := by
  refine moves_ask fun bench plain => ⟨.ok (), bench.happen (.line line active), ?_, ?_, (), rfl⟩
  · obtain ⟨chip, events, notes, faults, files⟩ := bench
    cases plain
    simp only [Bench.host, Bench.setLine, Bench.spare?, Bench.happen, other, if_false]
  · have moved := Bench.moved_happen plain (.line line active)
    simpa only [List.filter, Event.isProcessors, beq_false_of_ne other] using moved

theorem moves_reset {active : Bool} :
    Moves (·.setReset active) [.line .reset active]
      (Host.setLine .reset active : Routine Bench S Unit) := by
  refine moves_ask fun bench plain => ⟨.ok (),
    { bench.happen (.line .reset active) with chip := bench.chip.setReset active }, ?_, ?_, (), rfl⟩
  · obtain ⟨chip, events, notes, faults, files⟩ := bench
    cases plain
    rfl
  · exact ⟨plain, rfl, rfl, bench.powerEvents_happen (.line .reset active)⟩

theorem moves_findSupply {consumer name : String} :
    Moves id [] (Host.findSupply consumer name : Routine Bench S Unit) := by
  refine moves_ask fun bench plain => ⟨.ok (), bench, ?_, Bench.moved_same plain _, (), rfl⟩
  simp only [Bench.host, Bench.findSupply, plain]
  rfl

theorem moves_enableSupply {consumer name : String} :
    Moves id ([Event.supply consumer name true].filter Event.isProcessors)
      (Host.enableSupply consumer name : Routine Bench S Unit) := by
  refine moves_ask fun bench plain => ⟨.ok (), _, ?_, Bench.moved_happen plain _, (), rfl⟩
  simp only [Bench.host, Bench.enableSupply, plain]
  rfl

theorem moves_disableSupply {consumer name : String} :
    Moves id ([Event.supply consumer name false].filter Event.isProcessors)
      (Host.disableSupply consumer name : Routine Bench S Unit) := by
  refine moves_ask fun bench plain => ⟨.ok (), _, ?_, Bench.moved_happen plain _, (), rfl⟩
  simp only [Bench.host, Bench.disableSupply, plain]
  rfl

theorem moves_enableClock :
    Moves id [.clock true] (Host.enableClock : Routine Bench S Unit) := by
  refine moves_ask fun bench plain =>
    ⟨.ok (), _, ?_, Bench.moved_happen plain (.clock true), (), rfl⟩
  simp only [Bench.host, Bench.enableClock, plain]
  rfl

theorem moves_disableClock :
    Moves id [.clock false] (Host.disableClock : Routine Bench S Unit) :=
  fun _ _ plain => Bench.moved_happen plain (.clock false)

theorem moves_wait {microseconds : UInt32} :
    Moves id [] (Host.wait microseconds : Routine Bench S Unit) :=
  fun _ _ plain => Bench.moved_happen plain (.wait microseconds)

end Simulation

open Simulation

namespace Rail

variable {S : Type}

/-- What switching the rails in this order adds to the power of the processor. -/
def events (enabled : Bool) (rails : List Rail) : List Event :=
  (rails.map fun rail => .supply rail.consumer rail.name enabled).filter Event.isProcessors

theorem events_cons (enabled : Bool) (rail : Rail) (rest : List Rail) :
    events enabled (rail :: rest) =
      [Event.supply rail.consumer rail.name enabled].filter Event.isProcessors ++
        events enabled rest := by
  rw [events, List.map_cons, ← List.singleton_append, List.filter_append]
  rfl

theorem events_of_others {enabled : Bool} {rails : List Rail}
    (others : ∀ rail ∈ rails, rail.consumer ≠ IspPower.consumer) : events enabled rails = [] := by
  refine List.filter_eq_nil_iff.mpr fun event member => ?_
  obtain ⟨rail, among, rfl⟩ := List.mem_map.mp member
  simpa [Event.isProcessors] using others rail among

theorem moves_disableEach (who : String) (rails : List Rail) :
    Moves id (events false rails) (disableEach who rails : Routine Bench S Unit) := by
  induction rails with
  | nil => exact moves_done
  | cons rail rest ih =>
      rw [events_cons]
      refine Moves.bind moves_disableSupply.attempt fun result => ?_
      cases result with
      | ok _ => exact moves_done.bind fun _ => ih
      | error error => exact moves_note.bind fun _ => ih

theorem moves_enableAfter (who : String) (complaint : Rail → String) (enabled rails : List Rail) :
    Moves id (events true rails)
      (enableAfter who complaint enabled rails : Routine Bench S Unit) := by
  induction rails generalizing enabled with
  | nil => exact moves_done
  | cons rail rest ih =>
      rw [events_cons]
      exact moves_enableSupply.onError.bind fun _ => moves_wait.bind fun _ => ih (rail :: enabled)

theorem moves_findAll (complaint : Rail → String) (rails : List Rail) :
    Moves id [] (findAll complaint rails : Routine Bench S Unit) := by
  induction rails with
  | nil => exact moves_done
  | cons rail rest ih => exact moves_findSupply.onError.bind fun _ => ih

end Rail

namespace IspPower

/-- What a power-up adds: the supplies, the clock, and the chip let out of reset. -/
def powerUp : List Event :=
  Rail.events true rails ++ [.clock true, .line .reset false]

/-- What a power-down adds: the chip put in reset, the clock, and the supplies. -/
def powerDown : List Event :=
  [.line .reset true, .clock false] ++ Rail.events false rails.reverse

/-- Power cycles, each from the first supply on to the last one off. -/
def cycles (count : Nat) : List Event :=
  (List.replicate count (powerUp ++ powerDown)).flatten

theorem cycles_succ (count : Nat) : cycles (count + 1) = powerUp ++ powerDown ++ cycles count := by
  rw [cycles, List.replicate_succ, List.flatten_cons]
  rfl

theorem moves_moveStandby (active : Bool) : Moves id [] (moveStandby active) := by
  refine moves_state.bind fun power => ?_
  split
  · exact (moves_setLine (by decide)).bind fun _ => moves_wait
  · exact moves_done

theorem moves_powerOn : Moves (·.setReset false) powerUp powerOn := by
  have released : Moves (·.setReset false) [.clock true, .line .reset false] release :=
    (moves_moveStandby false).bind fun _ => moves_enableClock.onError.bind fun _ =>
      moves_reset.onError.bind fun _ => moves_wait
  have supplied : ∀ complaint, Moves id (Rail.events true rails)
      (Rail.enableAll "ISP" complaint rails : Routine Bench IspPower Unit) :=
    fun complaint => Rail.moves_enableAfter "ISP" complaint [] rails
  exact moves_note.bind fun _ => (moves_moveStandby true).bind fun _ =>
    (supplied _).bind fun _ => released.onError.bind fun _ => moves_modify

theorem moves_tryLine {line : Line} {active : Bool} {complaint : String} {change : Chip → Chip}
    {events : List Event}
    (moves : Moves change events (Host.setLine line active : Routine Bench IspPower Unit)) :
    Moves change events (tryLine line active complaint) := by
  unfold tryLine
  refine (moves.attempt.bind fun result => (?_ : Moves id [] _)).congr (fun _ => rfl)
    (List.append_nil _)
  cases result with
  | ok _ => exact moves_done
  | error error => exact moves_note

theorem moves_powerOff : Moves (·.setReset true) powerDown powerOff := by
  have supplied : Moves id (Rail.events false rails.reverse)
      (Rail.disableAll "ISP" rails : Routine Bench IspPower Unit) :=
    Rail.moves_disableEach "ISP" rails.reverse
  have standby : ∀ active complaint, Moves id [] (tryLine .standby active complaint) :=
    fun _ _ => moves_tryLine (moves_setLine (by decide))
  refine moves_note.bind fun _ => (moves_tryLine moves_reset).bind
    (?_ : ∀ _ : Unit, Moves id (.clock false :: Rail.events false rails.reverse) _)
  refine fun _ => moves_disableClock.bind fun _ => moves_state.bind fun power => ?_
  -- A standby line, where it is wired, is moved around the supplies, which is no power event.
  cases power.hasStandby with
  | false => exact supplied.bind fun _ => moves_modify
  | true =>
      exact (standby _ _).bind fun _ => moves_wait.bind fun _ => supplied.bind fun _ =>
        moves_wait.bind fun _ => (standby _ _).bind fun _ => moves_modify

theorem moves_claim {S : Type} (hasStandby : Bool) :
    Moves (·.setReset true) [.line .reset true]
      (claim hasStandby : Routine Bench S IspPower) :=
  moves_reset.bind fun _ => (Rail.moves_findAll _ _).bind fun _ => moves_done

end IspPower

namespace SensorPower

variable {S : Type}

/-- None of the sensor's supplies is one of the processor's. -/
def IsApart (sensor : SensorPower) : Prop :=
  ∀ rail ∈ sensor.rails, rail.consumer ≠ IspPower.consumer

theorem moves_powerOn {sensor : SensorPower} (apart : sensor.IsApart) :
    Moves id [] (sensor.powerOn : Routine Bench S Unit) :=
  (Rail.moves_enableAfter _ _ _ _).congr (fun _ => rfl) (Rail.events_of_others apart)

theorem moves_powerOff {sensor : SensorPower} (apart : sensor.IsApart) :
    Moves id [] (sensor.powerOff : Routine Bench S Unit) := by
  refine (Rail.moves_disableEach _ _).congr (fun _ => rfl) (Rail.events_of_others ?_)
  exact fun rail member => apart rail (List.mem_reverse.mp member)

theorem moves_powerOffEach {sensors : List SensorPower} (apart : ∀ sensor ∈ sensors, sensor.IsApart) :
    Moves id [] (powerOffEach sensors : Routine Bench S Unit) := by
  induction sensors with
  | nil => exact moves_done
  | cons sensor rest ih =>
      obtain ⟨first, others⟩ := List.forall_mem_cons.mp apart
      exact (moves_powerOff first).bind fun _ => ih others

theorem moves_powerOnAfter {running sensors : List SensorPower}
    (apart : ∀ sensor ∈ sensors, sensor.IsApart) :
    Moves id [] (powerOnAfter running sensors : Routine Bench S Unit) := by
  induction sensors generalizing running with
  | nil => exact moves_done
  | cons sensor rest ih =>
      obtain ⟨first, others⟩ := List.forall_mem_cons.mp apart
      exact (moves_powerOn first).onError.bind fun _ => ih others

theorem moves_claim (label : String) (model : SensorModel) :
    Moves id [] (claim label model : Routine Bench S SensorPower) :=
  (Rail.moves_findAll _ _).bind fun _ => moves_done

end SensorPower

end IspDriver
