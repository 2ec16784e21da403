import IspDriver.Proofs.Power.Transaction

/-!
The supplies of the sensors are enabled all of them or none. Sensor after sensor and supply after
supply they are one list; after the first that refuses, those enabled until then are disabled from
the last to the first, over the ends of the sensors, and no other supply is touched.
-/

namespace IspDriver

open Routine PowerStep

variable {σ S : Type} {host : Host σ} {fact : S → Prop}

namespace Rail

variable {rails : List Rail} {log : List Exchange} {outcome : Outcome Unit}

/-- Each supply is taken, and settles before the next one. -/
def steps (rails : List Rail) : List PowerStep :=
  rails.flatMap fun rail => [.take rail.resource, .pause rail.settleMicroseconds]

@[simp] theorem steps_cons (rail : Rail) (rest : List Rail) :
    steps (rail :: rest) = .take rail.resource :: .pause rail.settleMicroseconds :: steps rest :=
  rfl

@[simp] theorem taken_steps (rails : List Rail) : taken (steps rails) = rails.map resource := by
  induction rails with
  | nil => rfl
  | cons rail rest ih => simp [ih]

@[simp] theorem request_steps (rails : List Rail) :
    (steps rails).map PowerStep.request = enableRequests rails := by
  simp [steps, enableRequests, PowerStep.request, List.map_flatMap]

theorem disabling_resources (rails : List Rail) :
    (rails.map resource).map Resource.disabling = disableRequests rails :=
  List.map_map

theorem gives_back_disableEach (answers : Answers host) (who : String) (rails : List Rail) :
    Traces host fact fact (GivesBack (rails.map resource)) (disableEach who rails) := by
  refine Traces.gives_back ?_ (appends_disableEach answers who rails)
  rw [disabling_resources]
  exact traces_disableEach rails

theorem transacts_enableAfter (answers : Answers host) (who : String) (complaint : Rail → String)
    (enabled rails : List Rail) :
    Traces host fact fact (Transacts (steps rails) (enabled.map resource))
      (enableAfter who complaint enabled rails) := by
  induction rails generalizing enabled with
  | nil => exact silent_done.transacts
  | cons rail rest ih =>
      have enabling : Traces host fact fact (Transacts [.take rail.resource] [])
          (Host.enableSupply rail.consumer rail.name) :=
        transacts_step answers rfl fun reply => by cases reply <;> rfl
      change Traces host fact fact (Transacts ([.take rail.resource] ++
        ([.pause rail.settleMicroseconds] ++ steps rest)) (enabled.map resource)) _
      refine Traces.transact_bind (enabling.transact_onError fun error => ?_) fun _ => ?_
      · exact silent_note.bind fun _ => gives_back_disableEach answers who enabled
      · exact (transacts_pause answers _).transact_bind fun _ => ih (rail :: enabled)

theorem transacts_enableAll (answers : Answers host) (who : String) (complaint : Rail → String)
    (rails : List Rail) :
    Traces host fact fact (Transacts (steps rails) []) (enableAll who complaint rails) :=
  transacts_enableAfter answers who complaint [] rails

/-- What comes of supplies that are enabled in order: all of them, or those before the first that
refuses, which are then disabled from the last to the first. -/
inductive AllOrNothing (rails : List Rail) : List Exchange → Outcome Unit → Prop
  | all {log : List Exchange} (inOrder : log.map (·.request) = enableRequests rails)
      (granted : Granted log) : AllOrNothing rails log (.done ())
  | nothing {front rest : List Rail} {rail : Rail} {up down : List Exchange} {error : Error}
      (split : rails = front ++ rail :: rest) (inOrder : up.map (·.request) = enableRequests front)
      (granted : Granted up) (reversed : down.map (·.request) = disableRequests front.reverse) :
      AllOrNothing rails
        (up ++ ⟨.enableSupply rail.consumer rail.name, some (.error error)⟩ :: down) (.failed error)

/-- A step among those of supplies that can be refused stands for one of them. -/
theorem split_steps {front rest : List PowerStep} {step : PowerStep}
    (split : steps rails = front ++ step :: rest) (fallible : step.mayFail = true) :
    ∃ before rail after, rails = before ++ rail :: after ∧ front = steps before ∧
      step = .take rail.resource := by
  induction rails generalizing front with
  | nil => simp [steps] at split
  | cons rail others ih =>
      -- Each supply makes two steps, of which only the first can be refused.
      match front with
      | [] =>
          cases split
          exact ⟨[], rail, others, rfl, rfl, rfl⟩
      | [_] =>
          cases split
          cases fallible
      | _ :: _ :: front =>
          simp only [steps_cons, List.cons_append, List.cons.injEq] at split
          obtain ⟨rfl, rfl, split⟩ := split
          obtain ⟨before, found, after, rfl, rfl, taken⟩ := ih split
          exact ⟨rail :: before, found, after, rfl, rfl, taken⟩

theorem allOrNothing_of_transacts (transacts : Transacts (steps rails) [] log outcome) :
    AllOrNothing rails log outcome := by
  cases transacts with
  | whole made => exact .all (by simpa using made.inOrder) made.granted
  | @revoked _ _ step up down last error split made asked refused returned =>
      have fallible := (effect_of_refused asked refused).1
      obtain ⟨before, rail, after, rfl, rfl, rfl⟩ := split_steps split fallible
      have same : last = ⟨.enableSupply rail.consumer rail.name, some (.error error)⟩ := by
        obtain ⟨request, reply⟩ := last
        cases asked
        rcases reply with _ | _ | _ <;> cases refused
        rfl
      subst same
      refine .nothing rfl (by simpa using made.inOrder) made.granted ?_
      rw [← disabling_resources, List.map_reverse]
      simpa using returned

/-- Where no enable was refused, all of them were made. -/
theorem AllOrNothing.done_of_enabled (ended : AllOrNothing rails log outcome)
    (enabled : ∀ exchange ∈ log, (∃ rail ∈ rails, exchange.request = rail.resource.enabling) →
      exchange.verdict = .done ()) : outcome = .done () := by
  cases ended with
  | all inOrder granted => rfl
  | @nothing front rest rail up down error split inOrder granted reversed =>
      have refused := enabled ⟨.enableSupply rail.consumer rail.name, some (.error error)⟩
        (by simp) ⟨rail, by simp [split], rfl⟩
      cases refused

end Rail

namespace SensorPower

theorem gives_back_powerOffEach (answers : Answers host) (sensors : List SensorPower) :
    Traces host fact fact (GivesBack (sensors.flatMap resources)) (powerOffEach sensors) := by
  refine Traces.gives_back ?_ (appends_powerOffEach answers sensors)
  have same : (sensors.flatMap resources).map Resource.disabling = disableRequests sensors := by
    simp only [disableRequests, resources, List.map_flatMap, Rail.disabling_resources]
  rw [same]
  exact traces_powerOffEach sensors

theorem transacts_powerOnAfter (answers : Answers host) (running sensors : List SensorPower) :
    Traces host fact fact
      (Transacts (Rail.steps (sensors.flatMap (·.rails))) (running.flatMap resources))
      (powerOnAfter running sensors) := by
  induction sensors generalizing running with
  | nil => exact silent_done.transacts
  | cons sensor rest ih =>
      have split : Rail.steps ((sensor :: rest).flatMap (·.rails)) =
          Rail.steps sensor.rails ++ Rail.steps (rest.flatMap (·.rails)) := by
        simp [Rail.steps]
      rw [split]
      have powered := @Rail.transacts_enableAll σ S host fact answers sensor.label
        (fun rail => s!"Failed to enable supply {rail.name} for sensor {sensor.label}") sensor.rails
      -- A sensor that fails has given its own supplies back; those of the others are owed.
      refine Traces.transact_bind (powered.transact_onError fun _ => ?_) fun _ => ?_
      · exact gives_back_powerOffEach answers running
      · simpa [resources] using ih (sensor :: running)

/-- Powering the sensors up enables their supplies one at a time, each with its own delay before the
next, or ends with the error of the first that refuses. Those that were enabled are disabled then,
each once and in exactly the reverse order, and the host is asked for nothing else. -/
theorem powerOnAll_all_or_nothing (answers : Answers host) (sensors : List SensorPower) (state : S)
    (world : σ × List Exchange) :
    (powerOnAll sensors).Ends host.recording state world fun outcome after left =>
      after = state ∧ ∃ log, left.2 = world.2 ++ log ∧
        Rail.AllOrNothing (sensors.flatMap (·.rails)) log outcome ∧
        ((∀ exchange ∈ log, (∃ sensor ∈ sensors, ∃ rail ∈ sensor.rails,
            exchange.request = rail.resource.enabling) → exchange.verdict = .done ()) →
          outcome = .done ()) ∧
        (outcome = .done () →
          ∀ sensor ∈ sensors, ∀ rail ∈ sensor.rails, rail.resource.IsOn (switchesIn left.2)) ∧
        ∀ error, outcome = .failed error →
          ∃ taken, taken <+: (sensors.flatMap (·.rails)).map Rail.resource ∧
            switchesIn log =
              taken.map Resource.turnedOn ++ taken.reverse.map Resource.turnedOff := by
  have traced := @transacts_powerOnAfter σ S host (· = state) answers [] sensors
  refine (traced state world rfl).mono ?_
  intro outcome after left ended
  obtain ⟨same, log, logged, transacts⟩ := ended
  have whole := Rail.allOrNothing_of_transacts transacts
  refine ⟨same, log, logged, whole, fun enabled => whole.done_of_enabled ?_, ?_, ?_⟩
  · rintro exchange member ⟨rail, among, asked⟩
    obtain ⟨sensor, present, mounted⟩ := List.mem_flatMap.mp among
    exact enabled exchange member ⟨sensor, present, rail, mounted, asked⟩
  · rintro rfl sensor present rail mounted
    have among : rail.resource ∈ (sensors.flatMap (·.rails)).map Rail.resource :=
      List.mem_map_of_mem (List.mem_flatMap.mpr ⟨sensor, present, mounted⟩)
    rw [logged, switchesIn_append, transacts.switches_of_done, Rail.taken_steps]
    exact Resource.isOn_turnedOn among
  · rintro error rfl
    simpa using transacts.switches_of_failed

end SensorPower

/-- A host that grants everything but one supply. -/
def hostWithout (consumer name : String) : Host Unit where
  answer
    | .read _ count => fun world => (some (.ok (Vector.replicate count 0)), world)
    | .write _ _ => fun world => (some (.ok ()), world)
    | .setLine _ _ => fun world => (some (.ok ()), world)
    | .findSupply _ _ => fun world => (some (.ok ()), world)
    | .enableSupply other supply => fun world =>
        (some (if other = consumer ∧ supply = name then .error (.device (.reported "no power"))
          else .ok ()), world)
    | .disableSupply _ _ => fun world => (some (.ok ()), world)
    | .enableClock => fun world => (some (.ok ()), world)
    | .disableClock => fun world => (some (), world)
    | .wait _ => fun world => (some (), world)
    | .fetch _ => fun world => (some (.ok []), world)
  note _ world := world

theorem answers_hostWithout (consumer name : String) : Answers (hostWithout consumer name) := by
  intro request world
  cases request <;> rfl

/-- Two sensors of a model. -/
def twoSensors : List SensorPower :=
  ["ar0144 0", "ar0144 1"].map fun label => ⟨label, SensorPower.railsOf label .ar0144⟩

/-- The second supply of the second sensor refuses, and the four enabled before it go off again. -/
theorem SensorPower.secondSensor_reversed :
    Answers (hostWithout "ar0144 1" "vddio") ∧
      (powerOnAll twoSensors).Fails (hostWithout "ar0144 1" "vddio").recording () ((), [])
        fun _ left => ∃ taken, taken <+: (twoSensors.flatMap (·.rails)).map Rail.resource ∧
          taken.length = 4 ∧
          switchesIn left.2 =
            taken.map Resource.turnedOn ++ taken.reverse.map Resource.turnedOff := by
  have answers := answers_hostWithout "ar0144 1" "vddio"
  have ended := powerOnAll_all_or_nothing answers twoSensors () ((), [])
  have failed : (powerOnAll twoSensors (hostWithout "ar0144 1" "vddio").recording () ((), [])).1 =
      .failed (.device (.reported "no power")) := by decide +kernel
  have count : (switchesIn (powerOnAll twoSensors (hostWithout "ar0144 1" "vddio").recording ()
      ((), [])).2.2.2).length = 8 := by decide +kernel
  refine ⟨answers, ⟨_, failed⟩, ?_⟩
  obtain ⟨-, log, logged, -, -, -, reversed⟩ := ended
  obtain ⟨taken, early, switches⟩ := reversed _ failed
  rw [logged, List.nil_append, switches] at count
  have twice : taken.length + taken.length = 8 := by simpa using count
  refine ⟨taken, early, by omega, ?_⟩
  rw [logged, List.nil_append, switches]

end IspDriver
