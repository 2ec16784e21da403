import IspDriver.Proofs.Power.Schedule

/-!
Power-ups as transactions, on any host that answers. The steps are made in order. After the first
that is refused, everything taken until then is given back, the last first, and nothing else is
asked for. What parts of a power-up owe each other on an error adds up when they are put together.
-/

namespace IspDriver

open Routine

/-- A step of a power-up. -/
inductive PowerStep where
  /-- Switches a resource on, which is to be given back if a later step is refused. -/
  | take (resource : Resource)
  | move (line : Line) (active : Bool)
  | pause (microseconds : UInt32)
deriving DecidableEq, Repr

namespace PowerStep

def request : PowerStep → Request
  | take resource => resource.enabling
  | move line active => .setLine line active
  | pause microseconds => .wait microseconds

def resource? : PowerStep → Option Resource
  | take resource => some resource
  | _ => none

/-- Where the step moves a line. -/
def level? (line : Line) : PowerStep → Option Bool
  | move other active => if other = line then some active else none
  | _ => none

/-- A pause is never refused. -/
def mayFail : PowerStep → Bool
  | pause _ => false
  | _ => true

/-- What the steps take, in order. -/
def taken (steps : List PowerStep) : List Resource :=
  steps.filterMap resource?

variable {resource : Resource} {line : Line} {active : Bool} {microseconds : UInt32}
  {rest : List PowerStep}

@[simp] theorem taken_nil : taken [] = [] :=
  rfl

@[simp] theorem taken_take : taken (take resource :: rest) = resource :: taken rest :=
  rfl

@[simp] theorem taken_move : taken (move line active :: rest) = taken rest :=
  rfl

@[simp] theorem taken_pause : taken (pause microseconds :: rest) = taken rest :=
  rfl

@[simp] theorem taken_append (first second : List PowerStep) :
    taken (first ++ second) = taken first ++ taken second :=
  List.filterMap_append

end PowerStep

open PowerStep

/-- The steps were made in order, and all of them were granted. -/
structure Made (steps : List PowerStep) (log : List Exchange) : Prop where
  inOrder : log.map (·.request) = steps.map PowerStep.request
  granted : Granted log

/-- What comes of giving resources back, in order. -/
def GivesBack (resources : List Resource) (log : List Exchange) (outcome : Outcome Unit) : Prop :=
  log.map (·.request) = resources.map Resource.disabling ∧ outcome = .done ()

/-- What comes of steps that are made in order, up to the first that is refused. What they took is
given back then, the last first, and after it what was `owed` from before. -/
inductive Transacts (steps : List PowerStep) (owed : List Resource) :
    List Exchange → Outcome Unit → Prop
  | whole {log : List Exchange} (made : Made steps log) : Transacts steps owed log (.done ())
  | revoked {front rest : List PowerStep} {step : PowerStep} {up down : List Exchange}
      {last : Exchange} {error : Error} (split : steps = front ++ step :: rest)
      (made : Made front up) (asked : last.request = step.request)
      (refused : last.verdict = .failed error)
      (returned : down.map (·.request) = ((taken front).reverse ++ owed).map Resource.disabling) :
      Transacts steps owed (up ++ last :: down) (.failed error)

variable {first second steps : List PowerStep} {step : PowerStep} {log more : List Exchange}
  {exchange : Exchange} {error : Error} {owed : List Resource}

/-- A step that is granted switches its resource on, and moves its line. -/
theorem PowerStep.effect_of_granted (asked : exchange.request = step.request)
    (granted : exchange.verdict = .done ()) :
    exchange.switch? = step.resource?.map Resource.turnedOn ∧
      ∀ line, exchange.moved? line = step.level? line := by
  obtain ⟨request, reply⟩ := exchange
  cases asked
  cases step with
  | take resource =>
      cases resource <;> rcases reply with _ | _ | _ <;> cases granted <;>
        exact ⟨rfl, fun _ => rfl⟩
  | move other active =>
      rcases reply with _ | _ | _ <;> cases granted
      exact ⟨rfl, fun _ => rfl⟩
  | pause microseconds => exact ⟨rfl, fun _ => rfl⟩

/-- A step that is refused is no pause, and changes nothing. -/
theorem PowerStep.effect_of_refused (asked : exchange.request = step.request)
    (refused : exchange.verdict = .failed error) :
    step.mayFail = true ∧ exchange.switch? = none ∧ ∀ line, exchange.moved? line = none := by
  obtain ⟨request, reply⟩ := exchange
  cases asked
  cases step with
  | take resource =>
      cases resource <;> rcases reply with _ | _ | _ <;> cases refused <;>
        exact ⟨rfl, rfl, fun _ => rfl⟩
  | move other active =>
      rcases reply with _ | _ | _ <;> cases refused
      exact ⟨rfl, rfl, fun _ => rfl⟩
  | pause microseconds => cases reply <;> cases refused

theorem Resource.effect_of_disabling {resource : Resource}
    (asked : exchange.request = resource.disabling) :
    exchange.switch? = some resource.turnedOff ∧ ∀ line, exchange.moved? line = none := by
  obtain ⟨request, reply⟩ := exchange
  cases asked
  exact ⟨switch?_disabling reply, fun line => moved?_disabling line reply⟩

theorem Made.nil : Made [] [] :=
  ⟨rfl, by simp [Granted]⟩

theorem Made.append (front : Made first log) (back : Made second more) :
    Made (first ++ second) (log ++ more) :=
  ⟨by simp [front.inOrder, back.inOrder], granted_append.mpr ⟨front.granted, back.granted⟩⟩

theorem Made.of_one (asked : exchange.request = step.request)
    (granted : exchange.verdict = .done ()) : Made [step] [exchange] :=
  ⟨by simp [asked], by simpa [Granted] using granted⟩

/-- What each granted exchange shows can be read off the steps. -/
theorem Made.filterMap_eq {α : Type} {shown : Exchange → Option α} {planned : PowerStep → Option α}
    (made : Made steps log) (same : ∀ exchange step, exchange.request = step.request →
      exchange.verdict = .done () → shown exchange = planned step) :
    log.filterMap shown = steps.filterMap planned := by
  obtain ⟨inOrder, granted⟩ := made
  induction steps generalizing log with
  | nil => simp_all
  | cons step rest ih =>
      obtain ⟨exchange, log, rfl, asked, others⟩ := List.map_eq_cons_iff.mp inOrder
      obtain ⟨first, granted⟩ := List.forall_mem_cons.mp granted
      simp only [List.filterMap_cons, same exchange step asked first, ih others granted]

theorem Made.switches (made : Made steps log) :
    switchesIn log = (taken steps).map Resource.turnedOn := by
  rw [switchesIn, made.filterMap_eq fun _ _ asked granted =>
    (effect_of_granted asked granted).1, taken, List.map_filterMap]

theorem Made.moves (made : Made steps log) (line : Line) :
    log.filterMap (Exchange.moved? line) = steps.filterMap (PowerStep.level? line) :=
  made.filterMap_eq fun _ _ asked granted => (effect_of_granted asked granted).2 line

theorem switches_of_returned {resources : List Resource}
    (returned : log.map (·.request) = resources.map Resource.disabling) :
    switchesIn log = resources.map Resource.turnedOff := by
  induction resources generalizing log with
  | nil => simp_all [switchesIn]
  | cons resource rest ih =>
      obtain ⟨exchange, log, rfl, asked, others⟩ := List.map_eq_cons_iff.mp returned
      have switched := (Resource.effect_of_disabling asked).1
      have switches := ih others
      rw [switchesIn] at switches ⊢
      simp only [List.filterMap_cons, switched, switches, List.map_cons]

theorem moves_of_returned {resources : List Resource}
    (returned : log.map (·.request) = resources.map Resource.disabling) (line : Line) :
    log.filterMap (Exchange.moved? line) = [] := by
  rw [List.filterMap_eq_nil_iff]
  intro exchange member
  have among : exchange.request ∈ resources.map Resource.disabling :=
    returned ▸ List.mem_map_of_mem member
  obtain ⟨resource, -, asked⟩ := List.mem_map.mp among
  exact (Resource.effect_of_disabling asked.symm).2 line

theorem Line.level?_append {line : Line} (past more : List Exchange) :
    line.level? (past ++ more) = (line.level? more).or (line.level? past) := by
  simp [level?, List.getLast?_append]

variable {front : List PowerStep} {up down : List Exchange} {last : Exchange}
  {returning : List Resource}

theorem switches_of_revoked (made : Made front up) (asked : last.request = step.request)
    (refused : last.verdict = .failed error)
    (returned : down.map (·.request) = returning.map Resource.disabling) :
    switchesIn (up ++ last :: down) =
      (taken front).map Resource.turnedOn ++ returning.map Resource.turnedOff := by
  have idle := (effect_of_refused asked refused).2.1
  rw [switchesIn_append, made.switches, ← switches_of_returned returned]
  simp [switchesIn, idle]

/-- The lines stay where the steps before the refused one moved them. -/
theorem level?_of_revoked (made : Made front up) (asked : last.request = step.request)
    (refused : last.verdict = .failed error)
    (returned : down.map (·.request) = returning.map Resource.disabling) (line : Line) :
    line.level? (up ++ last :: down) = (front.filterMap (PowerStep.level? line)).getLast? := by
  have still := (effect_of_refused asked refused).2.2
  simp [Line.level?, still, made.moves, moves_of_returned returned]

/-- Apart from what is given back, only one request can have been refused. -/
theorem eq_last_of_refused (made : Made front up)
    (returned : down.map (·.request) = returning.map Resource.disabling)
    (member : exchange ∈ up ++ last :: down) (refused : exchange.verdict = .failed error) :
    exchange = last ∨ ∃ resource : Resource, exchange.request = resource.disabling := by
  rcases List.mem_append.mp member with early | late
  · cases (made.granted exchange early).symm.trans refused
  · rcases List.mem_cons.mp late with same | back
    · exact .inl same
    · have among : exchange.request ∈ returning.map Resource.disabling :=
        returned ▸ List.mem_map_of_mem back
      obtain ⟨resource, -, asked⟩ := List.mem_map.mp among
      exact .inr ⟨resource, asked.symm⟩

namespace Transacts

/-- Steps that were made stay so, and what they took is owed by the ones after them. -/
theorem append {outcome : Outcome Unit} (front : Made first log)
    (back : Transacts second ((taken first).reverse ++ owed) more outcome) :
    Transacts (first ++ second) owed (log ++ more) outcome := by
  cases back with
  | whole made => exact .whole (front.append made)
  | @revoked fewer rest step up down last error split made asked refused returned =>
      have whole : first ++ second = (first ++ fewer) ++ step :: rest := by simp [split]
      rw [← List.append_assoc]
      refine .revoked whole (front.append made) asked refused ?_
      simpa using returned

theorem made (transacts : Transacts steps owed log (.done ())) : Made steps log := by
  cases transacts with
  | whole made => exact made

/-- Steps that were refused stay so, whatever was to come after them. -/
theorem stopped (transacts : Transacts first owed log (.failed error)) :
    Transacts (first ++ second) owed log (.failed error) := by
  cases transacts with
  | @revoked front rest step _ _ _ _ split made asked refused returned =>
      have whole : first ++ second = front ++ step :: (rest ++ second) := by simp [split]
      exact .revoked whole made asked refused returned

theorem switches_of_done (transacts : Transacts steps owed log (.done ())) :
    switchesIn log = (taken steps).map Resource.turnedOn :=
  transacts.made.switches

/-- What was taken before a step was refused went off in the reverse order. -/
theorem switches_of_failed (transacts : Transacts steps [] log (.failed error)) :
    ∃ gone, gone <+: taken steps ∧
      switchesIn log = gone.map Resource.turnedOn ++ gone.reverse.map Resource.turnedOff := by
  cases transacts with
  | @revoked front rest step up down last _ split made asked refused returned =>
      rw [List.append_nil] at returned
      exact ⟨taken front, by simp [split], switches_of_revoked made asked refused returned⟩

theorem grown (transacts : Transacts steps [] log (.failed error))
    (returned : more.map (·.request) = owed.map Resource.disabling) :
    Transacts steps owed (log ++ more) (.failed error) := by
  cases transacts with
  | revoked split made asked refused before =>
      rw [List.append_assoc, List.cons_append]
      refine .revoked split made asked refused ?_
      simpa [returned] using before

end Transacts

variable {σ S : Type} {host : Host σ} {fact : S → Prop} {resources : List Resource}

theorem Traces.transact_bind {routine : Routine (σ × List Exchange) S Unit}
    {next : Unit → Routine (σ × List Exchange) S Unit}
    (front : Traces host fact fact (Transacts first owed) routine)
    (back : ∀ value,
      Traces host fact fact (Transacts second ((taken first).reverse ++ owed)) (next value)) :
    Traces host fact fact (Transacts (first ++ second) owed) (routine >>= next) := by
  refine front.bind (fun value _ => back value) (fun _ => id)
    (fun _ _ _ _ front back => .append front.made back) ?_
  intro log outcome other same stops front
  rw [Outcome.verdict_unit, Outcome.verdict_unit] at same
  subst same
  cases front with
  | whole made => exact absurd rfl stops
  | revoked split made asked refused returned =>
      exact Transacts.stopped (.revoked split made asked refused returned)

/-- What is owed after an error is given back by the cleanup. -/
theorem Traces.transact_onError {routine : Routine (σ × List Exchange) S Unit}
    {cleanup : Error → Routine (σ × List Exchange) S Unit}
    (traces : Traces host fact fact (Transacts steps []) routine)
    (cleaned : ∀ error, Traces host fact fact (GivesBack owed) (cleanup error)) :
    Traces host fact fact (Transacts steps owed) (routine.onError cleanup) := by
  intro state world holds
  refine ends_onError.mpr ((traces state world holds).mono ?_)
  intro outcome final left ended
  obtain ⟨fact, log, logged, transacts⟩ := ended
  cases outcome with
  | done value => exact ⟨fact, log, logged, .whole transacts.made⟩
  | failed error =>
      refine (cleaned error final left fact).mono ?_
      intro outcome final left ended
      obtain ⟨fact, more, same, returned, rfl⟩ := ended
      exact ⟨fact, log ++ more, by simp [same, logged], transacts.grown returned⟩
  | aborted => cases transacts

/-- Requests that are made in any case are all made by a host that answers. -/
theorem Traces.gives_back {routine : Routine (σ × List Exchange) S Unit} {more : List Switch}
    (insists : Traces host fact fact (Insists (resources.map Resource.disabling)) routine)
    (appends : Appends host fact more routine) :
    Traces host fact fact (GivesBack resources) routine := by
  intro state world holds
  refine ((insists state world holds).and (appends state world holds)).mono ?_
  intro outcome final left ended
  obtain ⟨⟨fact, log, logged, insists⟩, answered⟩ := ended
  cases outcome with
  | done value => exact ⟨fact, log, logged, insists.whole rfl, rfl⟩
  | failed error => exact answered.elim
  | aborted => exact answered.elim

theorem Silent.gives_back {routine : Routine (σ × List Exchange) S Unit}
    (silent : Silent host fact fact routine) : Traces host fact fact (GivesBack []) routine := by
  refine silent.mono (fun _ => id) (fun _ => id) ?_
  intro log outcome ended
  obtain ⟨rfl, done⟩ := ended
  exact ⟨rfl, by simpa using done⟩

theorem Silent.transacts {routine : Routine (σ × List Exchange) S Unit}
    (silent : Silent host fact fact routine) :
    Traces host fact fact (Transacts [] owed) routine := by
  refine silent.mono (fun _ => id) (fun _ => id) ?_
  intro log outcome ended
  obtain ⟨rfl, done⟩ := ended
  rw [Outcome.verdict_unit] at done
  subst done
  exact .whole .nil

theorem transacts_step (answers : Answers host) {step : PowerStep} {request : Request}
    {result : Reply request → Except Error Unit} (asked : request = step.request)
    (same : ∀ reply, request.verdict reply = result reply) :
    Traces host fact fact (Transacts [step] []) (do ofExcept (result (← ask request))) := by
  intro state world holds
  refine (ask_gives answers request).bind fun reply after left exchanged => ?_
  obtain ⟨rfl, past⟩ := exchanged
  have verdict : Exchange.verdict ⟨request, some reply⟩ = .ofReply (some (result reply)) := by
    rw [← same reply]
    rfl
  cases found : result reply with
  | ok _ =>
      rw [found] at verdict
      exact ⟨holds, _, past, .whole (.of_one asked verdict)⟩
  | error error =>
      rw [found] at verdict
      exact ⟨holds, _, past, .revoked rfl .nil asked verdict rfl⟩

theorem transacts_pause (answers : Answers host) (microseconds : UInt32) :
    Traces host fact fact (Transacts [.pause microseconds] owed) (Host.wait microseconds) := by
  intro state world holds
  refine Ends.mono (ask_gives answers (.wait microseconds)) ?_
  intro outcome after left ended
  cases outcome with
  | done reply =>
      obtain ⟨rfl, past⟩ := ended
      exact ⟨holds, _, past, .whole (.of_one rfl rfl)⟩
  | failed error => exact ended.elim
  | aborted => exact ended.elim

end IspDriver
