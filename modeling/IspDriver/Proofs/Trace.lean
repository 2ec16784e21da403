import IspDriver.Proofs.Register.Traffic

/-!
What routines leave in the record of everything exchanged with the host. `Leads` says from which
records to which a routine leads, and `Asks` which requests it adds on the way, so that what those
leave true is true at every moment in between.
-/

namespace IspDriver

open Routine

/-- The record showed this at every moment. -/
def Throughout (shown : List Exchange → Prop) (past : List Exchange) : Prop :=
  ∀ front, front <+: past → shown front

/-- What was added to the record is about requests of this kind. -/
def Grown (allowed : Request → Prop) (past later : List Exchange) : Prop :=
  ∃ more, later = past ++ more ∧ ∀ exchange ∈ more, allowed exchange.request

/-- A routine that starts with a record like `before` ends with one like `succeeded` or `failed`,
and keeps a fact about its state. -/
def Leads {σ S α : Type} (host : Host σ) (fact : S → Prop)
    (before succeeded failed : List Exchange → Prop)
    (routine : Routine (σ × List Exchange) S α) : Prop :=
  ∀ state world, fact state → before world.2 → routine.Ends host.recording state world fun
    | .done _ => fun after left => fact after ∧ succeeded left.2
    | .failed _ => fun after left => fact after ∧ failed left.2
    | .aborted => fun _ _ => False

/-- However it ends, a routine only makes requests of this kind. -/
def Asks {σ S α : Type} (host : Host σ) (allowed : Request → Prop)
    (routine : Routine (σ × List Exchange) S α) : Prop :=
  ∀ past, Keeps host.recording (fun _ world => Grown allowed past world.2)
    (fun _ world => Grown allowed past world.2) routine

variable {shown : List Exchange → Prop} {allowed : Request → Prop} {past later : List Exchange}
  {exchange : Exchange}

theorem Throughout.now (throughout : Throughout shown past) : shown past :=
  throughout past (List.prefix_refl past)

@[simp] theorem throughout_nil : Throughout shown [] ↔ shown [] := by
  simp [Throughout]

@[simp] theorem throughout_concat :
    Throughout shown (past ++ [exchange]) ↔ Throughout shown past ∧ shown (past ++ [exchange]) := by
  simp [Throughout, List.prefix_concat_iff, or_imp, forall_and, and_comm]

theorem grown_self : Grown allowed past past :=
  ⟨[], by simp⟩

theorem Grown.concat {request : Request} {reply : Option (Reply request)}
    (grown : Grown allowed past later) (asked : allowed request) :
    Grown allowed past (later ++ [⟨request, reply⟩]) := by
  obtain ⟨more, rfl, kinds⟩ := grown
  refine ⟨more ++ [⟨request, reply⟩], by simp, ?_⟩
  simpa [or_imp, forall_and] using And.intro kinds asked

/-- What every request of a kind leaves true stays true while nothing else is asked for. -/
theorem Grown.keeps (grown : Grown allowed past later)
    (step : ∀ past exchange, allowed exchange.request → shown past → shown (past ++ [exchange]))
    (holds : shown past) : shown later := by
  obtain ⟨more, rfl, kinds⟩ := grown
  induction more generalizing past with
  | nil => simpa using holds
  | cons exchange rest ih =>
      obtain ⟨first, others⟩ := List.forall_mem_cons.mp kinds
      have after := ih (step past exchange first holds) others
      rwa [List.append_assoc] at after

variable {σ S T α β : Type} {host : Host σ} {fact : S → Prop}
  {before middle succeeded failed : List Exchange → Prop}

theorem Leads.bind {routine : Routine (σ × List Exchange) S α}
    {next : α → Routine (σ × List Exchange) S β}
    (first : Leads host fact before middle failed routine)
    (second : ∀ value, Leads host fact middle succeeded failed (next value)) :
    Leads host fact before succeeded failed (routine >>= next) :=
  fun state world holds start => (first state world holds start).bind
    (fun value after left kept => second value after left kept.1 kept.2)
    (fun _ _ _ kept => kept) (fun _ _ never => never)

theorem Leads.attempt {routine : Routine (σ × List Exchange) S α}
    (leads : Leads host fact before middle middle routine) :
    Leads host fact before middle failed routine.attempt := by
  intro state world holds start
  refine ends_attempt.mpr ((leads state world holds start).mono ?_)
  intro outcome after left ended
  cases outcome with
  | done value => exact ended
  | failed error => exact ended
  | aborted => exact ended

theorem Leads.onError {routine : Routine (σ × List Exchange) S α}
    {cleanup : Error → Routine (σ × List Exchange) S Unit}
    (leads : Leads host fact before succeeded middle routine)
    (cleaned : ∀ error, Leads host fact middle failed failed (cleanup error)) :
    Leads host fact before succeeded failed (routine.onError cleanup) := by
  intro state world holds start
  refine ends_onError.mpr ((leads state world holds start).mono ?_)
  intro outcome after left ended
  cases outcome with
  | done value => exact ended
  | failed error =>
      refine (cleaned error after left ended.1 ended.2).mono ?_
      intro outcome after left ended
      cases outcome with
      | done value => exact ended
      | failed error => exact ended
      | aborted => exact ended
  | aborted => exact ended

theorem Leads.act {part : Part S T} {routine : Routine (σ × List Exchange) T α}
    (leads : ∀ known : Prop, Leads host (fun _ => known) before succeeded failed routine)
    (same : ∀ piece whole, fact (part.put piece whole) ↔ fact whole) :
    Leads host fact before succeeded failed (part.act routine) := by
  intro state world holds start
  refine ends_act.mpr ((leads (fact state) (part.get state) world holds start).mono ?_)
  intro outcome after left ended
  cases outcome with
  | done value => exact ⟨(same after state).mpr ended.1, ended.2⟩
  | failed error => exact ⟨(same after state).mpr ended.1, ended.2⟩
  | aborted => exact ended

theorem Leads.mono {routine : Routine (σ × List Exchange) S α}
    {earlier later gone : List Exchange → Prop}
    (leads : Leads host fact before succeeded failed routine)
    (start : ∀ past, earlier past → before past) (reached : ∀ past, succeeded past → later past)
    (missed : ∀ past, failed past → gone past) :
    Leads host fact earlier later gone routine := by
  intro state world holds started
  refine (leads state world holds (start world.2 started)).mono ?_
  intro outcome after left ended
  cases outcome with
  | done value => exact ⟨ended.1, reached left.2 ended.2⟩
  | failed error => exact ⟨ended.1, missed left.2 ended.2⟩
  | aborted => exact ended

theorem leads_of_keeps {routine : Routine (σ × List Exchange) S α}
    (keeps : Keeps host.recording (fun state world => fact state ∧ before world.2)
      (fun _ _ => False) routine) :
    Leads host fact before before before routine := by
  intro state world holds start
  refine (keeps state world ⟨holds, start⟩).mono ?_
  intro outcome after left ended
  cases outcome with
  | done value => exact ended
  | failed error => exact ended
  | aborted => exact ended

theorem leads_done {value : α} : Leads host fact before before failed (done value) :=
  fun _ _ holds start => ⟨holds, start⟩

theorem leads_fail {error : Error} :
    Leads host fact before succeeded before (fail error : Routine (σ × List Exchange) S α) :=
  fun _ _ holds start => ⟨holds, start⟩

theorem leads_note {level : Level} {text : String} :
    Leads host fact before before failed (note level text) :=
  fun _ _ holds start => ⟨holds, start⟩

theorem leads_state : Leads host fact before before failed (Routine.state : Routine _ S S) :=
  fun _ _ holds start => ⟨holds, start⟩

theorem leads_modify {change : S → S} (same : ∀ state, fact state → fact (change state)) :
    Leads host fact before before failed (modify change) :=
  fun state _ holds start => ⟨same state holds, start⟩

theorem Asks.bind {routine : Routine (σ × List Exchange) S α}
    {next : α → Routine (σ × List Exchange) S β} (first : Asks host allowed routine)
    (second : ∀ value, Asks host allowed (next value)) : Asks host allowed (routine >>= next) :=
  fun past => (first past).bind fun value => second value past

theorem Asks.attempt {routine : Routine (σ × List Exchange) S α}
    (asks : Asks host allowed routine) : Asks host allowed routine.attempt :=
  fun past => (asks past).attempt

theorem Asks.onError {routine : Routine (σ × List Exchange) S α}
    {cleanup : Error → Routine (σ × List Exchange) S Unit} (asks : Asks host allowed routine)
    (cleaned : ∀ error, Asks host allowed (cleanup error)) :
    Asks host allowed (routine.onError cleanup) :=
  fun past => (asks past).onError fun error => cleaned error past

theorem Asks.act {part : Part S T} {routine : Routine (σ × List Exchange) T α}
    (asks : Asks host allowed routine) : Asks host allowed (part.act routine) := by
  intro past state world grown
  refine ends_act.mpr ((asks past (part.get state) world grown).mono ?_)
  intro outcome after left ended
  cases outcome with
  | done value => exact ended
  | failed error => exact ended
  | aborted => exact ended

theorem Asks.startingFrom {initial : T} {routine : Routine (σ × List Exchange) T α}
    (asks : Asks host allowed routine) :
    Asks host allowed (startingFrom initial routine : Routine _ S (α × T)) := by
  intro past state world grown
  refine ends_startingFrom.mpr ((asks past initial world grown).mono ?_)
  intro outcome after left ended
  cases outcome with
  | done value => exact ended
  | failed error => exact ended
  | aborted => exact ended

theorem Asks.ends {routine : Routine (σ × List Exchange) S α} (asks : Asks host allowed routine)
    (state : S) (world : σ × List Exchange) :
    routine.Ends host.recording state world fun _ _ left => Grown allowed world.2 left.2 :=
  (asks world.2).ends grown_self

theorem asks_done {value : α} : Asks host allowed (done value : Routine _ S α) :=
  fun _ => keeps_done

theorem asks_fail {error : Error} : Asks host allowed (fail error : Routine _ S α) :=
  fun _ => keeps_fail

theorem asks_note {level : Level} {text : String} :
    Asks host allowed (note level text : Routine _ S Unit) :=
  fun _ _ _ grown => grown

theorem asks_state : Asks host allowed (Routine.state : Routine _ S S) :=
  fun _ => keeps_state

theorem asks_modify {change : S → S} : Asks host allowed (modify change) :=
  fun _ => keeps_modify fun _ _ => id

theorem asks_ofExcept {result : Except Error α} :
    Asks host allowed (ofExcept result : Routine _ S α) :=
  fun _ => keeps_ofExcept

theorem replied_grown {request : Request} {past : List Exchange} {world : σ × List Exchange}
    (asked : allowed request) (grown : Grown allowed past world.2) :
    Replied (fun world => Grown allowed past world.2) (fun world => Grown allowed past world.2)
      (host.recording.answer request world) := by
  cases found : host.answer request world.1 with
  | mk reply left =>
      simp only [Host.recording, found]
      cases reply with
      | none => exact grown.concat asked
      | some reply => exact grown.concat asked

theorem asks_ask {request : Request} (asked : allowed request) :
    Asks host allowed (ask request : Routine _ S (Reply request)) :=
  fun _ => keeps_ask fun _ _ grown => replied_grown asked grown

theorem asks_request {request : Request} {result : Reply request → Except Error α}
    (asked : allowed request) :
    Asks host allowed (do ofExcept (result (← ask request)) : Routine _ S α) :=
  (asks_ask asked).bind fun _ => asks_ofExcept

/-- Blocks are read and written, and time passes. -/
structure AllowsTraffic (allowed : Request → Prop) : Prop where
  read : ∀ offset count, allowed (.read offset count)
  write : ∀ offset data, allowed (.write offset data)
  wait : ∀ microseconds, allowed (.wait microseconds)

theorem undisturbed_grown (traffic : AllowsTraffic allowed) (past : List Exchange) :
    Undisturbed host.recording (fun _ _ => True) (fun world => Grown allowed past world.2)
      (fun world => Grown allowed past world.2) where
  read offset count _ grown := replied_grown (traffic.read offset count) grown
  write offset data _ _ grown := replied_grown (traffic.write offset data) grown
  wait microseconds _ grown := replied_grown (traffic.wait microseconds) grown
  noted _ _ grown := grown
  select _ := trivial

end IspDriver
