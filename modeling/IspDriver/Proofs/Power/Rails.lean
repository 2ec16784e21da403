import IspDriver.Power.Isp
import IspDriver.Power.Sensors
import IspDriver.Proofs.Power.Switches
import IspDriver.Proofs.Trace

/-!
What power routines switch, on any host that answers. A power-up that succeeds leaves its resources
on and one that fails leaves them off, and a power-down turns each of them off, once.
-/

namespace IspDriver

open Routine

/-- These resources are on, after all that was exchanged with the host. -/
def Lit {σ : Type} (live : List Resource) (world : σ × List Exchange) : Prop :=
  Live (switchesIn world.2) live

/-- Nothing that is asked of the host stays unanswered. -/
def Answers {σ : Type} (host : Host σ) : Prop :=
  ∀ request world, (host.answer request world).1.isSome = true

/-- A routine that starts with the resources `before` on ends with `succeeded` or `failed` on, and
keeps a fact about its state. -/
def Turns {σ S α : Type} (host : Host σ) (fact : S → Prop)
    (before succeeded failed : List Resource) (routine : Routine (σ × List Exchange) S α) : Prop :=
  ∀ state world, fact state → Lit before world → routine.Ends host.recording state world fun
    | .done _ => fun after left => fact after ∧ Lit succeeded left
    | .failed _ => fun after left => fact after ∧ Lit failed left
    | .aborted => fun _ _ => False

/-- A routine that always succeeds makes exactly these switches, and keeps a fact about its
state. -/
def Appends {σ S α : Type} (host : Host σ) (fact : S → Prop) (more : List Switch)
    (routine : Routine (σ × List Exchange) S α) : Prop :=
  ∀ state world, fact state → routine.Gives host.recording state world fun _ after left =>
    fact after ∧ switchesIn left.2 = switchesIn world.2 ++ more

variable {σ S T α β : Type} {host : Host σ} {fact : S → Prop}
  {before middle succeeded failed live : List Resource}

/-- The record leaves these resources on. -/
def Lights (live : List Resource) (past : List Exchange) : Prop :=
  Live (switchesIn past) live

theorem Turns.leads {routine : Routine (σ × List Exchange) S α}
    (turns : Turns host fact before succeeded failed routine) :
    Leads host fact (Lights before) (Lights succeeded) (Lights failed) routine :=
  turns

theorem Leads.turns {routine : Routine (σ × List Exchange) S α}
    (leads : Leads host fact (Lights before) (Lights succeeded) (Lights failed) routine) :
    Turns host fact before succeeded failed routine :=
  leads

theorem Turns.bind {routine : Routine (σ × List Exchange) S α}
    {next : α → Routine (σ × List Exchange) S β}
    (first : Turns host fact before middle failed routine)
    (second : ∀ value, Turns host fact middle succeeded failed (next value)) :
    Turns host fact before succeeded failed (routine >>= next) :=
  (first.leads.bind fun value => (second value).leads).turns

theorem Turns.attempt {routine : Routine (σ × List Exchange) S α}
    (turns : Turns host fact before middle middle routine) :
    Turns host fact before middle failed routine.attempt :=
  turns.leads.attempt.turns

theorem Turns.onError {routine : Routine (σ × List Exchange) S α}
    {cleanup : Error → Routine (σ × List Exchange) S Unit}
    (turns : Turns host fact before succeeded middle routine)
    (cleaned : ∀ error, Turns host fact middle failed failed (cleanup error)) :
    Turns host fact before succeeded failed (routine.onError cleanup) :=
  (turns.leads.onError fun error => (cleaned error).leads).turns

theorem Turns.act {part : Part S T} {routine : Routine (σ × List Exchange) T α}
    (turns : ∀ known : Prop, Turns host (fun _ => known) before succeeded failed routine)
    (same : ∀ piece whole, fact (part.put piece whole) ↔ fact whole) :
    Turns host fact before succeeded failed (part.act routine) :=
  (Leads.act (fun known => (turns known).leads) same).turns

theorem turns_of_keeps {routine : Routine (σ × List Exchange) S α}
    (keeps : Keeps host.recording (fun state world => fact state ∧ Lit live world)
      (fun _ _ => False) routine) :
    Turns host fact live live live routine :=
  (@leads_of_keeps _ _ _ _ _ (Lights live) _ keeps).turns

theorem turns_done {value : α} : Turns host fact live live failed (done value) :=
  leads_done.turns

theorem turns_fail {error : Error} :
    Turns host fact live succeeded live (fail error : Routine (σ × List Exchange) S α) :=
  leads_fail.turns

theorem turns_note {level : Level} {text : String} :
    Turns host fact live live failed (note level text) :=
  leads_note.turns

theorem turns_modify {change : S → S} (same : ∀ state, fact state → fact (change state)) :
    Turns host fact live live failed (modify change) :=
  (leads_modify same).turns

theorem Turns.congr {other reached : List Resource} {routine : Routine (σ × List Exchange) S α}
    (turns : Turns host fact other reached failed routine)
    (start : ∀ resource, resource ∈ before ↔ resource ∈ other)
    (finish : ∀ resource, resource ∈ reached ↔ resource ∈ succeeded) :
    Turns host fact before succeeded failed routine :=
  (turns.leads.mono (fun _ lit => Live.congr lit start) (fun _ lit => Live.congr lit finish)
    fun _ => id).turns

variable {first second : List Switch}

theorem Appends.bind {routine : Routine (σ × List Exchange) S α}
    {next : α → Routine (σ × List Exchange) S β} (before : Appends host fact first routine)
    (after : ∀ value, Appends host fact second (next value)) :
    Appends host fact (first ++ second) (routine >>= next) := by
  intro state world holds
  refine (before state world holds).bind fun value middle left added => ?_
  refine (after value middle left added.1).mono fun _ final gone more => ?_
  rw [more.2, added.2, List.append_assoc]
  exact ⟨more.1, rfl⟩

theorem appends_done {value : α} : Appends host fact [] (done value) :=
  fun _ _ holds => ⟨holds, (List.append_nil _).symm⟩

theorem appends_state : Appends host fact [] (Routine.state : Routine _ S S) :=
  fun _ _ holds => ⟨holds, (List.append_nil _).symm⟩

theorem appends_note {level : Level} {text : String} :
    Appends host fact [] (note level text) :=
  fun _ _ holds => ⟨holds, (List.append_nil _).symm⟩

theorem appends_modify {change : S → S} (same : ∀ state, fact state → fact (change state)) :
    Appends host fact [] (modify change) :=
  fun state _ holds => ⟨same state holds, (List.append_nil _).symm⟩

theorem Appends.act {part : Part S T} {routine : Routine (σ × List Exchange) T α}
    (appends : ∀ known : Prop, Appends host (fun _ => known) first routine)
    (same : ∀ piece whole, fact (part.put piece whole) ↔ fact whole) :
    Appends host fact first (part.act routine) := by
  intro state world holds
  refine ends_act.mpr (Ends.mono (appends (fact state) (part.get state) world holds) ?_)
  intro outcome after left ended
  cases outcome with
  | done value => exact ⟨(same after state).mpr ended.1, ended.2⟩
  | failed error => exact ended
  | aborted => exact ended

/-- What is switched off by a routine that always succeeds is off after it. -/
theorem Appends.turns {routine : Routine (σ × List Exchange) S α}
    {gone live failed : List Resource}
    (appends : Appends host fact (gone.map Resource.turnedOff) routine)
    (once : (gone ++ live).Nodup) : Turns host fact (gone ++ live) live failed routine := by
  intro state world holds lit
  refine Ends.mono (appends state world holds) ?_
  intro outcome after left ended
  cases outcome with
  | done value =>
      refine ⟨ended.1, ?_⟩
      rw [Lit, ended.2]
      exact Live.turnAllOff lit once
  | failed error => exact ended.elim
  | aborted => exact ended

theorem Appends.idle {routine : Routine (σ × List Exchange) S α} {live failed : List Resource}
    (appends : Appends host fact [] routine) : Turns host fact live live failed routine := by
  intro state world holds lit
  refine Ends.mono (appends state world holds) ?_
  intro outcome after left ended
  cases outcome with
  | done value =>
      refine ⟨ended.1, ?_⟩
      rwa [Lit, ended.2, List.append_nil]
  | failed error => exact ended.elim
  | aborted => exact ended

variable {state : S} {world : σ × List Exchange} {more : List Switch}

theorem ask_gives (answers : Answers host) (request : Request) :
    (ask request : Routine (σ × List Exchange) S (Reply request)).Gives host.recording state world
      fun reply after left => after = state ∧ left.2 = world.2 ++ [⟨request, some reply⟩] := by
  have answered := answers request world.1
  refine ends_ask.mpr ?_
  cases found : host.answer request world.1 with
  | mk reply left =>
      rw [found] at answered
      simp only [Host.recording, found]
      cases reply with
      | none => cases answered
      | some reply => exact ⟨rfl, rfl⟩

/-- A line that always moves is where it was asked to be. -/
theorem setLine_gives {line : Line} {active : Bool}
    (moves : ∀ world, (host.answer (.setLine line active) world).1 = some (.ok ())) :
    (Host.setLine line active).Gives host.recording state world fun _ after left =>
      after = state ∧ left.2 = world.2 ++ [⟨.setLine line active, some (.ok ())⟩] := by
  have moved := moves world.1
  refine ends_bind.mpr (ends_ask.mpr ?_)
  cases found : host.answer (.setLine line active) world.1 with
  | mk reply left =>
      rw [found] at moved
      cases moved
      simp only [Host.recording, found]
      exact ⟨rfl, rfl⟩

theorem replied_quiet (answers : Answers host) {request : Request} {known : Prop}
    (quiet : ∀ reply, Exchange.switch? ⟨request, reply⟩ = none) (holds : known ∧ Lit live world) :
    Replied (fun world => known ∧ Lit live world) (fun _ => False)
      (host.recording.answer request world) := by
  have answered := answers request world.1
  cases found : host.answer request world.1 with
  | mk reply left =>
      rw [found] at answered
      simp only [Host.recording, found]
      cases reply with
      | none => cases answered
      | some reply =>
          refine ⟨holds.1, ?_⟩
          have same : switchesIn [⟨request, some reply⟩] = [] := by simp [switchesIn, quiet]
          rw [Lit, switchesIn_append, same, List.append_nil]
          exact holds.2

theorem undisturbed_lit (answers : Answers host) (known : Prop) :
    Undisturbed host.recording (fun _ _ => True) (fun world => known ∧ Lit live world)
      (fun _ => False) where
  read _ _ _ holds := replied_quiet answers (fun _ => rfl) holds
  write _ _ _ _ holds := replied_quiet answers (fun _ => rfl) holds
  wait _ _ holds := replied_quiet answers (fun _ => rfl) holds
  noted _ _ holds := holds
  select _ := trivial

theorem leads_request (answers : Answers host) {α : Type} {before : List Exchange → Prop}
    {request : Request} {result : Reply request → Except Error α}
    (kept : ∀ past reply, before past → before (past ++ [⟨request, reply⟩])) :
    Leads host fact before before before (do ofExcept (result (← ask request))) := by
  intro state world holds start
  refine (ask_gives answers request).bind fun reply after left exchanged => ?_
  obtain ⟨rfl, past⟩ := exchanged
  have still : before left.2 := past ▸ kept world.2 (some reply) start
  cases result reply with
  | ok value => exact ⟨holds, still⟩
  | error error => exact ⟨holds, still⟩

theorem turns_quiet {α : Type} (answers : Answers host) {request : Request}
    {result : Reply request → Except Error α}
    (quiet : ∀ reply, Exchange.switch? ⟨request, reply⟩ = none) :
    Turns host fact live live live (do ofExcept (result (← ask request))) := by
  refine (leads_request answers fun past reply lit => ?_).turns
  simpa [Lights, switchesIn_append, switchesIn, quiet] using lit

theorem appends_ask (answers : Answers host) {request : Request}
    (switched : ∀ reply, switchesIn [⟨request, some reply⟩] = more) :
    Appends host fact more (ask request) := by
  intro state world holds
  refine (ask_gives answers request).mono fun reply after left exchanged => ?_
  obtain ⟨rfl, past⟩ := exchanged
  rw [past, switchesIn_append, switched]
  exact ⟨holds, rfl⟩

theorem appends_attempt (answers : Answers host) {α : Type} {request : Request}
    {result : Reply request → Except Error α}
    (switched : ∀ reply, switchesIn [⟨request, some reply⟩] = more) :
    Appends host fact more (attempt (do ofExcept (result (← ask request)))) := by
  intro state world holds
  refine ends_attempt.mpr ((appends_ask answers switched state world holds).bind ?_)
  intro reply after left added
  cases result reply with
  | error error => exact added
  | ok value => exact added

/-- A request that switches a resource on if it succeeds. -/
theorem turns_enable (answers : Answers host) {request : Request}
    {result : Reply request → Except Error Unit} {resource : Resource}
    (switched : ∀ reply, switchesIn [⟨request, some reply⟩] =
      match result reply with
      | .ok _ => [resource.turnedOn]
      | .error _ => [])
    (off : resource ∉ live) :
    Turns host fact live (resource :: live) live (do ofExcept (result (← ask request))) := by
  intro state world holds lit
  refine (ask_gives answers request).bind fun reply after left exchanged => ?_
  obtain ⟨rfl, past⟩ := exchanged
  have more := switched reply
  cases found : result reply with
  | error error =>
      rw [found] at more
      have same : switchesIn left.2 = switchesIn world.2 := by
        rw [past, switchesIn_append, more, List.append_nil]
      have still : Lit live left := by rwa [Lit, same]
      exact ⟨holds, still⟩
  | ok _ =>
      rw [found] at more
      have lighter : Lit (resource :: live) left := by
        rw [Lit, past, switchesIn_append, more]
        exact lit.turnOn off
      exact ⟨holds, lighter⟩

theorem appends_wait (answers : Answers host) {microseconds : UInt32} :
    Appends host fact [] (Host.wait microseconds) :=
  appends_ask answers fun _ => rfl

def Rail.resource (rail : Rail) : Resource :=
  .supply rail.consumer rail.name

namespace Rail

theorem turns_enableSupply (answers : Answers host) (rail : Rail) (off : rail.resource ∉ live) :
    Turns host fact live (rail.resource :: live) live
      (Host.enableSupply rail.consumer rail.name) := by
  refine turns_enable answers (fun reply => ?_) off
  cases reply <;> rfl

/-- A disable counts whether the supply refuses or not. -/
theorem appends_disableEach (answers : Answers host) (who : String) (rails : List Rail) :
    Appends host fact ((rails.map resource).map Resource.turnedOff) (disableEach who rails) := by
  induction rails with
  | nil => exact appends_done
  | cons rail rest ih =>
      have asked : Appends host fact [rail.resource.turnedOff]
          (attempt (Host.disableSupply rail.consumer rail.name)) :=
        appends_attempt answers fun _ => rfl
      refine asked.bind fun result => ?_
      cases result with
      | error error => exact appends_note.bind fun _ => ih
      | ok _ => exact appends_done.bind fun _ => ih

/-- What the rails enabled so far and those to come amount to. -/
theorem turns_enableAfter (answers : Answers host) (who : String) (complaint : Rail → String)
    {enabled rails : List Rail}
    (once : (rails.map resource ++ (enabled.map resource ++ live)).Nodup) :
    Turns host fact (enabled.map resource ++ live)
      ((rails.reverse ++ enabled).map resource ++ live) live
      (enableAfter who complaint enabled rails) := by
  induction rails generalizing enabled with
  | nil => exact turns_done
  | cons rail rest ih =>
      obtain ⟨fresh, others⟩ := List.nodup_cons.mp once
      have off : rail.resource ∉ enabled.map resource ++ live :=
        fun member => fresh (List.mem_append_right _ member)
      have before : (enabled.map resource ++ live).Nodup := (List.nodup_append.mp others).2.1
      refine Turns.bind (Turns.onError (turns_enableSupply answers rail off) fun error => ?_)
        fun _ => ?_
      · exact turns_note.bind fun _ => (appends_disableEach answers who enabled).turns before
      · have later : (rest.map resource ++ ((rail :: enabled).map resource ++ live)).Nodup :=
          List.perm_middle.nodup_iff.mpr once
        have order : (rail :: rest).reverse ++ enabled = rest.reverse ++ (rail :: enabled) := by
          rw [List.reverse_cons, List.append_assoc]
          rfl
        rw [order]
        exact (appends_wait answers).idle.bind fun _ => ih later

theorem turns_enableAll (answers : Answers host) (who : String) (complaint : Rail → String)
    {rails : List Rail} (once : (rails.map resource ++ live).Nodup) :
    Turns host fact live (rails.reverse.map resource ++ live) live
      (enableAll who complaint rails) := by
  have turns := @turns_enableAfter σ S host fact live answers who complaint [] rails once
  rwa [List.append_nil] at turns

theorem turns_disableAll (answers : Answers host) (who : String) {rails : List Rail}
    (once : (rails.reverse.map resource ++ live).Nodup) :
    Turns host fact (rails.reverse.map resource ++ live) live failed (disableAll who rails) :=
  (appends_disableEach answers who rails.reverse).turns once

end Rail

end IspDriver
