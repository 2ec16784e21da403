import IspDriver.Proofs.Power.AllOrNothing

/-!
What a power-up of the processor that fails leaves behind, at whichever of its steps. Clock and
supplies go off again in the reverse of the order in which they came on, and reset was not released.
The standby line is not moved back: it stays active after a failure between the two moves that a
power-up makes of it.
-/

namespace IspDriver

open Routine PowerStep

/-- On the way up the request comes after the move into standby, up to the move out of it. -/
def Request.inStandby : Request → Bool
  | .enableSupply _ _ => true
  | .setLine .standby active => !active
  | _ => false

theorem Request.inStandby_disabling (resource : Resource) :
    resource.disabling.inStandby = false := by
  cases resource <;> rfl

namespace IspPower

/-- Held in reset and not in standby, without clock and supplies. -/
structure Off (past : List Exchange) : Prop where
  reset : Line.reset.level? past = some true
  standby : Line.standby.level? past ≠ some true
  dark : ∀ resource ∈ resources, ¬ resource.IsOn (switchesIn past)

/-- What a power-up that fails adds to a record that shows the processor off. -/
structure Abandoned (power : IspPower) (past log : List Exchange) (error : Error) : Prop where
  reset : Line.reset.level? (past ++ log) = some true
  dark : ∀ resource ∈ resources, ¬ resource.IsOn (switchesIn (past ++ log))
  reversed : ∃ taken, taken <+: rails.map Rail.resource ++ [.clock] ∧
    switchesIn log = taken.map Resource.turnedOn ++ taken.reverse.map Resource.turnedOff
  standby : Line.standby.level? (past ++ log) = some true ↔ power.hasStandby = true ∧
    ∃ refused ∈ log, refused.verdict = .failed error ∧ refused.request.inStandby = true

def standbySteps (standby active : Bool) : List PowerStep :=
  if standby then [.move .standby active, .pause standbyMicroseconds] else []

/-- The steps on full supplies. -/
def releaseSteps (standby : Bool) : List PowerStep :=
  standbySteps standby false ++ [.take .clock, .move .reset false, .pause resetMicroseconds]

def powerUpSteps (standby : Bool) : List PowerStep :=
  standbySteps standby true ++ (Rail.steps rails ++ releaseSteps standby)

@[simp] theorem taken_standbySteps (standby active : Bool) :
    taken (standbySteps standby active) = [] := by
  cases standby <;> rfl

theorem taken_powerUpSteps (standby : Bool) :
    taken (powerUpSteps standby) = rails.map Rail.resource ++ [.clock] := by
  cases standby <;> rfl

/-- Before a step that can be refused reset was not moved, and the standby line is active if the
step is in standby. -/
theorem levels_before {standby : Bool} {front rest : List PowerStep} {step : PowerStep}
    (split : powerUpSteps standby = front ++ step :: rest) (fallible : step.mayFail = true) :
    front.filterMap (PowerStep.level? .reset) = [] ∧
      ((front.filterMap (PowerStep.level? .standby)).getLast? = some true ↔
        standby = true ∧ step.request.inStandby = true) := by
  -- There are few steps, so that every place among them can be looked at.
  have places : ∀ standby : Bool, ∀ place : Fin (powerUpSteps standby).length,
      (powerUpSteps standby)[place].mayFail = true →
        ((powerUpSteps standby).take place).filterMap (PowerStep.level? .reset) = [] ∧
          ((((powerUpSteps standby).take place).filterMap
              (PowerStep.level? .standby)).getLast? = some true ↔
            standby = true ∧ (powerUpSteps standby)[place].request.inStandby = true) := by
    decide
  have here : front.length < (powerUpSteps standby).length := by simp [split]
  have placed := places standby ⟨front.length, here⟩
  simp only [Fin.getElem_fin, split, List.take_left, List.getElem_append_right (Nat.le_refl _),
    Nat.sub_self, List.getElem_cons_zero] at placed
  exact placed fallible

variable {σ : Type} {host : Host σ} {power : IspPower}

theorem transacts_moveStandby (answers : Answers host) (active : Bool) :
    Traces host (· = power) (· = power) (Transacts (standbySteps power.hasStandby active) [])
      (moveStandby active) := by
  refine traces_state fun known same => ?_
  cases same
  unfold standbySteps
  split
  · have moved : Traces host (· = power) (· = power) (Transacts [.move .standby active] [])
        (Host.setLine .standby active) :=
      transacts_step answers rfl fun reply => by cases reply <;> rfl
    exact moved.transact_bind fun _ => transacts_pause answers _
  · exact silent_done.transacts

theorem transacts_release (answers : Answers host) :
    Traces host (· = power) (· = power) (Transacts (releaseSteps power.hasStandby) []) release := by
  have started : Traces host (· = power) (· = power) (Transacts [.take .clock] [])
      Host.enableClock :=
    transacts_step answers rfl fun reply => by cases reply <;> rfl
  have freed : Traces host (· = power) (· = power) (Transacts [.move .reset false] [])
      (Host.setLine .reset false) :=
    transacts_step answers rfl fun reply => by cases reply <;> rfl
  have stopped : Traces host (· = power) (· = power) (GivesBack [.clock]) Host.disableClock :=
    Traces.gives_back traces_ask_anyway (appends_disableClock answers)
  refine (transacts_moveStandby answers false).transact_bind fun _ => ?_
  change Traces host _ _ (Transacts ([.take .clock] ++ ([.move .reset false] ++
    [.pause resetMicroseconds])) _) _
  refine Traces.transact_bind (started.transact_onError fun _ => ?_) fun _ => ?_
  · simpa using silent_note.gives_back
  · refine Traces.transact_bind (freed.transact_onError fun _ => ?_) fun _ =>
      transacts_pause answers _
    simpa using stopped

/-- All of a power-up but that the processor is then known to be on. -/
theorem transacts_powerUp (answers : Answers host) :
    Traces host (· = power) (· = power) (Transacts (powerUpSteps power.hasStandby) []) (do
      note .debug "Powering on ISP"
      moveStandby true
      Rail.enableAll "ISP" (fun rail => "Failed to enable ISP supply " ++ rail.name) rails
      onError release fun _ => Rail.disableAll "ISP" rails) := by
  refine silent_note.bind fun _ => (transacts_moveStandby answers true).transact_bind fun _ => ?_
  rw [taken_standbySteps]
  refine (Rail.transacts_enableAll answers "ISP" _ rails).transact_bind fun _ => ?_
  refine (transacts_release answers).transact_onError fun _ => ?_
  simpa [Rail.disableAll] using Rail.gives_back_disableEach answers "ISP" rails.reverse

theorem powerOn_ends (answers : Answers host) (world : σ × List Exchange) :
    powerOn.Ends host.recording power world fun outcome after left =>
      after = (if outcome = .done () then { power with isOn := true } else power) ∧
        ∃ log, left.2 = world.2 ++ log ∧
          Transacts (powerUpSteps power.hasStandby) [] log outcome := by
  have split : (powerOn : Routine (σ × List Exchange) IspPower Unit) = ((do
      note .debug "Powering on ISP"
      moveStandby true
      Rail.enableAll "ISP" (fun rail => "Failed to enable ISP supply " ++ rail.name) rails
      onError release fun _ => Rail.disableAll "ISP" rails) >>= fun _ =>
        Routine.modify fun power => { power with isOn := true }) := by
    simp only [bind_assoc]
    rfl
  rw [split]
  refine Ends.bind (transacts_powerUp answers power world rfl) ?_ ?_ ?_
  · rintro _ after left ⟨rfl, ended⟩
    exact ⟨rfl, ended⟩
  · rintro error after left ⟨rfl, ended⟩
    exact ⟨rfl, ended⟩
  · rintro after left ⟨rfl, ended⟩
    exact ⟨rfl, ended⟩

theorem request_powerUpSteps (standby : Bool) :
    (powerUpSteps standby).map PowerStep.request = powerUpRequests standby := by
  cases standby <;> rfl

theorem abandoned_of_transacts {power : IspPower} {past log : List Exchange} {error : Error}
    (off : Off past)
    (transacts : Transacts (powerUpSteps power.hasStandby) [] log (.failed error)) :
    Abandoned power past log error := by
  obtain ⟨gone, early, switches⟩ := transacts.switches_of_failed
  rw [taken_powerUpSteps] at early
  cases transacts with
  | @revoked front rest step up down last _ split made asked refused returned =>
      obtain ⟨fallible, -⟩ := effect_of_refused asked refused
      obtain ⟨unmoved, between⟩ := levels_before split fallible
      have level := level?_of_revoked made asked refused returned
      refine ⟨?_, ?_, ⟨gone, early, switches⟩, ?_⟩
      · rw [Line.level?_append, level, unmoved]
        exact off.reset
      · intro resource member
        rw [switchesIn_append, switches, Resource.isOn_turnedBack]
        exact fun on => off.dark resource member on.2
      · rw [Line.level?_append, level, Option.or_eq_some_iff, between]
        constructor
        · rintro (⟨wired, inside⟩ | ⟨-, active⟩)
          · exact ⟨wired, last, by simp, refused, asked ▸ inside⟩
          · exact absurd active off.standby
        · rintro ⟨wired, other, member, stopped, inside⟩
          refine .inl ⟨wired, ?_⟩
          -- What was refused in standby is the step itself, for disables are never in standby.
          rcases eq_last_of_refused made returned member stopped with rfl | ⟨resource, back⟩
          · exact asked ▸ inside
          · rw [back, Request.inStandby_disabling] at inside
            cases inside

/-- A power-up of a processor that is off makes all its steps, or fails and leaves it as it was, but
for the standby line: that one stays active after a failure between the two moves of it. -/
theorem powerOn_whole_or_abandoned {σ : Type} {host : Host σ} (answers : Answers host)
    (power : IspPower) (world : σ × List Exchange) (off : Off world.2) :
    powerOn.Ends host.recording power world fun outcome after left =>
      ∃ log, left.2 = world.2 ++ log ∧
        match outcome with
        | .done _ => after = { power with isOn := true } ∧ Granted log ∧
            log.map (·.request) = powerUpRequests power.hasStandby
        | .failed error => after = power ∧ Abandoned power world.2 log error
        | .aborted => False := by
  refine (powerOn_ends answers world).mono ?_
  rintro outcome after left ⟨same, log, logged, transacts⟩
  refine ⟨log, logged, ?_⟩
  cases outcome with
  | done _ =>
      obtain ⟨inOrder, granted⟩ := transacts.made
      exact ⟨same, granted, inOrder.trans (request_powerUpSteps _)⟩
  | failed error => exact ⟨same, abandoned_of_transacts off transacts⟩
  | aborted => cases transacts

/-- The record of a processor that was claimed. -/
def claimed : List Exchange :=
  [⟨.setLine .reset true, some (.ok ())⟩]

theorem off_claimed : Off claimed where
  reset := rfl
  standby := nofun
  dark _ _ := nofun

/-- The host of a processor whose last supply refuses. -/
def unsupplied : Host Unit :=
  hostWithout consumer "VDDIO_SMISC"

theorem powerOn_unsupplied :
    (powerOn unsupplied.recording ⟨true, false⟩ ((), claimed)).1 =
      .failed (.device (.reported "no power")) := by
  decide +kernel

theorem standby_unsupplied :
    Line.standby.level? (powerOn unsupplied.recording ⟨true, false⟩ ((), claimed)).2.2.2 =
      some true := by
  decide +kernel

theorem abandoned_in_standby :
    Answers unsupplied ∧ Off claimed ∧
      powerOn.Fails unsupplied.recording ⟨true, false⟩ ((), claimed) fun after left =>
        after = ⟨true, false⟩ ∧ Line.reset.level? left.2 = some true ∧
          (∀ resource ∈ resources, ¬ resource.IsOn (switchesIn left.2)) ∧
          ∃ refused ∈ left.2, refused.request.inStandby = true ∧
            refused.verdict = .failed (.device (.reported "no power")) := by
  have answers : Answers unsupplied := answers_hostWithout consumer "VDDIO_SMISC"
  have ended := powerOn_whole_or_abandoned answers ⟨true, false⟩ ((), claimed) off_claimed
  refine ⟨answers, off_claimed, ?_⟩
  obtain ⟨failed, log, logged, same, abandoned⟩ := ended.fails_of_failed powerOn_unsupplied
  have active := standby_unsupplied
  rw [logged] at active
  obtain ⟨-, refused, member, stopped, inside⟩ := abandoned.standby.mp active
  refine ⟨failed, same, ?_⟩
  rw [logged]
  refine ⟨abandoned.reset, abandoned.dark, refused, List.mem_append_right _ member, inside, ?_⟩
  exact stopped

/-- A power-up that fails need not leave the processor as it was, though only one request is
refused. -/
theorem standby_outlives_failure :
    ¬ ∀ (host : Host Unit), Answers host →
      (∃ refused, ∀ request, request ≠ refused → ∀ world,
        Exchange.verdict ⟨request, (host.answer request world).1⟩ = .done ()) →
        ∀ (power : IspPower) (past : List Exchange), Off past →
          powerOn.Ends host.recording power ((), past) fun outcome _ left =>
            ∀ error, outcome = .failed error → Off left.2 := by
  intro restored
  have single : ∀ request, request ≠ .enableSupply consumer "VDDIO_SMISC" → ∀ world,
      Exchange.verdict ⟨request, (unsupplied.answer request world).1⟩ = .done () := by
    intro request other world
    cases request with
    | enableSupply asker name =>
        have apart : ¬ (asker = consumer ∧ name = "VDDIO_SMISC") := by
          rintro ⟨rfl, rfl⟩
          exact other rfl
        simp only [unsupplied, hostWithout, if_neg apart]
        rfl
    | _ => rfl
  have off := restored unsupplied (answers_hostWithout consumer "VDDIO_SMISC")
    ⟨_, single⟩ ⟨true, false⟩ claimed off_claimed _ powerOn_unsupplied
  exact off.standby standby_unsupplied

end IspPower

end IspDriver
