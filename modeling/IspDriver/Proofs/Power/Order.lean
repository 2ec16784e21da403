import IspDriver.Proofs.Power.Balance
import IspDriver.Proofs.Power.Requests

/-!
The order in which power comes and goes, at every moment in the life of a device. The clock runs and
reset is released only on full supplies, and the supplies of the processor are on only above those
of the sensors. Between two steps that matter a routine stays within one picture of what is on and
what is off; each of the four pictures there are is in order.
-/

namespace IspDriver

open Routine

/-- Power is in order after these exchanges, for sensors that take these supplies. -/
structure Ordered (sensors : List Resource) (past : List Exchange) : Prop where
  clocked : Resource.clock.IsOn (switchesIn past) →
    ∀ supply ∈ IspPower.supplies, supply.IsOn (switchesIn past)
  released : Line.reset.level? past = some false →
    Resource.clock.IsOn (switchesIn past) ∧
      ∀ supply ∈ IspPower.supplies, supply.IsOn (switchesIn past)
  supplied : ∀ supply ∈ IspPower.supplies, supply.IsOn (switchesIn past) →
    ∀ resource ∈ sensors, resource.IsOn (switchesIn past)

/-- Some resources are on, some are off, and the chip may have to be in reset. -/
structure Picture (on off : List Resource) (held : Prop) (past : List Exchange) : Prop where
  on : ∀ resource ∈ on, resource.IsOn (switchesIn past)
  off : ∀ resource ∈ off, ¬ resource.IsOn (switchesIn past)
  held : held → Line.reset.level? past ≠ some false

/-- The request stays within the picture, whatever comes of it. -/
structure Leaves (on off : List Resource) (held : Prop) (request : Request) : Prop where
  on : ∀ resource ∈ on, ∀ reply, Exchange.switch? ⟨request, reply⟩ ≠ some resource.turnedOff
  off : ∀ resource ∈ off, ∀ reply, Exchange.switch? ⟨request, reply⟩ ≠ some resource.turnedOn
  held : held → ∀ reply, Exchange.moved? .reset ⟨request, reply⟩ ≠ some false

/-- These resources are on, the chip is in reset if it has to be, and power was always in order. -/
structure Settled (sensors live : List Resource) (held : Prop) (past : List Exchange) : Prop where
  lit : Lights live past
  held : held → Line.reset.level? past ≠ some false
  ordered : Throughout (Ordered sensors) past

section Pictures

variable {sensors on off live after : List Resource} {held : Prop} {past later : List Exchange}
  {exchange : Exchange}

theorem Picture.concat (picture : Picture on off held past)
    (leaves : Leaves on off held exchange.request) : Picture on off held (past ++ [exchange]) where
  on resource member :=
    Resource.isOn_concat.mpr (.inr ⟨picture.on resource member, leaves.on resource member _⟩)
  off resource member isOn := by
    rcases Resource.isOn_concat.mp isOn with switched | ⟨wasOn, -⟩
    · exact leaves.off resource member _ switched
    · exact picture.off resource member wasOn
  held must := by
    rw [Line.level?_concat]
    cases moved : exchange.moved? .reset with
    | none => exact picture.held must
    | some level =>
        have still := leaves.held must exchange.reply
        exact fun same => still (moved.trans same)

theorem ordered_dark (past : List Exchange) (picture : Picture [] IspPower.resources True past) :
    Ordered sensors past where
  clocked running := absurd running (picture.off _ (List.mem_cons_self ..))
  released low := absurd low (picture.held trivial)
  supplied _ member isOn := absurd isOn (picture.off _ (List.mem_cons_of_mem _ member))

theorem ordered_rising (past : List Exchange) (picture : Picture sensors [.clock] True past) :
    Ordered sensors past where
  clocked running := absurd running (picture.off _ (List.mem_cons_self ..))
  released low := absurd low (picture.held trivial)
  supplied _ _ _ := picture.on

theorem ordered_supplied (past : List Exchange)
    (picture : Picture (IspPower.supplies ++ sensors) [] True past) : Ordered sensors past where
  clocked _ _ member := picture.on _ (List.mem_append_left _ member)
  released low := absurd low (picture.held trivial)
  supplied _ _ _ resource member := picture.on resource (List.mem_append_right _ member)

theorem ordered_running (past : List Exchange)
    (picture : Picture (IspPower.resources ++ sensors) [] False past) : Ordered sensors past where
  clocked _ _ member := picture.on _ (List.mem_append_left _ (List.mem_cons_of_mem _ member))
  released _ := ⟨picture.on _ (List.mem_cons_self ..), fun _ member =>
    picture.on _ (List.mem_append_left _ (List.mem_cons_of_mem _ member))⟩
  supplied _ _ _ resource member := picture.on resource (List.mem_append_right _ member)

/-- While nothing but requests that stay within a picture are made, power stays in order. -/
theorem Settled.grown (settled : Settled sensors live held past)
    (grown : Grown (Leaves on off held) past later)
    (orders : ∀ past, Picture on off held past → Ordered sensors past)
    (shows : ∀ resource ∈ on, resource ∈ live) (hides : ∀ resource ∈ off, resource ∉ live)
    (lit : Lights after later) : Settled sensors after held later := by
  have picture : Picture on off held past :=
    ⟨fun resource member => (settled.lit.isOn_iff resource).mpr (shows resource member),
      fun resource member isOn => hides resource member ((settled.lit.isOn_iff resource).mp isOn),
      settled.held⟩
  have onward : Picture on off held later ∧ Throughout (Ordered sensors) later := by
    refine @Grown.keeps (fun past => Picture on off held past ∧ Throughout (Ordered sensors) past)
      _ _ _ grown (fun past exchange leaves both => ?_) ⟨picture, settled.ordered⟩
    have next := both.1.concat leaves
    exact ⟨next, throughout_concat.mpr ⟨both.2, orders _ next⟩⟩
  exact ⟨lit, onward.1.held, onward.2⟩

end Pictures

variable {on off : List Resource} {held : Prop} {rail : Rail} {line : Line} {active : Bool}

theorem leaves_quiet {request : Request}
    (quiet : ∀ reply, Exchange.switch? ⟨request, reply⟩ = none)
    (still : ∀ reply, Exchange.moved? .reset ⟨request, reply⟩ ≠ some false) :
    Leaves on off held request where
  on _ _ reply := by simp [quiet]
  off _ _ reply := by simp [quiet]
  held _ := still

theorem leaves_traffic : AllowsTraffic (Leaves on off held) where
  read _ _ := leaves_quiet (fun _ => rfl) fun _ => nofun
  write _ _ := leaves_quiet (fun _ => rfl) fun _ => nofun
  wait _ := leaves_quiet (fun _ => rfl) fun _ => nofun

theorem leaves_line (stays : held → ¬ (line = .reset ∧ active = false)) :
    Leaves on off held (.setLine line active) where
  on _ _ _ := nofun
  off _ _ _ := nofun
  held must reply := by
    have apart := stays must
    rcases reply with _ | _ | _ <;> simp_all [Exchange.moved?]

theorem leaves_enabling {resource : Resource} (shown : resource ∉ off) :
    Leaves on off held resource.enabling where
  on other _ reply := by
    rcases resource.switch?_enabling reply with none | some
    · simp [none]
    · simp [some, Resource.turnedOn_ne_turnedOff]
  off other member reply := by
    have apart : resource ≠ other := fun same => shown (same ▸ member)
    rcases resource.switch?_enabling reply with none | some
    · simp [none]
    · simpa [some, Resource.turnedOn] using apart
  held _ reply := by simp

theorem leaves_disabling {resource : Resource} (hidden : resource ∉ on) :
    Leaves on off held resource.disabling where
  on other member reply := by
    have apart : resource ≠ other := fun same => hidden (same ▸ member)
    simpa [Resource.switch?_disabling, Resource.turnedOff] using apart
  off other _ reply := by
    simpa [Resource.switch?_disabling] using (other.turnedOn_ne_turnedOff resource).symm
  held _ reply := by simp

section Settles

variable {σ S α : Type} {host : Host σ} {fact : S → Prop}
  {sensors before succeeded failed : List Resource} {past : List Exchange}

theorem Turns.settles {routine : Routine (σ × List Exchange) S α}
    (turns : Turns host fact before succeeded failed routine)
    (orders : ∀ past, Picture on off held past → Ordered sensors past)
    (asks : Asks host (Leaves on off held) routine) (shows : ∀ resource ∈ on, resource ∈ before)
    (hides : ∀ resource ∈ off, resource ∉ before) :
    Leads host fact (Settled sensors before held) (Settled sensors succeeded held)
      (Settled sensors failed held) routine := by
  intro state world holds settled
  refine (Ends.and (turns state world holds settled.lit) (asks.ends state world)).mono ?_
  intro outcome after left ended
  cases outcome with
  | done value => exact ⟨ended.1.1, settled.grown ended.2 orders shows hides ended.1.2⟩
  | failed error => exact ⟨ended.1.1, settled.grown ended.2 orders shows hides ended.1.2⟩
  | aborted => exact ended.1

/-- With everything on, nothing is switched. -/
theorem Turns.runs {routine : Routine (σ × List Exchange) S α}
    (turns : Turns host fact (IspPower.resources ++ sensors) (IspPower.resources ++ sensors)
      (IspPower.resources ++ sensors) routine)
    (asks : Asks host (Leaves (IspPower.resources ++ sensors) [] False) routine) :
    Leads host fact (Settled sensors (IspPower.resources ++ sensors) False)
      (Settled sensors (IspPower.resources ++ sensors) False)
      (Settled sensors (IspPower.resources ++ sensors) False) routine :=
  turns.settles ordered_running asks (fun _ => id) nofun

/-- The same for a routine that always succeeds. -/
theorem Appends.settles {routine : Routine (σ × List Exchange) S α} {more : List Switch}
    {failed : List Exchange → Prop} (appends : Appends host fact more routine)
    (lights : ∀ switches, Live switches before → Live (switches ++ more) succeeded)
    (orders : ∀ past, Picture on off held past → Ordered sensors past)
    (asks : Asks host (Leaves on off held) routine) (shows : ∀ resource ∈ on, resource ∈ before)
    (hides : ∀ resource ∈ off, resource ∉ before) :
    Leads host fact (Settled sensors before held) (Settled sensors succeeded held) failed
      routine := by
  intro state world holds settled
  refine (Ends.and (appends state world holds) (asks.ends state world)).mono ?_
  intro outcome after left ended
  cases outcome with
  | done value =>
      have lit : Lights succeeded left.2 := by
        rw [Lights, ended.1.2]
        exact lights _ settled.lit
      exact ⟨ended.1.1, settled.grown ended.2 orders shows hides lit⟩
  | failed error => exact ended.1.elim
  | aborted => exact ended.1.elim

theorem Appends.rests {routine : Routine (σ × List Exchange) S α}
    {failed : List Exchange → Prop} (appends : Appends host fact [] routine)
    (orders : ∀ past, Picture on off held past → Ordered sensors past)
    (asks : Asks host (Leaves on off held) routine) (shows : ∀ resource ∈ on, resource ∈ before)
    (hides : ∀ resource ∈ off, resource ∉ before) :
    Leads host fact (Settled sensors before held) (Settled sensors before held) failed routine :=
  appends.settles (fun _ lit => by rwa [List.append_nil]) orders asks shows hides

/-- With everything on, reset may move either way. -/
theorem Settled.reset {must : Prop} {active : Bool} {reply : Option (Except Error Unit)}
    (settled : Settled sensors (IspPower.resources ++ sensors) held past)
    (level : must → Line.reset.level? (past ++ [⟨.setLine .reset active, reply⟩]) ≠ some false) :
    Settled sensors (IspPower.resources ++ sensors) must
      (past ++ [⟨.setLine .reset active, reply⟩]) where
  lit := by
    rw [Lights, switchesIn_append]
    exact (List.append_nil (switchesIn past)).symm ▸ settled.lit
  held := level
  ordered := by
    have picture : Picture (IspPower.resources ++ sensors) [] False past :=
      ⟨fun resource => (settled.lit.isOn_iff resource).mpr, by rintro _ ⟨⟩, False.elim⟩
    refine throughout_concat.mpr ⟨settled.ordered, ordered_running _ (picture.concat ?_)⟩
    exact leaves_line False.elim

theorem leads_release (answers : Answers host) :
    Leads host fact (Settled sensors (IspPower.resources ++ sensors) True)
      (Settled sensors (IspPower.resources ++ sensors) False)
      (Settled sensors (IspPower.resources ++ sensors) True) (Host.setLine .reset false) := by
  intro state world holds settled
  refine (ask_gives answers _).bind fun reply after left exchanged => ?_
  obtain ⟨rfl, past⟩ := exchanged
  cases reply with
  | ok _ => exact ⟨holds, past ▸ settled.reset False.elim⟩
  | error error =>
      refine ⟨holds, past ▸ settled.reset fun _ => ?_⟩
      simpa [Line.level?_concat, Exchange.moved?] using settled.held trivial

theorem leads_assert {known : Prop} {complaint : String} {failed : List Exchange → Prop}
    (asserts : ∀ world, (host.answer (.setLine .reset true) world).1 = some (.ok ())) :
    Leads host (fun _ => known) (Settled sensors (IspPower.resources ++ sensors) False)
      (Settled sensors (IspPower.resources ++ sensors) True) failed
      (IspPower.tryLine .reset true complaint) := by
  intro state world holds settled
  refine (setLine_gives asserts).attempt.bind fun result after left moved => ?_
  obtain ⟨_, rfl, -, past⟩ := moved
  refine ⟨holds, past ▸ settled.reset fun _ => ?_⟩
  simp [Line.level?_concat, Exchange.moved?]

end Settles

section Processor

variable {σ : Type} {host : Host σ} {known : Prop} {sensors : List Resource}

namespace IspPower

theorem clock_not_mem (once : (resources ++ sensors).Nodup) :
    Resource.clock ∉ supplies ++ sensors :=
  (List.nodup_cons.mp once).1

theorem supplies_not_mem (once : (resources ++ sensors).Nodup) {rail : Rail}
    (member : rail ∈ rails) : rail.resource ∉ sensors :=
  fun among =>
    (List.nodup_append.mp once).2.2 _ (List.mem_cons_of_mem _ (mem_supplies member)) _ among rfl

variable (answers : Answers host) (once : (resources ++ sensors).Nodup)

include answers once

theorem leads_moveStandby (active : Bool) :
    Leads host (fun _ => known) (Settled sensors sensors True) (Settled sensors sensors True)
      (Settled sensors sensors True) (moveStandby active) :=
  (turns_moveStandby answers).settles ordered_rising
    (asks_moveStandby (leaves_line (by simp)) leaves_traffic.wait) (fun _ => id)
    (List.forall_mem_singleton.mpr fun among =>
      clock_not_mem once (List.mem_append_right _ among))

theorem leads_enableAll (complaint : Rail → String) :
    Leads host (fun _ : IspPower => known) (Settled sensors sensors True)
      (Settled sensors (supplies ++ sensors) True) (Settled sensors sensors True)
      (Rail.enableAll "ISP" complaint rails) := by
  have order : (rails.map Rail.resource ++ sensors).Perm (supplies ++ sensors) :=
    (rails.reverse_perm.symm.map Rail.resource).append_right sensors
  have forward := order.nodup_iff.mpr (List.nodup_cons.mp once).2
  refine (Rail.turns_enableAll answers "ISP" complaint forward).settles ordered_rising
    (Rail.asks_enableAll leaves_traffic.wait (fun _ _ => leaves_enabling ?_)
      fun rail member => leaves_disabling (supplies_not_mem once member)) (fun _ => id) ?_
  · simp [Rail.resource]
  · exact List.forall_mem_singleton.mpr fun among =>
      clock_not_mem once (List.mem_append_right _ among)

theorem leads_disableAll {failed : List Exchange → Prop} :
    Leads host (fun _ : IspPower => known) (Settled sensors (supplies ++ sensors) True)
      (Settled sensors sensors True) failed (Rail.disableAll "ISP" rails) :=
  (Rail.appends_disableEach answers "ISP" rails.reverse).settles
    (fun _ lit => Live.turnAllOff lit (List.nodup_cons.mp once).2) ordered_rising
    (Rail.asks_disableAll fun _ member => leaves_disabling (supplies_not_mem once member))
    (fun _ => List.mem_append_right _) (List.forall_mem_singleton.mpr (clock_not_mem once))

theorem leads_disableClock {failed : List Exchange → Prop} :
    Leads host (fun _ : IspPower => known) (Settled sensors (resources ++ sensors) True)
      (Settled sensors (supplies ++ sensors) True) failed Host.disableClock :=
  (appends_disableClock answers).settles
    (fun _ lit => Live.turnOff lit (clock_not_mem once)) ordered_supplied
    (asks_ask (@leaves_disabling _ _ _ .clock (clock_not_mem once)))
    (fun _ => List.mem_cons_of_mem _) nofun

theorem leads_start :
    Leads host (fun _ => known) (Settled sensors (supplies ++ sensors) True)
      (Settled sensors (resources ++ sensors) False) (Settled sensors (supplies ++ sensors) True)
      release := by
  have standby := (@turns_moveStandby σ host (supplies ++ sensors) known answers false).settles
    ordered_supplied (asks_moveStandby (leaves_line (by simp)) leaves_traffic.wait) (fun _ => id)
    nofun
  have starts := (@turns_enableClock σ IspPower host (fun _ => known) _ answers
    (clock_not_mem once)).settles ordered_supplied
    (asks_request (@leaves_enabling _ _ _ .clock nofun)) (fun _ => id) nofun
  refine standby.bind fun _ => (starts.onError fun _ => leads_note).bind fun _ => ?_
  refine Leads.bind ((leads_release answers).onError fun _ => leads_disableClock answers once)
    fun _ => ?_
  exact (appends_wait answers).rests ordered_running (asks_ask (leaves_traffic.wait _))
    (fun _ => id) nofun

theorem leads_powerOn :
    Leads host (fun _ => known) (Settled sensors sensors True)
      (Settled sensors (resources ++ sensors) False) (Settled sensors sensors True) powerOn := by
  refine leads_note.bind fun _ => (leads_moveStandby answers once true).bind fun _ => ?_
  refine (leads_enableAll answers once _).bind fun _ => ?_
  refine Leads.bind (Leads.onError (leads_start answers once) fun _ => ?_) fun _ => ?_
  · exact leads_disableAll answers once
  · exact leads_modify fun _ => id

/-- Reset is asserted first, so from then on the clock and the supplies may go. -/
theorem leads_powerOff
    (asserts : ∀ world, (host.answer (.setLine .reset true) world).1 = some (.ok ()))
    {failed : List Exchange → Prop} :
    Leads host (fun _ => known) (Settled sensors (resources ++ sensors) False)
      (Settled sensors sensors True) failed powerOff := by
  have clock := clock_not_mem once
  have waits : ∀ live, Resource.clock ∉ live → (∀ resource ∈ sensors, resource ∈ live) →
      Leads host (fun _ : IspPower => known) (Settled sensors live True)
        (Settled sensors live True) failed (Host.wait standbyMicroseconds) :=
    fun live off on => (appends_wait answers).rests ordered_rising
      (asks_ask (leaves_traffic.wait _)) on (List.forall_mem_singleton.mpr off)
  have tries : ∀ live active complaint, Resource.clock ∉ live →
      (∀ resource ∈ sensors, resource ∈ live) →
      Leads host (fun _ : IspPower => known) (Settled sensors live True)
        (Settled sensors live True) failed (tryLine .standby active complaint) :=
    fun live active complaint off on => (appends_tryLine answers).rests ordered_rising
      (asks_tryLine (leaves_line (by simp))) on (List.forall_mem_singleton.mpr off)
  have above : ∀ resource ∈ sensors, resource ∈ supplies ++ sensors :=
    fun _ => List.mem_append_right _
  have below : Resource.clock ∉ sensors := fun among => clock (List.mem_append_right _ among)
  refine leads_note.bind fun _ => (leads_assert asserts).bind fun _ => ?_
  refine (leads_disableClock answers once).bind fun _ => leads_state.bind fun power => ?_
  cases power.hasStandby with
  | false =>
      exact (leads_disableAll answers once).bind fun _ => leads_modify fun _ => id
  | true =>
      refine (tries _ true _ clock above).bind fun _ => (waits _ clock above).bind fun _ => ?_
      refine (leads_disableAll answers once).bind fun _ => ?_
      refine (waits _ below fun _ => id).bind fun _ => ?_
      exact (tries _ false _ below fun _ => id).bind fun _ => leads_modify fun _ => id

end IspPower

end Processor

namespace Device

section Boot

variable {σ : Type} {host : Host σ} {board : Board} {sensors : List PortSensor}
  (answers : Answers host)
  (once : (IspPower.resources ++ sensorResources sensors).Nodup)

theorem mem_sensorResources {power : SensorPower} {rail : Rail}
    (member : power ∈ sensors.map (·.power)) (among : rail ∈ power.rails) :
    rail.resource ∈ sensorResources sensors :=
  List.mem_flatMap.mpr ⟨power, member, List.mem_map_of_mem (List.mem_reverse.mpr among)⟩

include once in
theorem sensors_apart {resource : Resource} (member : resource ∈ IspPower.resources) :
    resource ∉ sensorResources sensors :=
  fun among => (List.nodup_append.mp once).2.2 _ member _ among rfl

include answers once

theorem settles_powerOnSensors :
    Leads host (fun device => device.fitting = (board, sensors))
      (Settled (sensorResources sensors) [] True)
      (Settled (sensorResources sensors) (sensorResources sensors) True)
      (Settled (sensorResources sensors) [] True) powerOnSensors := by
  refine leads_powerOnSensors ?_
  refine (turns_powerOnEach answers (List.nodup_append.mp once).2.1).settles ordered_dark ?_ nofun
    fun _ _ => nofun
  refine SensorPower.asks_powerOnAfter leaves_traffic.wait (fun power member rail among => ?_)
    fun _ _ _ _ => leaves_disabling nofun
  exact leaves_enabling fun shared => sensors_apart once shared (mem_sensorResources member among)

theorem settles_powerOffSensors {failed : List Exchange → Prop} :
    Leads host (fun device => device.fitting = (board, sensors))
      (Settled (sensorResources sensors) (sensorResources sensors) True)
      (Settled (sensorResources sensors) [] True) failed powerOffSensors := by
  have sensorsOnce : (sensorResources sensors ++ []).Nodup := by
    simpa using (List.nodup_append.mp once).2.1
  refine (appends_powerOffSensors answers).settles (fun _ lit => ?_) ordered_dark ?_ nofun
    fun _ => sensors_apart once
  · exact Live.turnAllOff (by simpa using lit) sensorsOnce
  · exact asks_state.bind fun _ =>
      SensorPower.asks_powerOffEach fun _ _ _ _ => leaves_disabling nofun

theorem settles_powerOff
    (asserts : ∀ world, (host.answer (.setLine .reset true) world).1 = some (.ok ()))
    {failed : List Exchange → Prop} :
    Leads host (fun device => device.fitting = (board, sensors))
      (Settled (sensorResources sensors) (IspPower.resources ++ sensorResources sensors) False)
      (Settled (sensorResources sensors) (sensorResources sensors) True) failed
      (onPower IspPower.powerOff) :=
  Leads.act (fun _ => IspPower.leads_powerOff answers once asserts) fun _ _ => Iff.rfl

theorem settles_powerOffAll
    (asserts : ∀ world, (host.answer (.setLine .reset true) world).1 = some (.ok ()))
    {failed : List Exchange → Prop} :
    Leads host (fun device => device.fitting = (board, sensors))
      (Settled (sensorResources sensors) (IspPower.resources ++ sensorResources sensors) False)
      (Settled (sensorResources sensors) [] True) failed powerOffAll :=
  (settles_powerOff answers once asserts).bind fun _ => settles_powerOffSensors answers once

theorem settles_bootAttempts
    (asserts : ∀ world, (host.answer (.setLine .reset true) world).1 = some (.ok ()))
    (image : FirmwareImage) (number left : Nat) :
    Leads host (fun device => device.fitting = (board, sensors))
      (Settled (sensorResources sensors) (sensorResources sensors) True)
      (Settled (sensorResources sensors) (IspPower.resources ++ sensorResources sensors) False)
      (Settled (sensorResources sensors) [] True) (bootAttempts image number left) := by
  induction left generalizing number with
  | zero =>
      refine leads_note.bind fun _ => (settles_powerOffSensors answers once).bind fun _ => ?_
      exact (leads_setStage _).bind fun _ => leads_fail
  | succ left ih =>
      have powered : Leads host (fun device : Device => device.fitting = (board, sensors)) _ _ _
          (onPower IspPower.powerOn) :=
        Leads.act (fun _ => IspPower.leads_powerOn answers once) fun _ _ => Iff.rfl
      refine Leads.bind (powered.onError fun _ => ?_) fun _ => ?_
      · exact (settles_powerOffSensors answers once).bind fun _ => leads_setStage _
      refine Leads.bind (Leads.act (fun _ => leads_modify fun _ => id) fun _ _ => Iff.rfl)
        fun _ => (leads_setStage _).bind fun _ => ?_
      refine Leads.bind ((turns_detectAndLoad answers image).runs
        (asks_detectAndLoad leaves_traffic image)).attempt fun result => ?_
      cases result with
      | ok _ =>
          refine Leads.bind (((turns_stall answers).runs (asks_stall leaves_traffic)).onError
            fun _ => ?_) fun _ => leads_setStage _
          exact (settles_powerOffAll answers once asserts).bind fun _ => leads_setStage _
      | error error =>
          simp only
          split
          · refine leads_note.bind fun _ => ?_
            exact (settles_powerOff answers once asserts).bind fun _ => ih _
          · refine (settles_powerOffAll answers once asserts).bind fun _ => ?_
            exact (leads_setStage _).bind fun _ => leads_fail

theorem settles_boot
    (asserts : ∀ world, (host.answer (.setLine .reset true) world).1 = some (.ok ()))
    (image : FirmwareImage) :
    Leads host (fun device => device.fitting = (board, sensors))
      (Settled (sensorResources sensors) [] True)
      (Settled (sensorResources sensors) (IspPower.resources ++ sensorResources sensors) False)
      (Settled (sensorResources sensors) [] True) (boot image) :=
  ((settles_powerOnSensors answers once).onError fun _ => leads_setStage _).bind fun _ =>
    settles_bootAttempts answers once asserts image 1 attemptLimit

end Boot

variable {σ S : Type} {host : Host σ} {sensors : List Resource} {past : List Exchange}

theorem leaves_prepared {on off : List Resource} {request : Request} (prepares : request.Prepares) :
    Leaves on off True request := by
  cases request with
  | setLine line active =>
      refine leaves_line fun _ low => ?_
      obtain ⟨rfl, rfl⟩ := low
      cases prepares
  | findSupply consumer name => exact leaves_quiet (fun _ => rfl) fun _ => nofun
  | fetch name => exact leaves_quiet (fun _ => rfl) fun _ => nofun
  | _ => exact prepares.elim

theorem Settled.prepared {exchange : Exchange} (prepares : exchange.request.Prepares)
    (settled : Settled sensors [] True past) : Settled sensors [] True (past ++ [exchange]) :=
  settled.grown (grown_self.concat (leaves_prepared prepares)) ordered_dark nofun (fun _ _ => nofun)
    (lights_prepared past exchange prepares settled.lit)

theorem settled_nil : Settled sensors [] True [] where
  lit := live_nil
  held _ := nofun
  ordered := throughout_nil.mpr (ordered_dark [] ⟨nofun, fun _ _ => nofun, fun _ => nofun⟩)

section Detach

variable {board : Board} (answers : Answers host)
  (asserts : ∀ world, (host.answer (.setLine .reset true) world).1 = some (.ok ()))
  {config : BoardConfig} (accepted : Board.ofConfig config = .ok board)

include answers asserts accepted

theorem settles_attach (wiring : Wiring) (state : S) (start : σ) :
    (attach wiring config).Ends host.recording state (start, []) (Attached config
      (fun board => Settled board.sensorSupplies board.resources False)
      (Settled board.sensorSupplies [] True)) := by
  refine @attach_ends σ S host state (start, []) (Settled board.sensorSupplies [] True)
    answers (fun _ _ => Settled.prepared) config
    (fun board => Settled board.sensorSupplies board.resources False)
    (fun other same image => ?_) wiring settled_nil
  rw [accepted, Except.ok.injEq] at same
  subst same
  have once := Board.nodup_resources accepted
  rw [Board.resources_eq] at once ⊢
  rw [← Board.sensorResources_sensors]
  exact settles_boot answers once asserts image

theorem settles_detach {failed : List Exchange → Prop} :
    Leads host (fun device => device.fitting = (board, board.sensors))
      (Settled board.sensorSupplies board.resources False)
      (Settled board.sensorSupplies [] True) failed detach := by
  have once := Board.nodup_resources accepted
  rw [Board.resources_eq] at once ⊢
  rw [← Board.sensorResources_sensors]
  refine leads_note.bind fun _ => (settles_powerOffAll answers once asserts).bind fun _ => ?_
  exact leads_setStage _

end Detach

theorem settled_performEach {board : Board} {device : Device} {world : σ × List Exchange}
    (fits : device.fitting = (board, board.sensors))
    (settled : Settled board.sensorSupplies board.resources False world.2)
    (actions : List Action) :
    (Action.performEach host.recording actions device world).1.fitting =
        (board, board.sensors) ∧
      Settled board.sensorSupplies board.resources False
        (Action.performEach host.recording actions device world).2.2 := by
  obtain ⟨still, same⟩ := @performEach_keeps σ host world _ _ actions device fits (Eq.refl _)
  have grown := @performEach_grown σ host (Leaves board.resources [] False) leaves_traffic actions
    device world
  refine ⟨still, settled.grown grown ordered_running (fun _ => id) nofun ?_⟩
  rw [Lights, same]
  exact settled.lit

/-- Power is in order throughout the life of a device, if reset can always be asserted. At every
moment of an attach, of any actions and of the detach, the clock runs and reset is released only
while the supplies of the processor are on, and these are on only while those of all sensors are. -/
theorem power_ordered (answers : Answers host)
    (asserts : ∀ world, (host.answer (.setLine .reset true) world).1 = some (.ok ()))
    (wiring : Wiring) {config : BoardConfig} {board : Board}
    (accepted : Board.ofConfig config = .ok board) (state : S) (start : σ) :
    (attach wiring config).Ends host.recording state (start, []) fun outcome _ left =>
      Throughout (Ordered board.sensorSupplies) left.2 ∧
        match outcome with
        | .aborted => False
        | .failed _ => True
        | .done device =>
            ∀ actions, match Action.performEach host.recording actions device left with
              | (after, used) =>
                  Throughout (Ordered board.sensorSupplies) used.2 ∧
                    detach.Gives host.recording after used fun _ _ gone =>
                      Throughout (Ordered board.sensorSupplies) gone.2 := by
  refine (settles_attach answers asserts accepted wiring state start).mono ?_
  intro outcome _ left attached
  cases outcome with
  | done device =>
      obtain ⟨_, same, fits, settled⟩ := attached
      cases accepted.symm.trans same
      refine ⟨settled.ordered, fun actions => ?_⟩
      obtain ⟨still, used⟩ := @settled_performEach σ host board device left fits settled actions
      refine ⟨used.ordered, ?_⟩
      have down : Leads host _ _ _ (fun _ => False) detach :=
        settles_detach answers asserts accepted
      refine Ends.mono (down _ _ still used) ?_
      intro outcome _ gone ended
      cases outcome with
      | done _ => exact ended.2.ordered
      | failed error => exact ended.2
      | aborted => exact ended
  | failed error => exact ⟨attached.ordered, trivial⟩
  | aborted => exact attached.elim

/-- Power is in order while a device with two sensors is attached, streams and is let go. -/
theorem twoSensors_ordered :
    Answers steadyHost ∧
      (∀ world, (steadyHost.answer (.setLine .reset true) world).1 = some (.ok ())) ∧
      Board.ofConfig ⟨some "onnn,ar0144", [1, 0], 4⟩ = .ok ⟨.ar0144, [0, 1], 4⟩ ∧
      (attach ⟨true, true⟩ ⟨some "onnn,ar0144", [1, 0], 4⟩).Gives steadyHost.recording ()
        ((), []) fun device _ left =>
          match Action.performEach steadyHost.recording [.setStream true] device left with
          | (after, used) => detach.Gives steadyHost.recording after used fun _ _ gone =>
              Throughout (Ordered (Board.sensorSupplies ⟨.ar0144, [0, 1], 4⟩))
                gone.2 := by
  have accepted : Board.ofConfig ⟨some "onnn,ar0144", [1, 0], 4⟩ = .ok ⟨.ar0144, [0, 1], 4⟩ := rfl
  refine ⟨answers_steadyHost, fun _ => rfl, accepted, ?_⟩
  have ordered := power_ordered answers_steadyHost (fun _ => rfl) ⟨true, true⟩ accepted () ()
  have attached := twoSensors_attach
  unfold Routine.Gives
  unfold Routine.Ends at ordered attached ⊢
  generalize attach _ _ steadyHost.recording () ((), []) = run at ordered attached ⊢
  obtain ⟨outcome, after, left⟩ := run
  cases outcome with
  | done device => exact (ordered.2 [.setStream true]).2
  | failed error => cases attached
  | aborted => cases attached

end Device

end IspDriver
