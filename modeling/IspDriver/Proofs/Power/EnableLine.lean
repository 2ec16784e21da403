import IspDriver.Proofs.Power.Balance
import IspDriver.Proofs.Power.Requests

/-!
The enable line of the processor over the life of a device. The first request of an attach makes it
active; nothing that follows moves it, up to the last request of an attach that fails, which makes
it inactive again. A detach does not move it either.
-/

namespace IspDriver

open Routine

/-- The request does not move this line. -/
def Request.Spares (line : Line) (request : Request) : Prop :=
  ∀ active, request ≠ .setLine line active

/-- The line is active, and has been since the first request of all. -/
structure Line.Held (line : Line) (past : List Exchange) : Prop where
  now : line.level? past = some true
  always : ∀ front, front <+: past → front ≠ [] → line.level? front = some true

variable {line other : Line} {past later : List Exchange} {exchange : Exchange}

theorem moved?_of_spares (spares : exchange.request.Spares line) : exchange.moved? line = none := by
  obtain ⟨request, reply⟩ := exchange
  cases request with
  | setLine moved active =>
      have apart : moved ≠ line := fun same => spares active (by rw [same])
      rcases reply with _ | _ | _ <;> simp [Exchange.moved?, apart]
  | _ => rfl

theorem spares_setLine (apart : other ≠ line) (active : Bool) :
    (Request.setLine other active).Spares line := by
  intro level same
  cases same
  exact apart rfl

theorem spares_traffic : AllowsTraffic (Request.Spares line) where
  read _ _ _ := nofun
  write _ _ _ := nofun
  wait _ _ := nofun

theorem Line.held_start : line.Held [⟨.setLine line true, some (.ok ())⟩] where
  now := by simp [level?, Exchange.moved?]
  always front early some := by
    rcases List.prefix_cons_iff.mp early with rfl | ⟨rest, rfl, nothing⟩
    · exact absurd rfl some
    · rw [List.prefix_nil.mp nothing]
      simp [level?, Exchange.moved?]

theorem Line.Held.concat (held : line.Held past) (spares : exchange.request.Spares line) :
    line.Held (past ++ [exchange]) := by
  have now : line.level? (past ++ [exchange]) = some true := by
    simp [level?_concat, moved?_of_spares spares, held.now]
  refine ⟨now, fun front early some => ?_⟩
  rcases List.prefix_concat_iff.mp early with rfl | early
  · exact now
  · exact held.always front early some

theorem Grown.held (grown : Grown (Request.Spares line) past later) (held : line.Held past) :
    line.Held later :=
  grown.keeps (fun _ _ spares held => held.concat spares) held

variable {σ S : Type} {host : Host σ}

namespace IspPower

theorem spares_release :
    Asks host (Request.Spares .enable) release := by
  have moves : ∀ active, Asks host (Request.Spares .enable)
      (Host.setLine .reset active : Routine _ IspPower Unit) := fun active =>
    asks_request (spares_setLine (by decide) active)
  have starts : Asks host (Request.Spares .enable) (Host.enableClock : Routine _ IspPower Unit) :=
    asks_request fun _ => nofun
  have stops : Asks host (Request.Spares .enable) (Host.disableClock : Routine _ IspPower Unit) :=
    asks_ask fun _ => nofun
  refine (asks_moveStandby (spares_setLine (by decide) _) spares_traffic.wait).bind fun _ => ?_
  refine (starts.onError fun _ => asks_note).bind fun _ => ?_
  exact ((moves false).onError fun _ => stops).bind fun _ => asks_ask (spares_traffic.wait _)

theorem spares_powerOn : Asks host (Request.Spares .enable) powerOn := by
  refine asks_note.bind fun _ => ?_
  refine (asks_moveStandby (spares_setLine (by decide) _) spares_traffic.wait).bind fun _ => ?_
  have supplies : Asks host (Request.Spares .enable)
      (Rail.enableAll "ISP" (fun rail => "Failed to enable ISP supply " ++ rail.name) rails :
        Routine _ IspPower Unit) :=
    Rail.asks_enableAll spares_traffic.wait (fun _ _ _ => nofun) fun _ _ _ => nofun
  refine supplies.bind fun _ => Asks.bind (spares_release.onError fun _ => ?_) fun _ => asks_modify
  exact Rail.asks_disableAll fun _ _ _ => nofun

theorem spares_powerOff : Asks host (Request.Spares .enable) powerOff := by
  have tries : ∀ line active complaint, line ≠ Line.enable →
      Asks host (Request.Spares .enable) (tryLine line active complaint) :=
    fun line active complaint apart => asks_tryLine (spares_setLine apart active)
  have waits : Asks host (Request.Spares .enable)
      (Host.wait standbyMicroseconds : Routine _ IspPower Unit) :=
    asks_ask (spares_traffic.wait _)
  have supplies : Asks host (Request.Spares .enable)
      (Rail.disableAll "ISP" rails : Routine _ IspPower Unit) :=
    Rail.asks_disableAll fun _ _ _ => nofun
  refine asks_note.bind fun _ => (tries .reset _ _ (by decide)).bind fun _ => ?_
  refine (asks_ask fun _ => nofun).bind fun _ => asks_state.bind fun power => ?_
  cases power.hasStandby with
  | false => exact supplies.bind fun _ => asks_modify
  | true =>
      refine (tries .standby _ _ (by decide)).bind fun _ => waits.bind fun _ => ?_
      refine supplies.bind fun _ => waits.bind fun _ => ?_
      exact (tries .standby _ _ (by decide)).bind fun _ => asks_modify

end IspPower

namespace Device

theorem spares_powerOffSensors : Asks host (Request.Spares .enable) powerOffSensors :=
  asks_state.bind fun _ => SensorPower.asks_powerOffEach fun _ _ _ _ _ => nofun

theorem spares_powerOnSensors : Asks host (Request.Spares .enable) powerOnSensors :=
  asks_state.bind fun _ => SensorPower.asks_powerOnAfter spares_traffic.wait
    (fun _ _ _ _ _ => nofun) fun _ _ _ _ _ => nofun

theorem spares_powerOffAll : Asks host (Request.Spares .enable) powerOffAll :=
  (Asks.act IspPower.spares_powerOff).bind fun _ => spares_powerOffSensors

theorem spares_bootAttempts (image : FirmwareImage) (number left : Nat) :
    Asks host (Request.Spares .enable) (bootAttempts image number left) := by
  induction left generalizing number with
  | zero =>
      refine asks_note.bind fun _ => spares_powerOffSensors.bind fun _ => ?_
      exact asks_setStage.bind fun _ => asks_fail
  | succ left ih =>
      refine Asks.bind (Asks.onError (Asks.act IspPower.spares_powerOn) fun _ => ?_) fun _ => ?_
      · exact spares_powerOffSensors.bind fun _ => asks_setStage
      refine (Asks.act asks_modify).bind fun _ => asks_setStage.bind fun _ => ?_
      refine (asks_detectAndLoad spares_traffic image).attempt.bind fun result => ?_
      cases result with
      | ok _ =>
          refine Asks.bind ((asks_stall spares_traffic).onError fun _ => ?_) fun _ => asks_setStage
          exact spares_powerOffAll.bind fun _ => asks_setStage
      | error error =>
          simp only
          split
          · refine asks_note.bind fun _ => ?_
            exact (Asks.act IspPower.spares_powerOff).bind fun _ => ih _
          · refine spares_powerOffAll.bind fun _ => asks_setStage.bind fun _ => ?_
            exact asks_fail

theorem spares_claimSensors (model : SensorModel) (ports : List UInt32) :
    Asks host (Request.Spares .enable) (claimSensors model ports : Routine _ S _) := by
  induction ports with
  | nil => exact asks_done
  | cons port rest ih =>
      refine Asks.bind ?_ fun power => ih.bind fun more => asks_done
      exact (Rail.asks_findAll fun _ _ => nofun).bind fun _ => asks_done

theorem spares_fetchImage (model : SensorModel) (sensors : Nat) :
    Asks host (Request.Spares .enable) (Firmware.fetchImage model sensors : Routine _ S _) := by
  have fetched : ∀ name, Asks host (Request.Spares .enable) (Host.fetch name : Routine _ S _) :=
    fun name => asks_request fun _ => nofun
  refine asks_ofExcept.bind fun name => asks_note.bind fun _ => (fetched name).bind fun data => ?_
  refine asks_ofExcept.bind fun image => ?_
  split
  · exact asks_note.bind fun _ => asks_done
  · exact asks_done

theorem spares_bringUp (hasStandby : Bool) (board : Board) :
    Asks host (Request.Spares .enable) (bringUp hasStandby board : Routine _ S Device) := by
  have claimed : Asks host (Request.Spares .enable)
      (IspPower.claim hasStandby : Routine _ S IspPower) :=
    (asks_request (spares_setLine (by decide) _)).bind fun _ =>
      (Rail.asks_findAll fun _ _ => nofun).bind fun _ => asks_done
  have booted : ∀ image, Asks host (Request.Spares .enable) (boot image) := fun image =>
    (spares_powerOnSensors.onError fun _ => asks_setStage).bind fun _ =>
      spares_bootAttempts image 1 attemptLimit
  refine claimed.bind fun power => (spares_claimSensors _ _).bind fun sensors => ?_
  refine (spares_fetchImage _ _).bind fun image => asks_note.bind fun _ => ?_
  exact (booted image).startingFrom.bind fun _ => asks_done

theorem spares_detach : Asks host (Request.Spares .enable) detach :=
  asks_note.bind fun _ => spares_powerOffAll.bind fun _ => asks_setStage

variable {state : S} {world : σ × List Exchange}

theorem letGo_gives
    (moves : ∀ world, (host.answer (.setLine .enable false) world).1 = some (.ok ()))
    (complaint : Error → String) :
    (do match ← attempt (Host.setLine .enable false) with
      | .ok () => done ()
      | .error error => note .warn (complaint error) : Routine _ S Unit).Gives host.recording state
      world fun _ _ left => left.2 = world.2 ++ [⟨.setLine .enable false, some (.ok ())⟩] := by
  refine (setLine_gives moves).attempt.bind fun result after left moved => ?_
  obtain ⟨_, rfl, -, past⟩ := moved
  exact past

/-- What an attach leaves of the enable line. -/
def LineAfter : Outcome Device → S → σ × List Exchange → Prop
  | .done _ => fun _ left => Line.enable.Held left.2
  | .failed _ => fun _ left =>
      Line.enable.level? left.2 ≠ some true ∧ (left.2 = [] ∨ Line.enable.Held left.2.dropLast)
  | .aborted => fun _ _ => True

theorem attach_line
    (moves : ∀ active world, (host.answer (.setLine .enable active) world).1 = some (.ok ()))
    {wiring : Wiring} (wired : wiring.hasEnable = true) (config : BoardConfig) (start : σ) :
    (attach wiring config).Ends host.recording state (start, []) LineAfter := by
  have noted := @leads_noteAll σ S host (fun _ => True) (· = []) (· = [])
    (Board.remarks config) state (start, []) trivial rfl
  refine ends_bind.mpr (ends_bind.mpr (noted.mono ?_))
  intro outcome after left ended
  cases outcome with
  | done _ =>
      obtain ⟨-, nothing⟩ := ended
      simp only [followed]
      rw [ends_ofExcept]
      cases Board.ofConfig config with
      | error error => exact ⟨by rw [nothing]; rintro ⟨⟩, .inl nothing⟩
      | ok board =>
          simp only [followed, wired, if_true]
          refine (setLine_gives (moves true)).bind fun _ middle raised moved => ?_
          have held : Line.enable.Held raised.2 := by
            rw [moved.2, nothing]
            exact Line.held_start
          refine ends_onError.mpr (((spares_bringUp _ board).ends middle raised).mono ?_)
          intro outcome after gone grown
          cases outcome with
          | done device => exact grown.held held
          | failed error =>
              refine Ends.mono (letGo_gives (moves false) _) ?_
              intro outcome _ released ended
              cases outcome with
              | done _ =>
                  refine ⟨?_, .inr ?_⟩
                  · rw [ended, Line.level?_concat]
                    rintro ⟨⟩
                  · rw [ended, List.dropLast_concat]
                    exact grown.held held
              | failed error => exact ended.elim
              | aborted => trivial
          | aborted => trivial
  | failed error => exact ⟨by rw [ended.2]; rintro ⟨⟩, .inl ended.2⟩
  | aborted => trivial

/-- The enable line is active from the first request of an attach on. An attach that fails makes it
inactive with its last request, unless the board was refused before anything was asked for. After
one that succeeds it stays active, through any actions, and also through the detach. -/
theorem enable_held (answers : Answers host)
    (moves : ∀ active world, (host.answer (.setLine .enable active) world).1 = some (.ok ()))
    (wiring : Wiring) (wired : wiring.hasEnable = true) (config : BoardConfig) (state : S)
    (start : σ) :
    (attach wiring config).Ends host.recording state (start, []) fun outcome _ left =>
      match outcome with
      | .aborted => False
      | .failed _ =>
          Line.enable.level? left.2 ≠ some true ∧
            (left.2 = [] ∨ Line.enable.Held left.2.dropLast)
      | .done device =>
          Line.enable.Held left.2 ∧
            ∀ actions, match Action.performEach host.recording actions device left with
              | (after, used) => Line.enable.Held used.2 ∧
                  detach.Gives host.recording after used fun _ _ gone =>
                    Line.enable.Held gone.2 := by
  have lit : Lit [] (start, ([] : List Exchange)) := live_nil
  have attached := @attach_lights σ S host state _ answers wiring config lit
  refine (attached.and (attach_line moves wired config start)).mono ?_
  intro outcome _ left ended
  cases outcome with
  | done device =>
      obtain ⟨⟨board, accepted, fits, -⟩, held⟩ := ended
      refine ⟨held, fun actions => ?_⟩
      have still := (@performEach_keeps σ host left _ _ actions device fits (Eq.refl _)).1
      have used := (@performEach_grown σ host _ spares_traffic actions device left).held held
      generalize Action.performEach host.recording actions device left = run at still used ⊢
      refine ⟨used, ?_⟩
      have gone := (appends_detach answers _ _ still).keeping (spares_detach run.2.2) grown_self
      exact gone.mono fun _ _ _ ended => ended.1.held used
  | failed error => exact ended.2
  | aborted => exact ended.1.elim

/-- Whether the enable line is active after a device was attached, and then after a detach. -/
def levelsAfter : Outcome Device × Unit × Unit × List Exchange → Option (Option Bool × Option Bool)
  | (.done device, _, left) =>
      match detach steadyHost.recording device left with
      | (_, _, gone) => some (Line.enable.level? left.2, Line.enable.level? gone.2)
  | _ => none

theorem steady_moves (active : Bool) (world : Unit) :
    (steadyHost.answer (.setLine .enable active) world).1 = some (.ok ()) :=
  rfl

theorem levelsAfter_oneSensor :
    levelsAfter
        (attach ⟨true, true⟩ ⟨some "onnn,ar0144", [0], 4⟩ steadyHost.recording () ((), [])) =
      some (some true, some true) := by
  decide +kernel

/-- A device that streamed and is let go has held its enable line to the end, and still does. -/
theorem oneSensor_holds_enable :
    Answers steadyHost ∧
      (∀ active world, (steadyHost.answer (.setLine .enable active) world).1 = some (.ok ())) ∧
      (attach ⟨true, true⟩ ⟨some "onnn,ar0144", [0], 4⟩).Gives steadyHost.recording () ((), [])
        fun device _ left => Line.enable.Held left.2 ∧
          match Action.performEach steadyHost.recording [.setStream true] device left with
          | (after, used) => detach.Gives steadyHost.recording after used
              fun _ _ gone => Line.enable.Held gone.2 := by
  refine ⟨answers_steadyHost, steady_moves, ?_⟩
  have held := enable_held answers_steadyHost steady_moves ⟨true, true⟩ rfl
    ⟨some "onnn,ar0144", [0], 4⟩ () ()
  have attached := held.yields fun _ _ _ ended => ended
  refine attached.gives_of_seen levelsAfter_oneSensor (fun _ _ _ => rfl) (fun _ _ => rfl) ?_
  intro device _ left _ held
  exact ⟨held.1, (held.2 [.setStream true]).2⟩

/-- The enable line is not inactive again once the device is gone. -/
theorem enable_outlives_device :
    ¬ ∀ (host : Host Unit), Answers host →
      (∀ active world, (host.answer (.setLine .enable active) world).1 = some (.ok ())) →
        ∀ (wiring : Wiring), wiring.hasEnable = true → ∀ config : BoardConfig,
          (attach wiring config).Yields host.recording () ((), []) fun device _ left =>
            detach.Gives host.recording device left fun _ _ gone =>
              Line.enable.level? gone.2 ≠ some true := by
  intro released
  have gone := released steadyHost answers_steadyHost steady_moves ⟨true, true⟩ rfl
    ⟨some "onnn,ar0144", [0], 4⟩
  refine gone.false_of_seen levelsAfter_oneSensor (fun _ _ _ => rfl) (fun _ _ => rfl) ?_
  intro device _ left shown gone
  simp only [levelsAfter, Option.some.injEq, Prod.mk.injEq] at shown
  obtain ⟨_, -, inactive⟩ := Gives.ends gone
  exact inactive shown.2

end Device

end IspDriver
