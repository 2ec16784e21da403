import IspDriver.Proofs.Device.Action
import IspDriver.Proofs.Device.Boot
import IspDriver.Proofs.Power.Rails

/-!
An attach around its boot, on any host that answers. What the boot starts from has to outlast the
few requests that an attach makes besides; then it is also what an attach that fails leaves.
-/

namespace IspDriver

open Routine

/-- A request that an attach makes besides those of its boot. -/
def Request.Prepares : Request → Prop
  | .setLine .reset active => active = true
  | .setLine .enable _ | .findSupply _ _ | .fetch _ => True
  | _ => False

namespace Device

variable {σ S α : Type} {host : Host σ} {fact : S → Prop} {state : S} {world : σ × List Exchange}
  {before failed : List Exchange → Prop}

theorem leads_noteAll (remarks : List Note) :
    Leads host fact before before failed (Board.noteAll remarks) := by
  induction remarks with
  | nil => exact leads_done
  | cons remark rest ih => exact leads_note.bind fun _ => ih

/-- What is claimed is known beforehand, and the record is still like `kept`. -/
def Claimed (kept : List Exchange → Prop) (claimed : α) : Outcome α → S → σ × List Exchange → Prop
  | .done value => fun _ left => value = claimed ∧ kept left.2
  | .failed _ => fun _ left => kept left.2
  | .aborted => fun _ _ => False

/-- What is left of an attach: a device with what the board needs, or nothing. -/
def Attached (config : BoardConfig) (succeeded : Board → List Exchange → Prop)
    (failed : List Exchange → Prop) : Outcome Device → S → σ × List Exchange → Prop
  | .done device => fun _ left =>
      ∃ board, Board.ofConfig config = .ok board ∧ device.fitting = (board, board.sensors) ∧
        succeeded board left.2
  | .failed _ => fun _ left => failed left.2
  | .aborted => fun _ _ => False

theorem cleaned_ends {config : BoardConfig} {board : Board}
    {succeeded : Board → List Exchange → Prop} {hasStandby : Bool}
    {cleanup : Error → Routine (σ × List Exchange) S Unit}
    (run : (bringUp hasStandby board).Ends host.recording state world
      (Attached config succeeded before))
    (cleaned : ∀ error, Leads host (fun _ => True) before before before (cleanup error)) :
    (onError (bringUp hasStandby board) cleanup).Ends host.recording state world
      (Attached config succeeded before) := by
  refine ends_onError.mpr (run.mono ?_)
  intro outcome after left attached
  cases outcome with
  | done device => exact attached
  | failed error =>
      refine (cleaned error after left trivial attached).mono ?_
      intro outcome _ gone ended
      cases outcome with
      | done _ => exact ended.2
      | failed error => exact ended.2
      | aborted => exact ended
  | aborted => exact attached

variable (answers : Answers host)
  (prepared : ∀ past exchange, exchange.request.Prepares → before past → before (past ++ [exchange]))

include answers prepared

theorem leads_prepared {request : Request} {result : Reply request → Except Error α}
    (prepares : request.Prepares) :
    Leads host fact before before before (do ofExcept (result (← ask request))) :=
  leads_request answers fun past reply => prepared past ⟨request, reply⟩ prepares

theorem leads_findAll (complaint : Rail → String) (rails : List Rail) :
    Leads host fact before before before (Rail.findAll complaint rails) := by
  induction rails with
  | nil => exact leads_done
  | cons rail rest ih =>
      have found : Leads host fact before before before
          (Host.findSupply rail.consumer rail.name) := leads_prepared answers prepared trivial
      exact (found.onError fun _ => leads_note).bind fun _ => ih

theorem claimSensor_ends (label : String) (model : SensorModel) (start : before world.2) :
    (SensorPower.claim label model).Ends host.recording state world
      (Claimed before ⟨label, SensorPower.railsOf label model⟩) := by
  have found := @leads_findAll σ S host (fun _ => True) before answers prepared
    (fun rail => s!"Failed to get supply {rail.name} for sensor {label}")
    (SensorPower.railsOf label model) state world trivial start
  exact found.bind (fun _ _ _ kept => ⟨rfl, kept.2⟩) (fun _ _ _ kept => kept.2)
    (fun _ _ never => never)

theorem claimSensors_ends (model : SensorModel) (ports : List UInt32) (start : before world.2) :
    (claimSensors model ports).Ends host.recording state world
      (Claimed before (Board.sensors ⟨model, ports, 1⟩)) := by
  induction ports generalizing state world with
  | nil => exact ⟨rfl, start⟩
  | cons port rest ih =>
      refine (claimSensor_ends answers prepared _ model start).bind ?_ (fun _ _ _ kept => kept)
        (fun _ _ never => never)
      intro power after left claimed
      obtain ⟨rfl, start⟩ := claimed
      refine (ih start).bind ?_ (fun _ _ _ kept => kept) (fun _ _ never => never)
      intro sensors after left claimed
      obtain ⟨rfl, start⟩ := claimed
      exact ⟨rfl, start⟩

theorem leads_fetchImage (model : SensorModel) (sensors : Nat) :
    Leads host fact before before before (Firmware.fetchImage model sensors) := by
  have fetched : ∀ name, Leads host fact before before before (Host.fetch name) :=
    fun name => leads_prepared answers prepared trivial
  refine Leads.bind (leads_of_keeps keeps_ofExcept) fun name => leads_note.bind fun _ => ?_
  refine (fetched name).bind fun data => (leads_of_keeps keeps_ofExcept).bind fun image => ?_
  split
  · exact leads_note.bind fun _ => leads_done
  · exact leads_done

theorem bringUp_ends {config : BoardConfig} {board : Board}
    {succeeded : Board → List Exchange → Prop} (accepted : Board.ofConfig config = .ok board)
    (boots : ∀ image, Leads host (fun device => device.fitting = (board, board.sensors)) before
      (succeeded board) before (boot image))
    (hasStandby : Bool) (start : before world.2) :
    (bringUp hasStandby board).Ends host.recording state world
      (Attached config succeeded before) := by
  have held : Leads host (fun _ : S => True) before before before (Host.setLine .reset true) :=
    leads_prepared answers prepared (Eq.refl true)
  have claimed : Leads host (fun _ : S => True) before before before (IspPower.claim hasStandby) :=
    held.bind fun _ => (leads_findAll answers prepared _ _).bind fun _ => leads_done
  refine (claimed state world trivial start).bind ?_ (fun _ _ _ kept => kept.2)
    (fun _ _ never => never)
  intro power _ _ kept
  refine (claimSensors_ends answers prepared board.model board.ports kept.2).bind ?_
    (fun _ _ _ kept => kept) (fun _ _ never => never)
  intro sensors _ left claimed
  obtain ⟨rfl, start⟩ := claimed
  have fetched := @leads_fetchImage σ S host (fun _ => True) before answers prepared board.model
    board.ports.length
  refine (fetched _ left trivial start).bind ?_ (fun _ _ _ kept => kept.2) (fun _ _ never => never)
  intro image _ _ kept
  refine ends_bind.mpr (ends_note.mpr ?_)
  simp only [followed]
  rw [ends_bind, ends_startingFrom]
  refine Ends.mono (boots image _ _ rfl kept.2) ?_
  intro outcome device left ended
  cases outcome with
  | done _ => exact ⟨board, accepted, ended⟩
  | failed error => exact ended.2
  | aborted => exact ended

theorem attach_ends {config : BoardConfig} {succeeded : Board → List Exchange → Prop}
    (boots : ∀ board, Board.ofConfig config = .ok board → ∀ image,
      Leads host (fun device => device.fitting = (board, board.sensors)) before (succeeded board)
        before (boot image))
    (wiring : Wiring) (start : before world.2) :
    (attach wiring config).Ends host.recording state world (Attached config succeeded before) := by
  have moved : ∀ active, Leads host (fun _ : S => True) before before before
      (Host.setLine .enable active) := fun active => leads_prepared answers prepared trivial
  have noted := @leads_noteAll σ S host (fun _ => True) before before (Board.remarks config) state
    world trivial start
  refine ends_bind.mpr (ends_bind.mpr (noted.mono ?_))
  intro outcome after left ended
  cases outcome with
  | done _ =>
      simp only [followed]
      rw [ends_ofExcept]
      cases accepted : Board.ofConfig config with
      | error error => exact ended.2
      | ok board =>
          simp only [followed]
          split
          · refine (moved true after left trivial ended.2).bind ?_ (fun _ _ _ kept => kept.2)
              (fun _ _ never => never)
            intro _ _ _ kept
            refine cleaned_ends (bringUp_ends answers prepared accepted
              (boots board accepted) _ kept.2) fun error => ?_
            refine (moved false).attempt.bind fun result => ?_
            cases result with
            | ok _ => exact leads_done
            | error error => exact leads_note
          · exact cleaned_ends (bringUp_ends answers prepared accepted
              (boots board accepted) _ ended.2) fun _ => leads_done
  | failed error => exact ended.2
  | aborted => exact ended

end Device

end IspDriver
