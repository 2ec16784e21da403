import IspDriver.Proofs.Device.Stream
import IspDriver.Proofs.Sensor.ProbeAddress

/-!
The debug probe of a device. The address in force is the last one that was accepted, whatever else
was done to the device, and an access through the probe is an access to the sensor register that the
accepted word names.
-/

namespace IspDriver.Device

open Routine Simulation

variable {σ : Type} {host : Host σ} {device : Device} {world : σ} {address : ProbeAddress}
  {value : UInt32}

/-- The probe address in force after an action. -/
def Action.chosen (before : Option ProbeAddress) : Action → Option ProbeAddress
  | setProbe value =>
      match ProbeAddress.decode value with
      | .ok address => some address
      | .error _ => before
  | _ => before

/-- A word that no probe address has. -/
def Rejected (word : UInt32) : Prop :=
  ∀ address, ProbeAddress.decode word ≠ .ok address

/-- Choosing an address takes its word apart; nothing is asked of the host. -/
theorem setProbe_run (value : UInt32) :
    setProbe value host device world =
      match ProbeAddress.decode value with
      | .ok address => (.done address, { device with probe? := some address },
          host.note ⟨.debug, "Debug probe address set to " ++ address.text⟩ world)
      | .error error => (.failed error, device, world) := by
  unfold setProbe
  cases ProbeAddress.decode value with
  | ok address => rfl
  | error error => rfl

theorem Action.perform_probe (action : Action) :
    (action.perform host device world).2.1.probe? = action.chosen device.probe? := by
  cases action with
  | setProbe value =>
      have run := @setProbe_run σ host device world value
      simp only [perform, chosen, bind, andThen]
      rw [run]
      cases ProbeAddress.decode value with
      | ok address => rfl
      | error error => rfl
  | _ =>
      refine @perform_unseen _ _ host Device.probe? _ _ _ ⟨fun _ _ => rfl, ?_⟩
      first | trivial | exact fun _ _ => rfl

theorem Action.performEach_probe (actions : List Action) :
    (performEach host actions device world).1.probe? =
      actions.foldl Action.chosen device.probe? := by
  induction actions generalizing device world with
  | nil => rfl
  | cons action rest ih =>
      have first := @perform_probe σ host device world action
      simp only [performEach, List.foldl_cons, ← first]
      exact ih

/-- Words that are no address leave the one in force. -/
theorem chosenEach_of_rejected {actions : List Action} {before : Option ProbeAddress}
    (rejected : ∀ word, .setProbe word ∈ actions → Rejected word) :
    actions.foldl Action.chosen before = before := by
  induction actions with
  | nil => rfl
  | cons action rest ih =>
      have kept : action.chosen before = before := by
        cases action with
        | setProbe word =>
            have none := rejected word (by simp)
            simp only [Action.chosen]
            cases read : ProbeAddress.decode word with
            | ok address => exact absurd read (none address)
            | error error => rfl
        | _ => rfl
      rw [List.foldl_cons, kept]
      exact ih fun word member => rejected word (List.mem_cons_of_mem _ member)

theorem requireProbe_bind {α : Type} (inForce : device.probe? = some address)
    (next : ProbeAddress → Operation σ α) :
    (requireProbe >>= next) host device world = next address host device world := by
  simp only [requireProbe, bind, andThen, state, inForce, pure, done]

theorem readProbe_of_inForce (inForce : device.probe? = some address) :
    readProbe host device world =
      readSensor address.port address.register host device world :=
  requireProbe_bind inForce _

theorem writeProbe_of_inForce (inForce : device.probe? = some address) (written : UInt32) :
    writeProbe written host device world =
      writeSensor address.port address.register written host device world :=
  requireProbe_bind inForce _

/-- The words that are addresses are those with clear spare bits and a width of one or two; each is
written again as it was read, and each address is read again as it was written. From the choice of
one of them on, whatever is done to a device in between, and however many words are rejected, an
access through the probe is, on any host, the access to the sensor register that the word names. -/
theorem probe_reaches_register :
    (∀ value, ((∃ address, ProbeAddress.decode value = .ok address) ↔
      value &&& ~~~0x8700ffff = 0 ∧ ((value >>> 24) &&& 7 = 1 ∨ (value >>> 24) &&& 7 = 2)) ∧
      ∀ address, ProbeAddress.decode value = .ok address →
        address.encode = value ∧ (address.port = 0 ∨ address.port = 1) ∧
          address.port = value >>> 31 ∧ address.register.page = 0 ∧
          address.register.width = (value >>> 24) &&& 7 ∧
          address.register.offset = value.toUInt16) ∧
    (∀ (port width : UInt32) (offset : UInt16), port = 0 ∨ port = 1 → width = 1 ∨ width = 2 →
      ProbeAddress.decode (ProbeAddress.encode ⟨port, .ofWidth width offset.toUInt32⟩) =
        .ok ⟨port, .ofWidth width offset.toUInt32⟩) ∧
    ∀ (σ : Type) (host : Host σ) (device : Device) (world : σ),
      (∀ value, (setProbe value host device world).1 = .ofReply (some (ProbeAddress.decode value)) ∧
        (Rejected value → (setProbe value host device world).2 = (device, world))) ∧
      ∀ (before after : List Action) (value : UInt32), ¬ Rejected value →
        (∀ word, .setProbe word ∈ after → Rejected word) →
        match Action.performEach host (before ++ .setProbe value :: after) device world with
        | (later, left) =>
            readProbe host later left = readSensor (value >>> 31)
              (.ofWidth ((value >>> 24) &&& 7) (value &&& 0xffff)) host later left ∧
            ∀ written, writeProbe written host later left = writeSensor (value >>> 31)
              (.ofWidth ((value >>> 24) &&& 7) (value &&& 0xffff)) written host later left := by
  refine ⟨fun value => ⟨?_, fun address read => ?_⟩, fun port width offset place size => ?_,
    fun σ host device world => ⟨fun value => ?_, fun before after value accepted rejected => ?_⟩⟩
  · simp only [ProbeAddress.decode_eq_ok_iff, exists_and_left, exists_eq, and_true]
    rfl
  · obtain ⟨formed, port, width, offset⟩ := ProbeAddress.wellFormed_of_decode read
    exact ⟨ProbeAddress.encode_of_decode read, formed.port, port, formed.direct, width, offset⟩
  · have small : width.toNat < 2 ^ 8 := by rcases size with rfl | rfl <;> decide
    apply ProbeAddress.decode_encode
    exact ⟨place, by rwa [Register.width_ofWidth small], Register.page_ofWidth small⟩
  · rw [setProbe_run]
    cases read : ProbeAddress.decode value with
    | ok address => exact ⟨rfl, fun rejected => absurd read (rejected address)⟩
    | error error => exact ⟨rfl, fun _ => rfl⟩
  · obtain ⟨address, read⟩ := not_forall_not.mp accepted
    have inForce := @Action.performEach_probe σ host device world
      (before ++ .setProbe value :: after)
    rw [List.foldl_append, List.foldl_cons, chosenEach_of_rejected rejected, Action.chosen, read]
      at inForce
    obtain ⟨-, -, rfl⟩ := ProbeAddress.decode_eq_ok_iff.mp read
    rw [Bytes.and_mask_eq_narrow]
    exact ⟨readProbe_of_inForce inForce, fun written => writeProbe_of_inForce inForce written⟩

/-- Whether an attach succeeded. -/
def attachedAt : Outcome Device × Unit × Bench → Option Unit
  | (.done _, _, _) => some ()
  | _ => none

/-- A device that chose a register of two bytes, started its stream and was then given a word with a
spare bit set. -/
theorem oneSensor_probed :
    ProbeAddress.decode (ProbeAddress.encode ⟨1, .ofWidth 2 (0xffff : UInt16).toUInt32⟩) =
        .ok ⟨1, .ofWidth 2 (0xffff : UInt16).toUInt32⟩ ∧
      ¬ Rejected 0x02003012 ∧ Rejected 0x02013012 ∧
      (attach ⟨true, true⟩ oneSensor).Gives Bench.host () stockedBench fun device _ left =>
        match Action.performEach Bench.host
          [.setProbe 0x02003012, .setStream true, .setProbe 0x02013012] device left with
        | (later, final) =>
            readProbe Bench.host later final = readSensor 0 (.of16 0x3012) Bench.host later final := by
  have known : ProbeAddress.decode 0x02003012 = .ok ⟨0, .of16 0x3012⟩ := by decide
  have accepted : ¬ Rejected 0x02003012 := fun rejected => rejected _ known
  have refused : ProbeAddress.decode 0x02013012 =
      .error (.invalidArgument (.probeReservedBits 0x02013012)) := by decide
  have rejected : Rejected 0x02013012 := by
    intro address read
    rw [refused] at read
    cases read
  refine ⟨probe_reaches_register.2.1 1 2 0xffff (.inr rfl) (.inr rfl), accepted, rejected, ?_⟩
  have port : (0x02003012 : UInt32) >>> 31 = 0 := by decide
  have register : Register.ofWidth (((0x02003012 : UInt32) >>> 24) &&& 7)
      ((0x02003012 : UInt32) &&& 0xffff) = .of16 0x3012 := by decide
  have reaches (device : Device) (left : Bench) :=
    (probe_reaches_register.2.2 Bench Bench.host device left).2 []
      [.setStream true, .setProbe 0x02013012] 0x02003012 accepted (by simpa using rejected)
  simp only [port, register, List.nil_append] at reaches
  have attached : attachedAt (attach ⟨true, true⟩ oneSensor Bench.host () stockedBench) = some () := by
    decide +kernel
  have run : (attach ⟨true, true⟩ oneSensor).Ends Bench.host () stockedBench fun _ _ _ => True :=
    ends_of_all fun _ _ _ => trivial
  have anyway : (attach ⟨true, true⟩ oneSensor).Yields Bench.host () stockedBench fun _ _ _ => True :=
    run.yields fun _ _ _ _ => trivial
  refine anyway.gives_of_seen attached (fun _ _ _ => rfl) (fun _ _ => rfl) ?_
  intro device _ left _ _
  exact (reaches device left).1

end IspDriver.Device
