import IspDriver.Proofs.Device.Traffic

/-!
Everything that can be asked of a device while it is attached, as data, so that statements can be
about any course of actions. An action keeps what it neither changes in the device nor reaches on
the bus, and what every register access keeps.
-/

namespace IspDriver.Device

open Routine

/-- An operation that a device offers. -/
inductive Action where
  | setStream (enable : Bool)
  | tryFormat (pad : Pad) (requested : PadFormat)
  | setFormat (pad : Pad) (requested : PadFormat)
  | control (id : ControlId)
  | setControl (id : ControlId) (requested : Int32)
  | readRegister (register : Register)
  | writeRegister (register : Register) (value : UInt32)
  | readSensor (port : UInt32) (register : Register)
  | writeSensor (port : UInt32) (register : Register) (value : UInt32)
  | setProbe (value : UInt32)
  | readProbe
  | writeProbe (value : UInt32)
  | console
  | status
  | lanes (port : UInt32)
deriving DecidableEq, Repr

namespace Action

variable {σ : Type}

/-- The operation, without its value. -/
def perform : Action → Operation σ Unit
  | setStream enable => Device.setStream enable
  | tryFormat pad requested => Device.tryFormat pad requested >>= fun _ => done ()
  | setFormat pad requested => Device.setFormat pad requested >>= fun _ => done ()
  | control id => Device.control id >>= fun _ => done ()
  | setControl id requested => Device.setControl id requested >>= fun _ => done ()
  | readRegister register => Device.readRegister register >>= fun _ => done ()
  | writeRegister register value => Device.writeRegister register value
  | readSensor port register => Device.readSensor port register >>= fun _ => done ()
  | writeSensor port register value => Device.writeSensor port register value
  | setProbe value => Device.setProbe value >>= fun _ => done ()
  | readProbe => Device.readProbe >>= fun _ => done ()
  | writeProbe value => Device.writeProbe value
  | console => Device.console >>= fun _ => done ()
  | status => Device.status >>= fun _ => done ()
  | lanes port => Device.lanes port >>= fun _ => done ()

/-- The actions in order, whatever comes of each of them. -/
def performEach (host : Host σ) : List Action → Device → σ → Device × σ
  | [], device, world => (device, world)
  | action :: rest, device, world =>
      match action.perform host device world with
      | (_, after, left) => performEach host rest after left

/-- The registers that a start writes besides those of the controls and the start register. -/
def configured : List Register :=
  [Layout.previewInterface, Layout.previewWidth, Layout.previewHeight, Layout.previewFormat]

/-- The registers that an action may write are ones that may be sent, copies aside. -/
def Sends (allowed : UInt16 → List UInt8 → Prop) : Action → Prop
  | setStream _ =>
      (∀ id : ControlId, MaySend allowed id.register) ∧
        (∀ register ∈ configured, MaySend allowed register) ∧
        MaySend allowed Layout.systemStart ∧ MaySend allowed Layout.interruptEnable
  | setControl id _ => MaySend allowed id.register
  | writeRegister register _ => MaySend allowed register
  | status | lanes _ => Diagnostics.ClearsLatches allowed
  | tryFormat _ _ | setFormat _ _ | control _ | readRegister _ | readSensor _ _
  | writeSensor _ _ _ | setProbe _ | readProbe | writeProbe _ | console => True

theorem sends_of_all {allowed : UInt16 → List UInt8 → Prop}
    (anything : ∀ register, MaySend allowed register) (action : Action) : action.Sends allowed := by
  cases action with
  | setStream enable =>
      exact ⟨fun _ => anything _, fun _ _ => anything _, anything _, anything _⟩
  | setControl id requested => exact anything _
  | writeRegister register value => exact anything _
  | status => exact fun _ _ _ => anything _
  | lanes port => exact fun _ _ _ => anything _
  | tryFormat pad requested => trivial
  | setFormat pad requested => trivial
  | control id => trivial
  | readRegister register => trivial
  | readSensor port register => trivial
  | writeSensor port register value => trivial
  | setProbe value => trivial
  | readProbe => trivial
  | writeProbe value => trivial
  | console => trivial

end Action

/-- A view of a device that does not show which page its registers take to be selected. -/
def UnpagedView {β : Type} (view : Device → β) : Prop :=
  ∀ device registers, view { device with registers } = view device

/-- A view of a device that shows nothing of what the action may change in it. -/
def Action.Hidden {β : Type} (view : Device → β) (action : Action) : Prop :=
  UnpagedView view ∧
    match action with
    | setStream _ => ∀ device streaming, view { device with streaming } = view device
    | setFormat _ _ => ∀ device formats, view { device with formats } = view device
    | setControl _ _ => ∀ device controls, view { device with controls } = view device
    | setProbe _ => ∀ device probe?, view { device with probe? } = view device
    | tryFormat _ _ | control _ | readRegister _ | writeRegister _ _ | readSensor _ _
    | writeSensor _ _ _ | readProbe | writeProbe _ | console | status | lanes _ => True

/-- The board of a device and the sensors it powers. -/
def fitting (device : Device) : Board × List PortSensor :=
  (device.board, device.sensors)

theorem hidden_fitting (action : Action) : action.Hidden fitting := by
  refine ⟨fun _ _ => rfl, ?_⟩
  cases action <;> first | trivial | exact fun _ _ => rfl

/-- What holds of the registers of a device and of the world, by what a view of the device shows. -/
abbrev Seen {σ β : Type} (view : Device → β) (kept : β → RegisterMap → σ → Prop) :
    Device → σ → Prop :=
  fun device => kept (view device) device.registers

variable {σ β α : Type} {host : Host σ} {allowed : UInt16 → List UInt8 → Prop}
  {kept broken : β → RegisterMap → σ → Prop} {view : Device → β}

theorem keeps_onRegisters {access : Access σ α} (unpaged : UnpagedView view)
    (keeps : ∀ shown, Keeps host (kept shown) (broken shown) access) :
    Keeps host (Seen view kept) (Seen view broken) (onRegisters access) := by
  refine Keeps.act (fun device => ?_) fun _ => rfl
  simp only [Seen, registersPart, unpaged device]
  exact keeps (view device)

theorem keeps_hidden {change : Device → Device}
    (unseen : ∀ device, view (change device) = view device)
    (unpaged : ∀ device, (change device).registers = device.registers) :
    Keeps host (Seen view kept) (Seen view broken) (modify change) :=
  keeps_modify fun device world holds => by
    simpa only [Seen, unseen device, unpaged device] using holds

theorem keeps_note (carries : ∀ shown, Carries host allowed (kept shown) (broken shown))
    {level : Level} {text : String} :
    Keeps host (Seen view kept) (Seen view broken) (note level text) :=
  fun device => (carries (view device)).noted ⟨level, text⟩ device.registers

theorem keeps_wait (carries : ∀ shown, Carries host allowed (kept shown) (broken shown))
    {microseconds : UInt32} :
    Keeps host (Seen view kept) (Seen view broken) (Host.wait microseconds) :=
  keeps_ask fun device => (carries (view device)).wait microseconds device.registers

theorem keeps_requireSensor {port : UInt32} :
    Keeps host (Seen view kept) (Seen view broken) (requireSensor port) := by
  refine keeps_state.bind fun device => ?_
  split
  · exact keeps_done
  · exact keeps_refuse

theorem keeps_readSensor (unpaged : UnpagedView view)
    (harmless : ∀ shown, Bridge.Harmless host (kept shown) (broken shown)) (port : UInt32)
    (register : Register) :
    Keeps host (Seen view kept) (Seen view broken) (readSensor port register) := by
  refine keeps_requireSensor.bind fun _ => keeps_state.bind fun device => ?_
  exact keeps_onRegisters unpaged fun shown => (harmless shown).reads _ _ _

theorem keeps_writeSensor (unpaged : UnpagedView view)
    (harmless : ∀ shown, Bridge.Harmless host (kept shown) (broken shown)) (port : UInt32)
    (register : Register) (value : UInt32) :
    Keeps host (Seen view kept) (Seen view broken) (writeSensor port register value) := by
  refine keeps_requireSensor.bind fun _ => keeps_state.bind fun device => ?_
  exact keeps_onRegisters unpaged fun shown => (harmless shown).writes _ _ _ _

theorem keeps_requireProbe :
    Keeps host (Seen view kept) (Seen view broken) requireProbe := by
  refine keeps_state.bind fun device => ?_
  cases device.probe? with
  | none => exact keeps_refuse
  | some address => exact keeps_pure

theorem keeps_configure (unpaged : UnpagedView view)
    (carries : ∀ shown, Carries host allowed (kept shown) (broken shown))
    (controls : ∀ id : ControlId, MaySend allowed id.register)
    (sends : ∀ register ∈ Action.configured, MaySend allowed register) :
    Keeps host (Seen view kept) (Seen view broken) configure := by
  refine keeps_state.bind fun device => Keeps.bind ?_ fun _ => ?_
  · refine keeps_onRegisters unpaged fun shown => ?_
    refine (carries shown).keeps_writeAll ?_
    simpa [Action.configured] using sends
  · exact keeps_onRegisters unpaged fun shown =>
      Controls.keeps_applyEach (carries shown) _ _ fun id _ => controls id

theorem keeps_unstall (unpaged : UnpagedView view)
    (carries : ∀ shown, Carries host allowed (kept shown) (broken shown))
    (sends : MaySend allowed Layout.systemStart) :
    Keeps host (Seen view kept) (Seen view broken) unstall :=
  keeps_onRegisters unpaged fun shown => (carries shown).keeps_write sends

theorem keeps_interruptEnable (unpaged : UnpagedView view)
    (carries : ∀ shown, Carries host allowed (kept shown) (broken shown))
    (sends : MaySend allowed Layout.interruptEnable) (value : UInt32) :
    Keeps host (Seen view kept) (Seen view broken) (do
      Host.wait (Host.millisecondsToWait stallMilliseconds)
      onRegisters (RegisterMap.write Layout.interruptEnable value)) := by
  refine (keeps_wait carries).bind fun _ => ?_
  exact keeps_onRegisters unpaged fun shown => (carries shown).keeps_write sends

theorem keeps_stall (unpaged : UnpagedView view)
    (carries : ∀ shown, Carries host allowed (kept shown) (broken shown))
    (start : MaySend allowed Layout.systemStart) (report : MaySend allowed Layout.interruptEnable) :
    Keeps host (Seen view kept) (Seen view broken) stall := by
  refine Keeps.bind ?_ fun _ => keeps_interruptEnable unpaged carries report _
  refine keeps_onRegisters unpaged fun shown => ?_
  refine (carries shown).keeps_writeAll fun entry member => ?_
  simp only [List.mem_cons, List.not_mem_nil, or_false] at member
  rcases member with rfl | rfl
  · exact start
  · exact start

theorem keeps_setStream (enable : Bool) (hidden : (Action.setStream enable).Hidden view)
    (carries : ∀ shown, Carries host allowed (kept shown) (broken shown))
    (sends : (Action.setStream enable).Sends allowed) :
    Keeps host (Seen view kept) (Seen view broken) (setStream enable) := by
  obtain ⟨unpaged, same⟩ := hidden
  obtain ⟨controls, registers, start, report⟩ := sends
  refine keeps_state.bind fun device => ?_
  split
  · exact keeps_done
  · refine Keeps.bind ?_ fun _ => Keeps.bind ?_ fun _ => keeps_note carries
    · refine Keeps.onError ?_ fun _ => keeps_note carries
      split
      · exact (keeps_configure unpaged carries controls registers).bind fun _ =>
          keeps_unstall unpaged carries start
      · exact keeps_stall unpaged carries start report
    · exact keeps_hidden (fun device => same device _) fun _ => rfl

/-- An action keeps what holds of what a view shows, if the view does not show what the action
changes and the action sends only what leaves it alone. -/
theorem Action.keeps_perform (action : Action) (hidden : action.Hidden view)
    (carries : ∀ shown, Carries host allowed (kept shown) (broken shown))
    (harmless : ∀ shown, Bridge.Harmless host (kept shown) (broken shown))
    (breaks : ∀ shown map world, kept shown map world → broken shown map world)
    (sends : action.Sends allowed) :
    Keeps host (Seen view kept) (Seen view broken) action.perform := by
  have unpaged := hidden.1
  cases action with
  | setStream enable => exact keeps_setStream enable hidden carries sends
  | tryFormat pad requested =>
      refine Keeps.bind (keeps_state.bind fun device => ?_) fun _ => keeps_done
      cases device.formats.negotiate? pad requested with
      | none => exact keeps_abandon fun device => breaks (view device) device.registers
      | some format => exact keeps_pure
  | setFormat pad requested =>
      refine Keeps.bind (keeps_state.bind fun device => ?_) fun _ => keeps_done
      cases device.formats.set? pad requested with
      | none => exact keeps_abandon fun device => breaks (view device) device.registers
      | some chosen =>
          refine Keeps.bind ?_ fun _ => (keeps_note carries).bind fun _ => keeps_pure
          exact keeps_hidden (fun device => hidden.2 device _) fun _ => rfl
  | control id =>
      refine Keeps.bind ?_ fun _ => keeps_done
      unfold Device.control
      split
      · exact keeps_onRegisters unpaged fun shown =>
          ControlId.keeps_readLinkFrequency (carries shown)
      · exact keeps_state.bind fun _ => keeps_pure
  | setControl id requested =>
      refine Keeps.bind (keeps_ofExcept.bind fun value => keeps_state.bind fun device => ?_)
        fun _ => keeps_done
      have stored : Keeps host (Seen view kept) (Seen view broken)
          (modify fun device => { device with controls := device.controls.set id value }) :=
        keeps_hidden (fun device => hidden.2 device _) fun _ => rfl
      split
      · refine Keeps.bind ?_ fun _ => stored.bind fun _ => (keeps_note carries).bind fun _ =>
          keeps_pure
        exact keeps_onRegisters unpaged fun shown =>
          ControlId.keeps_apply (carries shown) id value sends
      · exact stored.bind fun _ => (keeps_note carries).bind fun _ => keeps_pure
  | readRegister register =>
      exact (keeps_onRegisters unpaged fun shown => (carries shown).keeps_read).bind fun _ =>
        keeps_done
  | writeRegister register value =>
      exact keeps_onRegisters unpaged fun shown => (carries shown).keeps_write sends
  | readSensor port register =>
      exact (keeps_readSensor unpaged harmless port register).bind fun _ => keeps_done
  | writeSensor port register value =>
      exact keeps_writeSensor unpaged harmless port register value
  | setProbe value =>
      refine Keeps.bind (keeps_ofExcept.bind fun address => ?_) fun _ => keeps_done
      refine Keeps.bind ?_ fun _ => (keeps_note carries).bind fun _ => keeps_pure
      exact keeps_hidden (fun device => hidden.2 device _) fun _ => rfl
  | readProbe =>
      refine Keeps.bind (keeps_requireProbe.bind fun address => ?_) fun _ => keeps_done
      exact keeps_readSensor unpaged harmless _ _
  | writeProbe value =>
      exact keeps_requireProbe.bind fun address =>
        keeps_writeSensor unpaged harmless _ _ value
  | console =>
      exact (keeps_onRegisters unpaged fun shown =>
        Diagnostics.keeps_readConsole (carries shown)).bind fun _ => keeps_done
  | status =>
      refine Keeps.bind (keeps_state.bind fun device => ?_) fun _ => keeps_done
      exact keeps_onRegisters unpaged fun shown =>
        Diagnostics.keeps_readStatus (carries shown) _ fun port _ =>
          sends.keeps (carries shown) port
  | lanes port =>
      refine Keeps.bind (keeps_requireSensor.bind fun _ => ?_) fun _ => keeps_done
      exact keeps_onRegisters unpaged fun shown =>
        Diagnostics.keeps_samplePort (carries shown) port (sends.keeps (carries shown) port)

theorem Action.hidden_nothing (action : Action) : action.Hidden fun _ => () := by
  refine ⟨fun _ _ => rfl, ?_⟩
  cases action <;> first | trivial | exact fun _ _ => rfl

variable {device : Device} {world : σ}

theorem undisturbed_fact (fact : Prop) :
    Undisturbed host (fun _ _ => True) (fun _ => fact) (fun _ => fact) := by
  have replied : ∀ {α : Type} (answer : Option α × σ), fact →
      Replied (fun _ => fact) (fun _ => fact) answer := by
    intro α answer holds
    obtain ⟨reply, left⟩ := answer
    cases reply with
    | none => exact holds
    | some reply => exact holds
  exact {
    read := fun _ _ _ holds => replied _ holds
    write := fun _ _ _ _ holds => replied _ holds
    wait := fun _ _ holds => replied _ holds
    noted := fun _ _ holds => holds
    select := fun _ => trivial }

/-- What no block on the bus bears on is there after any action. -/
theorem Action.perform_undisturbed {kept : σ → Prop} (action : Action)
    (undisturbed : Undisturbed host (fun _ _ => True) kept kept) (holds : kept world) :
    action.perform.Ends host device world fun _ _ left => kept left := by
  have anything : ∀ register, MaySend (fun _ _ => True) register := fun _ _ _ => trivial
  have kept := Action.keeps_perform action action.hidden_nothing (fun _ => undisturbed.carries)
    (fun _ => Bridge.harmless_of_sends undisturbed.carries fun register _ => anything register)
    (fun _ _ _ holds => holds) (Action.sends_of_all anything action)
  exact kept.ends holds

theorem Action.perform_unseen (action : Action) (hidden : action.Hidden view) :
    action.perform.Ends host device world fun _ after _ => view after = view device := by
  have anything : ∀ register, MaySend (fun _ _ => True) register := fun _ _ _ => trivial
  have carries := fun shown : β => (@undisturbed_fact σ host (shown = view device)).carries
  have kept := Action.keeps_perform action hidden carries
    (fun shown => Bridge.harmless_of_sends (carries shown) fun register _ => anything register)
    (fun _ _ _ holds => holds) (Action.sends_of_all anything action)
  exact kept.ends rfl

end IspDriver.Device
