import IspDriver.Proofs.Device.PageCache
import IspDriver.Proofs.Device.SensorAccess
import IspDriver.Proofs.Simulation.Window

/-!
What diagnostics change, whatever fails in them. All that they send are selections of pages, and the
blocks that clear the latches of lanes, so what they leave behind on the chip is told by which of
these blocks arrived. The device comes out with no more than another remembered page.
-/

namespace IspDriver

open Routine Layout Simulation

namespace Diagnostics

/-- The block that clears the latches of a lane, as the chip writes it down. -/
def clearing (port lane : UInt32) : WriteRecord where
  page? := some (laneStatus port lane).page
  offset := (laneStatus port lane).busOffset
  data := Bytes.ofUInt32 (LaneStatus.error ||| LaneStatus.abort)

/-- The block that selects a page. -/
def turning (page : UInt32) : WriteRecord :=
  ⟨none, pageSelect.offset, Bytes.ofUInt32 page⟩

/-- What the chip holds as the status of a lane. -/
def laneBytes (chip : Chip) (port lane : UInt32) : List UInt8 :=
  (chip.pages (laneStatus port lane).page).load (laneStatus port lane).offset.toNat 4

/-- The place in a page holds no status of a lane of the ports. -/
def BesideLanes (ports : List UInt32) (page : UInt32) (address : Nat) : Prop :=
  ∀ port ∈ ports, ∀ lane ∈ [0, 1, 2, 3], page = (laneStatus port lane).page →
    address < (laneStatus port lane).offset.toNat ∨
      (laneStatus port lane).offset.toNat + 4 ≤ address

/-- The chip has changed by the arrival of these blocks, the last one in front: selections, and
blocks that clear latches of the ports. -/
structure Diagnosed (ports : List UInt32) (before : Chip) (blocks : List WriteRecord)
    (after : Chip) : Prop where
  arrived : after.writes = blocks ++ before.writes
  known : ∀ block ∈ blocks, (∃ page, block = turning page) ∨
    ∃ port ∈ ports, ∃ lane ∈ [0, 1, 2, 3], block = clearing port lane
  lanes : ∀ port ∈ ports, ∀ lane ∈ [0, 1, 2, 3], laneBytes after port lane =
    if clearing port lane ∈ blocks then Bytes.ofUInt32 (LaneStatus.error ||| LaneStatus.abort)
    else laneBytes before port lane
  confined : before.Confined (BesideLanes ports) after

variable {ports : List UInt32} {before after : Chip} {blocks : List WriteRecord}
  {port lane other lane' : UInt32}

theorem laneStatus_paged (present : port ∈ [0, 1]) (among : lane ∈ [0, 1, 2, 3]) :
    (laneStatus port lane).isPaged = true ∧
      (laneStatus port lane).offset.toNat < Register.windowSize ∧
      (laneStatus port lane).width = 4 := by
  simp only [List.mem_cons, List.not_mem_nil, or_false] at present among
  rcases present with rfl | rfl
  all_goals rcases among with rfl | rfl | rfl | rfl
  all_goals decide

/-- Two lane registers share no byte. -/
def LanesApart (port lane other lane' : UInt32) : Prop :=
  (laneStatus port lane).page ≠ (laneStatus other lane').page ∨
    (laneStatus port lane).offset.toNat + 4 ≤ (laneStatus other lane').offset.toNat ∨
    (laneStatus other lane').offset.toNat + 4 ≤ (laneStatus port lane).offset.toNat

instance : Decidable (LanesApart port lane other lane') :=
  inferInstanceAs (Decidable (_ ∨ _ ∨ _))

theorem lanes_apart (present : port ∈ [0, 1]) (among : lane ∈ [0, 1, 2, 3])
    (presentToo : other ∈ [0, 1]) (amongToo : lane' ∈ [0, 1, 2, 3]) :
    (port = other ∧ lane = lane') ∨
      clearing port lane ≠ clearing other lane' ∧ LanesApart port lane other lane' := by
  simp only [List.mem_cons, List.not_mem_nil, or_false] at present among presentToo amongToo
  rcases present with rfl | rfl
  all_goals rcases presentToo with rfl | rfl
  all_goals rcases among with rfl | rfl | rfl | rfl
  all_goals rcases amongToo with rfl | rfl | rfl | rfl
  all_goals decide

theorem laneBytes_storePage_same {page? : Option UInt32} {offset : UInt16} {data : List UInt8}
    (four : data.length = 4) :
    laneBytes ((after.record page? offset data).storePage (laneStatus port lane).page
      (laneStatus port lane).offset.toNat data) port lane = data := by
  unfold laneBytes Chip.storePage
  simp only [if_true]
  rw [← four]
  exact Memory.load_store_same

theorem laneBytes_storePage_apart {page? : Option UInt32} {offset : UInt16} {data : List UInt8}
    (four : data.length = 4) (apart : LanesApart port lane other lane') :
    laneBytes ((after.record page? offset data).storePage (laneStatus port lane).page
      (laneStatus port lane).offset.toNat data) other lane' = laneBytes after other lane' := by
  unfold laneBytes Chip.storePage
  simp only
  split
  · next same =>
      have places := apart.resolve_left (Ne.symm · same)
      rw [same]
      exact Memory.load_store_outside (by omega)
  · rfl

theorem diagnosed_self (chip : Chip) : Diagnosed ports chip [] chip where
  arrived := rfl
  known _ member := nomatch member
  lanes _ _ _ _ := rfl
  confined := Chip.confined_self chip

theorem Diagnosed.turned (diagnosed : Diagnosed ports before blocks after) (page : UInt32) :
    Diagnosed ports before (turning page :: blocks)
      (after.taken pageSelect.offset (Bytes.ofUInt32 page)) where
  arrived := congrArg (turning page :: ·) diagnosed.arrived
  known := List.forall_mem_cons.mpr ⟨.inl ⟨page, rfl⟩, diagnosed.known⟩
  lanes port present lane among := by
    have elsewhere : clearing port lane ≠ turning page :=
      fun same => nomatch congrArg (·.page?) same
    simp only [List.mem_cons, elsewhere, false_or]
    exact diagnosed.lanes port present lane among
  confined := diagnosed.confined.trans (Chip.confined_select after page)

theorem Diagnosed.cleared (diagnosed : Diagnosed ports before blocks after) (fits : ports ⊆ [0, 1])
    (present : port ∈ ports) (among : lane ∈ [0, 1, 2, 3]) :
    Diagnosed ports before (clearing port lane :: blocks)
      ((after.record (some (laneStatus port lane).page) (laneStatus port lane).busOffset
        (Bytes.ofUInt32 (LaneStatus.error ||| LaneStatus.abort))).storePage
          (laneStatus port lane).page (laneStatus port lane).offset.toNat
          (Bytes.ofUInt32 (LaneStatus.error ||| LaneStatus.abort))) where
  arrived := congrArg (clearing port lane :: ·) diagnosed.arrived
  known := List.forall_mem_cons.mpr ⟨.inr ⟨port, present, lane, among, rfl⟩, diagnosed.known⟩
  lanes other presentToo lane' amongToo := by
    rcases lanes_apart (fits present) among (fits presentToo) amongToo with
      ⟨rfl, rfl⟩ | ⟨differs, apart⟩
    · rw [if_pos (List.mem_cons_self ..)]
      exact laneBytes_storePage_same (Bytes.length_ofUInt32 _)
    · simp only [List.mem_cons, Ne.symm differs, false_or]
      rw [laneBytes_storePage_apart (Bytes.length_ofUInt32 _) apart]
      exact diagnosed.lanes other presentToo lane' amongToo
  confined := by
    refine diagnosed.confined.trans (Chip.confined_storePage fun address beside => ?_)
    rw [Bytes.length_ofUInt32]
    exact beside port present lane among rfl

variable {map : RegisterMap} {bench : Bench} {register : Register}

/-- The remembered page is selected, and the chip has changed as diagnostics change it. -/
def Traced (ports : List UInt32) (before : Chip) (map : RegisterMap) (bench : Bench) : Prop :=
  Bench.Remembers map bench ∧ ∃ blocks, Diagnosed ports before blocks bench.chip

theorem selectPage_traced (traced : Traced ports before map bench) :
    (RegisterMap.selectPage register).Ends Bench.host map bench fun outcome after left =>
      outcome ≠ .aborted ∧ Traced ports before after left ∧
        (outcome = .done () → register.isPaged = true → left.chip.currentPage = register.page) := by
  obtain ⟨remembers, blocks, diagnosed⟩ := traced
  refine (Ends.and (Bench.selectPage_ends remembers) Bench.selectPage_turns).mono ?_
  intro outcome after left ended
  obtain ⟨⟨remembered, -, selected⟩, answered, turns⟩ := ended
  refine ⟨answered, ⟨remembered, ?_⟩, selected⟩
  rcases turns with ⟨same, -⟩ | turned
  · rw [same]
    exact ⟨blocks, diagnosed⟩
  · rw [turned]
    exact ⟨_, diagnosed.turned register.page⟩

/-- Nothing but selections, reads, waits and notes is let through. -/
theorem carries_traced :
    Carries Bench.host (fun _ _ => False) (Traced ports before) (fun _ _ => False) where
  read _ _ _ _ traced := Bench.replied_read fun _ => by
    obtain ⟨remembers, blocks, diagnosed⟩ := traced
    refine ⟨fun page remembered => ⟨(remembers page remembered).awake,
      (remembers page remembered).loaded⟩, blocks, ?_⟩
    exact ⟨diagnosed.arrived, diagnosed.known, diagnosed.lanes,
      ⟨diagnosed.confined.direct, diagnosed.confined.paged, diagnosed.confined.others⟩⟩
  write _ _ _ _ never := never.elim
  wait _ _ _ traced := traced
  noted _ _ _ traced := traced
  select _ map bench traced := by
    refine (selectPage_traced traced).mono ?_
    intro outcome after left ended
    obtain ⟨answered, traced, -⟩ := ended
    cases outcome with
    | done _ => exact traced
    | failed error => exact traced
    | aborted => exact absurd rfl answered

/-- A write that clears latches is refused, or the block arrives in the page it is meant for. -/
theorem keeps_clear (fits : ports ⊆ [0, 1]) (present : port ∈ ports) (among : lane ∈ [0, 1, 2, 3]) :
    Keeps Bench.host (Traced ports before) (fun _ _ => False)
      (RegisterMap.write (laneStatus port lane) (LaneStatus.error ||| LaneStatus.abort)) := by
  intro map bench traced
  obtain ⟨paged, inside, width⟩ := laneStatus_paged (fits present) among
  refine (Bench.write_ends (.inr width) (selectPage_traced traced)).mono ?_
  intro outcome after left ended
  rcases ended with ⟨stopped, answered, traced, -⟩ | ⟨between, ⟨-, traced, selected⟩, rfl, written⟩
  · cases outcome with
    | done _ => exact absurd rfl stopped
    | failed error => exact traced
    | aborted => exact absurd rfl answered
  · have spares := Device.latches_sparing port lane among (.inr width)
      (LaneStatus.error ||| LaneStatus.abort)
    obtain ⟨remembers, blocks, diagnosed⟩ := traced
    have remembered : Bench.Remembers after left := by
      intro page known
      rw [Chip.Selects, written]
      exact (remembers page known).write spares
    rw [RegisterMap.busBytes_of_four width] at written ⊢
    rcases Chip.write_shown paged inside (selected rfl paged) with ⟨error, refused⟩ | stored
    · rw [refused] at written ⊢
      refine ⟨remembered, blocks, ?_⟩
      rw [written]
      exact diagnosed
    · rw [stored] at written ⊢
      refine ⟨remembered, clearing port lane :: blocks, ?_⟩
      rw [written]
      exact diagnosed.cleared fits present among

theorem keeps_clearLatches_traced (fits : ports ⊆ [0, 1]) (present : port ∈ ports) :
    Keeps Bench.host (Traced ports before) (fun _ _ => False) (clearLatches port [0, 1, 2, 3]) :=
  keeps_clearLatches carries_traced port _ fun _ among => keeps_clear fits present among

end Diagnostics

namespace Device

open Diagnostics

variable {device : Device} {bench : Bench} {ports : List UInt32} {before : Chip}

/-- An operation that only looks at how the chip is doing. -/
def Action.IsDiagnostic : Action → Prop
  | .console | .status | .lanes _ | .control _ => True
  | .setStream _ | .tryFormat _ _ | .setFormat _ _ | .setControl _ _ | .readRegister _
  | .writeRegister _ _ | .readSensor _ _ | .writeSensor _ _ _ | .setProbe _ | .readProbe
  | .writeProbe _ => False

/-- What a diagnostic operation leaves behind: a result or an error, and the traces of it. -/
def LeavesTraces {α : Type} (ports : List UInt32) (before : Chip) (device : Device)
    (outcome : Outcome α) (after : Device) (left : Bench) : Prop :=
  outcome ≠ .aborted ∧ (∃ registers, after = { device with registers }) ∧
    Traced ports before after.registers left

theorem onRegisters_leavesTraces {α : Type} {access : Access Bench α}
    (keeps : Keeps Bench.host (Traced ports before) (fun _ _ => False) access)
    (traced : Traced ports before device.registers bench) :
    (onRegisters access).Ends Bench.host device bench (LeavesTraces ports before device) := by
  refine ends_act.mpr ((keeps device.registers bench traced).mono ?_)
  intro outcome after left ended
  cases outcome with
  | done value => exact ⟨by rintro ⟨⟩, ⟨after, rfl⟩, ended⟩
  | failed error => exact ⟨by rintro ⟨⟩, ⟨after, rfl⟩, ended⟩
  | aborted => exact ended.elim

/-- The value of an operation makes no difference to what it leaves behind. -/
theorem leavesTraces_of_value {α : Type} {operation : Operation Bench α}
    (leaves : operation.Ends Bench.host device bench (LeavesTraces ports before device)) :
    (operation >>= fun _ => done ()).Ends Bench.host device bench
      (LeavesTraces ports before device) := by
  refine ends_bind.mpr (leaves.mono ?_)
  intro outcome after left ended
  cases outcome with
  | done value => exact ⟨by rintro ⟨⟩, ended.2⟩
  | failed error => exact ⟨by rintro ⟨⟩, ended.2⟩
  | aborted => exact absurd rfl ended.1

theorem diagnostic_leavesTraces {board : Board} {action : Action} (fits : board.ports ⊆ [0, 1])
    (fitted : device.fitting = (board, board.sensors))
    (traced : Traced board.ports before device.registers bench) (diagnostic : action.IsDiagnostic) :
    action.perform.Ends Bench.host device bench (LeavesTraces board.ports before device) := by
  have sameBoard : device.board = board := congrArg Prod.fst fitted
  have sameSensors : device.sensors = board.sensors := congrArg Prod.snd fitted
  have idle : ∀ {α : Type} (outcome : Outcome α), outcome ≠ .aborted →
      LeavesTraces board.ports before device outcome device bench :=
    fun _ answered => ⟨answered, ⟨device.registers, rfl⟩, traced⟩
  cases action with
  | console =>
      exact leavesTraces_of_value
        (onRegisters_leavesTraces (keeps_readConsole carries_traced) traced)
  | status =>
      refine leavesTraces_of_value (ends_bind.mpr (ends_state.mpr ?_))
      simp only [followed, sameBoard]
      refine onRegisters_leavesTraces (keeps_readStatus carries_traced _ ?_) traced
      exact fun port present => keeps_clearLatches_traced fits present
  | lanes port =>
      refine leavesTraces_of_value (ends_bind.mpr ?_)
      unfold requireSensor
      refine ends_bind.mpr (ends_state.mpr ?_)
      simp only [followed]
      split
      · next populated =>
          obtain ⟨sensor, mounted, same⟩ := List.any_eq_true.mp populated
          rw [sameSensors] at mounted
          obtain ⟨other, present, rfl⟩ := List.mem_map.mp mounted
          obtain rfl : other = port := by simpa using same
          exact onRegisters_leavesTraces (keeps_samplePort carries_traced other
            (keeps_clearLatches_traced fits present)) traced
      · exact idle _ (by rintro ⟨⟩)
  | control id =>
      refine leavesTraces_of_value ?_
      unfold Device.control
      split
      · exact onRegisters_leavesTraces (ControlId.keeps_readLinkFrequency carries_traced) traced
      · exact idle _ (by rintro ⟨⟩)
  | _ => exact diagnostic.elim

theorem takeAll_fitting (turns : List Turn) (course : Course) :
    (Course.takeAll turns course).device.fitting = course.device.fitting := by
  refine @Course.takeAll_keeps (fun later => later.device.fitting = course.device.fitting) turns
    course ?_ rfl
  intro turn _ later same
  cases turn with
  | act action =>
      exact Eq.trans (@Action.perform_unseen _ _ Bench.host _ later.device later.bench action
        (hidden_fitting action)) same
  | faults faults => exact same

/-- Whatever else a chip holds, a page that is remembered is selected as long as the page select and
the reset are as they were. -/
theorem remembers_of_sameSelect {chip : Chip} (remembers : device.Remembers bench)
    (reset : chip.inReset = bench.chip.inReset)
    (select : chip.currentPage = bench.chip.currentPage) :
    device.Remembers { bench with chip } := by
  intro page remembered
  have selects := remembers page remembered
  refine ⟨reset.trans selects.awake, ?_⟩
  have word : Bytes.bigEndian (chip.memory.load pageSelect.offset.toNat 4) = page :=
    select.trans selects.currentPage
  rw [Bytes.length_ofUInt32, ← word, Bytes.ofUInt32_bigEndian (Memory.length_load ..)]

/-- From an attach on, with any faults of the chip and whatever the chip holds by then: a diagnostic
operation ends with a result or an error. In the device it changes no more than the remembered page.
On the chip it changes the page select, and the status of each lane of the populated ports whose
clearing arrived, and nothing else. Paged accesses go on to reach the page that they name. -/
theorem diagnostics_confined {S : Type} (wiring : Wiring) (config : BoardConfig) (state : S)
    (bench : Bench) :
    (attach wiring config).Yields Bench.host state bench fun device _ left => ∀ turns,
      (∀ register value, .act (.writeRegister register value) ∉ turns) →
        match Course.takeAll turns ⟨device, left, false⟩ with
        | ⟨device, bench, _⟩ => ∀ chip : Chip, chip.inReset = bench.chip.inReset →
            chip.currentPage = bench.chip.currentPage → ∀ action : Action, action.IsDiagnostic →
              action.perform.Ends Bench.host device { bench with chip } fun outcome after left =>
                outcome ≠ .aborted ∧ (∃ registers, after = { device with registers }) ∧
                  (∃ blocks, Diagnosed device.board.ports chip blocks left.chip) ∧
                  ∀ later, (∀ register value, .act (.writeRegister register value) ∉ later) →
                    match Course.takeAll later ⟨after, left, false⟩ with
                    | ⟨device, bench, _⟩ => ∀ register : Register, register.isPaged = true →
                        (RegisterMap.selectPage register).Yields Bench.host device.registers bench
                          fun _ _ ready => ready.chip.currentPage = register.page := by
  have attached := (@attach_installs Bench S Bench.host state bench wiring config).and
    (attach_remembers wiring config state bench)
  refine attached.mono ?_
  intro device _ left ended turns plain
  obtain ⟨installed, remembers⟩ := ended
  have remembered := @takeAll_remembers turns ⟨device, left, false⟩ remembers
    fun register value member => absurd member (plain register value)
  have fitting := takeAll_fitting turns ⟨device, left, false⟩
  generalize Course.takeAll turns ⟨device, left, false⟩ = course at remembered fitting ⊢
  obtain ⟨later, bench, _⟩ := course
  simp only at fitting
  have sameBoard : later.board = device.board := congrArg Prod.fst fitting
  have fitted : later.fitting = (later.board, later.board.sensors) := by
    rw [fitting, sameBoard]
    exact Prod.ext rfl installed.sensors
  have among : ∀ ports ∈ ([[], [0], [1], [0, 1]] : List (List UInt32)), ports ⊆ [0, 1] := by decide
  have ports : later.board.ports ⊆ [0, 1] := by
    rw [sameBoard]
    exact among _ (Board.mem_of_ofConfig installed.accepted).2
  intro chip reset select action diagnostic
  have traced : Traced later.board.ports chip later.registers { bench with chip } :=
    ⟨remembers_of_sameSelect remembered reset select, [], diagnosed_self chip⟩
  refine (diagnostic_leavesTraces ports fitted traced diagnostic).mono ?_
  intro outcome after left ended
  obtain ⟨answered, changed, remembers, diagnosed⟩ := ended
  refine ⟨answered, changed, diagnosed, fun turns plain => ?_⟩
  have kept := @takeAll_remembers turns ⟨after, left, false⟩ remembers
    fun register value member => absurd member (plain register value)
  generalize Course.takeAll turns ⟨after, left, false⟩ = course at kept ⊢
  obtain ⟨device, bench, _⟩ := course
  intro register paged
  exact (Bench.selectPage_ends kept).yields fun _ _ _ ended => ended.2.2 rfl paged

/-- The populated ports and the flag, after an attach and some turns. -/
def runningAfter (turns : List Turn) : Outcome Device × Unit × Bench → Option (List UInt32 × Bool)
  | (.done device, _, left) =>
      match Course.takeAll turns ⟨device, left, false⟩ with
      | ⟨device, _, _⟩ => some (device.board.ports, device.streaming)
  | _ => none

def streamStart : List Turn :=
  [.act (.setStream true)]

/-- The chip with a page select and a lane register that fail to be written. -/
def hampered (chip : Chip) : Chip :=
  { chip with faults := { writes := [pageSelect.offset, (laneStatus 0 2).busOffset] } }

theorem oneSensor_diagnosed :
    (attach ⟨true, true⟩ oneSensor).Gives Bench.host () stockedBench fun device _ left =>
      (∀ register value, .act (.writeRegister register value) ∉ streamStart) ∧
        match Course.takeAll streamStart ⟨device, left, false⟩ with
        | ⟨device, bench, _⟩ =>
            (Action.perform .status).Ends Bench.host device
              { bench with chip := hampered bench.chip }
              fun outcome after left => outcome ≠ .aborted ∧ after.streaming = true ∧
                ∃ blocks, Diagnosed [0] (hampered bench.chip) blocks left.chip := by
  have confined := diagnostics_confined ⟨true, true⟩ oneSensor () stockedBench
  have shown : runningAfter streamStart
      (attach ⟨true, true⟩ oneSensor Bench.host () stockedBench) = some ([0], true) := by
    decide +kernel
  have plain : ∀ register value, .act (.writeRegister register value) ∉ streamStart := by
    simp [streamStart]
  generalize streamStart = turns at shown plain ⊢
  refine confined.gives_of_seen shown (fun _ _ _ => rfl) (fun _ _ => rfl) ?_
  intro device _ left shown confined
  have held := confined turns plain
  simp only [runningAfter, Option.some.injEq, Prod.mk.injEq] at shown
  generalize Course.takeAll turns ⟨device, left, false⟩ = course at held shown ⊢
  obtain ⟨device, bench, cutShort⟩ := course
  obtain ⟨ports, streaming⟩ := shown
  refine ⟨plain, (held (hampered bench.chip) rfl rfl .status trivial).mono ?_⟩
  intro outcome after left ended
  obtain ⟨answered, ⟨registers, rfl⟩, diagnosed, -⟩ := ended
  rw [ports] at diagnosed
  exact ⟨answered, streaming, diagnosed⟩

end Device

end IspDriver
