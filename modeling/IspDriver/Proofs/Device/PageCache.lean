import IspDriver.Proofs.Device.Stream

/-!
The page that a device remembers as selected, against the page select of the chip on its bench. A
selection that succeeds is remembered, one that fails forgets the page, and so does every power-up,
so the remembered page is the selected one, as long as no plain register write reaches the page
select by another way: directly, through an offset that starts over at the end of the space, or by a
copy of the engine.
-/

namespace IspDriver

open Routine

namespace Simulation

namespace Chip

variable {chip : Chip} {offset : UInt16} {data : List UInt8} {page : UInt32}

/-- The page select holds the page, and the chip is out of reset. -/
def Selects (page : UInt32) (chip : Chip) : Prop :=
  chip.Shows Layout.pageSelect.offset.toNat (Bytes.ofUInt32 page)

theorem Selects.currentPage (selects : chip.Selects page) : chip.currentPage = page :=
  Shows.word32 selects

/-- A block that is stored apart from the page select and starts no copy into memory. -/
def SparesPage (offset : UInt16) (data : List UInt8) : Prop :=
  (offset.toNat + data.length ≤ Layout.pageSelect.offset.toNat ∨
    Layout.pageSelect.offset.toNat + 4 ≤ offset.toNat) ∧
  (offset = Layout.copyControl.offset → data.length = 2 →
    Bytes.bigEndian data &&& Layout.Copy.modeMask = Layout.Copy.start →
      (Bytes.bigEndian data >>> 8) &&& 3 = 3)

instance : Decidable (SparesPage offset data) :=
  inferInstanceAs (Decidable (_ ∧ _))

theorem sparesPage_of_misses
    (misses : Misses Layout.pageSelect.offset.toNat 4 offset data.length) :
    SparesPage offset data :=
  ⟨misses.1, fun control => absurd control misses.2.2⟩

theorem beside_pageSelect (page : UInt32) :
    BesideEngine Layout.pageSelect.offset.toNat (Bytes.ofUInt32 page).length := by
  rw [Bytes.length_ofUInt32]
  decide

theorem Selects.write (selects : chip.Selects page) (spares : SparesPage offset data) :
    (chip.write offset data).2.Selects page := by
  obtain ⟨apart, toSensor⟩ := spares
  refine Shows.write_apart selects (beside_pageSelect page) ?_ (fun _ => ?_) ?_
  · rwa [Bytes.length_ofUInt32]
  · rw [Bytes.length_ofUInt32]
    decide
  · exact fun control short starts => .inl (toSensor control short starts)

/-- A selection is refused and changes nothing, or the page is selected. -/
theorem select_cases (chip : Chip) (page : UInt32) :
    (∃ error, chip.write Layout.pageSelect.offset (Bytes.ofUInt32 page) =
        (some (.error error), chip)) ∨
      ∃ after, chip.write Layout.pageSelect.offset (Bytes.ofUInt32 page) = (some (.ok ()), after) ∧
        after.Selects page ∧ after.pages = chip.pages := by
  by_cases refuses : chip.Refuses Layout.pageSelect.offset
  · exact .inl (write_refused refuses)
  · obtain ⟨accepted, selects, -⟩ := @write_taken _ _ (Bytes.ofUInt32 page) refuses
      isOrdinary_pageSelect (by rw [Bytes.length_ofUInt32]; decide)
    obtain ⟨awake, sound⟩ := not_or.mp refuses
    refine .inr ⟨_, Prod.ext accepted rfl, selects, ?_⟩
    rw [write_pageSelect (by simpa using awake) sound]
    rfl

end Chip

namespace Bench

variable {map : RegisterMap} {bench : Bench} {register : Register} {value : UInt32}

/-- The page that is remembered is selected. -/
def Remembers (map : RegisterMap) (bench : Bench) : Prop :=
  ∀ page, map.page? = some page → bench.chip.Selects page

theorem remembers_nothing (unknown : map.page? = none) : Remembers map bench :=
  fun page remembered => by simp [unknown] at remembered

/-- After a selection a paged register is on the page that is selected; no page has changed. -/
theorem selectPage_ends (remembers : Remembers map bench) :
    (RegisterMap.selectPage register).Ends Bench.host map bench fun outcome after left =>
      Remembers after left ∧ left.chip.pages = bench.chip.pages ∧
        (outcome = .done () → register.isPaged = true → left.chip.currentPage = register.page) := by
  unfold RegisterMap.selectPage
  rw [ends_bind, ends_state]
  simp only [followed]
  split
  · next known =>
      refine ends_done.mpr ⟨remembers, rfl, fun _ paged => ?_⟩
      exact (remembers register.page (by simpa [paged] using known)).currentPage
  · rw [ends_bind, ends_onError]
    unfold Bus.write32
    rw [ends_writeBlock]
    rcases bench.chip.select_cases register.page with
      ⟨error, refused⟩ | ⟨after, accepted, selects, same⟩
    · rw [refused]
      simp only [Outcome.ofReply, ends_bind, ends_note, followed, RegisterMap.rememberPage,
        ends_modify]
      exact ⟨remembers_nothing rfl, rfl, by rintro ⟨⟩⟩
    · rw [accepted]
      simp only [Outcome.ofReply, ends_bind, ends_note, followed, RegisterMap.rememberPage,
        ends_modify]
      refine ⟨fun page remembered => ?_, same, fun _ _ => selects.currentPage⟩
      cases remembered
      exact selects

/-- Register accesses leave the remembered page selected, if what they write spares it. -/
theorem carries_remembers : Carries Bench.host Chip.SparesPage Remembers Remembers where
  read _ _ _ _ remembers := replied_read fun _ page remembered =>
    ⟨(remembers page remembered).awake, (remembers page remembered).loaded⟩
  write _ _ _ _ spares remembers := replied_write fun page remembered =>
    (remembers page remembered).write spares
  wait _ _ _ remembers := remembers
  noted _ _ _ remembers := remembers
  select _ map bench remembers := by
    refine (selectPage_ends remembers).mono ?_
    intro outcome after left ended
    cases outcome with
    | done _ => exact ended.1
    | failed error => exact ended.1
    | aborted => exact ended.1

/-- A paged write changes no page but that of its register. -/
theorem write_pages (remembers : Remembers map bench) (paged : register.isPaged = true) :
    (RegisterMap.write register value).Ends Bench.host map bench fun _ _ left =>
      ∀ page, page ≠ register.page → left.chip.pages page = bench.chip.pages page := by
  by_cases width : register.width = 2 ∨ register.width = 4
  · unfold RegisterMap.write
    rw [ends_bind, RegisterMap.ends_checkWidth width]
    simp only [followed]
    refine (selectPage_ends remembers).bind ?_ ?_ ?_
    · intro _ middle between ended
      obtain ⟨-, same, selected⟩ := ended
      rw [ends_bind, ends_note]
      simp only [followed]
      rw [RegisterMap.send_eq width, ends_onError, ends_writeBlock]
      have kept : ∀ page, page ≠ register.page →
          (between.chip.write register.busOffset (RegisterMap.busBytes register value)).2.pages
            page = bench.chip.pages page := by
        intro page other
        rw [Chip.pages_write (by rwa [selected rfl paged]), same]
      simp only [Bench.host]
      generalize between.chip.write register.busOffset _ = answer at kept ⊢
      obtain ⟨_ | _ | _, chip⟩ := answer <;> exact kept
    · exact fun _ _ _ ended page _ => congrFun ended.2.1 page
    · exact fun _ _ ended page _ => congrFun ended.2.1 page
  · rw [RegisterMap.write_of_width width]
    exact fun _ _ => rfl

theorem maySend_sparing
    (misses : Chip.Misses Layout.pageSelect.offset.toNat 4 register.busOffset 4) :
    MaySend Chip.SparesPage register :=
  fun width value => Chip.sparesPage_of_misses (maySend_of_misses misses width value)

theorem harmless_remembers : Bridge.Harmless Bench.host Remembers Remembers := by
  refine harmless_of_landing carries_remembers (fun register described => ?_) ?_
  · have engine : ∀ register ∈ [Layout.copySize, Layout.copySource, Layout.copyTarget],
        Chip.Misses Layout.pageSelect.offset.toNat 4 register.busOffset 4 := by decide
    exact maySend_sparing (engine register described)
  · intro map bench left control remembers safe written page remembered
    unfold Chip.Selects
    rw [written]
    exact (remembers page remembered).write_control (Chip.beside_pageSelect page) safe

end Bench

end Simulation

namespace Device

open Simulation

variable {device : Device} {bench : Bench}

theorem control_sparing (id : ControlId) : MaySend Chip.SparesPage id.register :=
  Bench.maySend_sparing (by cases id <;> decide)

theorem configured_sparing : ∀ register ∈ Action.configured, MaySend Chip.SparesPage register := by
  have misses : ∀ register ∈ Action.configured,
      Chip.Misses Layout.pageSelect.offset.toNat 4 register.busOffset 4 := by decide
  exact fun register member => Bench.maySend_sparing (misses register member)

theorem latches_sparing : Diagnostics.ClearsLatches Chip.SparesPage := by
  have latches := @Bench.clearsLatches_of_misses Layout.pageSelect.offset.toNat 4 (by decide)
  intro port lane member width value
  exact Chip.sparesPage_of_misses (latches port lane member width value)

theorem systemStart_sparing : MaySend Chip.SparesPage Layout.systemStart :=
  Bench.maySend_sparing (by decide)

theorem interruptEnable_sparing : MaySend Chip.SparesPage Layout.interruptEnable :=
  Bench.maySend_sparing (by decide)

theorem sends_sparing (action : Action)
    (allowed : ∀ register value, action ≠ .writeRegister register value) :
    action.Sends Chip.SparesPage := by
  cases action with
  | setStream enable =>
      exact ⟨control_sparing, configured_sparing, systemStart_sparing, interruptEnable_sparing⟩
  | setControl id requested => exact control_sparing id
  | writeRegister register value => exact absurd rfl (allowed register value)
  | status => exact latches_sparing
  | lanes port => exact latches_sparing
  | _ => trivial

/-- What is sent for the value neither reaches the page select nor starts a copy into memory. -/
def Sparing (register : Register) (value : UInt32) : Prop :=
  register.width = 2 ∨ register.width = 4 →
    Chip.SparesPage register.busOffset (RegisterMap.busBytes register value)

instance (register : Register) (value : UInt32) : Decidable (Sparing register value) :=
  inferInstanceAs (Decidable (_ → _))

/-- The page that a device remembers is selected. -/
def Remembers : Device → Bench → Prop :=
  Seen (fun _ => ()) fun _ => Bench.Remembers

theorem perform_remembers (remembers : device.Remembers bench) (action : Action)
    (sparing : ∀ register value, action = .writeRegister register value → Sparing register value) :
    action.perform.Ends Bench.host device bench fun _ => Remembers := by
  by_cases allowed : ∀ register value, action ≠ .writeRegister register value
  · have kept := Action.keeps_perform action action.hidden_nothing
      (fun _ => Bench.carries_remembers) (fun _ => Bench.harmless_remembers) (fun _ _ _ => id)
      (sends_sparing action allowed)
    exact kept.ends remembers
  · cases action with
    | writeRegister register value =>
        have unpaged : UnpagedView fun _ => () := fun _ _ => rfl
        have kept := keeps_onRegisters unpaged fun _ =>
          Bench.carries_remembers.keeps_writeValue (sparing register value rfl)
        exact kept.ends remembers
    | _ => exact absurd (fun _ _ => by simp) allowed

theorem take_remembers {course : Course} (remembers : course.device.Remembers course.bench)
    (turn : Turn) (sparing : ∀ register value, turn = .act (.writeRegister register value) →
      Sparing register value) :
    (course.take turn).device.Remembers (course.take turn).bench := by
  cases turn with
  | act action =>
      have spares : ∀ register value, action = .writeRegister register value →
          Sparing register value :=
        fun register value same => sparing register value (congrArg Turn.act same)
      exact perform_remembers remembers action spares
  | faults faults =>
      intro page remembered
      exact ⟨(remembers page remembered).awake, (remembers page remembered).loaded⟩

theorem takeAll_remembers (turns : List Turn) {course : Course}
    (remembers : course.device.Remembers course.bench)
    (sparing : ∀ register value, .act (.writeRegister register value) ∈ turns →
      Sparing register value) :
    (Course.takeAll turns course).device.Remembers (Course.takeAll turns course).bench := by
  refine @Course.takeAll_keeps (fun course => course.device.Remembers course.bench) _ _ ?_ remembers
  intro turn member course remembers
  exact take_remembers remembers turn fun register value same =>
    sparing register value (same ▸ member)

/-- A boot forgets the page when the chip powers up, so its stall starts without one. -/
theorem attach_remembers {S : Type} (wiring : Wiring) (config : BoardConfig) (state : S)
    (bench : Bench) :
    (attach wiring config).Yields Bench.host state bench fun device _ left =>
      device.Remembers left := by
  have stalls : ∀ device bench, Forgetful (fun _ => True) device →
      stall.Yields Bench.host device bench fun _ after left =>
        True ∧ Bench.Remembers after.registers left := by
    intro device bench forgets
    have unpaged : UnpagedView fun _ => () := fun _ _ => rfl
    have kept := keeps_stall unpaged (fun _ => Bench.carries_remembers) systemStart_sparing
      interruptEnable_sparing
    exact (kept.yields (Bench.remembers_nothing forgets.2)).mono fun _ _ _ ended =>
      ⟨trivial, ended⟩
  have attached := @yields_attach_of Bench S Bench.host Bench.Remembers (fun _ => True) state bench
    config (fun _ _ _ _ _ _ => trivial) stalls (fun _ _ _ remembers => remembers)
    (fun _ _ => trivial) wiring
  exact attached.mono fun _ _ _ ended => ended.2

/-- From an attach on, through anything asked of the device and any faults of the chip, as long as
no plain register write reaches the page select: a page that the device remembers is the one the
chip has selected. So whenever a paged register is accessed its own page is selected, and a write of
it changes no other page. -/
theorem remembered_page_selected {S : Type} (wiring : Wiring) (config : BoardConfig) (state : S)
    (bench : Bench) :
    (attach wiring config).Yields Bench.host state bench fun device _ left => ∀ turns,
      (∀ register value, .act (.writeRegister register value) ∈ turns → Sparing register value) →
        match Course.takeAll turns ⟨device, left, false⟩ with
        | ⟨device, bench, _⟩ =>
            (∀ page, device.registers.page? = some page → bench.chip.currentPage = page) ∧
              ∀ register : Register, register.isPaged = true →
                (RegisterMap.selectPage register).Yields Bench.host device.registers bench
                    (fun _ _ ready => ready.chip.currentPage = register.page) ∧
                  ∀ value, (RegisterMap.write register value).Ends Bench.host device.registers bench
                    fun _ _ left => ∀ page, page ≠ register.page →
                      left.chip.pages page = bench.chip.pages page := by
  refine (attach_remembers wiring config state bench).mono ?_
  intro device _ left remembers turns sparing
  have kept := @takeAll_remembers turns ⟨device, left, false⟩ remembers sparing
  generalize Course.takeAll turns ⟨device, left, false⟩ = course at kept ⊢
  obtain ⟨device, bench, cutShort⟩ := course
  refine ⟨fun page remembered => (kept page remembered).currentPage, fun register paged => ⟨?_, ?_⟩⟩
  · exact (Bench.selectPage_ends kept).yields fun _ _ _ ended => ended.2.2 rfl paged
  · exact fun value => Bench.write_pages kept paged

/-- The remembered page and the selected one, after an attach and some turns. -/
def pagesAfter (turns : List Turn) : Outcome Device × Unit × Bench → Option (Option UInt32 × UInt32)
  | (.done device, _, left) =>
      match Course.takeAll turns ⟨device, left, false⟩ with
      | ⟨device, bench, _⟩ => some (device.registers.page?, bench.chip.currentPage)
  | _ => none

/-- A plain write of another page to the page select. -/
def strayWrite : List Turn :=
  [.act (.writeRegister Layout.pageSelect 0x420000)]

/-- The page select can be written as a register, and then the remembered page is not the selected
one. -/
theorem remembered_page_misled :
    ¬ ∀ (wiring : Wiring) (config : BoardConfig) (bench : Bench) (turns : List Turn),
      (attach wiring config).Yields Bench.host () bench fun device _ left =>
        match Course.takeAll turns ⟨device, left, false⟩ with
        | ⟨device, bench, _⟩ =>
            ∀ page, device.registers.page? = some page → bench.chip.currentPage = page := by
  intro current
  have held := current ⟨true, true⟩ oneSensor stockedBench strayWrite
  have shown : pagesAfter strayWrite (attach ⟨true, true⟩ oneSensor Bench.host () stockedBench) =
      some (some Layout.interruptEnable.page, 0x420000) := by
    decide +kernel
  refine held.false_of_seen shown (fun _ _ _ => rfl) (fun _ _ => rfl) ?_
  intro device _ left shown held
  simp only [pagesAfter, Option.some.injEq, Prod.mk.injEq] at shown
  generalize Course.takeAll strayWrite ⟨device, left, false⟩ = course at held shown
  obtain ⟨device, bench, cutShort⟩ := course
  obtain ⟨remembered, selected⟩ := shown
  have same := held _ remembered
  rw [selected] at same
  exact absurd same (by decide)

/-- Paged accesses around a selection that fails, with a stream and copies between sensors. -/
def pagedTurns : List Turn :=
  [.act (.setStream true), .act (.writeRegister (.of32 0x420010) 7),
    .act (.writeRegister Layout.copyControl 0x0332),
    .faults { writes := [Layout.pageSelect.offset] }, .act (.readRegister (.of16 0x230000)),
    .faults {}, .act (.readSensor 0 (.of16 0x3000)), .act (.readRegister (.of32 0x420010))]

theorem sparing_pagedTurns (register : Register) (value : UInt32)
    (among : .act (.writeRegister register value) ∈ pagedTurns) : Sparing register value := by
  simp only [pagedTurns, List.mem_cons, Turn.act.injEq, Action.writeRegister.injEq,
    List.not_mem_nil, reduceCtorEq, false_or, or_false] at among
  rcases among with ⟨rfl, rfl⟩ | ⟨rfl, rfl⟩
  · decide
  · decide

theorem oneSensor_remembers_page :
    (attach ⟨true, true⟩ oneSensor).Gives Bench.host () stockedBench fun device _ left =>
      (∀ register value, .act (.writeRegister register value) ∈ pagedTurns →
        Sparing register value) ∧
        match Course.takeAll pagedTurns ⟨device, left, false⟩ with
        | ⟨device, bench, _⟩ =>
            device.registers.page? = some 0x420000 ∧ bench.chip.currentPage = 0x420000 ∧
              ∀ value, (RegisterMap.write (.of32 0x420010) value).Ends Bench.host device.registers
                bench fun _ _ left => ∀ page, page ≠ 0x420000 →
                  left.chip.pages page = bench.chip.pages page := by
  have current := remembered_page_selected ⟨true, true⟩ oneSensor () stockedBench
  have shown : pagesAfter pagedTurns (attach ⟨true, true⟩ oneSensor Bench.host () stockedBench) =
      some (some 0x420000, 0x420000) := by
    decide +kernel
  have sparing := sparing_pagedTurns
  -- The turns are not run any further from here on.
  generalize pagedTurns = turns at shown sparing ⊢
  refine current.gives_of_seen shown (fun _ _ _ => rfl) (fun _ _ => rfl) ?_
  intro device _ left shown current
  have held := current turns sparing
  simp only [pagesAfter, Option.some.injEq, Prod.mk.injEq] at shown
  generalize Course.takeAll turns ⟨device, left, false⟩ = course at held shown ⊢
  obtain ⟨device, bench, cutShort⟩ := course
  obtain ⟨selected, accesses⟩ := held
  refine ⟨sparing, shown.1, selected _ shown.1, ?_⟩
  exact (accesses (.of32 0x420010) (by decide)).2

end Device

end IspDriver
