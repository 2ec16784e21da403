import IspDriver.Proofs.Simulation.Sound

/-!
What a write through the window of the selected page can change on the chip. A register whose offset
lies in a page is confined to that page. The offset of a paged register can also lie past the page,
and then the block leaves the window, and past the end of the space it starts over.
-/

namespace IspDriver

theorem Outcome.eq_of_ofReply {α : Type} {reply : Option (Except Error α)} {value : α}
    (done : ofReply reply = .done value) : reply = some (.ok value) := by
  rcases reply with _ | error | found
  · cases done
  · cases done
  · cases done
    rfl

namespace Simulation

open Routine RegisterMap

namespace Chip

variable {chip before middle after : Chip} {offset : UInt16} {data : List UInt8} {page : UInt32}
  {spared : UInt32 → Nat → Prop}

/-- The chip without its registers, what it has written down and what is queued for reads. -/
def besides (chip : Chip) : Chip :=
  { chip with memory := .blank, pages := fun _ => .blank, lanes := [], writes := [] }

/-- Nothing changes but the page select and bytes of pages that are not spared. -/
structure Confined (spared : UInt32 → Nat → Prop) (before after : Chip) : Prop where
  direct : ∀ address, address < Layout.pageSelect.offset.toNat ∨
    Layout.pageSelect.offset.toNat + 4 ≤ address →
      after.memory.byte address = before.memory.byte address
  paged : ∀ page address, spared page address →
    (after.pages page).byte address = (before.pages page).byte address
  others : after.besides = before.besides

theorem confined_self (chip : Chip) : chip.Confined spared chip :=
  ⟨fun _ _ => rfl, fun _ _ _ => rfl, rfl⟩

theorem Confined.trans (first : before.Confined spared middle)
    (second : middle.Confined spared after) : before.Confined spared after where
  direct address outside := (second.direct address outside).trans (first.direct address outside)
  paged page address clear :=
    (second.paged page address clear).trans (first.paged page address clear)
  others := second.others.trans first.others

theorem byte_taken {address : Nat}
    (outside : address < offset.toNat ∨ offset.toNat + data.length ≤ address) :
    (chip.taken offset data).memory.byte address = chip.memory.byte address :=
  Memory.byte_store_outside outside

theorem confined_select (chip : Chip) (page : UInt32) :
    chip.Confined spared (chip.taken Layout.pageSelect.offset (Bytes.ofUInt32 page)) where
  direct address outside := by
    rw [← Bytes.length_ofUInt32 page] at outside
    exact byte_taken outside
  paged _ _ _ := rfl
  others := rfl

theorem confined_storePage {page? : Option UInt32} {start : Nat}
    (clear : ∀ address, spared page address → address < start ∨ start + data.length ≤ address) :
    chip.Confined spared ((chip.record page? offset data).storePage page start data) where
  direct _ _ := rfl
  paged other address spares := by
    simp only [storePage, record]
    split
    · next same =>
        subst same
        exact Memory.byte_store_outside (clear address spares)
    · rfl
  others := rfl

/-- A block that is taken in the window ends there. -/
theorem fits_of_accepted (inside : inPageWindow offset = true)
    (accepted : (chip.write offset data).1 = some (.ok ())) :
    offset.toNat + data.length ≤ 0xf000 := by
  cases span : spanFault? offset data.length with
  | none => exact (fits_of_spanFault? span).1 inside
  | some error =>
      simp only [write, span] at accepted
      split at accepted
      · cases accepted
      · split at accepted <;> cases accepted

theorem toNat_busOffset_inside {register : Register} (paged : register.isPaged = true)
    (inside : register.offset.toNat < Register.windowSize) :
    register.busOffset.toNat = Register.windowStart.toNat + register.offset.toNat := by
  unfold Register.windowSize at inside
  rw [Register.busOffset, if_pos paged, UInt16.toNat_add, toNat_windowStart]
  omega

/-- Past the page, the window is left. -/
theorem busOffset_outside {register : Register} (paged : register.isPaged = true)
    (past : Register.windowSize ≤ register.offset.toNat) :
    inPageWindow register.busOffset = false := by
  unfold Register.windowSize at past
  have bound := register.offset.toNat_lt
  have place : register.busOffset.toNat = (0xe000 + register.offset.toNat) % 0x10000 := by
    rw [Register.busOffset, if_pos paged, UInt16.toNat_add, toNat_windowStart]
  rw [Bool.eq_false_iff, ne_eq, inPageWindow_iff, place]
  omega

theorem inPageWindow_busOffset {register : Register} (paged : register.isPaged = true)
    (inside : register.offset.toNat < Register.windowSize) :
    inPageWindow register.busOffset = true := by
  rw [inPageWindow_iff, toNat_busOffset_inside paged inside, toNat_windowStart]
  unfold Register.windowSize at inside
  omega

/-- A block for a register in the selected page is refused, or stored in that page. -/
theorem write_shown {register : Register} (paged : register.isPaged = true)
    (inside : register.offset.toNat < Register.windowSize)
    (selected : chip.currentPage = register.page) :
    (∃ error, chip.write register.busOffset data = (some (.error error), chip)) ∨
      chip.write register.busOffset data =
        (some (.ok ()), (chip.record (some register.page) register.busOffset data).storePage
          register.page register.offset.toNat data) := by
  have window := inPageWindow_busOffset paged inside
  have start : (register.busOffset - Register.windowStart).toNat = register.offset.toNat := by
    rw [Register.busOffset, if_pos paged, UInt16.add_comm, UInt16.add_sub_cancel]
  rcases write_cases chip register.busOffset data with refused | ⟨-, stored⟩ | ⟨outside, -⟩
  · exact .inl refused
  · rw [start, selected] at stored
    exact .inr stored
  · rw [window] at outside
    cases outside

/-- A block that is accepted for a register in the selected page stays in that page. -/
theorem write_inside {register : Register} (paged : register.isPaged = true)
    (inside : register.offset.toNat < Register.windowSize)
    (selected : chip.currentPage = register.page)
    (accepted : (chip.write register.busOffset data).1 = some (.ok ())) :
    (chip.write register.busOffset data).2.currentPage = register.page ∧
      (chip.write register.busOffset data).2.lanes = chip.lanes ∧
      chip.Confined (fun page address => page ≠ register.page ∨ Register.windowSize ≤ address)
        (chip.write register.busOffset data).2 := by
  have fits := fits_of_accepted (inPageWindow_busOffset paged inside) accepted
  rw [toNat_busOffset_inside paged inside, toNat_windowStart] at fits
  have stays : register.offset.toNat + data.length ≤ Register.windowSize := by
    unfold Register.windowSize
    omega
  rcases write_shown paged inside selected with ⟨error, refused⟩ | stored
  · rw [refused] at accepted
    cases accepted
  · rw [stored]
    refine ⟨selected, rfl, confined_storePage fun address spares => .inr ?_⟩
    exact Nat.le_trans stays (spares.resolve_left fun other => other rfl)

/-- A block that is accepted for a register past its page is a direct write. -/
theorem write_outside {register : Register} (paged : register.isPaged = true)
    (past : Register.windowSize ≤ register.offset.toNat)
    (accepted : (chip.write register.busOffset data).1 = some (.ok ())) :
    (chip.write register.busOffset data).2.pages = chip.pages ∧
      chip.writeDirect register.busOffset data =
        (some (.ok ()), (chip.write register.busOffset data).2) := by
  have outside := busOffset_outside paged past
  rcases write_cases chip register.busOffset data with
    ⟨error, refused⟩ | ⟨inside, -⟩ | ⟨-, direct⟩
  · rw [refused] at accepted
    cases accepted
  · rw [outside] at inside
    cases inside
  · rw [direct] at accepted ⊢
    exact ⟨(frame_writeDirect chip _ _).2, Prod.ext accepted rfl⟩

end Chip

namespace Bench

variable {bench : Bench} {map : RegisterMap} {register : Register} {value : UInt32}

/-- A selection is not needed, or fails, or turns the chip to the page. -/
theorem selectPage_turns :
    (RegisterMap.selectPage register).Ends Bench.host map bench fun outcome _ left =>
      outcome ≠ .aborted ∧
        ((left.chip = bench.chip ∧
            (outcome = .done () → register.isPaged = true → map.page? = some register.page)) ∨
          left.chip =
            bench.chip.taken Layout.pageSelect.offset (Bytes.ofUInt32 register.page)) := by
  unfold RegisterMap.selectPage Bus.write32
  rw [ends_bind, ends_state]
  simp only [followed]
  split
  · next known => exact ⟨by rintro ⟨⟩, .inl ⟨rfl, fun _ paged => by simpa [paged] using known⟩⟩
  · rw [ends_bind, ends_onError, ends_writeBlock]
    by_cases refuses : bench.chip.Refuses Layout.pageSelect.offset
    · obtain ⟨error, refused⟩ := Chip.write_refused refuses
      rw [refused]
      exact ⟨by rintro ⟨⟩, .inl ⟨rfl, by rintro ⟨⟩⟩⟩
    · obtain ⟨awake, sound⟩ := not_or.mp refuses
      rw [Chip.write_pageSelect (by simpa using awake) sound]
      exact ⟨by rintro ⟨⟩, .inr rfl⟩

/-- A write either ends with the selection of its page, or does then what the chip does with its
block. -/
theorem write_ends {selected : Outcome Unit → RegisterMap → Bench → Prop}
    (width : register.width = 2 ∨ register.width = 4)
    (selects : (RegisterMap.selectPage register).Ends Bench.host map bench selected) :
    (RegisterMap.write register value).Ends Bench.host map bench fun outcome after left =>
      (outcome ≠ .done () ∧ selected outcome after left) ∨
        ∃ between, selected (.done ()) after between ∧
          outcome = .ofReply (between.chip.write register.busOffset (busBytes register value)).1 ∧
          left.chip = (between.chip.write register.busOffset (busBytes register value)).2 := by
  unfold RegisterMap.write
  rw [ends_bind, ends_checkWidth width]
  simp only [followed]
  refine selects.bind ?_ (fun _ _ _ failed => .inl ⟨by rintro ⟨⟩, failed⟩)
    (fun _ _ aborted => .inl ⟨by rintro ⟨⟩, aborted⟩)
  intro _ after between done
  rw [ends_bind, ends_note]
  simp only [followed]
  rw [send_eq width, ends_onError, ends_writeBlock]
  simp only [Bench.host]
  rcases answered : between.chip.write register.busOffset (busBytes register value) with
    ⟨_ | _ | _, chip⟩ <;>
    refine .inr ⟨between, done, ?_, ?_⟩ <;> rw [answered] <;> rfl

/-- A write to a paged register that is accepted is one of two things. To a register that lies in a
page it goes into the window, and changes nothing but bytes of that page, apart from the page
select. To a register past the page it is a direct write, and changes no page. -/
theorem paged_write_confined (paged : register.isPaged = true)
    (current : map.page? = some register.page → bench.chip.currentPage = register.page) :
    (RegisterMap.write register value).Ends Bench.host map bench fun outcome _ left =>
      outcome = .done () →
        (register.offset.toNat < Register.windowSize →
          left.chip.currentPage = register.page ∧ left.chip.lanes = bench.chip.lanes ∧
            bench.chip.Confined
              (fun page address => page ≠ register.page ∨ Register.windowSize ≤ address)
              left.chip) ∧
        (Register.windowSize ≤ register.offset.toNat →
          left.chip.pages = bench.chip.pages ∧
            ∃ shown : Chip,
              (shown = bench.chip ∨
                shown = bench.chip.taken Layout.pageSelect.offset (Bytes.ofUInt32 register.page)) ∧
              shown.currentPage = register.page ∧
              shown.writeDirect register.busOffset (busBytes register value) =
                (some (.ok ()), left.chip)) := by
  by_cases width : register.width = 2 ∨ register.width = 4
  · refine (write_ends width selectPage_turns).mono ?_
    intro outcome _ left ended accepted
    rcases ended with ⟨stopped, -⟩ | ⟨between, ⟨-, turns⟩, result, written⟩
    · exact absurd accepted stopped
    have shown : between.chip = bench.chip ∨ between.chip =
        bench.chip.taken Layout.pageSelect.offset (Bytes.ofUInt32 register.page) :=
      turns.imp_left And.left
    have selected : between.chip.currentPage = register.page := by
      rcases turns with ⟨same, known⟩ | turned
      · rw [same]
        exact current (known rfl paged)
      · rw [turned]
        exact Chip.currentPage_storeDirect_pageSelect _ _
    have reply : (between.chip.write register.busOffset (busBytes register value)).1 =
        some (.ok ()) := by
      rw [result] at accepted
      exact Outcome.eq_of_ofReply accepted
    rw [written]
    constructor
    · intro inside
      obtain ⟨page, lanes, stored⟩ := Chip.write_inside paged inside selected reply
      refine ⟨page, ?_, ?_⟩
      · rcases shown with same | turned
        · rw [lanes, same]
        · rw [lanes, turned]
          rfl
      · rcases shown with same | turned
        · rwa [same] at stored ⊢
        · rw [turned] at stored ⊢
          exact (Chip.confined_select _ _).trans stored
    · intro past
      obtain ⟨pages, direct⟩ := Chip.write_outside paged past reply
      refine ⟨?_, between.chip, shown, selected, direct⟩
      rcases shown with same | turned
      · rw [pages, same]
      · rw [pages, turned]
        rfl
  · rw [write_of_width width]
    exact nofun

/-- A paged register whose offset leads past its page, around to the start of the bus space. -/
def strayRegister : Register :=
  .of32 0x00422000

/-- The first byte of the bus space, after a write. -/
def firstByte : Outcome Unit × RegisterMap × Bench → Option UInt8
  | (.done _, _, left) => some (left.chip.memory.byte 0)
  | _ => none

/-- A paged write can change the direct space. -/
theorem paged_write_strays :
    ¬ ∀ (bench : Bench) (register : Register) (value : UInt32), bench.chip.Sound →
      register.isPaged = true →
        (RegisterMap.write register value).Yields Bench.host {} bench fun _ _ left =>
          bench.chip.Confined (fun page _ => page ≠ register.page) left.chip := by
  intro confined
  have held := confined Bench.fresh strayRegister 0 ⟨rfl, rfl, rfl, rfl⟩ (by decide)
  have shown : firstByte (RegisterMap.write strayRegister 0 Bench.host {} Bench.fresh) =
      some 0 := by
    decide +kernel
  refine held.false_of_seen shown (fun _ _ _ => rfl) (fun _ _ => rfl) ?_
  intro _ _ left shown confined
  have kept := confined.direct 0 (.inl (by decide))
  rw [Option.some.inj shown] at kept
  exact absurd kept (by decide)

/-- One of two registers of a page lies in it. -/
theorem fresh_write_confined :
    (Register.of32 0x00420010).isPaged = true ∧ strayRegister.isPaged = true ∧
      (RegisterMap.write (.of32 0x00420010) 7).Gives Bench.host {} Bench.fresh
        (fun _ _ left => left.chip.currentPage = 0x420000 ∧
          Bench.fresh.chip.Confined
            (fun page address => page ≠ 0x420000 ∨ Register.windowSize ≤ address) left.chip) ∧
      (RegisterMap.write strayRegister 0).Gives Bench.host {} Bench.fresh
        (fun _ _ left => left.chip.pages = Bench.fresh.chip.pages) := by
  have inside := @paged_write_confined Bench.fresh {} (.of32 0x00420010) 7 (by decide) nofun
  have past := @paged_write_confined Bench.fresh {} strayRegister 0 (by decide) nofun
  have accepted : (RegisterMap.write (.of32 0x00420010) 7 Bench.host {} Bench.fresh).1 =
      .done () := by decide +kernel
  have strays : (RegisterMap.write strayRegister 0 Bench.host {} Bench.fresh).1 = .done () := by
    decide +kernel
  refine ⟨by decide, by decide, ?_, ?_⟩
  · refine (inside.gives_of_done accepted).mono ?_
    intro _ _ left ended
    obtain ⟨page, -, confined⟩ := (ended rfl).1 (by decide)
    exact ⟨page, confined⟩
  · refine (past.gives_of_done strays).mono ?_
    intro _ _ left ended
    exact ((ended rfl).2 (by decide)).1

end Bench

end Simulation

end IspDriver
