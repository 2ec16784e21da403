import IspDriver.Proofs.Register.Map

/-!
What register accesses leave alone. Something about the world outside is undisturbed if no block
that may be sent changes it; then no register access does, as long as it sends nothing else.
-/

namespace IspDriver

open Routine

/-- What holds of the world after a request: `kept` after a reply, `broken` after none. -/
def Replied {σ α : Type} (kept broken : σ → Prop) : Option α × σ → Prop
  | (some _, left) => kept left
  | (none, left) => broken left

/-- Blocks that are read, allowed blocks that are written, waits and notes leave `kept` true. -/
structure Undisturbed {σ : Type} (host : Host σ) (allowed : UInt16 → List UInt8 → Prop)
    (kept broken : σ → Prop) : Prop where
  read : ∀ offset count world, kept world →
    Replied kept broken (host.answer (.read offset count) world)
  write : ∀ offset data world, allowed offset data → kept world →
    Replied kept broken (host.answer (.write offset data) world)
  wait : ∀ microseconds world, kept world →
    Replied kept broken (host.answer (.wait microseconds) world)
  noted : ∀ note world, kept world → kept (host.note note world)
  /-- Any page may be selected. -/
  select : ∀ page, allowed Layout.pageSelect.offset (Bytes.ofUInt32 page)

/-- The same of what is kept of the world together with the state of a routine. -/
structure Withstands {σ S : Type} (host : Host σ) (allowed : UInt16 → List UInt8 → Prop)
    (kept broken : S → σ → Prop) : Prop where
  read : ∀ offset count state world, kept state world →
    Replied (kept state) (broken state) (host.answer (.read offset count) world)
  write : ∀ offset data state world, allowed offset data → kept state world →
    Replied (kept state) (broken state) (host.answer (.write offset data) world)
  wait : ∀ microseconds state world, kept state world →
    Replied (kept state) (broken state) (host.answer (.wait microseconds) world)
  noted : ∀ note state world, kept state world → kept state (host.note note world)

/-- Register accesses that write allowed blocks leave `kept` true. -/
structure Carries {σ : Type} (host : Host σ) (allowed : UInt16 → List UInt8 → Prop)
    (kept broken : RegisterMap → σ → Prop) : Prop extends Withstands host allowed kept broken where
  select : ∀ register, Keeps host kept broken (RegisterMap.selectPage register)

/-- Whatever value the register is given, its block may be sent. -/
def MaySend (allowed : UInt16 → List UInt8 → Prop) (register : Register) : Prop :=
  register.width = 2 ∨ register.width = 4 →
    ∀ value, allowed register.busOffset (RegisterMap.busBytes register value)

section Requests

variable {σ S : Type} {host : Host σ} {allowed : UInt16 → List UInt8 → Prop}
  {kept broken : σ → Prop}

theorem keeps_ask {request : Request} {invariant unanswered : S → σ → Prop}
    (replied : ∀ state world, invariant state world →
      Replied (invariant state) (unanswered state) (host.answer request world)) :
    Keeps host invariant unanswered (ask request : Routine σ S (Reply request)) := by
  intro state world holds
  rw [ends_ask]
  have after := replied state world holds
  generalize host.answer request world = answer at after ⊢
  obtain ⟨reply, left⟩ := answer
  cases reply with
  | none => exact after
  | some reply => exact after

namespace Undisturbed

theorem known (undisturbed : Undisturbed host allowed kept broken) (fact : Prop) :
    Undisturbed host allowed (fun world => fact ∧ kept world)
      (fun world => fact ∧ broken world) := by
  have besides : ∀ {α : Type} {answer : Option α × σ}, fact → Replied kept broken answer →
      Replied (fun world => fact ∧ kept world) (fun world => fact ∧ broken world) answer := by
    intro α answer holds replied
    obtain ⟨reply, left⟩ := answer
    cases reply with
    | none => exact ⟨holds, replied⟩
    | some reply => exact ⟨holds, replied⟩
  exact {
    read := fun _ _ _ holds => besides holds.1 (undisturbed.read _ _ _ holds.2)
    write := fun _ _ _ sends holds => besides holds.1 (undisturbed.write _ _ _ sends holds.2)
    wait := fun _ _ holds => besides holds.1 (undisturbed.wait _ _ holds.2)
    noted := fun _ _ holds => ⟨holds.1, undisturbed.noted _ _ holds.2⟩
    select := undisturbed.select }

theorem some {ι : Type} [Inhabited ι] {kept broken : ι → σ → Prop}
    (each : ∀ i, Undisturbed host allowed (kept i) (broken i)) :
    Undisturbed host allowed (fun world => ∃ i, kept i world)
      (fun world => ∃ i, broken i world) := by
  have among : ∀ {α : Type} {answer : Option α × σ} (i : ι), Replied (kept i) (broken i) answer →
      Replied (fun world => ∃ i, kept i world) (fun world => ∃ i, broken i world) answer := by
    intro α answer i replied
    obtain ⟨reply, left⟩ := answer
    cases reply with
    | none => exact ⟨i, replied⟩
    | some reply => exact ⟨i, replied⟩
  exact {
    read := fun _ _ _ ⟨i, holds⟩ => among i ((each i).read _ _ _ holds)
    write := fun _ _ _ sends ⟨i, holds⟩ => among i ((each i).write _ _ _ sends holds)
    wait := fun _ _ ⟨i, holds⟩ => among i ((each i).wait _ _ holds)
    noted := fun _ _ ⟨i, holds⟩ => ⟨i, (each i).noted _ _ holds⟩
    select := (each default).select }

theorem withstands (undisturbed : Undisturbed host allowed kept broken) :
    Withstands host allowed (fun _ : S => kept) (fun _ => broken) where
  read offset count _ := undisturbed.read offset count
  write offset data _ := undisturbed.write offset data
  wait microseconds _ := undisturbed.wait microseconds
  noted note _ := undisturbed.noted note

end Undisturbed

namespace Withstands

variable {kept broken : S → σ → Prop}

theorem keeps_note (withstands : Withstands host allowed kept broken) {level : Level}
    {text : String} : Keeps host kept broken (note level text : Routine σ S Unit) :=
  withstands.noted ⟨level, text⟩

theorem keeps_wait (withstands : Withstands host allowed kept broken) {microseconds : UInt32} :
    Keeps host kept broken (Host.wait microseconds : Routine σ S Unit) :=
  keeps_ask (withstands.wait microseconds)

theorem keeps_readBlock (withstands : Withstands host allowed kept broken) {offset : UInt16}
    {count : Nat} :
    Keeps host kept broken (Host.readBlock offset count : Routine σ S (Vector UInt8 count)) :=
  (keeps_ask (withstands.read offset count)).bind fun _ => keeps_ofExcept

theorem keeps_writeBlock (withstands : Withstands host allowed kept broken) {offset : UInt16}
    {data : List UInt8} (sends : allowed offset data) :
    Keeps host kept broken (Host.writeBlock offset data : Routine σ S Unit) :=
  (keeps_ask fun state world => withstands.write offset data state world sends).bind fun _ =>
    keeps_ofExcept

end Withstands

end Requests

namespace RegisterMap

variable {σ : Type} {host : Host σ} {kept broken : RegisterMap → σ → Prop} {register : Register}

theorem keeps_checkWidth : Keeps host kept broken (checkWidth register) := by
  unfold checkWidth
  split
  · exact keeps_done
  · exact keeps_refuse

end RegisterMap

namespace Carries

variable {σ : Type} {host : Host σ} {allowed : UInt16 → List UInt8 → Prop}
  {kept broken : RegisterMap → σ → Prop} {register : Register} {value mask : UInt32}

theorem keeps_read (carries : Carries host allowed kept broken) :
    Keeps host kept broken (RegisterMap.read register) := by
  refine RegisterMap.keeps_checkWidth.bind fun _ => (carries.select register).bind fun _ => ?_
  refine Keeps.onError ?_ fun _ => carries.keeps_note
  split
  · exact (carries.keeps_readBlock.bind fun _ => keeps_pure).bind fun _ => keeps_pure
  · exact carries.keeps_readBlock.bind fun _ => keeps_pure

/-- A width that no register of the chip has is refused before anything is sent. -/
theorem keeps_writeValue (carries : Carries host allowed kept broken)
    (sends : register.width = 2 ∨ register.width = 4 →
      allowed register.busOffset (RegisterMap.busBytes register value)) :
    Keeps host kept broken (RegisterMap.write register value) := by
  by_cases width : register.width = 2 ∨ register.width = 4
  · refine RegisterMap.keeps_checkWidth.bind fun _ => (carries.select register).bind fun _ => ?_
    refine carries.keeps_note.bind fun _ => ?_
    rw [RegisterMap.send_eq width]
    exact (carries.keeps_writeBlock (sends width)).onError fun _ => carries.keeps_note
  · rw [RegisterMap.write_of_width width]
    exact keeps_refuse

theorem keeps_write (carries : Carries host allowed kept broken)
    (sends : MaySend allowed register) :
    Keeps host kept broken (RegisterMap.write register value) :=
  carries.keeps_writeValue fun width => sends width value

theorem keeps_updateBits (carries : Carries host allowed kept broken)
    (sends : MaySend allowed register) :
    Keeps host kept broken (RegisterMap.updateBits register mask value) := by
  refine carries.keeps_read.bind fun current => ?_
  simp only
  split
  · exact keeps_done
  · exact carries.keeps_write sends

theorem keeps_writeAll (carries : Carries host allowed kept broken)
    {writes : List (Register × UInt32)} (sends : ∀ entry ∈ writes, MaySend allowed entry.1) :
    Keeps host kept broken (RegisterMap.writeAll writes) := by
  induction writes with
  | nil => exact keeps_done
  | cons entry rest ih =>
      have first := sends entry (List.mem_cons_self ..)
      refine (carries.keeps_write first).bind fun _ => ?_
      exact ih fun entry member => sends entry (List.mem_cons_of_mem _ member)

theorem keeps_readBytes (carries : Carries host allowed kept broken) {offset : UInt16}
    {count : Nat} : Keeps host kept broken (RegisterMap.readBlock offset count) :=
  carries.keeps_readBlock.onError fun _ => carries.keeps_note

theorem keeps_writeBytes (carries : Carries host allowed kept broken) {offset : UInt16}
    {data : List UInt8} (sends : allowed offset data) :
    Keeps host kept broken (RegisterMap.writeBlock offset data) :=
  (carries.keeps_writeBlock sends).onError fun _ => carries.keeps_note

end Carries

/-- What does not depend on the page withstands its selection. -/
theorem Undisturbed.carries {σ : Type} {host : Host σ} {allowed : UInt16 → List UInt8 → Prop}
    {kept broken : σ → Prop} (undisturbed : Undisturbed host allowed kept broken) :
    Carries host allowed (fun _ => kept) (fun _ => broken) where
  toWithstands := undisturbed.withstands
  select register := by
    have withstands : Withstands host allowed (fun _ : RegisterMap => kept) (fun _ => broken) :=
      undisturbed.withstands
    refine keeps_state.bind fun map => ?_
    split
    · exact keeps_done
    · refine Keeps.bind ?_ fun _ => withstands.keeps_note.bind fun _ => keeps_modify fun _ _ => id
      refine (withstands.keeps_writeBlock (undisturbed.select _)).onError fun error => ?_
      exact withstands.keeps_note.bind fun _ => keeps_modify fun _ _ => id

namespace RegisterMap

variable {σ : Type} {host : Host σ} {fact : RegisterMap → Prop} {register : Register}
  {value : UInt32}

theorem keeps_fact_selectPage (direct : register.page = 0) :
    Keeps host (fun map _ => fact map) (fun _ _ => True) (RegisterMap.selectPage register) := by
  refine keeps_state.bind fun map => ?_
  simp only [Register.isPaged, direct, bne_self_eq_false, Bool.not_false, Bool.true_or, if_true]
  exact keeps_done

theorem keeps_fact_read (direct : register.page = 0) :
    Keeps host (fun map _ => fact map) (fun _ _ => True) (RegisterMap.read register) := by
  have block : ∀ count, Keeps host (fun map _ => fact map) (fun _ _ => True)
      (Host.readBlock register.busOffset count : Access σ (Vector UInt8 count)) :=
    fun _ => keeps_fact_ask.bind fun _ => keeps_ofExcept
  refine keeps_checkWidth.bind fun _ => (keeps_fact_selectPage direct).bind fun _ => ?_
  refine Keeps.onError ?_ fun _ => keeps_fact_note
  split
  · exact ((block 2).bind fun _ => keeps_pure).bind fun _ => keeps_pure
  · exact (block 4).bind fun _ => keeps_pure

theorem keeps_fact_write (direct : register.page = 0) :
    Keeps host (fun map _ => fact map) (fun _ _ => True) (RegisterMap.write register value) := by
  have block : ∀ data, Keeps host (fun map _ => fact map) (fun _ _ => True)
      (Host.writeBlock register.busOffset data : Access σ Unit) :=
    fun _ => keeps_fact_ask.bind fun _ => keeps_ofExcept
  refine keeps_checkWidth.bind fun _ => (keeps_fact_selectPage direct).bind fun _ => ?_
  refine keeps_fact_note.bind fun _ => Keeps.onError ?_ fun _ => keeps_fact_note
  split
  · exact block _
  · exact block _

end RegisterMap

end IspDriver
