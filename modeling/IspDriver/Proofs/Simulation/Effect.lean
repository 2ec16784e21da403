import IspDriver.Proofs.Register.Script
import IspDriver.Proofs.Simulation.Sound

/-!
What steps make of the memory of a chip that answers. A step looks at its own register and stores
into it, so steps at different registers can change places.
-/

namespace IspDriver

open Routine Simulation

namespace Simulation

namespace Memory

variable {memory other : Memory} {start address : Nat} {data block : List UInt8}

theorem eq_of_byte (same : ∀ address, memory.byte address = other.byte address) :
    memory = other := by
  cases memory
  cases other
  exact congrArg Memory.mk (funext same)

theorem store_store (same : block.length = data.length) :
    (memory.store start block).store start data = memory.store start data := by
  apply eq_of_byte
  intro place
  by_cases inside : start ≤ place ∧ place < start + data.length
  · obtain ⟨offset, rfl⟩ := Nat.exists_eq_add_of_le inside.1
    have within : offset < data.length := by omega
    rw [byte_store_inside _ _ within, byte_store_inside _ _ within]
  · rw [byte_store_outside (by omega), byte_store_outside (by omega),
      byte_store_outside (by omega)]

theorem store_comm (apart : start + data.length ≤ address ∨ address + block.length ≤ start) :
    (memory.store start data).store address block =
      (memory.store address block).store start data := by
  apply eq_of_byte
  intro place
  by_cases inside : start ≤ place ∧ place < start + data.length
  · obtain ⟨offset, rfl⟩ := Nat.exists_eq_add_of_le inside.1
    have within : offset < data.length := by omega
    rw [byte_store_outside (by omega), byte_store_inside _ _ within, byte_store_inside _ _ within]
  · rw [@byte_store_outside (memory.store address block) start place data (by omega)]
    by_cases later : address ≤ place ∧ place < address + block.length
    · obtain ⟨offset, rfl⟩ := Nat.exists_eq_add_of_le later.1
      have within : offset < block.length := by omega
      rw [byte_store_inside _ _ within, byte_store_inside _ _ within]
    · rw [byte_store_outside (by omega), byte_store_outside (by omega),
        byte_store_outside (by omega)]

theorem store_load (memory : Memory) (start count : Nat) :
    memory.store start (memory.load start count) = memory := by
  apply eq_of_byte
  intro place
  rw [byte_store]
  split
  · next after =>
      by_cases within : place - start < count
      · rw [List.getElem?_eq_getElem (by rwa [length_load])]
        simp [load, Nat.add_sub_cancel' after]
      · rw [List.getElem?_eq_none (by rw [length_load]; omega)]
        rfl
  · rfl

end Memory

namespace Chip

variable {chip before middle after : Chip} {memory last : Memory} {offset : UInt16}
  {data : List UInt8}

/-- The chip without its record of the blocks that arrived. -/
def unrecorded (chip : Chip) : Chip :=
  { chip with writes := [] }

/-- Nothing but the memory changed, short of the record. -/
def Became (before : Chip) (memory : Memory) (after : Chip) : Prop :=
  after.unrecorded = { before with memory, writes := [] }

theorem became_self (chip : Chip) : chip.Became chip.memory chip :=
  rfl

theorem became_taken : chip.Became (chip.memory.store offset.toNat data) (chip.taken offset data) :=
  rfl

theorem Became.memory_eq (became : before.Became memory after) : after.memory = memory :=
  congrArg Chip.memory became

theorem Became.trans (first : before.Became memory middle) (second : middle.Became last after) :
    before.Became last after := by
  unfold Became at second ⊢
  have carried : { middle with memory := last, writes := [] } =
      ({ middle.unrecorded with memory := last } : Chip) := rfl
  rw [second, carried, first]

theorem Became.unique (first : before.Became memory middle) (second : before.Became memory after) :
    middle.unrecorded = after.unrecorded :=
  Eq.trans first (Eq.symm second)

theorem Became.sound (became : before.Became memory after) (sound : before.Sound) :
    after.Sound := by
  have still : ({ before with memory, writes := [] } : Chip).Sound :=
    ⟨sound.awake, sound.reads, sound.writes, sound.runs⟩
  unfold Became at became
  rw [← became] at still
  exact ⟨still.awake, still.reads, still.writes, still.runs⟩

end Chip

end Simulation

/-- A register of two bytes, reached without a page select, that is stored and loaded and nothing
else. -/
structure Register.IsPlain (register : Register) : Prop where
  two : register.width = 2
  direct : register.page = 0
  ordinary : Chip.IsOrdinary register.offset
  room : register.offset.toNat + 2 ≤ Chip.spaceSize

theorem Register.IsPlain.wide {register : Register} (plain : register.IsPlain) :
    register.width.toNat = 2 := by
  rw [plain.two]
  rfl

/-- Two registers of two bytes that share none. -/
def Register.IsApart (register other : Register) : Prop :=
  register.offset.toNat + 2 ≤ other.offset.toNat ∨ other.offset.toNat + 2 ≤ register.offset.toNat

instance (register other : Register) : Decidable (register.IsApart other) :=
  inferInstanceAs (Decidable (_ ∨ _))

namespace Step

variable {step other : Step} {steps : List Step} {memory : Memory} {map : RegisterMap}
  {bench : Bench}

/-- The word that a step leaves where it finds `current`. -/
def word (step : Step) (current : UInt32) : UInt32 :=
  match step with
  | write _ value => value
  | update _ mask value => merge current mask value

/-- The word in the register of a step. -/
def found (step : Step) (memory : Memory) : UInt32 :=
  Bytes.bigEndian (memory.load step.register.offset.toNat 2)

/-- What a step makes of a memory. -/
def store (step : Step) (memory : Memory) : Memory :=
  memory.store step.register.offset.toNat (Bytes.ofUInt16 (step.word (step.found memory)).toUInt16)

def storeEach (steps : List Step) (memory : Memory) : Memory :=
  steps.foldl (fun memory step => step.store memory) memory

theorem found_store (apart : step.register.IsApart other.register) :
    step.found (other.store memory) = step.found memory := by
  unfold found store
  rw [Memory.load_store_outside (by rw [Bytes.length_ofUInt16]; exact apart)]

theorem store_comm (apart : step.register.IsApart other.register) :
    step.store (other.store memory) = other.store (step.store memory) := by
  have first := @found_store step other memory apart
  have second := @found_store other step memory apart.symm
  unfold store at first second ⊢
  rw [first, second, Memory.store_comm apart.symm]

theorem storeEach_cons (step : Step) (rest : List Step) (memory : Memory) :
    storeEach (step :: rest) memory = storeEach rest (step.store memory) :=
  List.foldl_cons ..

theorem storeEach_append (steps more : List Step) (memory : Memory) :
    storeEach (steps ++ more) memory = storeEach more (storeEach steps memory) :=
  List.foldl_append

theorem storeEach_comm (apart : ∀ other ∈ steps, other.register.IsApart step.register) :
    storeEach steps (step.store memory) = step.store (storeEach steps memory) := by
  induction steps generalizing memory with
  | nil => rfl
  | cons other rest ih =>
      obtain ⟨first, others⟩ := List.forall_mem_cons.mp apart
      rw [storeEach_cons, storeEach_cons, store_comm first, ih others]

/-- What is not written is what is there already. -/
theorem store_of_same (same : step.word (step.found memory) = step.found memory) :
    step.store memory = memory := by
  unfold store
  rw [same, found, Bytes.ofUInt16_bigEndian (Memory.length_load ..), Memory.store_load]

theorem write_becomes {register : Register} (plain : register.IsPlain) (value : UInt32)
    (sound : bench.chip.Sound) :
    (RegisterMap.write register value).Gives Bench.host map bench fun _ after left =>
      after = map ∧ left.faults = bench.faults ∧
        bench.chip.Became ((write register value).store bench.chip.memory) left.chip := by
  have fits : register.offset.toNat + register.width.toNat ≤ Chip.spaceSize := by
    rw [plain.wide]
    exact plain.room
  refine (Bench.store_gives (.inl plain.two) plain.direct plain.ordinary fits sound).mono ?_
  intro _ after left ended
  obtain ⟨same, faults, taken⟩ := ended
  rw [RegisterMap.busBytes_of_two plain.two] at taken
  rw [taken]
  exact ⟨same, faults, Chip.became_taken⟩

theorem run_gives (plain : step.register.IsPlain) (direct : bench.faults.overrides = [])
    (sound : bench.chip.Sound) :
    step.run.Gives Bench.host map bench fun _ after left =>
      after = map ∧ left.faults = bench.faults ∧
        bench.chip.Became (step.store bench.chip.memory) left.chip := by
  cases step with
  | write register value => exact write_becomes plain value sound
  | update register mask value =>
      have plain : register.IsPlain := plain
      have span : Chip.spanFault? register.offset register.width.toNat = none := by
        rw [plain.wide]
        exact Chip.spanFault?_eq_none
          ⟨by simp [plain.ordinary.notPaged], by simp [plain.ordinary.notFirmware], plain.room⟩
      refine (Bench.load_gives (.inl plain.two) plain.direct plain.ordinary.notPaged
        plain.ordinary.notCrc span direct sound).bind ?_
      intro current after left ended
      obtain ⟨rfl, faults, chip, rfl⟩ := ended
      rw [plain.wide]
      simp only
      split
      · next same =>
          have kept : (update register mask value).store bench.chip.memory = bench.chip.memory :=
            store_of_same same
          refine gives_done ⟨rfl, faults, ?_⟩
          rw [kept, chip]
          exact bench.chip.became_self
      · rw [← chip] at sound ⊢
        refine Gives.mono (write_becomes plain _ sound) ?_
        intro _ final last ended
        obtain ⟨same, still, became⟩ := ended
        exact ⟨same, still.trans faults, became⟩

theorem runEach_gives (plain : ∀ step ∈ steps, step.register.IsPlain)
    (direct : bench.faults.overrides = []) (sound : bench.chip.Sound) :
    (runEach steps).Gives Bench.host map bench fun _ after left =>
      after = map ∧ left.faults = bench.faults ∧
        bench.chip.Became (storeEach steps bench.chip.memory) left.chip := by
  induction steps generalizing bench with
  | nil => exact gives_done ⟨rfl, rfl, bench.chip.became_self⟩
  | cons step rest ih =>
      obtain ⟨first, others⟩ := List.forall_mem_cons.mp plain
      refine (run_gives first direct sound).bind ?_
      intro _ after left ended
      obtain ⟨rfl, faults, became⟩ := ended
      refine Gives.mono (ih others (by rw [faults]; exact direct) (became.sound sound)) ?_
      intro _ final last ended
      obtain ⟨same, still, more⟩ := ended
      rw [became.memory_eq] at more
      exact ⟨same, still.trans faults, became.trans more⟩

end Step

end IspDriver
