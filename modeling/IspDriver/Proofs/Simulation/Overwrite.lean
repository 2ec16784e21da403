import IspDriver.Proofs.Device.LiveControls
import IspDriver.Proofs.Simulation.Effect
import Mathlib.Data.List.Forall2

/-!
Scripts that stop early. On a chip that refuses some blocks, a script stores steps from its front
and nothing of the rest. Whatever it stored is gone once a script for the same registers is carried
out as a whole.
-/

namespace IspDriver

open Routine Simulation

namespace Step

variable {step other : Step} {steps others front : List Step} {memory : Memory}

/-- Where `other` stored, `step` leaves what it leaves anywhere. -/
structure Covers (step other : Step) : Prop where
  register : step.register = other.register
  again : ∀ memory, step.store (other.store memory) = step.store memory

theorem covers_write (register : Register) (value word : UInt32) :
    (write register value).Covers (write register word) :=
  ⟨rfl, fun _ => Memory.store_store rfl⟩

theorem registers_of_covers (covers : List.Forall₂ Covers steps others) :
    steps.map register = others.map register := by
  induction covers with
  | nil => rfl
  | cons first _ ih => rw [List.map_cons, List.map_cons, first.register, ih]

/-- The steps that come before the one for the same register change places with the old store. -/
theorem storeEach_covers (covers : List.Forall₂ Covers steps others)
    (apart : (steps.map register).Pairwise Register.IsApart) (member : other ∈ others)
    (memory : Memory) : storeEach steps (other.store memory) = storeEach steps memory := by
  induction covers generalizing memory with
  | nil => cases member
  | @cons step old steps others first rest ih =>
      obtain ⟨fromFirst, later⟩ := List.pairwise_cons.mp apart
      rw [storeEach_cons, storeEach_cons]
      rcases List.mem_cons.mp member with rfl | member
      · rw [first.again]
      · have named : other.register ∈ steps.map register := by
          rw [registers_of_covers rest]
          exact List.mem_map_of_mem member
        rw [store_comm (fromFirst other.register named)]
        exact ih later member _

theorem storeEach_covers_each (covers : List.Forall₂ Covers steps others)
    (apart : (steps.map register).Pairwise Register.IsApart) (among : front ⊆ others)
    (memory : Memory) : storeEach steps (storeEach front memory) = storeEach steps memory := by
  induction front generalizing memory with
  | nil => rfl
  | cons old rest ih =>
      obtain ⟨first, others⟩ := List.cons_subset.mp among
      rw [storeEach_cons, ih others, storeEach_covers covers apart first]

end Step

/-- Steps from the front were stored, and all of them if that was the end of it. -/
structure StoredFront (steps : List Step) (bench : Bench) (outcome : Outcome Unit) (left : Bench) :
    Prop where
  answered : outcome ≠ .aborted
  faults : left.faults = bench.faults
  stored : ∃ front, front <+: steps ∧ (outcome = .done () → front = steps) ∧
    bench.chip.Became (Step.storeEach front bench.chip.memory) left.chip

variable {S : Type} {state : S} {steps more : List Step} {bench between left : Bench}
  {outcome : Outcome Unit} {map : RegisterMap} {register : Register} {mask value : UInt32}

namespace StoredFront

theorem nothing (answered : outcome ≠ .aborted) (faults : left.faults = bench.faults)
    (chip : left.chip = bench.chip) (none : outcome = .done () → steps = []) :
    StoredFront steps bench outcome left := by
  refine ⟨answered, faults, [], List.nil_prefix, fun done => (none done).symm, ?_⟩
  rw [chip]
  exact bench.chip.became_self

theorem whole (faults : left.faults = bench.faults)
    (became : bench.chip.Became (Step.storeEach steps bench.chip.memory) left.chip) :
    StoredFront steps bench (.done ()) left :=
  ⟨by rintro ⟨⟩, faults, steps, List.prefix_rfl, fun _ => rfl, became⟩

theorem became (stored : StoredFront steps bench (.done ()) left) :
    bench.chip.Became (Step.storeEach steps bench.chip.memory) left.chip := by
  obtain ⟨front, -, all, became⟩ := stored.stored
  rw [all rfl] at became
  exact became

theorem append (first : StoredFront steps bench (.done ()) between)
    (second : StoredFront more between outcome left) :
    StoredFront (steps ++ more) bench outcome left := by
  obtain ⟨front, early, all, became⟩ := second.stored
  refine ⟨second.answered, second.faults.trans first.faults, steps ++ front, ?_, ?_, ?_⟩
  · exact (List.prefix_append_right_inj steps).mpr early
  · intro done
    rw [all done]
  · rw [first.became.memory_eq, ← Step.storeEach_append] at became
    exact first.became.trans became

theorem stopped (stored : StoredFront steps bench outcome left) (stops : outcome ≠ .done ()) :
    StoredFront (steps ++ more) bench outcome left := by
  obtain ⟨front, early, -, became⟩ := stored.stored
  exact ⟨stored.answered, stored.faults, front, early.trans (List.prefix_append steps more),
    fun done => absurd done stops, became⟩

/-- A step may stand for another one that would store the same. -/
theorem exchanged {step other : Step} (stored : StoredFront [step] between outcome left)
    (faults : between.faults = bench.faults) (chip : between.chip = bench.chip)
    (same : step.store bench.chip.memory = other.store bench.chip.memory) :
    StoredFront [other] bench outcome left := by
  obtain ⟨front, early, all, became⟩ := stored.stored
  rw [chip] at became
  rcases List.prefix_cons_iff.mp early with none | ⟨rest, one, early⟩
  · subst none
    exact ⟨stored.answered, stored.faults.trans faults, [], List.nil_prefix,
      fun done => absurd (all done).symm (List.cons_ne_nil step []), became⟩
  · rw [List.prefix_nil.mp early] at one
    rw [one, Step.storeEach_cons, same] at became
    exact ⟨stored.answered, stored.faults.trans faults, [other], List.prefix_rfl, fun _ => rfl,
      became⟩

end StoredFront

/-- On any bench whose reads find what the chip holds, the routine carries the steps out as far as
the chip takes them, and leaves its own state alone. -/
def CarriesOut (routine : Routine Bench S Unit) (state : S) (steps : List Step) : Prop :=
  ∀ bench : Bench, bench.faults.overrides = [] →
    routine.Ends Bench.host state bench fun outcome after left =>
      after = state ∧ StoredFront steps bench outcome left

theorem CarriesOut.bind {first second : Routine Bench S Unit}
    (begins : CarriesOut first state steps) (goesOn : CarriesOut second state more) :
    CarriesOut (first >>= fun _ => second) state (steps ++ more) := by
  intro bench direct
  refine Ends.bind (begins bench direct) ?_ ?_ ?_
  · intro _ after between ended
    obtain ⟨rfl, stored⟩ := ended
    have still : between.faults.overrides = [] := by rw [stored.faults]; exact direct
    refine Ends.mono (goesOn between still) ?_
    intro outcome final left ended
    exact ⟨ended.1, stored.append ended.2⟩
  · intro error after left ended
    exact ⟨ended.1, ended.2.stopped (by rintro ⟨⟩)⟩
  · intro after left ended
    exact ⟨ended.1, ended.2.stopped (by rintro ⟨⟩)⟩

theorem carriesOut_write (plain : register.IsPlain) (map : RegisterMap) :
    CarriesOut (RegisterMap.write register value) map [.write register value] := by
  intro bench _
  refine (Bench.write_direct_ends (.inl plain.two) plain.direct).mono ?_
  intro outcome after left ended
  obtain ⟨same, faults, rfl, written⟩ := ended
  refine ⟨same, ?_⟩
  rw [RegisterMap.busBytes_of_two plain.two] at written ⊢
  by_cases refuses : bench.chip.Refuses register.offset
  · obtain ⟨error, refused⟩ := @Chip.write_refused _ _ (Bytes.ofUInt16 value.toUInt16) refuses
    rw [refused] at written ⊢
    exact .nothing (by rintro ⟨⟩) faults written (by rintro ⟨⟩)
  · obtain ⟨awake, sound⟩ := not_or.mp refuses
    have awake : bench.chip.inReset = false := by simpa using awake
    have taken := @Chip.write_ordinary bench.chip register.offset (Bytes.ofUInt16 value.toUInt16)
      awake sound plain.ordinary plain.room
    rw [taken] at written ⊢
    refine .whole faults ?_
    rw [written]
    exact Chip.became_taken

theorem carriesOut_update (plain : register.IsPlain) (map : RegisterMap) :
    CarriesOut (RegisterMap.updateBits register mask value) map [.update register mask value] := by
  intro bench direct
  refine (read_finds plain.direct plain.two plain.ordinary plain.room direct).bind ?_ ?_ ?_
  · intro current after between ended
    obtain ⟨rfl, faults, chip, ⟨word, result, shows⟩ | ⟨error, never⟩⟩ := ended
    · cases result
      have found : (Step.update register mask value).found bench.chip.memory = word.toUInt32 := by
        have loaded : bench.chip.memory.load register.offset.toNat 2 = Bytes.ofUInt16 word :=
          shows.loaded
        rw [Step.found, Step.register, loaded, Bytes.bigEndian_ofUInt16]
      simp only
      split
      · next same =>
          have kept : (Step.update register mask value).store bench.chip.memory =
              bench.chip.memory := Step.store_of_same (by rw [found]; exact same)
          refine ends_done.mpr ⟨rfl, .whole faults ?_⟩
          rw [Step.storeEach_cons, kept, chip]
          exact bench.chip.became_self
      · have still : between.faults.overrides = [] := by rw [faults]; exact direct
        refine (carriesOut_write plain after between still).mono ?_
        intro outcome final left ended
        obtain ⟨same, stored⟩ := ended
        refine ⟨same, stored.exchanged faults chip ?_⟩
        rw [Step.store, Step.store, found]
        rfl
    · cases never
  · intro error after left ended
    obtain ⟨same, faults, chip, -⟩ := ended
    exact ⟨same, .nothing (by rintro ⟨⟩) faults chip (by rintro ⟨⟩)⟩
  · intro after left ended
    obtain ⟨-, -, -, ⟨word, never, -⟩ | ⟨error, never⟩⟩ := ended
    · cases never
    · cases never

theorem Step.carriesOut_run {step : Step} (plain : step.register.IsPlain) (map : RegisterMap) :
    CarriesOut step.run map [step] := by
  cases step with
  | write register value => exact carriesOut_write plain map
  | update register mask value => exact carriesOut_update plain map

theorem Step.carriesOut_runEach (plain : ∀ step ∈ steps, step.register.IsPlain)
    (map : RegisterMap) : CarriesOut (Step.runEach steps) map steps := by
  induction steps with
  | nil => exact fun bench _ => ends_done.mpr ⟨rfl, .whole rfl bench.chip.became_self⟩
  | cons step rest ih =>
      obtain ⟨first, others⟩ := List.forall_mem_cons.mp plain
      exact (Step.carriesOut_run first map).bind (ih others)

end IspDriver
