import IspDriver.Proofs.Device.Boot

/-!
What a board comes to depends on the set of the ports that its description names. One pass over the
entries takes each port where it is first met and remarks on every other entry; what it takes, put
in order, are the ports of the board, whatever the order, the repetitions and the strays were.
-/

namespace IspDriver.Board

open Routine

variable {entries other taken : List UInt32} {port : UInt32}

/-- The distinct ports that the entries name, in ascending order. -/
structure PortsOf (entries ports : List UInt32) : Prop where
  ascending : ports.Pairwise (· < ·)
  mem_iff : ∀ port, port ∈ ports ↔ port ∈ entries ∧ port < 2

theorem mem_allPorts : port ∈ allPorts ↔ port < 2 := by
  simp only [allPorts, List.mem_cons, List.not_mem_nil, or_false, ← UInt32.toNat_inj,
    UInt32.lt_iff_toNat_lt, UInt32.reduceToNat]
  omega

theorem mem_portsAmong : port ∈ portsAmong entries ↔ port ∈ entries ∧ port < 2 := by
  rw [portsAmong, List.mem_filter, mem_allPorts, List.contains_iff_mem, and_comm]

theorem portsOf_portsAmong (entries : List UInt32) : PortsOf entries (portsAmong entries) where
  ascending := List.Pairwise.filter _ (by decide)
  mem_iff _ := mem_portsAmong

/-- Entries that are no ports make no difference. -/
theorem portsAmong_congr (same : ∀ port, port < 2 → (port ∈ entries ↔ port ∈ other)) :
    portsAmong entries = portsAmong other := by
  refine List.filter_congr fun port member => ?_
  rw [Bool.eq_iff_iff, List.contains_iff_mem, List.contains_iff_mem]
  exact same port (mem_allPorts.mp member)

theorem portsAmong_eq_nil_iff :
    portsAmong entries = [] ↔ ¬ ∃ entry ∈ entries, entry = 0 ∨ entry = 1 := by
  rw [List.eq_nil_iff_forall_not_mem]
  have either : ∀ port : UInt32, port < 2 ↔ port = 0 ∨ port = 1 := fun port => by
    simp [← mem_allPorts, allPorts]
  simp only [mem_portsAmong, either, not_exists]

/-- The ports in the order in which they are met; those `taken` were met before. -/
def gather (taken : List UInt32) : List UInt32 → List UInt32
  | [] => []
  | index :: rest =>
      if !allPorts.contains index || taken.contains index then gather taken rest
      else index :: gather (index :: taken) rest

theorem mem_gather : port ∈ gather taken entries ↔ (port ∈ entries ∧ port < 2) ∧ port ∉ taken := by
  induction entries generalizing taken with
  | nil => simp [gather]
  | cons index rest ih =>
      have place : index ∈ allPorts ↔ index < 2 := mem_allPorts
      unfold gather
      by_cases same : port = index
      · subst same
        by_cases fresh : port < 2 ∧ port ∉ taken
        · simp [place, fresh.1, fresh.2]
        · have passed : (!allPorts.contains port || taken.contains port) = true := by
            simpa [place, or_iff_not_imp_left] using fresh
          rw [if_pos passed, ih]
          simp only [List.mem_cons, true_or, true_and]
          exact ⟨fun member => absurd ⟨member.1.2, member.2⟩ fresh, fun next => absurd next fresh⟩
      · split <;> simp [ih, same]

theorem nodup_gather : (gather taken entries).Nodup := by
  induction entries generalizing taken with
  | nil => exact List.nodup_nil
  | cons index rest ih =>
      unfold gather
      split
      · exact ih
      · refine List.nodup_cons.mpr ⟨fun member => ?_, ih⟩
        exact (mem_gather.mp member).2 (List.mem_cons_self ..)

/-- Every entry is taken or remarked on. -/
theorem length_gather :
    (gather taken entries).length + (entryRemarks taken entries).length = entries.length := by
  induction entries generalizing taken with
  | nil => rfl
  | cons index rest ih =>
      have passed := @ih taken
      have kept := @ih (index :: taken)
      unfold gather entryRemarks
      cases allPorts.contains index <;> cases taken.contains index <;> simp <;> omega

/-- What the pass takes, put in order, are the ports. -/
theorem mergeSort_gather (entries : List UInt32) :
    (gather [] entries).mergeSort = portsAmong entries := by
  have among := portsOf_portsAmong entries
  have distinct : (portsAmong entries).Nodup := among.ascending.imp UInt32.ne_of_lt
  have same : (gather [] entries).Perm (portsAmong entries) := by
    refine (List.perm_ext_iff_of_nodup nodup_gather distinct).mpr fun port => ?_
    simp [mem_gather, mem_portsAmong]
  have sorted : (gather [] entries).mergeSort.Pairwise (· ≤ ·) := by
    have result := @List.pairwise_mergeSort UInt32 (fun a b => decide (a ≤ b))
      (fun _ _ _ => by simpa using UInt32.le_trans)
      (fun a b => by simpa using UInt32.le_total a b) (gather [] entries)
    simpa only [decide_eq_true_eq] using result
  refine List.Perm.eq_of_pairwise (fun _ _ _ _ => UInt32.le_antisymm) sorted ?_
    ((List.mergeSort_perm _ _).trans same)
  exact among.ascending.imp UInt32.le_of_lt

variable {config : BoardConfig} {board : Board} {compatible : String}

theorem ofCompatible_ok_iff :
    (∃ model, SensorModel.ofCompatible compatible = .ok model) ↔
      ∃ model ∈ SensorModel.all, model.compatible ≠ "" ∧ model.compatible = compatible := by
  have named : ∀ model : SensorModel, model.isPatternGenerator = false ↔ model.compatible ≠ "" := by
    simp [SensorModel.isPatternGenerator]
  unfold SensorModel.ofCompatible
  split
  · next model found =>
      have named := List.find?_some found
      refine ⟨fun _ => ⟨model, List.mem_of_find?_eq_some found, ?_⟩, fun _ => ⟨model, rfl⟩⟩
      simpa [SensorModel.isPatternGenerator] using named
  · next missing =>
      simp only [reduceCtorEq, exists_false, false_iff]
      rintro ⟨model, member, name, rfl⟩
      have other := List.find?_eq_none.mp missing model member
      simp [SensorModel.isPatternGenerator, name] at other

/-- When a description is accepted, and as which board. -/
theorem ofConfig_eq_ok_iff :
    ofConfig config = .ok board ↔
      (1 ≤ config.dataLanes ∧ config.dataLanes ≤ 4) ∧ board.dataLanes = config.dataLanes ∧
        ((config.model? = none ∧ board.model = .patternGenerator ∧ board.ports = []) ∨
          ∃ compatible, config.model? = some compatible ∧
            SensorModel.ofCompatible compatible = .ok board.model ∧
              board.ports = portsAmong config.sensors ∧ board.ports ≠ []) := by
  obtain ⟨model, ports, lanes⟩ := board
  have lanes_iff : (config.dataLanes < 1 ∨ 4 < config.dataLanes) ↔
      ¬ (1 ≤ config.dataLanes ∧ config.dataLanes ≤ 4) := by
    rw [not_and_or, UInt32.not_le, UInt32.not_le]
  unfold ofConfig
  rw [if_congr lanes_iff rfl rfl]
  by_cases few : 1 ≤ config.dataLanes ∧ config.dataLanes ≤ 4
  · rw [if_neg (not_not_intro few)]
    cases named : config.model? with
    | none =>
        simp only [few, true_and, reduceCtorEq, false_and, exists_false, or_false,
          Except.ok.injEq, Board.mk.injEq]
        exact ⟨fun ⟨first, second, third⟩ => ⟨third.symm, first.symm, second.symm⟩,
          fun ⟨third, first, second⟩ => ⟨first.symm, second.symm, third.symm⟩⟩
    | some compatible =>
        cases known : SensorModel.ofCompatible compatible with
        | error error => simp [known]
        | ok found =>
            simp only [known, few, reduceCtorEq, false_and, false_or, Option.some.injEq,
              exists_eq_left', Except.ok.injEq, true_and]
            by_cases none : portsAmong config.sensors = []
            · simp +contextual [none]
            · simp only [List.isEmpty_iff, none, if_false, Except.ok.injEq, Board.mk.injEq]
              grind
  · rw [if_pos few]
    simp [few]

theorem ofConfig_ok_iff :
    (∃ board, ofConfig config = .ok board) ↔
      (1 ≤ config.dataLanes ∧ config.dataLanes ≤ 4) ∧
        (config.model? = none ∨
          (∃ model ∈ SensorModel.all,
            model.compatible ≠ "" ∧ config.model? = some model.compatible) ∧
          ∃ entry ∈ config.sensors, entry = 0 ∨ entry = 1) := by
  have some_iff : portsAmong config.sensors ≠ [] ↔
      ∃ entry ∈ config.sensors, entry = 0 ∨ entry = 1 :=
    portsAmong_eq_nil_iff.not_left
  constructor
  · rintro ⟨board, accepted⟩
    obtain ⟨lanes, -, ⟨unnamed, -⟩ | ⟨compatible, named, known, same, some⟩⟩ :=
      ofConfig_eq_ok_iff.mp accepted
    · exact ⟨lanes, .inl unnamed⟩
    · obtain ⟨model, member, name, rfl⟩ := ofCompatible_ok_iff.mp ⟨_, known⟩
      exact ⟨lanes, .inr ⟨⟨model, member, name, named⟩, some_iff.mp (same ▸ some)⟩⟩
  · rintro ⟨lanes, unnamed | ⟨⟨model, member, name, named⟩, some⟩⟩
    · exact ⟨⟨.patternGenerator, [], config.dataLanes⟩,
        ofConfig_eq_ok_iff.mpr ⟨lanes, rfl, .inl ⟨unnamed, rfl, rfl⟩⟩⟩
    · obtain ⟨found, known⟩ := ofCompatible_ok_iff.mpr ⟨model, member, name, rfl⟩
      exact ⟨⟨found, portsAmong config.sensors, config.dataLanes⟩,
        ofConfig_eq_ok_iff.mpr ⟨lanes, rfl, .inr ⟨_, named, known, rfl, some_iff.mpr some⟩⟩⟩

/-- Descriptions that name the same ports come to the same board, or are refused alike. -/
theorem ofConfig_congr {sensors : List UInt32}
    (same : ∀ port, port < 2 → (port ∈ sensors ↔ port ∈ config.sensors)) :
    ofConfig { config with sensors } = ofConfig config := by
  simp only [ofConfig, portsAmong_congr same]

theorem ports_of_accepted (accepted : ofConfig config = .ok board) :
    (config.model? = none → board.ports = []) ∧
      (config.model? ≠ none → PortsOf config.sensors board.ports ∧
        board.ports = (gather [] config.sensors).mergeSort) := by
  obtain ⟨-, -, ⟨unnamed, -, none⟩ | ⟨compatible, named, -, same, -⟩⟩ :=
    ofConfig_eq_ok_iff.mp accepted
  · exact ⟨fun _ => none, fun never => absurd unnamed never⟩
  · refine ⟨fun never => ?_, fun _ => ?_⟩
    · rw [named] at never
      cases never
    · rw [same, mergeSort_gather]
      exact ⟨portsOf_portsAmong config.sensors, rfl⟩

/-- With a model, every entry of a description adds a port or is remarked on. -/
theorem length_remarks_of_accepted (named : config.model? ≠ none)
    (accepted : ofConfig config = .ok board) :
    (remarks config).length + board.ports.length = config.sensors.length := by
  obtain ⟨lanes, -, ⟨unnamed, -⟩ | ⟨compatible, some, known, -⟩⟩ := ofConfig_eq_ok_iff.mp accepted
  · exact absurd unnamed named
  · have few : ¬ (config.dataLanes < 1 ∨ 4 < config.dataLanes) := by
      rwa [not_or, UInt32.not_lt, UInt32.not_lt]
    rw [((ports_of_accepted accepted).2 named).2, List.length_mergeSort, remarks, if_neg few, some]
    simp only [known]
    rw [Nat.add_comm, length_gather]

theorem widthFactor_of_accepted (accepted : ofConfig config = .ok board) :
    (board.widthFactor = 1 ∨ board.widthFactor = 2) ∧
      board.widthFactor.toNat = max 1 board.ports.length := by
  have few : ∀ ports ∈ ([[], [0], [1], [0, 1]] : List (List UInt32)),
      (max 1 ports.length.toUInt32 = 1 ∨ max 1 ports.length.toUInt32 = 2) ∧
        (max 1 ports.length.toUInt32).toNat = max 1 ports.length := by
    decide
  exact few board.ports (mem_of_ofConfig accepted).2

theorem port_in_range (accepted : ofConfig config = .ok board) (member : port ∈ board.ports) :
    port.toNat < allPorts.length := by
  have small : ([[], [0], [1], [0, 1]] : List (List UInt32)).all fun ports =>
      ports.all fun port => decide (port.toNat < allPorts.length) := by
    decide
  simp only [List.all_eq_true, decide_eq_true_eq] at small
  exact small board.ports (mem_of_ofConfig accepted).2 port member

/-- A board is what the set of its ports makes it. A description is accepted exactly if the lanes
are one to four and it names no model, or a known one and at least one port. The ports are then
those named, each once and in order, as a sort leaves what one pass takes, and each is the place of
one sensor of an attached device. Neither order nor repetition nor entries that are no ports make a
difference. -/
theorem board_of_port_set {σ S : Type} (host : Host σ) (state : S) (world : σ)
    (wiring : Device.Wiring) (config : BoardConfig) :
    ((∃ board, ofConfig config = .ok board) ↔
      (1 ≤ config.dataLanes ∧ config.dataLanes ≤ 4) ∧
        (config.model? = none ∨
          (∃ model ∈ SensorModel.all,
            model.compatible ≠ "" ∧ config.model? = some model.compatible) ∧
          ∃ entry ∈ config.sensors, entry = 0 ∨ entry = 1)) ∧
      (∀ board, ofConfig config = .ok board →
        ((config.model? = none → board.ports = []) ∧
          (config.model? ≠ none → PortsOf config.sensors board.ports ∧
            board.ports = (gather [] config.sensors).mergeSort)) ∧
        ((board.widthFactor = 1 ∨ board.widthFactor = 2) ∧
          board.widthFactor.toNat = max 1 board.ports.length) ∧
        ∀ port ∈ board.ports, port.toNat < allPorts.length) ∧
      ((∀ sensors, sensors.Perm config.sensors →
          ofConfig { config with sensors } = ofConfig config) ∧
        (∀ front back entry, config.sensors = front ++ back →
          entry ∈ config.sensors ∨ 2 ≤ entry →
            ofConfig { config with sensors := front ++ entry :: back } = ofConfig config) ∧
        ∀ sensors, (∀ port, port < 2 → (port ∈ sensors ↔ port ∈ config.sensors)) →
          ofConfig { config with sensors } = ofConfig config) ∧
      (Device.attach wiring config).Yields host state world fun device _ _ =>
        ofConfig config = .ok device.board ∧
          device.sensors.map (·.port) = device.board.ports := by
  refine ⟨ofConfig_ok_iff, fun board accepted => ?_, ⟨?_, ?_, fun sensors => ofConfig_congr⟩, ?_⟩
  · exact ⟨ports_of_accepted accepted, widthFactor_of_accepted accepted,
      fun port => port_in_range accepted⟩
  · intro sensors moved
    exact ofConfig_congr fun port _ => moved.mem_iff
  · intro front back entry split harmless
    refine ofConfig_congr fun port small => ?_
    rw [split] at harmless ⊢
    have other : 2 ≤ entry → port ≠ entry := by
      rintro large rfl
      exact UInt32.not_le.mpr small large
    grind
  · refine (Device.attach_installs wiring config).mono fun device _ _ installed => ?_
    refine ⟨installed.accepted, ?_⟩
    rw [installed.sensors, sensors, List.map_map]
    exact List.map_id _

example :
    (ofConfig ⟨some "onnn,ar0144", [1, 5, 1, 0], 4⟩).toOption.map (·.ports) = some [0, 1] := by
  decide

end IspDriver.Board
