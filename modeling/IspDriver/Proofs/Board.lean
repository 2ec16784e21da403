import IspDriver.Device.State

/-! What a board that is accepted can be. -/

namespace IspDriver.Board

/-- The sensors that are claimed for the ports of a board. -/
def sensors (board : Board) : List PortSensor :=
  board.ports.map fun port =>
    let label := s!"{board.model.name} {port}"
    ⟨port, label, SensorPower.railsOf label board.model⟩

theorem portsAmong_mem (entries : List UInt32) :
    portsAmong entries ∈ [[], [0], [1], [0, 1]] := by
  unfold portsAmong allPorts
  cases zero : entries.contains 0 <;> cases one : entries.contains 1 <;>
    simp only [List.filter, zero, one] <;> decide

theorem model_mem_of_ofCompatible {compatible : String} {model : SensorModel}
    (known : SensorModel.ofCompatible compatible = .ok model) : model ∈ SensorModel.all := by
  unfold SensorModel.ofCompatible at known
  split at known
  · next found => cases known; exact List.mem_of_find?_eq_some found
  · cases known

theorem mem_of_ofConfig {config : BoardConfig} {board : Board}
    (accepted : ofConfig config = .ok board) :
    board.model ∈ SensorModel.all ∧ board.ports ∈ [[], [0], [1], [0, 1]] := by
  unfold ofConfig at accepted
  split at accepted
  · cases accepted
  · split at accepted
    · cases accepted
      have known : SensorModel.patternGenerator ∈ SensorModel.all := by decide
      exact ⟨known, List.mem_cons_self ..⟩
    · split at accepted
      · cases accepted
      · next known =>
          simp only at accepted
          split at accepted
          · cases accepted
          · cases accepted
            exact ⟨model_mem_of_ofCompatible known, portsAmong_mem _⟩

end IspDriver.Board
