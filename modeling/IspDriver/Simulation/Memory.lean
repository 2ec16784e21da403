/-! Memory of bytes at numbered addresses. Addresses never written hold zero. -/

namespace IspDriver.Simulation

structure Memory where
  byte : Nat → UInt8

namespace Memory

def blank : Memory where
  byte _ := 0

def load (memory : Memory) (start count : Nat) : List UInt8 :=
  (List.range count).map fun i => memory.byte (start + i)

/-- The memory with the data at `start` and after it. -/
def store (memory : Memory) (start : Nat) (data : List UInt8) : Memory :=
  let block := data.toArray
  { byte := fun address =>
      if start ≤ address then
        match block[address - start]? with
        | some byte => byte
        | none => memory.byte address
      else
        memory.byte address }

theorem byte_store (memory : Memory) (start address : Nat) (data : List UInt8) :
    (memory.store start data).byte address =
      if start ≤ address then (data[address - start]?).getD (memory.byte address)
      else memory.byte address := by
  simp only [store, List.getElem?_toArray]
  split <;> cases data[address - start]? <;> rfl

theorem length_load (memory : Memory) (start count : Nat) :
    (memory.load start count).length = count := by
  simp [load]

end Memory

end IspDriver.Simulation
