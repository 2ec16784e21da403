import IspDriver.I2c

/-!
I2C wires with a script: transactions are numbered from zero, some of them fail, and the bytes that
are read come from a list that starts over at its end.
-/

namespace IspDriver.Simulation

/-- A part of a transaction that succeeded. -/
inductive Transfer where
  | wrote (address : UInt8) (bytes : List UInt8)
  | read (address : UInt8) (count : Nat)
deriving DecidableEq, Repr

structure ScriptedWires where
  /-- The transactions that fail, by number. -/
  faults : List (Nat × I2cFault)
  replies : Array UInt8
  transactions : Nat := 0
  /-- How many bytes have been read. -/
  consumed : Nat := 0
  /-- The last one in front. -/
  transfers : List Transfer := []
  /-- The last one in front. -/
  notes : List Note := []
  /-- The buffer of the bus on these wires. -/
  buffer : List UInt8 := []

namespace ScriptedWires

private def begin (wires : ScriptedWires) : Option I2cFault × ScriptedWires :=
  (wires.faults.lookup wires.transactions, { wires with transactions := wires.transactions + 1 })

private def record (wires : ScriptedWires) (transfer : Transfer) : ScriptedWires :=
  { wires with transfers := transfer :: wires.transfers }

private def replyAt (wires : ScriptedWires) (position : Nat) : UInt8 :=
  wires.replies[position % wires.replies.size]?.getD 0

def wires : I2cWires ScriptedWires where
  write address bytes world :=
    match begin world with
    | (some fault, world) => (.error fault, world)
    | (none, world) => (.ok (), record world (.wrote address bytes))
  writeThenRead address bytes count world :=
    match begin world with
    | (some fault, world) => (.error fault, world)
    | (none, world) =>
        let found := Vector.ofFn fun i : Fin count => replyAt world (world.consumed + i.val)
        let world := record (record world (.wrote address bytes)) (.read address count)
        (.ok found, { world with consumed := world.consumed + count })

/-- Nothing but the wires can be asked; everything else breaks down. -/
def alone : Host ScriptedWires where
  answer _ := fun world => (none, world)
  note note := fun world => { world with notes := note :: world.notes }

/-- The host with a bus on the wires and nothing else. -/
def host (address : UInt8) : Host ScriptedWires where
  answer request := fun world =>
    let (reply, bus) := (I2c.host wires alone).answer request ⟨world, address, world.buffer⟩
    (reply, { bus.world with buffer := bus.buffer })
  note := alone.note

end ScriptedWires

end IspDriver.Simulation
