import IspDriver.Host
import IspDriver.Simulation.Inspection

/-!
A bench for the driver: the chip model, wired to lines, supplies, a clock, a timer and a store of
firmware files. The bench writes down what happens to them and can be told to let things fail.
-/

namespace IspDriver.Simulation

inductive Event where
  | line (line : Line) (active : Bool)
  | clock (running : Bool)
  | supply (consumer name : String) (enabled : Bool)
  | wait (microseconds : UInt32)
deriving DecidableEq, Repr

/-- A line that fails to take one of its levels. -/
structure LineFault where
  line : Line
  active : Bool
  /-- How many updates still succeed. -/
  spared : Nat
deriving DecidableEq, Repr

structure BenchFaults where
  /-- Supplies that cannot be enabled, by consumer and name. -/
  supplies : List (String × String) := []
  clock : Bool := false
  lines : List LineFault := []
  /-- Supplies that cannot be found. -/
  lookups : List (String × String) := []
  /-- Supplies that cannot be disabled. -/
  disables : List (String × String) := []
  /-- Bytes that a read of just their number finds at an offset. -/
  overrides : List (UInt16 × List UInt8) := []
deriving DecidableEq, Repr

structure Bench where
  chip : Chip
  /-- The last one in front. -/
  events : List Event
  /-- The last one in front. -/
  notes : List Note
  faults : BenchFaults
  files : String → Except Error (List UInt8)

namespace Bench

/-- A store of firmware files with these names. -/
def filesOf (images : List (String × List UInt8)) (name : String) :
    Except Error (List UInt8) :=
  match images.lookup name with
  | some image => .ok image
  | none => .error (.notFound ("firmware " ++ name))

/-- The bench with a chip that is powered and out of reset. -/
def fresh : Bench where
  chip := .fresh
  events := []
  notes := []
  faults := {}
  files := filesOf []

def happen (bench : Bench) (event : Event) : Bench :=
  { bench with events := event :: bench.events }

private def malfunction (text : String) : Error :=
  .device (.reported text)

def read (bench : Bench) (offset : UInt16) (count : Nat) :
    Except Error (Vector UInt8 count) × Bench :=
  let (reply, chip) := bench.chip.read offset count
  let bench := { bench with chip }
  match reply, bench.faults.overrides.lookup offset with
  | .ok _, some bytes =>
      if same : bytes.length = count then
        (.ok ⟨bytes.toArray, by simpa using same⟩, bench)
      else
        (reply, bench)
  | _, _ => (reply, bench)

/-- Counts an update of a line against its faults. No result is an update that fails. -/
def spare? (line : Line) (active : Bool) : List LineFault → Option (List LineFault)
  | [] => some []
  | fault :: rest =>
      if fault.line = line ∧ fault.active = active then
        if fault.spared = 0 then none
        else some ({ fault with spared := fault.spared - 1 } :: rest)
      else
        (spare? line active rest).map (fault :: ·)

def setLine (bench : Bench) (line : Line) (active : Bool) : Except Error Unit × Bench :=
  match spare? line active bench.faults.lines with
  | none => (.error (malfunction "GPIO update failed: Other"), bench)
  | some lines =>
      let bench := { bench with faults := { bench.faults with lines } }
      let bench := bench.happen (.line line active)
      (.ok (),
        if line = .reset then { bench with chip := bench.chip.setReset active } else bench)

def findSupply (bench : Bench) (consumer name : String) : Except Error Unit :=
  if bench.faults.lookups.contains (consumer, name) then
    .error (.notFound (s!"regulator {consumer}/{name}"))
  else
    .ok ()

def enableSupply (bench : Bench) (consumer name : String) : Except Error Unit × Bench :=
  if bench.faults.supplies.contains (consumer, name) then
    (.error (malfunction s!"failed to enable {name} for {consumer}"), bench)
  else
    (.ok (), bench.happen (.supply consumer name true))

def disableSupply (bench : Bench) (consumer name : String) : Except Error Unit × Bench :=
  if bench.faults.disables.contains (consumer, name) then
    (.error (malfunction "disable refused"), bench)
  else
    (.ok (), bench.happen (.supply consumer name false))

def enableClock (bench : Bench) : Except Error Unit × Bench :=
  if bench.faults.clock then
    (.error (malfunction "clock enable failed"), bench)
  else
    (.ok (), bench.happen (.clock true))

/-- The bench as the host of a driver. -/
def host : Host Bench where
  answer
    | .read offset count => fun bench =>
        let (reply, bench) := bench.read offset count
        (some reply, bench)
    | .write offset data => fun bench =>
        let (reply?, chip) := bench.chip.write offset data
        (reply?, { bench with chip })
    | .setLine line active => fun bench =>
        let (reply, bench) := bench.setLine line active
        (some reply, bench)
    | .findSupply consumer name => fun bench =>
        (some (bench.findSupply consumer name), bench)
    | .enableSupply consumer name => fun bench =>
        let (reply, bench) := bench.enableSupply consumer name
        (some reply, bench)
    | .disableSupply consumer name => fun bench =>
        let (reply, bench) := bench.disableSupply consumer name
        (some reply, bench)
    | .enableClock => fun bench =>
        let (reply, bench) := bench.enableClock
        (some reply, bench)
    | .disableClock => fun bench =>
        (some (), bench.happen (.clock false))
    | .wait microseconds => fun bench =>
        (some (), bench.happen (.wait microseconds))
    | .fetch name => fun bench =>
        (some (bench.files name), bench)
  note note := fun bench =>
    { bench with notes := note :: bench.notes }

/-- The waits so far, in microseconds. -/
def totalWait (bench : Bench) : Nat :=
  bench.events.foldl (fun total event =>
    match event with
    | .wait microseconds => total + microseconds.toNat
    | _ => total) 0

def failSupply (bench : Bench) (consumer name : String) : Bench :=
  { bench with
    faults := { bench.faults with supplies := (consumer, name) :: bench.faults.supplies } }

def setClockFault (bench : Bench) (fails : Bool) : Bench :=
  { bench with faults := { bench.faults with clock := fails } }

/-- Register, clock and copy faults go, supply faults stay. -/
def clearFaults (bench : Bench) : Bench :=
  { bench with
    chip := bench.chip.clearFaults
    faults := { bench.faults with clock := false } }

/-- Lets updates of a line to a level fail once `spared` more have succeeded. -/
def failLine (bench : Bench) (line : Line) (active : Bool) (spared : Nat) : Bench :=
  let others := bench.faults.lines.filter fun fault => fault.line ≠ line ∨ fault.active ≠ active
  { bench with faults := { bench.faults with lines := ⟨line, active, spared⟩ :: others } }

def failLookup (bench : Bench) (consumer name : String) : Bench :=
  { bench with
    faults := { bench.faults with lookups := (consumer, name) :: bench.faults.lookups } }

def failDisable (bench : Bench) (consumer name : String) : Bench :=
  { bench with
    faults := { bench.faults with disables := (consumer, name) :: bench.faults.disables } }

def overrideRead (bench : Bench) (offset : UInt16) (data : List UInt8) : Bench :=
  let others := bench.faults.overrides.filter (·.1 != offset)
  { bench with faults := { bench.faults with overrides := (offset, data) :: others } }

/-- Removes the faults of lines, lookups, disables and reads that are not the chip's own. -/
def clearWiringFaults (bench : Bench) : Bench :=
  { bench with
    faults := { bench.faults with lines := [], lookups := [], disables := [], overrides := [] } }

end Bench

end IspDriver.Simulation
