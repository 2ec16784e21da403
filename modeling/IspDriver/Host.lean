import IspDriver.Error

/-!
The host of a driver: everything outside the driver that it can ask for something. A host is one
function from requests to replies over a state of its own, so a statement about every bus, clock,
line and supply is a statement about every host.

Driver code is a `Routine`. It reads and changes a state of type `S`, asks the host, and ends in
one of three ways: done with a value, failed with an error, or aborted because there was no answer,
above all from a host that broke down. Nothing runs after an abort; what was done before it stays.
-/

namespace IspDriver

inductive Line where
  | reset
  | standby
  | enable
  | auxiliary
deriving DecidableEq, Repr

inductive Request where
  /-- Read a block of the bus space. -/
  | read (offset : UInt16) (count : Nat)
  /-- Write a block of the bus space. -/
  | write (offset : UInt16) (data : List UInt8)
  | setLine (line : Line) (active : Bool)
  /-- Look a supply up under the name of its consumer. -/
  | findSupply (consumer name : String)
  | enableSupply (consumer name : String)
  | disableSupply (consumer name : String)
  | enableClock
  | disableClock
  /-- Let a number of microseconds pass. -/
  | wait (microseconds : UInt32)
  /-- Fetch a firmware file. -/
  | fetch (name : String)
deriving DecidableEq, Repr

abbrev Reply : Request → Type
  | .read _ count => Except Error (Vector UInt8 count)
  | .write _ _ => Except Error Unit
  | .setLine _ _ => Except Error Unit
  | .findSupply _ _ => Except Error Unit
  | .enableSupply _ _ => Except Error Unit
  | .disableSupply _ _ => Except Error Unit
  | .enableClock => Except Error Unit
  | .disableClock => Unit
  | .wait _ => Unit
  | .fetch _ => Except Error (List UInt8)

inductive Level where
  | error
  | warn
  | info
  | debug
  | trace
deriving DecidableEq, Repr

namespace Level

def name : Level → String
  | error => "ERROR"
  | warn => "WARN"
  | info => "INFO"
  | debug => "DEBUG"
  | trace => "TRACE"

/-- How little a level matters; zero matters most. -/
def rank : Level → Nat
  | error => 0
  | warn => 1
  | info => 2
  | debug => 3
  | trace => 4

end Level

/-- A log record. -/
structure Note where
  level : Level
  text : String
deriving DecidableEq, Repr

namespace Note

/-- Whether a log that shows `level` shows the note. -/
def isShownAt (level : Level) (note : Note) : Bool :=
  note.level.rank ≤ level.rank

def line (note : Note) : String :=
  note.level.name ++ " " ++ note.text

end Note

structure Host (σ : Type) where
  /-- No reply means that the host broke down. -/
  answer : (request : Request) → σ → Option (Reply request) × σ
  note : Note → σ → σ

/-- A request with what came back. -/
structure Exchange where
  request : Request
  reply : Option (Reply request)

/-- The host that also keeps its exchanges, the first one in front. -/
def Host.recording {σ : Type} (host : Host σ) : Host (σ × List Exchange) where
  answer request := fun (world, past) =>
    let (reply, after) := host.answer request world
    (reply, after, past ++ [⟨request, reply⟩])
  note note := fun (world, past) => (host.note note world, past)

/-- The host that keeps notes, the last one in front, and breaks down when asked for anything. -/
def Host.notebook : Host (List Note) where
  answer _ := fun notes => (none, notes)
  note note := fun notes => note :: notes

inductive Outcome (α : Type) where
  | done (value : α)
  | failed (error : Error)
  | aborted
deriving DecidableEq, Repr

def Routine (σ S α : Type) : Type :=
  Host σ → S → σ → Outcome α × S × σ

namespace Routine

variable {σ S T α β : Type}

def done (value : α) : Routine σ S α :=
  fun _ state world => (.done value, state, world)

def fail (error : Error) : Routine σ S α :=
  fun _ state world => (.failed error, state, world)

/-- The second routine takes over the first one's value, unless there is none. -/
def andThen (routine : Routine σ S α) (next : α → Routine σ S β) : Routine σ S β :=
  fun host state world =>
    match routine host state world with
    | (.done value, state, world) => next value host state world
    | (.failed error, state, world) => (.failed error, state, world)
    | (.aborted, state, world) => (.aborted, state, world)

instance : Monad (Routine σ S) where
  pure := done
  bind := andThen

def ofExcept : Except Error α → Routine σ S α
  | .ok value => done value
  | .error error => fail error

def refuse (cause : Refusal) : Routine σ S α :=
  fail (.invalidArgument cause)

/-- The routine with its error, if it has one, as a value. -/
def attempt (routine : Routine σ S α) : Routine σ S (Except Error α) :=
  fun host state world =>
    match routine host state world with
    | (.done value, state, world) => (.done (.ok value), state, world)
    | (.failed error, state, world) => (.done (.error error), state, world)
    | (.aborted, state, world) => (.aborted, state, world)

/-- Runs `cleanup` on an error before the error is passed on. -/
def onError (routine : Routine σ S α) (cleanup : Error → Routine σ S Unit) : Routine σ S α := do
  match ← routine.attempt with
  | .ok value => done value
  | .error error =>
      cleanup error
      fail error

def state : Routine σ S S :=
  fun _ state world => (.done state, state, world)

def modify (change : S → S) : Routine σ S Unit :=
  fun _ state world => (.done (), change state, world)

/-- Stops where there is no answer to give. -/
def abandon : Routine σ S α :=
  fun _ state world => (.aborted, state, world)

/-- A routine on a state of its own; what becomes of that state is part of the value. -/
def startingFrom (initial : T) (routine : Routine σ T α) : Routine σ S (α × T) :=
  fun host state world =>
    match routine host initial world with
    | (.done value, after, world) => (.done (value, after), state, world)
    | (.failed error, _, world) => (.failed error, state, world)
    | (.aborted, _, world) => (.aborted, state, world)

def ask (request : Request) : Routine σ S (Reply request) :=
  fun host state world =>
    match host.answer request world with
    | (some reply, world) => (.done reply, state, world)
    | (none, world) => (.aborted, state, world)

def note (level : Level) (text : String) : Routine σ S Unit :=
  fun host state world => (.done (), state, host.note ⟨level, text⟩ world)

end Routine

/-- A part of a larger state. -/
structure Part (S T : Type) where
  get : S → T
  put : T → S → S

/-- A routine on a part, as a routine on the whole. -/
def Part.act {σ S T α : Type} (part : Part S T) (routine : Routine σ T α) : Routine σ S α :=
  fun host state world =>
    let (outcome, after, world) := routine host (part.get state) world
    (outcome, part.put after state, world)

namespace Host

open Routine

variable {σ S : Type}

def readBlock (offset : UInt16) (count : Nat) : Routine σ S (Vector UInt8 count) := do
  ofExcept (← ask (.read offset count))

def writeBlock (offset : UInt16) (data : List UInt8) : Routine σ S Unit := do
  ofExcept (← ask (.write offset data))

def setLine (line : Line) (active : Bool) : Routine σ S Unit := do
  ofExcept (← ask (.setLine line active))

def findSupply (consumer name : String) : Routine σ S Unit := do
  ofExcept (← ask (.findSupply consumer name))

def enableSupply (consumer name : String) : Routine σ S Unit := do
  ofExcept (← ask (.enableSupply consumer name))

def disableSupply (consumer name : String) : Routine σ S Unit := do
  ofExcept (← ask (.disableSupply consumer name))

def enableClock : Routine σ S Unit := do
  ofExcept (← ask .enableClock)

def disableClock : Routine σ S Unit :=
  ask .disableClock

def wait (microseconds : UInt32) : Routine σ S Unit :=
  ask (.wait microseconds)

def fetch (name : String) : Routine σ S (List UInt8) := do
  ofExcept (← ask (.fetch name))

/-- A wait in milliseconds; one too long for the host lasts as long as it can wait. -/
def millisecondsToWait (milliseconds : UInt32) : UInt32 :=
  (min (milliseconds.toNat * 1000) (UInt32.size - 1)).toUInt32

/-- A wait in nanoseconds; a part of a microsecond counts as a whole one. -/
def nanosecondsToWait (nanoseconds : UInt32) : UInt32 :=
  ((nanoseconds.toNat + 999) / 1000).toUInt32

end Host

end IspDriver
