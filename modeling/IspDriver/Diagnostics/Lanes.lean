import IspDriver.Register.Map

/-!
The receiver lanes of a sensor port. The state of all four lanes is read over and over; a sample in
which a read fails or a state is unknown is dropped. Those that are left are tallied as they come,
and the tally is reported.
-/

namespace IspDriver.Diagnostics

open Routine

variable {σ : Type}

/-- The names of the lane states, by code. -/
def laneStates : List String :=
  ["stop_s", "hs_req_s", "lp_req_s", "hs_s", "lp_s", "esc_req_s", "turn_req_s", "esc_s", "esc_0",
    "esc_1", "turn_s", "turn_mark", "error_s"]

def laneStateCount : Nat := 13

def laneCount : Nat := 4

def sampleLimit : Nat := 1000

/-- The name of a two-bit line level. -/
def levelName (level : UInt32) : String :=
  if level = 0 then "00"
  else if level = 1 then "10"
  else if level = 2 then "01"
  else "11"

/-- An error a lane has latched. -/
structure LaneError where
  error : Bool
  abort : Bool
  /-- The lane state when the error was latched. -/
  state : String
  level : String
deriving DecidableEq, Repr

def LaneError.text (latched : LaneError) : String :=
  "ERR (" ++ (if latched.error then "E" else "") ++ (if latched.abort then "A" else "") ++ ") " ++
    latched.state ++ " LP" ++ latched.level

structure LaneReport where
  lane : UInt32
  /-- The status in the first sample. -/
  first : UInt32
  /-- The status in the last sample. -/
  last : UInt32
  /-- How many samples show each state, by state code. -/
  histogram : Vector Nat laneStateCount
deriving DecidableEq, Repr

namespace LaneReport

/-- The line level in the first sample. -/
def level (report : LaneReport) : String :=
  levelName (Layout.LaneStatus.level report.first)

/-- The error latched in the last sample. -/
def error? (report : LaneReport) : Option LaneError :=
  let error := report.last &&& Layout.LaneStatus.error ≠ 0
  let abort := report.last &&& Layout.LaneStatus.abort ≠ 0
  if error ∨ abort then
    some {
      error
      abort
      state := laneStates[(Layout.LaneStatus.errorState report.last).toNat]?.getD "INVALID"
      level := levelName (Layout.LaneStatus.errorLevel report.last) }
  else
    none

/-- The states seen, with how often. -/
def counts (report : LaneReport) : List (String × Nat) :=
  (laneStates.zip report.histogram.toList).filter (·.2 ≠ 0)

def text (report : LaneReport) : String :=
  s!"L{report.lane} state: LP" ++ report.level ++
    (match report.error? with
      | some latched => " " ++ latched.text
      | none => "") ++
    String.join (report.counts.map fun (state, count) => s!" {state}:{count}")

end LaneReport

structure PortReport where
  port : UInt32
  /-- How many samples were good. -/
  samples : Nat
  /-- Empty when no sample was good. -/
  lanes : List LaneReport
deriving DecidableEq, Repr

/-- The status of a lane that shows a known state. -/
structure KnownStatus where
  word : UInt32
  known : (Layout.LaneStatus.state word).toNat < laneStateCount
deriving DecidableEq, Repr

def KnownStatus.state (status : KnownStatus) : Fin laneStateCount :=
  ⟨(Layout.LaneStatus.state status.word).toNat, status.known⟩

/-- One good reading of all lanes. -/
abbrev LaneSample : Type :=
  Vector KnownStatus laneCount

/-- What the good samples of a port have shown so far, lane by lane. -/
structure Tally where
  /-- How many samples show each state, by state code. -/
  histograms : Vector (Vector Nat laneStateCount) laneCount
  first : Vector UInt32 laneCount
  last : Vector UInt32 laneCount
  samples : Nat
deriving DecidableEq, Repr

namespace Tally

def empty : Tally where
  histograms := .replicate laneCount (.replicate laneStateCount 0)
  first := .replicate laneCount 0
  last := .replicate laneCount 0
  samples := 0

/-- The histogram with one more of a state. -/
def count (histogram : Vector Nat laneStateCount) (status : KnownStatus) :
    Vector Nat laneStateCount :=
  histogram.set status.state (histogram[status.state] + 1)

/-- The tally with one more sample. -/
def add (tally : Tally) (sample : LaneSample) : Tally where
  histograms := tally.histograms.zipWith count sample
  first := if tally.samples = 0 then sample.map KnownStatus.word else tally.first
  last := sample.map KnownStatus.word
  samples := tally.samples + 1

def report (port : UInt32) (tally : Tally) : PortReport where
  port
  samples := tally.samples
  lanes :=
    if tally.samples = 0 then []
    else (List.finRange laneCount).map fun lane => {
      lane := lane.val.toUInt32
      first := tally.first[lane]
      last := tally.last[lane]
      histogram := tally.histograms[lane] }

end Tally

/-- The status of a lane, if it can be read and shows a known state. -/
def readLane (port lane : UInt32) : Access σ (Option KnownStatus) := do
  match ← attempt (RegisterMap.read (Layout.laneStatus port lane)) with
  | .error _ => return none
  | .ok word =>
      return if known : (Layout.LaneStatus.state word).toNat < laneStateCount then
        some ⟨word, known⟩
      else
        none

/-- One sample, given up at the first lane that is no good. -/
def readLanes (port : UInt32) : Access σ (Option LaneSample) := do
  match ← readLane port 0 with
  | none => return none
  | some lane0 =>
    match ← readLane port 1 with
    | none => return none
    | some lane1 =>
      match ← readLane port 2 with
      | none => return none
      | some lane2 =>
        match ← readLane port 3 with
        | none => return none
        | some lane3 => return some #v[lane0, lane1, lane2, lane3]

/-- Takes so many samples and adds the good ones to a tally. -/
def collectSamples (port : UInt32) : Nat → Tally → Access σ Tally
  | 0, tally => return tally
  | count + 1, tally => do
      match ← readLanes port with
      | none => collectSamples port count tally
      | some sample => collectSamples port count (tally.add sample)

def noteReports (port : UInt32) : List LaneReport → Access σ Unit
  | [] => done ()
  | report :: rest => do
      note .info (s!"SINF{port} " ++ report.text)
      noteReports port rest

/-- Clears what the lanes have latched, each lane on its own. -/
def clearLatches (port : UInt32) : List UInt32 → Access σ Unit
  | [] => done ()
  | lane :: rest => do
      let both := Layout.LaneStatus.error ||| Layout.LaneStatus.abort
      match ← attempt (RegisterMap.write (Layout.laneStatus port lane) both) with
      | .ok () => done ()
      | .error error =>
          note .warn (s!"Failed to clear SINF{port} L{lane} error latch: " ++ error.message)
      clearLatches port rest

/-- Samples the lanes of a port and clears their latches. -/
def samplePort (port : UInt32) : Access σ PortReport := do
  let tally ← collectSamples port sampleLimit .empty
  let report := tally.report port
  noteReports port report.lanes
  clearLatches port [0, 1, 2, 3]
  return report

end IspDriver.Diagnostics
