import Mathlib.Algebra.BigOperators.Fin
import IspDriver.Diagnostics.Lanes
import IspDriver.Proofs.Power.Balance
import IspDriver.Proofs.Register.Access

/-!
What the sampling of a port's lanes reads, whatever the bus answers, and what its report says of
that. A reading is given up at its first bad lane and then leaves no trace in the tally, which after
every iteration tells of the good samples so far; the latches are cleared in any case, one lane after
the other.
-/

namespace IspDriver.Diagnostics

open Routine Layout

/-- What comes of a look at a lane: its status, if it could be read and shows a known state. -/
inductive LaneRead (port lane : UInt32) :
    RegisterMap → List Exchange → Option UInt32 → RegisterMap → Prop
  | known {map after : RegisterMap} {log : List Exchange} {status : UInt32}
      (read : Reads (laneStatus port lane) map log (.ok status) after)
      (state : (LaneStatus.state status).toNat < 13) :
      LaneRead port lane map log (some status) after
  | unknown {map after : RegisterMap} {log : List Exchange} {status : UInt32}
      (read : Reads (laneStatus port lane) map log (.ok status) after)
      (state : ¬ (LaneStatus.state status).toNat < 13) :
      LaneRead port lane map log none after
  | unread {map after : RegisterMap} {log : List Exchange} {error : Error}
      (read : Reads (laneStatus port lane) map log (.error error) after) :
      LaneRead port lane map log none after

/-- What comes of looking at lanes in order, up to the first bad one: what all of them show, if none
is bad. -/
inductive LanesRead (port : UInt32) :
    List UInt32 → RegisterMap → List Exchange → Option (List UInt32) → RegisterMap → Prop
  | nil {map : RegisterMap} : LanesRead port [] map [] (some []) map
  | bad {lane : UInt32} {lanes : List UInt32} {map after : RegisterMap} {log : List Exchange}
      (looked : LaneRead port lane map log none after) :
      LanesRead port (lane :: lanes) map log none after
  | good {lane status : UInt32} {lanes : List UInt32} {map next after : RegisterMap}
      {log more : List Exchange} {shown : Option (List UInt32)}
      (looked : LaneRead port lane map log (some status) next)
      (others : LanesRead port lanes next more shown after) :
      LanesRead port (lane :: lanes) map (log ++ more) (shown.map (status :: ·)) after

/-- What comes of one iteration. -/
def SampleRead (port : UInt32) (map : RegisterMap) (log : List Exchange)
    (sample? : Option LaneSample) (after : RegisterMap) : Prop :=
  LanesRead port [0, 1, 2, 3] map log (sample?.map fun sample => sample.toList.map (·.word)) after

/-- What comes of clearing the latches of a lane. -/
def LatchCleared (port : UInt32) (map : RegisterMap) (log : List Exchange)
    (cleared : UInt32 × Except Error Unit) (after : RegisterMap) : Prop :=
  Writes (laneStatus port cleared.1) (LaneStatus.error ||| LaneStatus.abort) map log cleared.2 after

/-- A lane's report says what the lane showed in the iterations that are valid. -/
structure LaneTold (iterations : List (Option LaneSample)) (lane : Fin 4) (report : LaneReport) :
    Prop where
  number : report.lane.toNat = lane
  first : iterations.findSome? (·.map (·[lane].word)) = some report.first
  last : iterations.reverse.findSome? (·.map (·[lane].word)) = some report.last
  histogram : ∀ state : Fin 13, report.histogram[state] = iterations.countP fun sample? =>
    sample?.any fun sample => (LaneStatus.state sample[lane].word).toNat == state
  total : report.histogram.toList.sum = iterations.countP Option.isSome

/-- A port's report says what the iterations showed. -/
structure PortTold (port : UInt32) (iterations : List (Option LaneSample)) (report : PortReport) :
    Prop where
  port : report.port = port
  samples : report.samples = iterations.countP Option.isSome
  empty : report.lanes = [] ↔ report.samples = 0
  four : report.samples ≠ 0 → report.lanes.length = 4
  each : ∀ (lane : Fin 4) entry, report.lanes[lane.val]? = some entry →
    LaneTold iterations lane entry

variable {σ : Type} {host : Host σ} {port : UInt32} {iterations : List (Option LaneSample)}
  {samples : List LaneSample} {tally : Tally}

theorem readLane_performs (answers : Answers host) (port lane : UInt32) :
    Performs host (fun map log status? => LaneRead port lane map log (status?.map (·.word)))
      (readLane port lane) := by
  intro map world
  have width : (laneStatus port lane).width = 4 := Register.width_of32 _
  apply ((read_tries answers (.inr width)).attempt map world).bind
  intro result after left ended
  obtain ⟨log, logged, read⟩ := ended
  cases result with
  | error error => exact ⟨log, logged, .unread read⟩
  | ok status =>
      by_cases state : (LaneStatus.state status).toNat < laneStateCount
      · simp only [dif_pos state, ends_pure]
        exact ⟨log, logged, .known read state⟩
      · simp only [dif_neg state, ends_pure]
        exact ⟨log, logged, .unknown read state⟩

/-- What comes of reading the lanes that are left, after what the others showed. -/
def Completes (port : UInt32) (lanes front : List UInt32) (map : RegisterMap) (log : List Exchange)
    (sample? : Option LaneSample) (after : RegisterMap) : Prop :=
  ∃ shown, LanesRead port lanes map log shown after ∧
    (sample?.map fun sample => sample.toList.map (·.word)) = shown.map (front ++ ·)

theorem completes_cons {lanes front : List UInt32}
    {next : Option KnownStatus → Access (σ × List Exchange) (Option LaneSample)}
    (answers : Answers host) (bad : next none = pure none)
    (good : ∀ status, Performs host (Completes port lanes (front ++ [status.word]))
      (next (some status))) :
    Performs host (Completes port (lane :: lanes) front) (readLane port lane >>= next) := by
  intro map world
  apply (readLane_performs answers port lane map world).bind
  intro status? after left ended
  obtain ⟨log, logged, looked⟩ := ended
  cases status? with
  | none =>
      rw [bad, ends_pure]
      exact ⟨log, logged, none, .bad looked, rfl⟩
  | some status =>
      refine (good status after left).mono ?_
      intro sample? final later ended
      obtain ⟨more, grown, shown, others, same⟩ := ended
      refine ⟨log ++ more, ?_, _, .good looked others, ?_⟩
      · rw [grown, logged, List.append_assoc]
      · rw [same, Option.map_map]
        congr 1
        funext values
        simp

theorem readLanes_performs (answers : Answers host) (port : UInt32) :
    Performs host (SampleRead port) (readLanes port) := by
  have completes : Performs host (Completes port [0, 1, 2, 3] []) (readLanes port) := by
    -- Each lane is looked at with the statuses of those before it in front.
    apply completes_cons answers rfl
    intro lane0
    apply completes_cons answers rfl
    intro lane1
    apply completes_cons answers rfl
    intro lane2
    apply completes_cons answers rfl
    intro lane3
    exact performs_done fun map => ⟨some [], .nil, rfl⟩
  apply completes.mono
  rintro map log sample? after ⟨shown, read, same⟩
  cases shown <;> simpa [SampleRead, same] using read

/-- The loop adds the samples of its iterations to the tally one by one. -/
theorem collectSamples_performs (answers : Answers host) (port : UInt32) (count : Nat)
    (tally : Tally) :
    Performs host (fun map log total after => ∃ iterations, iterations.length = count ∧
      Chained (SampleRead port) map log iterations after ∧
        total = (iterations.filterMap id).foldl Tally.add tally)
      (collectSamples port count tally) := by
  induction count generalizing tally with
  | zero => exact performs_done fun map => ⟨[], rfl, .nil, rfl⟩
  | succ count ih =>
      refine (readLanes_performs answers port).bind (fun sample? =>
        (?_ : Performs host (fun map log total after => ∃ iterations, iterations.length = count ∧
          Chained (SampleRead port) map log iterations after ∧
            total = ((sample? :: iterations).filterMap id).foldl Tally.add tally) _)) ?_
      · cases sample? with
        | none => exact ih tally
        | some sample => exact ih (tally.add sample)
      · rintro map log sample? between more total after sampled ⟨iterations, rfl, others, same⟩
        exact ⟨sample? :: iterations, rfl, .cons sampled others, same⟩

theorem noteReports_performs (port : UInt32) (reports : List LaneReport) :
    Performs host (fun map log _ after => log = [] ∧ after = map) (noteReports port reports) := by
  induction reports with
  | nil => exact performs_done fun map => ⟨rfl, rfl⟩
  | cons report rest ih => exact performs_note.silent_bind fun _ => ih

/-- What comes of clearing the latches of lanes in order, whether or not it succeeds. -/
def LatchesCleared (port : UInt32) (lanes : List UInt32) (map : RegisterMap) (log : List Exchange)
    (_ : Unit) (after : RegisterMap) : Prop :=
  ∃ cleared, cleared.map Prod.fst = lanes ∧ Chained (LatchCleared port) map log cleared after

theorem clearLatches_performs (answers : Answers host) (port : UInt32) (lanes : List UInt32) :
    Performs host (LatchesCleared port lanes) (clearLatches port lanes) := by
  induction lanes with
  | nil => exact performs_done fun map => ⟨[], rfl, .nil⟩
  | cons lane rest ih =>
      have width : (laneStatus port lane).width = 4 := Register.width_of32 _
      refine (write_tries answers (.inr width) _).attempt.bind
        (fun result => (?_ : Performs host (LatchesCleared port rest) _)) ?_
      · cases result with
        | ok _ =>
            have nothing : Performs host (fun map log _ after => log = [] ∧ after = map)
                (done () : Access (σ × List Exchange) Unit) := performs_done fun map => ⟨rfl, rfl⟩
            exact nothing.silent_bind fun _ => ih
        | error error => exact performs_note.silent_bind fun _ => ih
      · rintro map log result between more _ after written ⟨cleared, rfl, chained⟩
        exact ⟨(lane, result) :: cleared, rfl, .cons written chained⟩

/-- The tally tells of the samples: how many there are, what the first and the last of them show, and
how many of them show each state of each lane. -/
structure Tells (tally : Tally) (samples : List LaneSample) : Prop where
  number : tally.samples = samples.length
  first : ∀ sample, samples.head? = some sample → tally.first = sample.map KnownStatus.word
  last : ∀ sample, samples.getLast? = some sample → tally.last = sample.map KnownStatus.word
  histogram : ∀ (lane : Fin laneCount) (state : Fin laneStateCount),
    tally.histograms[lane][state] = samples.countP fun sample =>
      sample[lane].state.val == state.val

theorem tells_empty : Tells .empty [] where
  number := rfl
  first := nofun
  last := nofun
  histogram := by decide

theorem getElem_count (histogram : Vector Nat laneStateCount) (status : KnownStatus)
    (state : Fin laneStateCount) :
    (Tally.count histogram status)[state] =
      histogram[state] + if status.state.val == state.val then 1 else 0 := by
  by_cases same : status.state = state
  · subst same
    rw [if_pos (beq_self_eq_true _)]
    exact Vector.getElem_set_self _
  · have other : status.state.val ≠ state.val := fun values => same (Fin.ext values)
    rw [if_neg (by simpa using other), Nat.add_zero]
    exact Vector.getElem_set_ne _ _ other

/-- A sample that comes in is told of as the others are. -/
theorem Tells.add (tells : Tells tally samples) (sample : LaneSample) :
    Tells (tally.add sample) (samples ++ [sample]) where
  number := by rw [Tally.add, tells.number, List.length_append, List.length_singleton]
  first := by
    intro first head
    cases samples with
    | nil =>
        cases head
        exact if_pos tells.number
    | cons other rest =>
        have some : tally.samples ≠ 0 := by simp [tells.number]
        rw [Tally.add, if_neg some]
        exact tells.first first head
  last := by
    intro last ended
    rw [List.getLast?_concat] at ended
    cases ended
    rfl
  histogram := by
    intro lane state
    have counted : (tally.add sample).histograms[lane] =
        Tally.count tally.histograms[lane] sample[lane] := Vector.getElem_zipWith ..
    rw [counted, getElem_count, tells.histogram, List.countP_append, List.countP_singleton]

/-- So after any iterations the tally tells of all samples so far. -/
theorem Tells.addAll (tells : Tells tally samples) (more : List LaneSample) :
    Tells (more.foldl Tally.add tally) (samples ++ more) := by
  induction more generalizing samples tally with
  | nil => rwa [List.append_nil]
  | cons sample rest ih =>
      have next := ih (tells.add sample)
      rwa [List.append_assoc] at next

theorem length_filterMap_id {α : Type} (options : List (Option α)) :
    (options.filterMap id).length = options.countP Option.isSome := by
  simp [List.length_filterMap_eq_countP]

theorem countP_filterMap_id {α : Type} (counted : α → Bool) (options : List (Option α)) :
    (options.filterMap id).countP counted = options.countP (·.any counted) := by
  rw [List.countP_filterMap]
  apply List.countP_congr
  intro option _
  cases option <;> simp

theorem findSome?_lane {options : List (Option LaneSample)} {sample : LaneSample} (lane : Fin 4)
    (found : (options.filterMap id).head? = some sample) :
    options.findSome? (·.map (·[lane].word)) = some sample[lane].word := by
  rw [List.head?_filterMap] at found
  have mapped := @List.map_findSome? _ _ _ id (fun sample : LaneSample => sample[lane].word) options
  rw [found] at mapped
  exact mapped.symm

/-- Every element has one of the values that are counted. -/
theorem sum_countP_eq {α : Type} {count : Nat} (value : α → Fin count) (elements : List α) :
    ∑ number : Fin count, elements.countP (fun element => (value element).val == number.val) =
      elements.length := by
  induction elements with
  | nil => simp
  | cons element rest ih =>
      simp only [List.countP_cons, Finset.sum_add_distrib, ih, List.length_cons, beq_iff_eq,
        Fin.val_inj]
      -- The first element adds one to exactly one of the counts.
      rw [Finset.sum_ite_eq]
      simp

theorem Tells.total (tells : Tells tally samples) (lane : Fin laneCount) :
    (tally.histograms.get lane).toList.sum = samples.length := by
  have counts : tally.histograms.get lane = Vector.ofFn fun state =>
      samples.countP fun sample => (sample.get lane).state.val == state.val := by
    ext state small
    rw [Vector.getElem_ofFn]
    exact tells.histogram lane ⟨state, small⟩
  rw [counts, Vector.toList_ofFn, List.sum_ofFn]
  exact sum_countP_eq (fun sample => (sample.get lane).state) samples

theorem Tells.lane {first last : LaneSample} (tells : Tells tally (iterations.filterMap id))
    (head : (iterations.filterMap id).head? = some first)
    (ended : (iterations.filterMap id).getLast? = some last) (lane : Fin 4) :
    LaneTold iterations lane {
      lane := lane.val.toUInt32
      first := tally.first[lane]
      last := tally.last[lane]
      histogram := tally.histograms[lane] } where
  number := by
    have bound := lane.isLt
    simp only [Nat.toUInt32_eq, UInt32.toNat_ofNat']
    omega
  first := by
    rw [findSome?_lane lane head, tells.first first head]
    simp
  last := by
    have reversed : (iterations.reverse.filterMap id).head? = some last := by
      rw [List.filterMap_reverse, List.head?_reverse, ended]
    rw [findSome?_lane lane reversed, tells.last last ended]
    simp
  histogram := fun state => (tells.histogram lane state).trans (countP_filterMap_id _ iterations)
  total := (tells.total lane).trans (length_filterMap_id iterations)

/-- A tally that tells of the good samples is reported as it should be. -/
theorem Tells.report (tells : Tells tally (iterations.filterMap id)) :
    PortTold port iterations (tally.report port) := by
  have number := tells.number
  cases samples : iterations.filterMap id with
  | nil =>
      rw [samples] at number
      have lanes : (tally.report port).lanes = [] := if_pos number
      refine ⟨rfl, ?_, iff_of_true lanes number, fun some => absurd number some, ?_⟩
      · rw [← length_filterMap_id, samples]
        exact number
      · intro lane entry found
        rw [lanes] at found
        exact nomatch found
  | cons first rest =>
      obtain ⟨last, ended⟩ : ∃ last, (iterations.filterMap id).getLast? = some last := by
        rw [samples]
        exact ⟨_, List.getLast?_eq_some_getLast (List.cons_ne_nil first rest)⟩
      have head : (iterations.filterMap id).head? = some first := by rw [samples]; rfl
      have some : tally.samples ≠ 0 := by rw [number, samples]; exact Nat.succ_ne_zero _
      have lanes : (tally.report port).lanes = _ := if_neg some
      refine ⟨rfl, number.trans (length_filterMap_id iterations), ?_, fun _ => ?_,
        fun lane entry found => ?_⟩
      · rw [lanes, List.map_eq_nil_iff]
        exact iff_of_false (by decide) some
      · rw [lanes, List.length_map, List.length_finRange]
        rfl
      · have inside : lane.val < (List.finRange laneCount).length := by
          rw [List.length_finRange]
          exact lane.isLt
        rw [lanes, List.getElem?_map, List.getElem?_eq_getElem inside, List.getElem_finRange] at found
        cases found
        exact tells.lane head ended lane

/-- What comes of sampling the lanes of a port: a thousand iterations, then the latches, lane by
lane, and a report of the iterations. -/
def PortSampled (port : UInt32) (map : RegisterMap) (log : List Exchange) (report : PortReport)
    (after : RegisterMap) : Prop :=
  ∃ iterations sampling clearing between, log = sampling ++ clearing ∧ iterations.length = 1000 ∧
    Chained (SampleRead port) map sampling iterations between ∧
    LatchesCleared port [0, 1, 2, 3] between clearing () after ∧ PortTold port iterations report

/-- Whatever the bus answers, the sampling of a port ends with a report. Of its thousand iterations,
those in which all four lanes were read and showed a known state are the samples; each lane's
histogram counts just these, by state, and its first and last status are those of the first and the
last of them. After that the latches of all four lanes are cleared, one after the other, whether or
not it succeeds. -/
theorem lanes_sampled (answers : Answers host) (port : UInt32) :
    Performs host (PortSampled port) (samplePort port) := by
  refine (collectSamples_performs answers port sampleLimit .empty).bind (fun tally =>
    (?_ : Performs host (fun map log report after =>
      LatchesCleared port [0, 1, 2, 3] map log () after ∧ report = tally.report port) _)) ?_
  · apply (noteReports_performs port _).silent_bind
    intro _
    apply (clearLatches_performs answers port [0, 1, 2, 3]).returning
    exact fun map log _ after cleared => ⟨cleared, rfl⟩
  · rintro map sampling tally between clearing report after ⟨iterations, length, chained, rfl⟩
      ⟨cleared, rfl⟩
    have tells := tells_empty.addAll (iterations.filterMap id)
    rw [List.nil_append] at tells
    exact ⟨iterations, sampling, clearing, between, rfl, length, chained, cleared, tells.report⟩

/-- A host on which, in turn, five lanes are good, one shows an unknown state and one is not read. -/
def fickleHost : Host Nat where
  answer
    | .read _ count => fun turn =>
        (some (if turn % 7 = 6 then .error (.transfer .other "nobody answered")
          else .ok (Vector.replicate count (if turn % 7 = 5 then 0x0f else 0x01))), turn + 1)
    | request => fun turn => ((Device.steadyHost.answer request ()).1, turn)
  note _ turn := turn

theorem fickleHost_lanes_sampled :
    Answers fickleHost ∧ Performs fickleHost (PortSampled 1) (samplePort 1) := by
  have answers : Answers fickleHost := by
    intro request turn
    cases request <;> rfl
  exact ⟨answers, lanes_sampled answers 1⟩

/-- One in three of its iterations is valid. -/
example : (readLanes 1 fickleHost {} 0).1 = .done (some (Vector.replicate 4 ⟨0x01010101, by decide⟩)) ∧
    (readLanes 1 fickleHost {} 4).1 = .done none ∧ (readLanes 1 fickleHost {} 6).1 = .done none := by
  decide +kernel

end IspDriver.Diagnostics
