import IspDriver.Proofs.Device.Boot
import IspDriver.Proofs.Sequence

/-!
The conversation with the copy engine, on any host. A call looks for an idle engine, describes a copy
and starts it, and looks for an idle engine again. The first look, write or read that is not granted
ends the call, and so does an engine that stays busy for all the looks of one wait.
-/

namespace IspDriver

open Routine

/-! ## Exchanges in their places -/

namespace Exchange

def IsWrite (exchange : Exchange) : Prop :=
  ∃ offset data, exchange.request = .write offset data

def WritesTo (register : Register) (exchange : Exchange) : Prop :=
  ∃ data, exchange.request = .write register.offset data

theorem WritesTo.isWrite {register : Register} {exchange : Exchange}
    (writes : exchange.WritesTo register) : exchange.IsWrite := by
  obtain ⟨data, asked⟩ := writes
  exact ⟨_, data, asked⟩

theorem verdict_of_word? {exchange : Exchange} {word : UInt32} (found : exchange.word? = some word) :
    exchange.verdict = .done () := by
  unfold word? at found
  split at found
  · rfl
  · cases found

end Exchange

/-- Every exchange of a record stands where it may, given what came before it and what came after. -/
def Each (law : List Exchange → Exchange → List Exchange → Prop) (log : List Exchange) : Prop :=
  ∀ front exchange back, log = front ++ exchange :: back → law front exchange back

variable {law : List Exchange → Exchange → List Exchange → Prop} {log more : List Exchange}
  {exchange : Exchange}

theorem each_of_forall (holds : ∀ exchange ∈ log, ∀ front back, law front exchange back) :
    Each law log := by
  intro front exchange back whole
  exact holds exchange (by simp [whole]) front back

theorem Each.append (first : Each (fun front exchange back => law front exchange (back ++ more)) log)
    (second : Each (fun front exchange back => law (log ++ front) exchange back) more) :
    Each law (log ++ more) := by
  intro front exchange back whole
  rcases List.append_eq_append_iff.mp whole with ⟨before, rfl, rest⟩ | ⟨after, rfl, rest⟩
  · exact second before exchange back rest
  · cases after with
    | nil =>
        have onward := second [] exchange back rest.symm
        simpa using onward
    | cons last after =>
        obtain ⟨rfl, rfl⟩ := List.cons.inj rest
        exact first front exchange after rfl

theorem Each.cons (first : law [] exchange log)
    (others : Each (fun front other back => law (exchange :: front) other back) log) :
    Each law (exchange :: log) := by
  intro front other back whole
  cases front with
  | nil =>
      obtain ⟨rfl, rfl⟩ := List.cons.inj whole
      exact first
  | cons _ front =>
      obtain ⟨rfl, rest⟩ := List.cons.inj whole
      exact others front other back rest

/-- A stretch without an exchange lies on one side of it. -/
theorem infix_beside {stretch : List Exchange} (among : stretch <:+: log ++ exchange :: more)
    (without : exchange ∉ stretch) : stretch <:+: log ∨ stretch <:+: more := by
  obtain ⟨front, back, whole⟩ := among
  rcases List.append_eq_append_iff.mp whole with ⟨rest, rfl, -⟩ | ⟨rest, same, tail⟩
  · exact .inl ⟨front, rest, rfl⟩
  · cases rest with
    | nil =>
        rw [List.append_nil] at same
        exact .inl ⟨front, [], by rw [List.append_nil, same]⟩
    | cons next rest =>
        obtain ⟨rfl, rfl⟩ := List.cons.inj tail
        rcases List.append_eq_append_iff.mp same with ⟨before, rfl, inside⟩ | ⟨after, rfl, inside⟩
        · exact absurd (by simp [inside]) without
        · cases after with
          | nil =>
              rw [List.nil_append] at inside
              exact absurd (by simp [← inside]) without
          | cons next after =>
              obtain ⟨rfl, rfl⟩ := List.cons.inj inside
              exact .inr ⟨after, back, rfl⟩

theorem infix_outside {stretch middle : List Exchange}
    (among : stretch <:+: log ++ exchange :: (middle ++ more)) (first : exchange ∉ stretch)
    (others : ∀ other ∈ middle, other ∉ stretch) : stretch <:+: log ∨ stretch <:+: more := by
  rcases infix_beside among first with before | after
  · exact .inl before
  · clear among
    induction middle with
    | nil => exact .inr after
    | cons next rest ih =>
        obtain ⟨second, others⟩ := List.forall_mem_cons.mp others
        rcases @infix_beside [] _ _ _ after second with before | after
        · exact .inl (before.trans List.nil_infix)
        · exact ih others after

namespace Bridge

/-! ## Looks at the engine -/

/-- A look at the engine. -/
def look : Request :=
  .read Layout.copyControl.offset 2

/-- How often the engine was looked at. -/
def looks (log : List Exchange) : Nat :=
  (log.map (·.request)).count look

/-- A look that was granted and found the engine idle. -/
def IsIdle (exchange : Exchange) : Prop :=
  exchange.request = look ∧ ∃ control, exchange.word? = some control ∧
    control &&& Layout.Copy.modeMask = Layout.Copy.idle

/-- A look that was granted and found the engine at work. -/
def IsBusy (exchange : Exchange) : Prop :=
  exchange.request = look ∧ ∃ control, exchange.word? = some control ∧
    control &&& Layout.Copy.modeMask ≠ Layout.Copy.idle

/-- A pause follows each look that finds the engine at work, and nothing else. -/
def Paced (front : List Exchange) (exchange : Exchange) (back : List Exchange) : Prop :=
  (IsBusy exchange → ∃ pause rest, back = pause :: rest ∧ pause.request = .wait 1000) ∧
    ∀ microseconds, exchange.request = .wait microseconds →
      microseconds = 1000 ∧ ∃ before found, front = before ++ [found] ∧ IsBusy found

/-- Looks that each found the engine at work, with their pauses. -/
def Cycles : Nat → List Exchange → Prop
  | 0, log => log = []
  | count + 1, log => ∃ found rest, log = found :: ⟨.wait 1000, some ()⟩ :: rest ∧ IsBusy found ∧
      Cycles count rest

/-- A pause that was not cut short. -/
def isPause : Exchange → Bool
  | ⟨.wait _, some _⟩ => true
  | _ => false

def pauses (log : List Exchange) : Nat :=
  log.countP isPause

/-- What comes of a wait that has this many looks left. -/
inductive Waited : Nat → List Exchange → Outcome Unit → Prop
  | exhausted : Waited 0 [] (.failed (.timeout .copyEngine))
  | stopped {polls : Nat} {exchange : Exchange} (asked : exchange.request = look)
      (refused : exchange.verdict ≠ .done ()) : Waited (polls + 1) [exchange] exchange.verdict
  | idle {polls : Nat} {exchange : Exchange} (found : IsIdle exchange) :
      Waited (polls + 1) [exchange] (.done ())
  | brokeDown {polls : Nat} {exchange : Exchange} (found : IsBusy exchange) :
      Waited (polls + 1) [exchange, ⟨.wait 1000, none⟩] .aborted
  | paused {polls : Nat} {exchange : Exchange} {log : List Exchange} {outcome : Outcome Unit}
      (found : IsBusy exchange) (rest : Waited polls log outcome) :
      Waited (polls + 1) (exchange :: ⟨.wait 1000, some ()⟩ :: log) outcome

variable {polls : Nat} {outcome : Outcome Unit}

theorem looks_append : looks (log ++ more) = looks log + looks more := by
  rw [looks, List.map_append, List.count_append]
  rfl

theorem looks_cons : looks (exchange :: log) = (if exchange.request = look then 1 else 0) + looks log := by
  rw [looks, List.map_cons, List.count_cons, Nat.add_comm]
  simp only [beq_iff_eq]
  rfl

theorem looks_eq_zero (others : ∀ exchange ∈ log, exchange.request ≠ look) : looks log = 0 := by
  refine List.count_eq_zero.mpr fun member => ?_
  obtain ⟨exchange, among, same⟩ := List.mem_map.mp member
  exact others exchange among same

theorem IsIdle.granted (idle : IsIdle exchange) : exchange.verdict = .done () := by
  obtain ⟨-, control, found, -⟩ := idle
  exact Exchange.verdict_of_word? found

theorem IsBusy.granted (busy : IsBusy exchange) : exchange.verdict = .done () := by
  obtain ⟨-, control, found, -⟩ := busy
  exact Exchange.verdict_of_word? found

theorem IsBusy.not_idle (busy : IsBusy exchange) : ¬ IsIdle exchange := by
  intro idle
  obtain ⟨-, control, found, works⟩ := busy
  obtain ⟨-, other, same, rests⟩ := idle
  rw [found] at same
  cases same
  exact works rests

theorem not_write_of_look (asked : exchange.request = look) : ¬ exchange.IsWrite := by
  intro writes
  obtain ⟨offset, data, same⟩ := writes
  rw [asked] at same
  cases same

theorem not_write_of_wait {microseconds : UInt32} (asked : exchange.request = .wait microseconds) :
    ¬ exchange.IsWrite := by
  intro writes
  obtain ⟨offset, data, same⟩ := writes
  rw [asked] at same
  cases same

/-- What was before and what comes after may be longer. -/
theorem Paced.wider {front back : List Exchange} (paced : Paced front exchange back)
    (before after : List Exchange) : Paced (before ++ front) exchange (back ++ after) := by
  obtain ⟨pauses, follows⟩ := paced
  refine ⟨fun busy => ?_, fun microseconds asked => ?_⟩
  · obtain ⟨pause, rest, rfl, waits⟩ := pauses busy
    exact ⟨pause, rest ++ after, rfl, waits⟩
  · obtain ⟨same, others, found, rfl, busy⟩ := follows microseconds asked
    exact ⟨same, before ++ others, found, (List.append_assoc ..).symm, busy⟩

theorem paced_of_other (notLook : exchange.request ≠ look)
    (notWait : ∀ microseconds, exchange.request ≠ .wait microseconds) (front back : List Exchange) :
    Paced front exchange back :=
  ⟨fun busy => absurd busy.1 notLook, fun microseconds asked => absurd asked (notWait microseconds)⟩

theorem paced_of_look (asked : exchange.request = look) (rests : ¬ IsBusy exchange)
    (front back : List Exchange) : Paced front exchange back := by
  refine ⟨fun busy => absurd busy rests, fun microseconds waits => ?_⟩
  rw [asked] at waits
  cases waits

theorem Each.append_paced (first : Each Paced log) (second : Each Paced more) :
    Each Paced (log ++ more) := by
  refine Each.append ?_ ?_
  · intro front exchange back whole
    exact (first front exchange back whole).wider [] more
  · intro front exchange back whole
    have paced := (second front exchange back whole).wider log []
    rwa [List.append_nil] at paced

/-- A look that finds the engine at work, and the pause after it. -/
theorem paced_pair (busy : IsBusy exchange) (reply : Option (Reply (.wait 1000))) :
    Each Paced [exchange, ⟨.wait 1000, reply⟩] := by
  have looked : Paced [] exchange [⟨.wait 1000, reply⟩] := by
    refine ⟨fun _ => ⟨_, [], rfl, rfl⟩, fun microseconds asked => ?_⟩
    rw [busy.1] at asked
    cases asked
  have rested : Paced [exchange] ⟨.wait 1000, reply⟩ [] := by
    refine ⟨fun waits => (nomatch waits.1), fun microseconds asked => ?_⟩
    cases asked
    exact ⟨rfl, [], exchange, rfl, busy⟩
  exact Each.cons looked (Each.cons rested (each_of_forall fun _ member => nomatch member))

/-! ## Stretches of looks and pauses -/

theorem isPause_of_look (asked : exchange.request = look) : isPause exchange = false := by
  obtain ⟨request, reply⟩ := exchange
  subst asked
  rfl

theorem pauses_cons_of_look (asked : exchange.request = look) : pauses (exchange :: log) = pauses log :=
  List.countP_cons_of_neg (by simp [isPause_of_look asked])

theorem pauses_cons_of_pause : pauses (⟨.wait 1000, some ()⟩ :: log) = pauses log + 1 :=
  List.countP_cons_of_pos rfl

theorem Cycles.pauses_eq {count : Nat} (cycles : Cycles count log) : pauses log = count := by
  induction count generalizing log with
  | zero =>
      subst cycles
      rfl
  | succ count ih =>
      obtain ⟨found, rest, rfl, busy, others⟩ := cycles
      rw [pauses_cons_of_look busy.1, pauses_cons_of_pause, ih others]

theorem Cycles.busy_or_wait {count : Nat} (cycles : Cycles count log) :
    ∀ exchange ∈ log, IsBusy exchange ∨ exchange.request = .wait 1000 := by
  induction count generalizing log with
  | zero =>
      subst cycles
      exact fun _ member => nomatch member
  | succ count ih =>
      obtain ⟨found, rest, rfl, busy, others⟩ := cycles
      exact List.forall_mem_cons.mpr ⟨.inl busy, List.forall_mem_cons.mpr ⟨.inr rfl, ih others⟩⟩

theorem Cycles.not_mem_of_idle {count : Nat} (cycles : Cycles count log) (idle : IsIdle exchange) :
    exchange ∉ log := by
  intro member
  rcases cycles.busy_or_wait exchange member with busy | waits
  · exact busy.not_idle idle
  · exact absurd (idle.1.symm.trans waits) (by decide)

theorem Cycles.not_mem_of_other {count : Nat} (cycles : Cycles count log)
    (notLook : exchange.request ≠ look) (notWait : exchange.request ≠ .wait 1000) :
    exchange ∉ log := by
  intro member
  rcases cycles.busy_or_wait exchange member with busy | waits
  · exact notLook busy.1
  · exact notWait waits

/-! ## One wait -/

namespace Waited

theorem request_eq (waited : Waited polls log outcome) :
    ∀ exchange ∈ log, exchange.request = look ∨ exchange.request = .wait 1000 := by
  induction waited with
  | exhausted => simp
  | stopped asked => simpa using Or.inl asked
  | idle found => simpa using Or.inl found.1
  | brokeDown found => simpa using Or.inl found.1
  | paused found rest ih => simpa using ⟨Or.inl found.1, ih⟩

theorem not_write (waited : Waited polls log outcome) : ∀ exchange ∈ log, ¬ exchange.IsWrite := by
  intro exchange member
  rcases waited.request_eq exchange member with asked | asked
  · exact not_write_of_look asked
  · exact not_write_of_wait asked

theorem looks_le (waited : Waited polls log outcome) : looks log ≤ polls := by
  induction waited with
  | exhausted => exact Nat.le_refl _
  | stopped asked => simp [asked, looks]
  | idle found => simp [found.1, looks]
  | brokeDown found => simp [looks, found.1, look]
  | paused found rest ih =>
      simp only [looks_cons, found.1, if_true]
      simp only [look, reduceCtorEq, if_false]
      omega

theorem paced (waited : Waited polls log outcome) : Each Paced log := by
  induction waited with
  | exhausted => exact each_of_forall fun _ member => nomatch member
  | @stopped _ exchange asked refused =>
      refine each_of_forall fun other member => ?_
      obtain rfl := List.mem_singleton.mp member
      exact paced_of_look asked fun busy => refused busy.granted
  | @idle _ exchange found =>
      refine each_of_forall fun other member => ?_
      obtain rfl := List.mem_singleton.mp member
      exact paced_of_look found.1 fun busy => busy.not_idle found
  | brokeDown found => exact paced_pair found none
  | paused found rest ih => exact Each.append_paced (paced_pair found (some ())) ih

/-- A wait ends with the exchange that stopped it, or else it has used up its looks. -/
theorem settles (waited : Waited polls log outcome) :
    Settles log outcome ∨
      outcome = .failed (.timeout .copyEngine) ∧ Granted log ∧ Cycles polls log := by
  induction waited with
  | exhausted => exact .inr ⟨rfl, fun _ member => (nomatch member), rfl⟩
  | stopped => exact .inl (settles_one _)
  | @idle _ exchange found =>
      have settled := settles_one exchange
      rw [found.granted] at settled
      exact .inl settled
  | brokeDown found => exact .inl ((settles_one ⟨.wait 1000, none⟩).cons found.granted)
  | @paused _ exchange log _ found rest ih =>
      rcases ih with settled | ⟨timeout, granted, cycles⟩
      · exact .inl ((settled.cons rfl).cons found.granted)
      · refine .inr ⟨timeout, ?_, exchange, log, rfl, found, cycles⟩
        exact List.forall_mem_cons.mpr ⟨found.granted, List.forall_mem_cons.mpr ⟨rfl, granted⟩⟩

theorem granted (waited : Waited polls log (.done ())) : Granted log := by
  rcases waited.settles with settled | ⟨timeout, -⟩
  · exact settled.granted
  · cases timeout

theorem last_idle (waited : Waited polls log outcome) (done : outcome = .done ()) :
    ∃ front found, log = front ++ [found] ∧ IsIdle found := by
  induction waited with
  | exhausted => cases done
  | stopped _ refused => exact absurd done refused
  | @idle _ exchange found => exact ⟨[], exchange, rfl, found⟩
  | brokeDown => cases done
  | @paused _ exchange log _ found rest ih =>
      obtain ⟨front, last, rfl, idle⟩ := ih done
      exact ⟨exchange :: ⟨.wait 1000, some ()⟩ :: front, last, rfl, idle⟩

theorem exhausted_of_pauses (waited : Waited polls log outcome) (all : polls ≤ pauses log) :
    outcome = .failed (.timeout .copyEngine) ∧ Granted log := by
  induction waited with
  | exhausted => exact ⟨rfl, fun _ member => nomatch member⟩
  | stopped asked =>
      rw [pauses_cons_of_look asked] at all
      exact absurd all (Nat.not_succ_le_zero _)
  | idle found =>
      rw [pauses_cons_of_look found.1] at all
      exact absurd all (Nat.not_succ_le_zero _)
  | brokeDown found =>
      rw [pauses_cons_of_look found.1] at all
      exact absurd all (Nat.not_succ_le_zero _)
  | paused found rest ih =>
      rw [pauses_cons_of_look found.1, pauses_cons_of_pause] at all
      obtain ⟨timeout, granted⟩ := ih (Nat.le_of_succ_le_succ all)
      exact ⟨timeout, List.forall_mem_cons.mpr
        ⟨found.granted, List.forall_mem_cons.mpr ⟨rfl, granted⟩⟩⟩

/-- Looks that all find the engine at work, as many as there may be, make a wait time out. -/
theorem exhausted_of_cycles {cycles : List Exchange} (waited : Waited polls log outcome)
    (among : cycles <:+: log) (stuck : Cycles polls cycles) :
    outcome = .failed (.timeout .copyEngine) ∧ Granted log := by
  have all : pauses cycles ≤ pauses log := among.sublist.countP_le
  rw [stuck.pauses_eq] at all
  exact waited.exhausted_of_pauses all

theorem not_cycles {front cycles : List Exchange} (waited : Waited polls (front ++ more) (.done ()))
    (stuck : Cycles polls cycles) : ¬ cycles <:+: front := by
  intro among
  have within := among.trans (List.prefix_append front more).isInfix
  obtain ⟨timeout, -⟩ := waited.exhausted_of_cycles within stuck
  cases timeout

end Waited

/-! ## Routines that look -/

variable {σ : Type} {host : Host σ} {map : RegisterMap}

theorem traces_pollIdle (polls : Nat) :
    Traces host (· = map) (· = map) (Waited polls) (pollIdle polls) := by
  induction polls with
  | zero =>
      intro state world known
      exact ⟨known, [], (List.append_nil _).symm, .exhausted⟩
  | succ polls ih =>
      have looked : Traces host (· = map) (· = map)
          (Gains [look] fun log word => log.map Exchange.word? = [some word])
          (RegisterMap.read Layout.copyControl) := traces_read (by decide) (by decide)
      intro state world known
      refine (looked state world known).bind_or_stop ?_ ?_
      · intro control after left ended
        obtain ⟨knows, log, logged, follows, found⟩ := ended
        obtain ⟨exchange, rfl, asked⟩ := follows.one_of_one
        have word : exchange.word? = some control := by simpa using found control rfl
        split
        · next rests => exact ⟨knows, [exchange], logged, .idle ⟨asked, control, word, rests⟩⟩
        · next works =>
            have busy : IsBusy exchange := ⟨asked, control, word, works⟩
            refine ends_bind.mpr (ends_ask.mpr ?_)
            obtain ⟨left, past⟩ := left
            have logged : past = world.2 ++ [exchange] := logged
            rw [answer_recorded]
            rcases host.answer (.wait pollMicroseconds) left with ⟨_ | _, left⟩
            · refine ⟨knows, [exchange, ⟨.wait 1000, none⟩], ?_, .brokeDown busy⟩
              simp [logged, pollMicroseconds]
            · simp only [followed]
              refine (ih after _ knows).mono ?_
              intro outcome after left ended
              obtain ⟨knows, more, grown, waited⟩ := ended
              refine ⟨knows, exchange :: ⟨.wait 1000, some ()⟩ :: more, ?_, .paused busy waited⟩
              simp [grown, logged, pollMicroseconds]
      · intro outcome other after left same stops ended
        obtain ⟨knows, log, logged, follows, -⟩ := ended
        obtain ⟨exchange, rfl, asked⟩ := follows.one_of_one
        have verdict := follows.settles.of_one
        rw [verdict] at stops
        rw [Outcome.verdict_unit, verdict] at same
        subst same
        exact ⟨knows, [exchange], logged, .stopped asked stops⟩

/-! ## A whole call -/

/-- What comes of a call that writes these requests between its two waits and makes the last ones
after them. -/
inductive Transfer (writes last : List Request) : List Exchange → Outcome Unit → Prop
  | unready {log : List Exchange} {outcome : Outcome Unit} (waited : Waited pollLimit log outcome)
      (stops : outcome ≠ .done ()) : Transfer writes last log outcome
  | unstarted {first log : List Exchange} {outcome : Outcome Unit}
      (ready : Waited pollLimit first (.done ())) (written : Follows writes log outcome)
      (stops : outcome ≠ .done ()) : Transfer writes last (first ++ log) outcome
  | unfinished {first written log : List Exchange} {outcome : Outcome Unit}
      (ready : Waited pollLimit first (.done ()))
      (started : Follows writes written (Outcome.done ())) (waited : Waited pollLimit log outcome)
      (stops : outcome ≠ .done ()) : Transfer writes last (first ++ (written ++ log)) outcome
  | finished {first written second log : List Exchange} {outcome : Outcome Unit}
      (ready : Waited pollLimit first (.done ()))
      (started : Follows writes written (Outcome.done ()))
      (rested : Waited pollLimit second (.done ())) (ended : Follows last log outcome) :
      Transfer writes last (first ++ (written ++ (second ++ log))) outcome

variable {α : Type} {writes last : List Request}

theorem traces_transfer {start : Access (σ × List Exchange) Unit}
    {finish : Access (σ × List Exchange) α}
    (starts : Traces host (· = map) (· = map) (Follows writes) start)
    (ends : Traces host (· = map) (· = map) (Follows last) finish) :
    Traces host (· = map) (· = map) (fun log outcome => Transfer writes last log outcome.verdict)
      (do
        waitIdle
        start
        waitIdle
        finish) := by
  have wait := @traces_pollIdle σ host map pollLimit
  intro state world known
  refine (wait state world known).bind_or_stop ?_ ?_
  · intro _ after left ended
    obtain ⟨knows, first, logged, ready⟩ := ended
    refine (starts after left knows).bind_or_stop ?_ ?_
    · intro _ after left ended
      obtain ⟨knows, written, grown, started⟩ := ended
      rw [logged] at grown
      refine (wait after left knows).bind_or_stop ?_ ?_
      · intro _ after left ended
        obtain ⟨knows, second, later, rested⟩ := ended
        rw [grown] at later
        refine (ends after left knows).mono ?_
        intro outcome after left ended
        obtain ⟨knows, log, all, follows⟩ := ended
        have ended := follows.verdict (Outcome.verdict_unit outcome.verdict)
        refine ⟨knows, first ++ (written ++ (second ++ log)), ?_, .finished ready started rested ended⟩
        rw [all, later]
        simp only [List.append_assoc]
      · intro outcome other after left same stops ended
        obtain ⟨knows, log, all, waited⟩ := ended
        rw [Outcome.verdict_unit] at same stops
        subst same
        refine ⟨knows, first ++ (written ++ log), ?_, .unfinished ready started waited stops⟩
        rw [all, grown]
        simp only [List.append_assoc]
    · intro outcome other after left same stops ended
      obtain ⟨knows, log, grown, follows⟩ := ended
      rw [Outcome.verdict_unit] at same stops
      subst same
      refine ⟨knows, first ++ log, ?_, .unstarted ready follows stops⟩
      rw [grown, logged, List.append_assoc]
  · intro outcome other after left same stops ended
    obtain ⟨knows, log, logged, waited⟩ := ended
    rw [Outcome.verdict_unit] at same stops
    subst same
    exact ⟨knows, log, logged, .unready waited stops⟩

/-- Three writes that describe a copy, and the one that starts it. -/
def startRequests (size source target control : UInt32) : List Request :=
  [.write Layout.copySize.offset (RegisterMap.busBytes Layout.copySize size),
    .write Layout.copySource.offset (RegisterMap.busBytes Layout.copySource source),
    .write Layout.copyTarget.offset (RegisterMap.busBytes Layout.copyTarget target),
    .write Layout.copyControl.offset (RegisterMap.busBytes Layout.copyControl control)]

theorem traces_start {size source target control : UInt32} :
    Traces host (· = map) (· = map) (Follows (startRequests size source target control))
      (RegisterMap.writeAll [(Layout.copySize, size), (Layout.copySource, source),
        (Layout.copyTarget, target), (Layout.copyControl, control)]) :=
  traces_writeAll (by simp only [List.forall_mem_cons]; decide)

/-! ## The laws of a call -/

/-- A timeout of the call's own: nothing that was asked for failed. -/
def TimesOut (log : List Exchange) (outcome : Outcome Unit) : Prop :=
  outcome = .failed (.timeout .copyEngine) ∧ Granted log

/-- What the record of a call shows, with its outcome. -/
structure Lawful (log : List Exchange) (outcome : Outcome Unit) : Prop where
  /-- Nothing is written before the engine was found idle. -/
  ready : Each (fun front exchange _ => exchange.IsWrite → ∃ found ∈ front, IsIdle found) log
  /-- The engine is started at most once, when the copy is described, between two waits with no more
  looks each than they may have. -/
  started : Each (fun front exchange back => exchange.WritesTo Layout.copyControl →
    (∀ register ∈ [Layout.copySize, Layout.copySource, Layout.copyTarget],
      ∃ earlier ∈ front, earlier.WritesTo register ∧ earlier.verdict = .done ()) ∧
    (∀ other ∈ front ++ back, ¬ other.WritesTo Layout.copyControl) ∧
    looks front ≤ 50 ∧ looks back ≤ 50) log
  /-- Without a start, there is one wait. -/
  unstarted : (∀ exchange ∈ log, ¬ exchange.WritesTo Layout.copyControl) → looks log ≤ 50
  paced : Each Paced log
  /-- Fifty looks in one wait that all find the engine at work are what makes a call time out. -/
  timesOut : TimesOut log outcome ↔ ∃ cycles, cycles <:+: log ∧ Cycles 50 cycles
  /-- A call succeeds only if the engine was found idle after its start. -/
  finished : outcome = .done () → Granted log ∧ ∃ front control between found back,
    log = front ++ control :: (between ++ found :: back) ∧
      control.WritesTo Layout.copyControl ∧ IsIdle found
  /-- Otherwise the first exchange that was not granted ends the call with its error. -/
  stopped : outcome ≠ .done () → ¬ TimesOut log outcome →
    ∃ before last, log = before ++ [last] ∧ Granted before ∧ last.verdict ≠ .done () ∧
      outcome = last.verdict

/-- A record in three parts: looks until the engine is idle, the writes that start it, and the rest. -/
structure Parts (writes : List Request) (first written rest : List Exchange) : Prop where
  waited : ∃ outcome, Waited pollLimit first outcome
  ready : written ≠ [] → ∃ found ∈ first, IsIdle found
  inOrder : written.map (·.request) <+: writes
  settles : ∃ outcome, Settles written outcome
  unstarted : rest ≠ [] → written.map (·.request) = writes
  unwritten : ∀ exchange ∈ rest, ¬ exchange.IsWrite
  looks_le : looks rest ≤ pollLimit
  paced : Each Paced rest

variable {size source target control : UInt32}

/-- What comes after the second wait looks at the target of the copy. -/
def TargetOnly (last : List Request) : Prop :=
  ∀ request ∈ last, request = .read Layout.copyTarget.offset 4

theorem target_not_look : Request.read Layout.copyTarget.offset 4 ≠ look := by decide

theorem Transfer.parts {writes : List Request} (transfer : Transfer writes last log outcome)
    (targets : TargetOnly last) :
    ∃ first written rest, log = first ++ (written ++ rest) ∧ Parts writes first written rest := by
  have silent : ∀ exchange ∈ ([] : List Exchange), ¬ exchange.IsWrite :=
    fun _ member => nomatch member
  have empty : Each Paced [] := each_of_forall fun _ member => nomatch member
  cases transfer with
  | unready waited stops =>
      have settled : Settles [] (.done ()) := .inl ⟨rfl, fun _ member => nomatch member⟩
      exact ⟨log, [], [], by simp, ⟨_, waited⟩, fun filled => absurd rfl filled, List.nil_prefix,
        ⟨_, settled⟩, fun filled => absurd rfl filled, silent, Nat.zero_le _, empty⟩
  | @unstarted first written _ ready follows stops =>
      obtain ⟨front, found, rfl, idle⟩ := ready.last_idle rfl
      exact ⟨front ++ [found], written, [], by simp, ⟨_, ready⟩, fun _ => ⟨found, by simp, idle⟩,
        follows.inOrder, ⟨_, follows.settles⟩, fun filled => absurd rfl filled, silent,
        Nat.zero_le _, empty⟩
  | @unfinished first written second _ ready started waited stops =>
      obtain ⟨front, found, rfl, idle⟩ := ready.last_idle rfl
      exact ⟨front ++ [found], written, second, rfl, ⟨_, ready⟩, fun _ => ⟨found, by simp, idle⟩,
        started.inOrder, ⟨_, started.settles⟩, fun _ => started.whole rfl, waited.not_write,
        waited.looks_le, waited.paced⟩
  | @finished first written second more _ ready started rested ended =>
      obtain ⟨front, found, rfl, idle⟩ := ready.last_idle rfl
      have asked : ∀ exchange ∈ more, exchange.request = .read Layout.copyTarget.offset 4 :=
        fun exchange member => targets _ (ended.request_mem member)
      have apart : ∀ exchange ∈ more, exchange.request ≠ look := by
        intro exchange member same
        exact target_not_look ((asked exchange member).symm.trans same)
      refine ⟨front ++ [found], written, second ++ more, rfl, ⟨_, ready⟩,
        fun _ => ⟨found, by simp, idle⟩, started.inOrder, ⟨_, started.settles⟩,
        fun _ => started.whole rfl, ?_, ?_, Each.append_paced rested.paced ?_⟩
      · intro exchange member writes
        rcases List.mem_append.mp member with among | among
        · exact rested.not_write exchange among writes
        · obtain ⟨offset, data, same⟩ := writes
          rw [asked exchange among] at same
          cases same
      · rw [looks_append, looks_eq_zero apart]
        exact rested.looks_le
      · refine each_of_forall fun exchange member => paced_of_other (apart exchange member) ?_
        intro microseconds waits
        rw [asked exchange member] at waits
        cases waits

namespace Parts

variable {first written rest : List Exchange}

theorem ready_each {writes : List Request} (parts : Parts writes first written rest) :
    Each (fun front exchange _ => exchange.IsWrite → ∃ found ∈ front, IsIdle found)
      (first ++ (written ++ rest)) := by
  obtain ⟨_, waited⟩ := parts.waited
  refine Each.append (each_of_forall ?_) (Each.append (each_of_forall ?_) (each_of_forall ?_))
  · intro exchange member _ _ writes
    exact absurd writes (waited.not_write exchange member)
  · intro exchange member front _ _
    obtain ⟨found, among, idle⟩ := parts.ready (List.ne_nil_of_mem member)
    exact ⟨found, List.mem_append_left _ among, idle⟩
  · intro exchange member _ _ writes
    exact absurd writes (parts.unwritten exchange member)

theorem mem_startRequests {request : Request}
    (among : request ∈ startRequests size source target control) :
    ∃ offset data, request = .write offset data := by
  simp only [startRequests, List.mem_cons, List.not_mem_nil, or_false] at among
  rcases among with rfl | rfl | rfl | rfl <;> exact ⟨_, _, rfl⟩

theorem paced_each (parts : Parts (startRequests size source target control) first written rest) :
    Each Paced (first ++ (written ++ rest)) := by
  obtain ⟨_, waited⟩ := parts.waited
  refine Each.append_paced waited.paced (Each.append_paced (each_of_forall ?_) parts.paced)
  intro exchange member
  obtain ⟨offset, data, asked⟩ :=
    mem_startRequests (parts.inOrder.subset (List.mem_map_of_mem member))
  refine paced_of_other ?_ fun microseconds waits => ?_
  · rw [asked]
    exact fun same => nomatch same
  · rw [asked] at waits
    cases waits

theorem looks_written (inOrder : written.map (·.request) <+:
    startRequests size source target control) : looks written = 0 := by
  refine looks_eq_zero fun exchange member same => ?_
  obtain ⟨offset, data, asked⟩ := mem_startRequests (inOrder.subset (List.mem_map_of_mem member))
  exact nomatch same.symm.trans asked

/-- The write that starts the engine comes after the three that describe the copy, and is the last. -/
theorem start_last {front back : List Exchange} {exchange : Exchange}
    (inOrder : (front ++ exchange :: back).map (·.request) <+:
      startRequests size source target control)
    (starts : exchange.WritesTo Layout.copyControl) :
    front.map (·.request) = (startRequests size source target control).take 3 ∧ back = [] := by
  obtain ⟨data, asked⟩ := starts
  obtain ⟨others, whole⟩ := inOrder
  have size : Layout.copyControl.offset ≠ Layout.copySize.offset := by decide
  have source : Layout.copyControl.offset ≠ Layout.copySource.offset := by decide
  have target : Layout.copyControl.offset ≠ Layout.copyTarget.offset := by decide
  rcases front with _ | ⟨_, _ | ⟨_, _ | ⟨_, _ | ⟨_, front⟩⟩⟩⟩
  · simp [startRequests, asked, size] at whole
  · simp [startRequests, asked, source] at whole
  · simp [startRequests, asked, target] at whole
  · simp [startRequests] at whole
    simp [startRequests, whole]
  · simp [startRequests] at whole

theorem started_each (parts : Parts (startRequests size source target control) first written rest) :
    Each (fun front exchange back => exchange.WritesTo Layout.copyControl →
      (∀ register ∈ [Layout.copySize, Layout.copySource, Layout.copyTarget],
        ∃ earlier ∈ front, earlier.WritesTo register ∧ earlier.verdict = .done ()) ∧
      (∀ other ∈ front ++ back, ¬ other.WritesTo Layout.copyControl) ∧
      looks front ≤ 50 ∧ looks back ≤ 50) (first ++ (written ++ rest)) := by
  obtain ⟨_, waited⟩ := parts.waited
  have before : ∀ exchange ∈ first, ¬ exchange.WritesTo Layout.copyControl :=
    fun exchange member starts => waited.not_write exchange member starts.isWrite
  have after : ∀ exchange ∈ rest, ¬ exchange.WritesTo Layout.copyControl :=
    fun exchange member starts => parts.unwritten exchange member starts.isWrite
  refine Each.append (each_of_forall fun exchange member _ _ starts => ?_)
    (Each.append ?_ (each_of_forall fun exchange member _ _ starts => ?_))
  · exact absurd starts (before exchange member)
  · intro front exchange back whole starts
    have inOrder := parts.inOrder
    obtain ⟨_, settles⟩ := parts.settles
    rw [whole] at inOrder settles
    have looked := looks_written ((List.map_append ▸ List.prefix_append ..).trans inOrder)
    obtain ⟨described, rfl⟩ := start_last inOrder starts
    have granted := settles.granted_front
    have others (data : List UInt8) : .write Layout.copyControl.offset data ∉
        (startRequests size source target control).take 3 := by
      have apart : ∀ register ∈ [Layout.copySize, Layout.copySource, Layout.copyTarget],
          Layout.copyControl.offset ≠ register.offset := by decide
      simp only [List.forall_mem_cons] at apart
      simp [startRequests, apart]
    have earlier {register : Register} {data : List UInt8}
        (among : .write register.offset data ∈
          (startRequests size source target control).take 3) :
        ∃ earlier ∈ first ++ front, earlier.WritesTo register ∧ earlier.verdict = .done () := by
      rw [← described] at among
      obtain ⟨exchange, member, asked⟩ := List.mem_map.mp among
      exact ⟨exchange, List.mem_append_right _ member, ⟨data, asked⟩, granted exchange member⟩
    refine ⟨?_, ?_, ?_, ?_⟩
    · simp only [List.forall_mem_cons]
      refine ⟨earlier (.head _), earlier (.tail _ (.head _)), earlier (.tail _ (.tail _ (.head _))), ?_⟩
      exact fun _ member => nomatch member
    · simp only [List.nil_append, List.mem_append, or_imp, forall_and]
      refine ⟨⟨before, ?_⟩, after⟩
      intro exchange member again
      obtain ⟨data, asked⟩ := again
      have among := List.mem_map_of_mem (f := (·.request)) member
      rw [described, asked] at among
      exact others data among
    · rw [looks_append, looked]
      exact waited.looks_le
    · exact parts.looks_le
  · exact absurd starts (after exchange member)

theorem looks_of_unstarted
    (parts : Parts (startRequests size source target control) first written rest)
    (unstarted : ∀ exchange ∈ first ++ (written ++ rest), ¬ exchange.WritesTo Layout.copyControl) :
    looks (first ++ (written ++ rest)) ≤ 50 := by
  obtain ⟨_, waited⟩ := parts.waited
  have ended : rest = [] := by
    by_contra filled
    have whole := parts.unstarted filled
    have among : .write Layout.copyControl.offset (RegisterMap.busBytes Layout.copyControl control) ∈
        written.map (·.request) := by
      rw [whole]
      simp [startRequests]
    obtain ⟨exchange, member, asked⟩ := List.mem_map.mp among
    exact unstarted exchange (by simp [member]) ⟨_, asked⟩
  rw [ended, List.append_nil, looks_append, looks_written parts.inOrder]
  exact waited.looks_le

end Parts

namespace Transfer

variable (transfer : Transfer (startRequests size source target control) last log outcome)

include transfer

/-- A call that does not time out ends with the exchange that stopped it. -/
theorem settles : Settles log outcome ∨ TimesOut log outcome ∧ ∃ front cycles,
    log = front ++ cycles ∧ Cycles 50 cycles := by
  cases transfer with
  | unready waited stops =>
      rcases waited.settles with settled | ⟨timeout, granted, cycles⟩
      · exact .inl settled
      · exact .inr ⟨⟨timeout, granted⟩, [], log, rfl, cycles⟩
  | unstarted ready follows stops =>
      have settled := follows.settles
      rw [Outcome.verdict_unit] at settled
      exact .inl (settled.append ready.granted)
  | @unfinished first written second _ ready started waited stops =>
      have granted := started.granted_iff.mpr rfl
      rcases waited.settles with settled | ⟨timeout, all, cycles⟩
      · exact .inl ((settled.append granted).append ready.granted)
      · have everything := granted_append.mpr ⟨ready.granted, granted_append.mpr ⟨granted, all⟩⟩
        exact .inr ⟨⟨timeout, everything⟩, first ++ written, second,
          (List.append_assoc ..).symm, cycles⟩
  | finished ready started rested ended =>
      have granted := started.granted_iff.mpr rfl
      have settled := ended.settles
      rw [Outcome.verdict_unit] at settled
      exact .inl (((settled.append rested.granted).append granted).append ready.granted)

theorem timesOut_of_cycles (targets : TargetOnly last) {cycles : List Exchange}
    (among : cycles <:+: log) (stuck : Cycles 50 cycles) : TimesOut log outcome := by
  have writing {written : List Exchange} (inOrder : written.map (·.request) <+:
      startRequests size source target control) : ∀ exchange ∈ written, exchange ∉ cycles := by
    intro exchange member
    obtain ⟨offset, data, asked⟩ :=
      Parts.mem_startRequests (inOrder.subset (List.mem_map_of_mem member))
    refine stuck.not_mem_of_other (fun same => ?_) fun same => ?_
    · exact nomatch same.symm.trans asked
    · exact nomatch same.symm.trans asked
  have nowhere : ¬ cycles <:+: [] := by
    intro within
    rw [List.infix_nil.mp within] at stuck
    obtain ⟨_, _, empty, -⟩ := stuck
    cases empty
  cases transfer with
  | unready waited stops => exact waited.exhausted_of_cycles among stuck
  | @unstarted first written _ ready follows stops =>
      obtain ⟨front, found, rfl, idle⟩ := ready.last_idle rfl
      have apart := stuck.not_mem_of_idle idle
      have among : cycles <:+: front ++ found :: (written ++ []) := by simpa using among
      rcases infix_outside among apart (writing follows.inOrder) with before | after
      · exact absurd before (ready.not_cycles stuck)
      · exact absurd after nowhere
  | @unfinished first written second _ ready started waited stops =>
      obtain ⟨front, found, rfl, idle⟩ := ready.last_idle rfl
      have apart := stuck.not_mem_of_idle idle
      have among : cycles <:+: front ++ found :: (written ++ second) := by simpa using among
      rcases infix_outside among apart (writing started.inOrder) with before | after
      · exact absurd before (ready.not_cycles stuck)
      · obtain ⟨timeout, granted⟩ := waited.exhausted_of_cycles after stuck
        exact ⟨timeout, granted_append.mpr ⟨ready.granted,
          granted_append.mpr ⟨started.granted_iff.mpr rfl, granted⟩⟩⟩
  | @finished first written second more _ ready started rested ended =>
      obtain ⟨front, found, rfl, idle⟩ := ready.last_idle rfl
      obtain ⟨between, again, rfl, rests⟩ := rested.last_idle rfl
      have apart := stuck.not_mem_of_idle idle
      have others : ∀ exchange ∈ more, exchange ∉ cycles := by
        intro exchange member
        have asked := targets _ (ended.request_mem member)
        refine stuck.not_mem_of_other (fun same => ?_) fun same => ?_
        · exact target_not_look (asked.symm.trans same)
        · exact nomatch asked.symm.trans same
      have beside := stuck.not_mem_of_idle rests
      have among : cycles <:+: front ++ found :: (written ++ (between ++ [again] ++ more)) := by
        simpa using among
      rcases infix_outside among apart (writing started.inOrder) with before | after
      · exact absurd before (ready.not_cycles stuck)
      · have after : cycles <:+: between ++ again :: (more ++ []) := by simpa using after
        rcases infix_outside after beside others with before | after
        · exact absurd before (rested.not_cycles stuck)
        · exact absurd after nowhere

theorem idle_after_start (done : outcome = .done ()) : Granted log ∧ ∃ front start between found back,
    log = front ++ start :: (between ++ found :: back) ∧
      start.WritesTo Layout.copyControl ∧ IsIdle found := by
  cases transfer with
  | unready _ stops => exact absurd done stops
  | unstarted _ _ stops => exact absurd done stops
  | unfinished _ _ _ stops => exact absurd done stops
  | @finished first written second more _ ready started rested ended =>
      have granted := started.granted_iff.mpr rfl
      have everything := ended.granted_iff.mpr (by rw [done]; rfl)
      refine ⟨granted_append.mpr ⟨ready.granted, granted_append.mpr ⟨granted,
        granted_append.mpr ⟨rested.granted, everything⟩⟩⟩, ?_⟩
      obtain ⟨between, found, rfl, idle⟩ := rested.last_idle rfl
      have whole : written.map (·.request) = (startRequests size source target control).take 3 ++
          [.write Layout.copyControl.offset (RegisterMap.busBytes Layout.copyControl control)] :=
        started.whole rfl
      obtain ⟨described, starts, rfl, -, requests⟩ := List.map_eq_append_iff.mp whole
      obtain ⟨start, rfl, asked⟩ := List.map_eq_singleton_iff.mp requests
      exact ⟨first ++ described, start, between, found, more, by simp, ⟨_, asked⟩, idle⟩

theorem lawful (targets : TargetOnly last) : Lawful log outcome := by
  obtain ⟨first, written, rest, rfl, parts⟩ := transfer.parts targets
  refine ⟨parts.ready_each, parts.started_each, parts.looks_of_unstarted, parts.paced_each,
    ⟨fun timeout => ?_, fun stuck => ?_⟩, transfer.idle_after_start, fun fails timely => ?_⟩
  · rcases transfer.settles with settled | ⟨-, front, cycles, whole, stuck⟩
    · exact absurd (timeout.1.symm.trans (settled.done_of_granted timeout.2)) (by simp)
    · exact ⟨cycles, ⟨front, [], by rw [List.append_nil, whole]⟩, stuck⟩
  · obtain ⟨cycles, among, stuck⟩ := stuck
    exact transfer.timesOut_of_cycles targets among stuck
  · rcases transfer.settles with settled | ⟨timeout, -⟩
    · rcases settled with ⟨done, -⟩ | stopped
      · exact absurd done fails
      · exact stopped
    · exact absurd timeout timely

end Transfer

/-! ## Sensor accesses -/

variable {register : Register}

/-- What is asked for after a read of a sensor. -/
def targetRequests : List Request :=
  [.read Layout.copyTarget.offset 4]

theorem traces_readSensor (width : register.width = 1 ∨ register.width = 2) (port device : UInt32) :
    Traces host (· = map) (· = map)
      (fun log outcome => Transfer
        (startRequests register.width (descriptor port device register)
          Layout.copyTarget.offset.toUInt32 (Layout.Copy.fromSensor ||| Layout.Copy.start))
        targetRequests log outcome.verdict)
      (readSensor port device register) := by
  have checked : (checkWidth register : Access (σ × List Exchange) Unit) = done () := if_pos width
  have arrives : Traces host (· = map) (· = map) (Follows targetRequests)
      (RegisterMap.read Layout.copyTarget) := (traces_read (by decide) (by decide)).follows
  unfold readSensor
  rw [checked]
  refine silent_done.bind fun _ => traces_transfer traces_start ?_
  rw [← List.append_nil targetRequests]
  exact arrives.follow_bind (fun _ => (silent_note.bind fun _ => silent_done.follows)) fun _ => id

theorem traces_writeSensor (width : register.width = 1 ∨ register.width = 2)
    (port device value : UInt32) :
    Traces host (· = map) (· = map)
      (fun log outcome => Transfer
        (startRequests register.width (((value &&& 0xffff) <<< 16) ||| Layout.copySource.offset.toUInt32)
          (descriptor port device register) (Layout.Copy.toSensor ||| Layout.Copy.start))
        [] log outcome.verdict)
      (writeSensor port device register value) := by
  have checked : (checkWidth register : Access (σ × List Exchange) Unit) = done () := if_pos width
  unfold writeSensor
  rw [checked]
  have noted (text : String) : Traces host (· = map) (· = map)
      (Follows (startRequests register.width
        (((value &&& 0xffff) <<< 16) ||| Layout.copySource.offset.toUInt32)
        (descriptor port device register) (Layout.Copy.toSensor ||| Layout.Copy.start)))
      (do
        note .trace text
        RegisterMap.writeAll (storeWrites port device register value)) :=
    silent_note.bind fun _ => traces_start
  have nothing : Traces host (· = map) (· = map) (Follows [])
      (pure () : Access (σ × List Exchange) Unit) := silent_done.follows
  refine silent_done.bind fun _ => ?_
  simpa only [bind_assoc, bind_pure_unit, storeWrites] using traces_transfer (noted _) nothing

/-- A read or a write of a sensor register of one or two bytes keeps the laws of the engine, on any
host. -/
theorem sensor_access_lawful (host : Host σ) (map : RegisterMap) (world : σ) (past : List Exchange)
    (port device value : UInt32) (width : register.width = 1 ∨ register.width = 2) :
    (readSensor port device register).Ends host.recording map (world, past)
        (fun outcome _ left => ∃ log, left.2 = past ++ log ∧ Lawful log outcome.verdict) ∧
      (writeSensor port device register value).Ends host.recording map (world, past)
        (fun outcome _ left => ∃ log, left.2 = past ++ log ∧ Lawful log outcome) := by
  have targets : TargetOnly targetRequests := fun _ member => List.mem_singleton.mp member
  have nothing : TargetOnly [] := fun _ member => nomatch member
  constructor
  · refine (traces_readSensor width port device map (world, past) rfl).mono ?_
    intro outcome _ left ended
    obtain ⟨-, log, logged, transfer⟩ := ended
    exact ⟨log, logged, transfer.lawful targets⟩
  · refine (traces_writeSensor width port device value map (world, past) rfl).mono ?_
    intro outcome _ left ended
    obtain ⟨-, log, logged, transfer⟩ := ended
    rw [Outcome.verdict_unit] at transfer
    exact ⟨log, logged, transfer.lawful nothing⟩

/-- An engine that is at work whenever it is looked at: the call ends after fifty looks, and their
pauses, with an error of its own. -/
theorem stuck_engine_times_out :
    (Register.of16 0x300a).width = 2 ∧
      (readSensor 0 0x10 (Register.of16 0x300a)).Ends Device.steadyHost.recording {} ((), [])
        fun outcome _ left => outcome = .failed (.timeout .copyEngine) ∧ left.2.length = 100 ∧
          ∃ cycles, cycles <:+: left.2 ∧ Cycles 50 cycles := by
  have two : (Register.of16 0x300a).width = 2 := by decide
  have seen : (readSensor 0 0x10 (Register.of16 0x300a)).Ends Device.steadyHost.recording {} ((), [])
      fun outcome _ left => outcome = .failed (.timeout .copyEngine) ∧ left.2.length = 100 ∧
        ∀ exchange ∈ left.2, exchange.verdict = .done () := by
    unfold Ends
    decide +kernel
  refine ⟨two, ((sensor_access_lawful Device.steadyHost {} () [] 0 0x10 0 (.inr two)).1.and seen).mono ?_⟩
  intro outcome _ left ended
  obtain ⟨⟨log, logged, lawful⟩, rfl, count, granted⟩ := ended
  rw [List.nil_append] at logged
  rw [logged] at count granted ⊢
  exact ⟨rfl, count, lawful.timesOut.mp ⟨rfl, granted⟩⟩

end Bridge

end IspDriver
