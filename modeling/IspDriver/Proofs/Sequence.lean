import IspDriver.Proofs.Register.Script

/-!
Requests in a fixed order. `Follows` says what comes of requests each of which is made once all
before it were granted, `Insists` what comes of requests that are made in any case, and `Traces` that
a routine, on any host, adds exchanges like these to the record. Where the state does not bear on
what a routine asks for, its requests are those of its parts, one after the other.
-/

namespace IspDriver

open Routine

/-- An outcome without its value. -/
def Outcome.verdict {α : Type} : Outcome α → Outcome Unit
  | .done _ => .done ()
  | .failed error => .failed error
  | .aborted => .aborted

/-- What comes of requests that are made in order, up to the first that is not granted; its error is
passed on. -/
structure Follows {α : Type} (requests : List Request) (log : List Exchange) (outcome : Outcome α) :
    Prop where
  inOrder : log.map (·.request) <+: requests
  settles : Settles log outcome.verdict
  whole : outcome.verdict = .done () → log.map (·.request) = requests

/-- What comes of requests that are made in order, when what was exchanged tells the value. -/
def Gains {α : Type} (requests : List Request) (known : List Exchange → α → Prop)
    (log : List Exchange) (outcome : Outcome α) : Prop :=
  Follows requests log outcome ∧ ∀ value, outcome = .done value → known log value

/-- What comes of requests that are made in order, whether or not they are granted; only a host that
breaks down stops them. -/
structure Insists {α : Type} (requests : List Request) (log : List Exchange) (outcome : Outcome α) :
    Prop where
  inOrder : log.map (·.request) <+: requests
  unfailing : ∀ error, outcome ≠ .failed error
  whole : outcome.verdict = .done () → log.map (·.request) = requests

/-- What comes of requests that are made in order, up to the first that is not granted; after an
error, requests of a kind that may fail undo the others before the error is passed on. -/
inductive Unwinds {α : Type} (requests : List Request) (undoing : Request → Prop) :
    List Exchange → Outcome α → Prop
  | straight {log : List Exchange} {outcome : Outcome α} (follows : Follows requests log outcome) :
      Unwinds requests undoing log outcome
  | back {front rest : List Exchange} {error : Error} {outcome : Outcome α}
      (stopped : Follows requests front (Outcome.failed error : Outcome α))
      (undone : ∀ exchange ∈ rest, undoing exchange.request)
      (ends : outcome = .failed error ∨ outcome = .aborted) :
      Unwinds requests undoing (front ++ rest) outcome

/-- Everything in the record was granted. -/
def Granted (log : List Exchange) : Prop :=
  ∀ exchange ∈ log, exchange.verdict = .done ()

/-- What comes of requests that are made in any case after something that stopped: its error, or
nothing if it was the host that broke down. -/
inductive Closes (requests : List Request) : Outcome Unit → List Exchange → Outcome Unit → Prop
  | closed {error : Error} {log : List Exchange} (whole : log.map (·.request) = requests) :
      Closes requests (.failed error) log (.failed error)
  | brokeDown {error : Error} {log : List Exchange} (inOrder : log.map (·.request) <+: requests) :
      Closes requests (.failed error) log .aborted
  | aborted : Closes requests .aborted [] .aborted

/-- What comes of a routine with a cleanup. -/
inductive Cleans {α : Type} (trace : List Exchange → Outcome α → Prop) (requests : List Request) :
    List Exchange → Outcome α → Prop
  | done {log : List Exchange} {value : α} (traced : trace log (.done value)) :
      Cleans trace requests log (.done value)
  | stopped {front rest : List Exchange} {cause outcome : Outcome α} (traced : trace front cause)
      (stops : cause.verdict ≠ .done ())
      (closes : Closes requests cause.verdict rest outcome.verdict) :
      Cleans trace requests (front ++ rest) outcome

/-- The word that a read brought. -/
def Exchange.word? : Exchange → Option UInt32
  | ⟨.read _ _, some (.ok bytes)⟩ => some (Bytes.bigEndian bytes.toList)
  | _ => none

/-- A routine that starts from a state like `before` ends in one like `after`, and adds exchanges to
the record that go with the outcome. -/
def Traces {σ S α : Type} (host : Host σ) (before after : S → Prop)
    (trace : List Exchange → Outcome α → Prop) (routine : Routine (σ × List Exchange) S α) : Prop :=
  ∀ state world, before state → routine.Ends host.recording state world fun outcome final left =>
    after final ∧ ∃ log, left.2 = world.2 ++ log ∧ trace log outcome

/-- A routine that asks for nothing and always succeeds. -/
def Silent {σ S α : Type} (host : Host σ) (before after : S → Prop)
    (routine : Routine (σ × List Exchange) S α) : Prop :=
  Traces host before after (fun log outcome => log = [] ∧ outcome.verdict = .done ()) routine

/-! ## Exchanges in order -/

section Logs

variable {α β : Type} {log more : List Exchange} {first second : List Request}
  {outcome : Outcome α} {value : α} {error : Error}

theorem verdict_eq_done : outcome.verdict = .done () ↔ ∃ value, outcome = .done value := by
  cases outcome with
  | done value => exact ⟨fun _ => ⟨value, rfl⟩, fun _ => rfl⟩
  | failed error => exact ⟨fun same => (nomatch same), fun ⟨_, same⟩ => (nomatch same)⟩
  | aborted => exact ⟨fun same => (nomatch same), fun ⟨_, same⟩ => (nomatch same)⟩

@[simp] theorem Outcome.verdict_unit (outcome : Outcome Unit) : outcome.verdict = outcome := by
  cases outcome <;> rfl

theorem granted_append : Granted (log ++ more) ↔ Granted log ∧ Granted more := by
  simp only [Granted, List.mem_append, or_imp, forall_and]

theorem Settles.append {outcome : Outcome Unit} (settles : Settles more outcome)
    (granted : Granted log) : Settles (log ++ more) outcome := by
  induction log with
  | nil => exact settles
  | cons exchange rest ih =>
      obtain ⟨first, others⟩ := List.forall_mem_cons.mp granted
      exact (ih others).cons first

theorem Settles.granted (settles : Settles log (.done ())) : Granted log := by
  rcases settles with ⟨-, granted⟩ | ⟨before, last, -, -, refused, same⟩
  · exact granted
  · exact absurd same.symm refused

/-- Where everything was granted, there was nothing to stop for. -/
theorem Settles.done_of_granted {outcome : Outcome Unit} (settles : Settles log outcome)
    (granted : Granted log) : outcome = .done () := by
  rcases settles with ⟨done, -⟩ | ⟨before, last, rfl, -, refused, -⟩
  · exact done
  · exact absurd (granted last (by simp)) refused

theorem Settles.granted_front {last : Exchange} {outcome : Outcome Unit}
    (settles : Settles (log ++ [last]) outcome) : Granted log := by
  rcases settles with ⟨-, granted⟩ | ⟨before, other, whole, granted, -, -⟩
  · exact (granted_append.mp granted).1
  · obtain ⟨rfl, -⟩ := List.append_inj' whole rfl
    exact granted

theorem Settles.of_one {exchange : Exchange} {outcome : Outcome Unit}
    (settles : Settles [exchange] outcome) : outcome = exchange.verdict := by
  rcases settles with ⟨done, granted⟩ | ⟨before, last, whole, -, -, same⟩
  · rw [done, granted exchange (List.mem_singleton.mpr rfl)]
  · cases before with
    | nil =>
        cases whole
        exact same
    | cons _ before => cases before <;> cases whole

theorem settles_one (exchange : Exchange) : Settles [exchange] exchange.verdict := by
  by_cases granted : exchange.verdict = .done ()
  · exact .inl ⟨granted, by simpa using granted⟩
  · exact .inr ⟨[], exchange, rfl, by simp, granted, rfl⟩

namespace Follows

theorem nil (value : α) : Follows [] [] (.done value) :=
  ⟨List.prefix_refl _, .inl ⟨rfl, by simp⟩, fun _ => rfl⟩

theorem one {request : Request} {reply : Option (Reply request)}
    (same : outcome.verdict = Exchange.verdict ⟨request, reply⟩) :
    Follows [request] [⟨request, reply⟩] outcome :=
  ⟨List.prefix_refl _, by rw [same]; exact settles_one ⟨request, reply⟩, fun _ => rfl⟩

theorem granted_iff (follows : Follows first log outcome) :
    Granted log ↔ outcome.verdict = .done () := by
  refine ⟨follows.settles.done_of_granted, fun done => ?_⟩
  have settles := follows.settles
  rw [done] at settles
  exact settles.granted

theorem verdict {other : Outcome β} (follows : Follows first log outcome)
    (same : other.verdict = outcome.verdict) : Follows first log other :=
  ⟨follows.inOrder, by rw [same]; exact follows.settles, by rw [same]; exact follows.whole⟩

theorem append {outcome : Outcome β} (front : Follows first log (Outcome.done value))
    (back : Follows second more outcome) : Follows (first ++ second) (log ++ more) outcome := by
  have requests := front.whole rfl
  refine ⟨?_, back.settles.append (front.granted_iff.mpr rfl), fun done => ?_⟩
  · rw [List.map_append, requests]
    exact (List.prefix_append_right_inj first).mpr back.inOrder
  · rw [List.map_append, requests, back.whole done]

/-- Requests that stopped stay so, whatever was to come after them. -/
theorem stopped {other : Outcome β} (front : Follows first log outcome)
    (same : other.verdict = outcome.verdict) (stops : outcome.verdict ≠ .done ()) :
    Follows (first ++ second) log other := by
  refine ⟨front.inOrder.trans (List.prefix_append ..), by rw [same]; exact front.settles, ?_⟩
  intro done
  exact absurd (same.symm.trans done) stops

theorem request_mem (follows : Follows first log outcome) {exchange : Exchange}
    (member : exchange ∈ log) : exchange.request ∈ first :=
  follows.inOrder.subset (List.mem_map_of_mem member)

theorem not_mem (follows : Follows first log outcome) {exchange : Exchange}
    (other : exchange.request ∉ first) : exchange ∉ log :=
  fun member => other (follows.request_mem member)

/-- The first request is made in any case. -/
theorem whole_of_one {request : Request} (follows : Follows [request] log outcome) :
    log.map (·.request) = [request] := by
  rcases follows.settles with ⟨done, -⟩ | ⟨before, last, rfl, -⟩
  · exact follows.whole done
  · obtain ⟨rest, whole⟩ := follows.inOrder
    have short := congrArg List.length whole
    simp only [List.map_append, List.map_cons, List.map_nil, List.length_append, List.length_map,
      List.length_cons, List.length_nil] at short
    have empty : rest = [] := List.length_eq_zero_iff.mp (by omega)
    rwa [empty, List.append_nil] at whole

theorem one_of_one {request : Request} (follows : Follows [request] log outcome) :
    ∃ exchange, log = [exchange] ∧ exchange.request = request := by
  have requests := follows.whole_of_one
  match log with
  | [] => cases requests
  | [exchange] => exact ⟨exchange, rfl, (List.cons.inj requests).1⟩
  | _ :: _ :: _ => simp at requests

end Follows

namespace Insists

theorem nil (value : α) : Insists [] [] (Outcome.done value) :=
  ⟨List.prefix_refl _, fun _ failed => (nomatch failed), fun _ => rfl⟩

theorem append {outcome : Outcome β} (front : Insists first log (Outcome.done value))
    (back : Insists second more outcome) : Insists (first ++ second) (log ++ more) outcome := by
  have requests := front.whole rfl
  refine ⟨?_, back.unfailing, fun done => ?_⟩
  · rw [List.map_append, requests]
    exact (List.prefix_append_right_inj first).mpr back.inOrder
  · rw [List.map_append, requests, back.whole done]

theorem brokeDown (front : Insists first log (Outcome.aborted : Outcome α)) :
    Insists (first ++ second) log (Outcome.aborted : Outcome β) :=
  ⟨front.inOrder.trans (List.prefix_append ..), fun _ failed => (nomatch failed),
    fun done => (nomatch done)⟩

theorem request_mem (insists : Insists first log outcome) {exchange : Exchange}
    (member : exchange ∈ log) : exchange.request ∈ first :=
  insists.inOrder.subset (List.mem_map_of_mem member)

end Insists

theorem Closes.stops {cause outcome : Outcome Unit} (closes : Closes first cause log outcome) :
    outcome ≠ .done () := by
  cases closes with
  | closed => exact fun done => nomatch done
  | brokeDown => exact fun done => nomatch done
  | aborted => exact fun done => nomatch done

theorem Closes.request_mem {cause outcome : Outcome Unit} (closes : Closes first cause log outcome)
    {exchange : Exchange} (member : exchange ∈ log) : exchange.request ∈ first := by
  have among := List.mem_map_of_mem (f := (·.request)) member
  cases closes with
  | closed whole => exact whole ▸ among
  | brokeDown inOrder => exact inOrder.subset among
  | aborted => cases member

theorem Closes.error_or_aborted {outcome : Outcome Unit}
    (closes : Closes first (.failed error) log outcome) :
    outcome = .failed error ∨ outcome = .aborted := by
  cases closes with
  | closed => exact .inl rfl
  | brokeDown => exact .inr rfl

namespace Unwinds

variable {undoing : Request → Prop}

theorem append {outcome : Outcome β} (front : Follows first log (Outcome.done value))
    (back : Unwinds second undoing more outcome) :
    Unwinds (first ++ second) undoing (log ++ more) outcome := by
  cases back with
  | straight follows => exact .straight (front.append follows)
  | back stopped undone ends =>
      rw [← List.append_assoc]
      exact .back (front.append stopped) undone ends

theorem stopped {other : Outcome β} (front : Unwinds first undoing log outcome)
    (same : other.verdict = outcome.verdict) (stops : outcome.verdict ≠ .done ()) :
    Unwinds (first ++ second) undoing log other := by
  cases front with
  | straight follows => exact .straight (follows.stopped same stops)
  | back failed undone ends =>
      refine .back (failed.stopped rfl fun done => nomatch done) undone ?_
      rcases ends with rfl | rfl
      · cases other <;> cases same
        exact .inl rfl
      · cases other <;> cases same
        exact .inr rfl

/-- After an error there can be more to undo. -/
theorem grown {outcome : Outcome β}
    (unwinds : Unwinds first undoing log (Outcome.failed error : Outcome α))
    (undone : ∀ exchange ∈ more, undoing exchange.request)
    (ends : outcome = .failed error ∨ outcome = .aborted) :
    Unwinds first undoing (log ++ more) outcome := by
  cases unwinds with
  | straight follows => exact .back (follows.verdict rfl) undone ends
  | @back front rest _ _ stopped cleared same =>
      rcases same with same | same
      · cases same
        rw [List.append_assoc]
        refine .back (stopped.verdict rfl) ?_ ends
        simpa only [List.mem_append, or_imp, forall_and] using And.intro cleared undone
      · cases same

theorem request_mem (unwinds : Unwinds first undoing log outcome) {exchange : Exchange}
    (member : exchange ∈ log) : exchange.request ∈ first ∨ undoing exchange.request := by
  cases unwinds with
  | straight follows => exact .inl (follows.request_mem member)
  | back stopped undone ends =>
      rcases List.mem_append.mp member with front | rest
      · exact .inl (stopped.request_mem front)
      · exact .inr (undone exchange rest)

end Unwinds

end Logs

/-! ## Routines and what they add to the record -/

variable {σ S T α β : Type} {host : Host σ} {before middle after : S → Prop}
  {first second : List Request} {trace : List Exchange → Outcome α → Prop}
  {undoing : Request → Prop}

theorem Traces.mono {routine : Routine (σ × List Exchange) S α}
    {weaker : List Exchange → Outcome α → Prop} {earlier later : S → Prop}
    (traces : Traces host before after trace routine)
    (start : ∀ state, earlier state → before state) (finish : ∀ state, after state → later state)
    (weaken : ∀ log outcome, trace log outcome → weaker log outcome) :
    Traces host earlier later weaker routine := by
  intro state world holds
  refine (traces state world (start state holds)).mono ?_
  intro outcome final left ended
  obtain ⟨fact, log, logged, traced⟩ := ended
  exact ⟨finish final fact, log, logged, weaken log outcome traced⟩

/-- The second routine takes over, or the first one's outcome stands, without the value it lacks. -/
theorem Routine.Ends.bind_or_stop {routine : Routine σ S α} {next : α → Routine σ S β}
    {host : Host σ} {state : S} {world : σ} {front : Outcome α → S → σ → Prop} {post : Outcome β → S → σ → Prop}
    (run : routine.Ends host state world front)
    (done : ∀ value after left, front (.done value) after left →
      (next value).Ends host after left post)
    (stopped : ∀ (outcome : Outcome α) (other : Outcome β) after left,
      other.verdict = outcome.verdict → outcome.verdict ≠ .done () → front outcome after left →
        post other after left) :
    (routine >>= next).Ends host state world post :=
  run.bind done
    (fun error after left =>
      stopped (.failed error) (.failed error) after left rfl (fun done => nomatch done))
    (fun after left => stopped .aborted .aborted after left rfl (fun done => nomatch done))

theorem Traces.bind {routine : Routine (σ × List Exchange) S α}
    {next : α → Routine (σ × List Exchange) S β} {rest : α → List Exchange → Outcome β → Prop}
    {whole : List Exchange → Outcome β → Prop}
    (front : Traces host before middle trace routine)
    (back : ∀ value, (∃ log, trace log (.done value)) →
      Traces host middle after (rest value) (next value))
    (weaken : ∀ state, middle state → after state)
    (joined : ∀ log value more outcome, trace log (.done value) → rest value more outcome →
      whole (log ++ more) outcome)
    (stopped : ∀ log (outcome : Outcome α) (other : Outcome β), other.verdict = outcome.verdict →
      outcome.verdict ≠ .done () → trace log outcome → whole log other) :
    Traces host before after whole (routine >>= next) := by
  intro state world holds
  refine (front state world holds).bind_or_stop ?_ ?_
  · intro value final left ended
    obtain ⟨fact, log, logged, traced⟩ := ended
    refine (back value ⟨log, traced⟩ final left fact).mono ?_
    intro outcome final left ended
    obtain ⟨fact, more, grown, others⟩ := ended
    refine ⟨fact, log ++ more, ?_, joined log value more outcome traced others⟩
    rw [grown, logged, List.append_assoc]
  · intro outcome other final left same stops ended
    obtain ⟨fact, log, logged, traced⟩ := ended
    exact ⟨weaken final fact, log, logged, stopped log outcome other same stops traced⟩

theorem Traces.follow_bind {routine : Routine (σ × List Exchange) S α}
    {next : α → Routine (σ × List Exchange) S β}
    (front : Traces host before middle (Follows first) routine)
    (back : ∀ value, Traces host middle after (Follows second) (next value))
    (weaken : ∀ state, middle state → after state) :
    Traces host before after (Follows (first ++ second)) (routine >>= next) :=
  front.bind (fun value _ => back value) weaken (fun _ _ _ _ front back => front.append back)
    fun _ _ _ same stops front => front.stopped same stops

theorem Traces.gains {routine : Routine (σ × List Exchange) S α}
    (follows : Traces host before after (Follows first) routine) :
    Traces host before after (Gains first fun _ _ => True) routine :=
  follows.mono (fun _ => id) (fun _ => id) fun _ _ follows => ⟨follows, fun _ _ => trivial⟩

theorem Traces.follows {routine : Routine (σ × List Exchange) S α} {known : List Exchange → α → Prop}
    (gains : Traces host before after (Gains first known) routine) :
    Traces host before after (Follows first) routine :=
  gains.mono (fun _ => id) (fun _ => id) fun _ _ gains => gains.1

theorem Traces.gain_bind {routine : Routine (σ × List Exchange) S α}
    {next : α → Routine (σ × List Exchange) S β} {known : List Exchange → α → Prop}
    {later : α → List Exchange → β → Prop} {whole : List Exchange → β → Prop}
    (front : Traces host before after (Gains first known) routine)
    (back : ∀ value, (∃ log, known log value) →
      Traces host after after (Gains second (later value)) (next value))
    (joined : ∀ log value more result, known log value → later value more result →
      whole (log ++ more) result) :
    Traces host before after (Gains (first ++ second) whole) (routine >>= next) := by
  have onward : ∀ value, (∃ log, Gains first known log (.done value)) →
      Traces host after after (Gains second (later value)) (next value) := by
    intro value seen
    obtain ⟨log, -, known⟩ := seen
    exact back value ⟨log, known value rfl⟩
  refine front.bind onward (fun _ => id) ?_ ?_
  · intro log value more outcome front back
    refine ⟨front.1.append back.1, fun result done => ?_⟩
    exact joined log value more result (front.2 value rfl) (back.2 result done)
  · intro log outcome other same stops front
    refine ⟨front.1.stopped same stops, fun result done => ?_⟩
    rw [done] at same
    exact absurd same.symm stops

theorem Traces.returning {routine : Routine (σ × List Exchange) S α}
    {known : List Exchange → α → Prop} {whole : List Exchange → β → Prop} {result : α → β}
    (front : Traces host before after (Gains first known) routine)
    (joined : ∀ log value, known log value → whole log (result value)) :
    Traces host before after (Gains first whole)
      (routine >>= fun value => pure (result value)) := by
  have last : ∀ value, Traces host after after
      (Gains [] fun more found => more = [] ∧ found = result value)
      (pure (result value) : Routine (σ × List Exchange) S β) := by
    intro value state world holds
    refine ⟨holds, [], (List.append_nil _).symm, .nil _, fun found done => ?_⟩
    cases done
    exact ⟨rfl, rfl⟩
  rw [← List.append_nil first]
  refine front.gain_bind (fun value _ => last value) ?_
  intro log value more found known ended
  obtain ⟨rfl, rfl⟩ := ended
  rw [List.append_nil]
  exact joined log value known

theorem Traces.straight {routine : Routine (σ × List Exchange) S α}
    (follows : Traces host before after (Follows first) routine) :
    Traces host before after (Unwinds first undoing) routine :=
  follows.mono (fun _ => id) (fun _ => id) fun _ _ => .straight

theorem Traces.insist_bind {routine : Routine (σ × List Exchange) S α}
    {next : α → Routine (σ × List Exchange) S β}
    (front : Traces host before after (Insists first) routine)
    (back : ∀ value, Traces host after after (Insists second) (next value)) :
    Traces host before after (Insists (first ++ second)) (routine >>= next) := by
  refine front.bind (fun value _ => back value) (fun _ => id)
    (fun _ _ _ _ front back => front.append back) ?_
  intro log outcome other same stops front
  cases outcome with
  | done value => exact absurd rfl stops
  | failed error => exact absurd rfl (front.unfailing error)
  | aborted =>
      cases other <;> cases same
      exact front.brokeDown

/-! ## Routines that ask for nothing -/

theorem Silent.ends_bind {routine : Routine (σ × List Exchange) S α}
    {next : α → Routine (σ × List Exchange) S β} {state : S} {world : σ × List Exchange}
    {post : Outcome β → S → σ × List Exchange → Prop} (silent : Silent host before after routine)
    (holds : before state)
    (follows : ∀ value final left, after final → left.2 = world.2 →
      (next value).Ends host.recording final left post) :
    (routine >>= next).Ends host.recording state world post := by
  refine (silent state world holds).bind_or_stop ?_ ?_
  · intro value final left ended
    obtain ⟨fact, log, logged, rfl, -⟩ := ended
    exact follows value final left fact (by rw [logged, List.append_nil])
  · intro outcome other final left same stops ended
    obtain ⟨-, log, -, -, done⟩ := ended
    exact absurd done stops

theorem Silent.bind {routine : Routine (σ × List Exchange) S α}
    {next : α → Routine (σ × List Exchange) S β} {whole : List Exchange → Outcome β → Prop}
    (silent : Silent host before middle routine)
    (back : ∀ value, Traces host middle after whole (next value)) :
    Traces host before after whole (routine >>= next) := by
  intro state world holds
  refine silent.ends_bind holds fun value final left fact same => ?_
  have onward := back value final left fact
  rwa [same] at onward

theorem silent_done {value : α} : Silent host before before (done value) :=
  fun _ _ holds => ⟨holds, [], (List.append_nil _).symm, rfl, rfl⟩

theorem silent_note {level : Level} {text : String} : Silent host before before (note level text) :=
  fun _ _ holds => ⟨holds, [], (List.append_nil _).symm, rfl, rfl⟩

theorem Silent.follows {routine : Routine (σ × List Exchange) S α}
    (silent : Silent host before after routine) :
    Traces host before after (Follows []) routine := by
  refine silent.mono (fun _ => id) (fun _ => id) ?_
  intro log outcome ended
  obtain ⟨rfl, done⟩ := ended
  obtain ⟨value, rfl⟩ := verdict_eq_done.mp done
  exact .nil value

theorem Silent.insists {routine : Routine (σ × List Exchange) S α}
    (silent : Silent host before after routine) :
    Traces host before after (Insists []) routine := by
  refine silent.mono (fun _ => id) (fun _ => id) ?_
  intro log outcome ended
  obtain ⟨rfl, done⟩ := ended
  obtain ⟨value, rfl⟩ := verdict_eq_done.mp done
  exact .nil value

/-- What follows on the state follows on every state there can be. -/
theorem traces_state {next : S → Routine (σ × List Exchange) S α}
    (back : ∀ state, before state → Traces host before after trace (next state)) :
    Traces host before after trace (Routine.state >>= next) :=
  fun state world holds => ends_bind.mpr (back state holds state world holds)

theorem Traces.act {part : Part S T} {routine : Routine (σ × List Exchange) T α}
    {inner outer : T → Prop} (traces : Traces host inner outer trace routine)
    (start : ∀ whole, before whole → inner (part.get whole))
    (finish : ∀ piece whole, before whole → outer piece → after (part.put piece whole)) :
    Traces host before after trace (part.act routine) := by
  intro state world holds
  refine ends_act.mpr ((traces (part.get state) world (start state holds)).mono ?_)
  intro outcome final left ended
  exact ⟨finish final state holds ended.1, ended.2⟩

/-- A routine that leaves a part as it is, on the whole. -/
theorem Traces.part {part : Part S T} {routine : Routine (σ × List Exchange) T α}
    (traces : ∀ piece, Traces host (· = piece) (· = piece) trace routine)
    (same : ∀ whole, before whole → after (part.put (part.get whole) whole)) :
    Traces host before after trace (part.act routine) := by
  intro state world holds
  refine ends_act.mpr ((traces (part.get state) (part.get state) world rfl).mono ?_)
  intro outcome final left ended
  obtain ⟨rfl, rest⟩ := ended
  exact ⟨same state holds, rest⟩

/-! ## Single requests -/

theorem traces_ask_anyway {request : Request} :
    Traces host before before (Insists [request])
      (ask request : Routine _ S (Reply request)) := by
  intro state world holds
  refine ends_ask.mpr ?_
  obtain ⟨world, past⟩ := world
  rw [answer_recorded]
  rcases host.answer request world with ⟨_ | reply, left⟩
  · exact ⟨holds, [⟨request, none⟩], rfl, List.prefix_refl _, fun _ failed => (nomatch failed),
      fun done => (nomatch done)⟩
  · exact ⟨holds, [⟨request, some reply⟩], rfl, List.prefix_refl _,
      fun _ failed => (nomatch failed), fun _ => rfl⟩

theorem traces_request {request : Request} {result : Reply request → Except Error α}
    (same : ∀ reply, request.verdict reply = (result reply).map fun _ => ()) :
    Traces host before before (Follows [request])
      (do ofExcept (result (← ask request)) : Routine _ S α) := by
  intro state world holds
  refine ends_bind.mpr (ends_ask.mpr ?_)
  obtain ⟨world, past⟩ := world
  rw [answer_recorded]
  rcases host.answer request world with ⟨_ | reply, left⟩
  · exact ⟨holds, [⟨request, none⟩], rfl, .one rfl⟩
  · simp only [followed, ends_ofExcept]
    have verdict : Exchange.verdict ⟨request, some reply⟩ =
        .ofReply (some ((result reply).map fun _ => ())) := by rw [← same reply]; rfl
    cases found : result reply with
    | error error =>
        rw [found] at verdict
        exact ⟨holds, [⟨request, some reply⟩], rfl, .one verdict.symm⟩
    | ok value =>
        rw [found] at verdict
        exact ⟨holds, [⟨request, some reply⟩], rfl, .one verdict.symm⟩

/-! ## Errors on the way -/

/-- An error that is only reported leaves the requests what they were. -/
theorem Traces.report {routine : Routine (σ × List Exchange) S α}
    {cleanup : Error → Routine (σ × List Exchange) S Unit}
    (traces : Traces host before after (Follows first) routine)
    (silent : ∀ error, Silent host after after (cleanup error)) :
    Traces host before after (Follows first) (routine.onError cleanup) := by
  intro state world holds
  refine ends_onError.mpr ((traces state world holds).mono ?_)
  intro outcome final left ended
  cases outcome with
  | done value => exact ended
  | failed error =>
      obtain ⟨fact, log, logged, follows⟩ := ended
      refine (silent error final left fact).mono ?_
      intro outcome final left ended
      obtain ⟨fact, _, same, rfl, done⟩ := ended
      obtain ⟨value, rfl⟩ := verdict_eq_done.mp done
      exact ⟨fact, log, by rw [same, logged, List.append_nil], follows⟩
  | aborted => exact ended

/-- An error after which something is done in any case. -/
theorem Traces.clean {routine : Routine (σ × List Exchange) S α}
    {cleanup : Error → Routine (σ × List Exchange) S Unit}
    (traces : Traces host before after trace routine)
    (insists : ∀ error, Traces host after after (Insists second) (cleanup error)) :
    Traces host before after (Cleans trace second) (routine.onError cleanup) := by
  intro state world holds
  refine ends_onError.mpr ((traces state world holds).mono ?_)
  intro outcome final left ended
  obtain ⟨fact, log, logged, traced⟩ := ended
  cases outcome with
  | done value => exact ⟨fact, log, logged, .done traced⟩
  | failed error =>
      refine (insists error final left fact).mono ?_
      intro outcome final left ended
      obtain ⟨fact, more, same, insists⟩ := ended
      have grown : left.2 = world.2 ++ (log ++ more) := by rw [same, logged, List.append_assoc]
      have stops : (Outcome.failed error : Outcome α).verdict ≠ .done () :=
        fun done => nomatch done
      cases outcome with
      | done _ => exact ⟨fact, _, grown, .stopped traced stops (.closed (insists.whole rfl))⟩
      | failed other => exact absurd rfl (insists.unfailing other)
      | aborted => exact ⟨fact, _, grown, .stopped traced stops (.brokeDown insists.inOrder)⟩
  | aborted =>
      refine ⟨fact, log, logged, ?_⟩
      rw [← List.append_nil log]
      exact .stopped traced (fun done => nomatch done) .aborted

/-- A request that is made whether or not it is granted. -/
theorem Traces.insist_attempt {request : Request} {routine : Routine (σ × List Exchange) S α}
    {next : Except Error α → Routine (σ × List Exchange) S β}
    (traces : Traces host before after (Follows [request]) routine)
    (back : ∀ result, Traces host after after (Insists second) (next result)) :
    Traces host before after (Insists (request :: second)) (routine.attempt >>= next) := by
  have tried : Traces host before after (Insists [request]) routine.attempt := by
    intro state world holds
    refine ends_attempt.mpr ((traces state world holds).mono ?_)
    intro outcome final left ended
    cases outcome with
    | done value =>
        obtain ⟨fact, log, logged, follows⟩ := ended
        exact ⟨fact, log, logged, follows.inOrder, fun _ failed => (nomatch failed),
          fun _ => follows.whole_of_one⟩
    | failed error =>
        obtain ⟨fact, log, logged, follows⟩ := ended
        exact ⟨fact, log, logged, follows.inOrder, fun _ failed => (nomatch failed),
          fun _ => follows.whole_of_one⟩
    | aborted =>
        obtain ⟨fact, log, logged, follows⟩ := ended
        exact ⟨fact, log, logged, follows.inOrder, fun _ failed => (nomatch failed),
          fun done => (nomatch done)⟩
  exact tried.insist_bind back

/-! ## Direct registers -/

variable {map : RegisterMap} {register : Register} {value : UInt32} {bytes : List UInt8}
  {count : Nat}

theorem traces_write (direct : register.IsDirect)
    (same : RegisterMap.busBytes register value = bytes) :
    Traces host (· = map) (· = map) (Follows [.write register.offset bytes])
      (RegisterMap.write register value) := by
  intro state world known
  subst known same
  refine (write_recorded direct).mono ?_
  intro outcome after left ended
  obtain ⟨same, reply, logged, rfl⟩ := ended
  refine ⟨same, _, logged, .one ?_⟩
  rcases reply with _ | error | _ <;> rfl

theorem traces_read (direct : register.IsDirect) (size : register.width.toNat = count) :
    Traces host (· = map) (· = map)
      (Gains [.read register.offset count] fun log word => log.map Exchange.word? = [some word])
      (RegisterMap.read register) := by
  intro state world known
  subst known size
  refine (read_recorded direct).mono ?_
  intro outcome after left ended
  obtain ⟨same, reply, logged, rfl⟩ := ended
  rcases reply with _ | error | bytes
  · exact ⟨same, _, logged, .one rfl, fun _ done => nomatch done⟩
  · exact ⟨same, _, logged, .one rfl, fun _ done => nomatch done⟩
  · refine ⟨same, _, logged, .one rfl, fun word done => ?_⟩
    cases done
    exact congrArg (fun word => [some word]) (Bytes.bigEndian_eq bytes.toList)

theorem traces_writeAll {entries : List (Register × UInt32)}
    (direct : ∀ entry ∈ entries, entry.1.IsDirect) :
    Traces host (· = map) (· = map)
      (Follows (entries.map fun entry =>
        .write entry.1.offset (RegisterMap.busBytes entry.1 entry.2)))
      (RegisterMap.writeAll entries) := by
  induction entries with
  | nil => exact silent_done.follows
  | cons entry rest ih =>
      obtain ⟨first, others⟩ := List.forall_mem_cons.mp direct
      exact (traces_write first rfl).follow_bind (fun _ => ih others) fun _ => id

end IspDriver
