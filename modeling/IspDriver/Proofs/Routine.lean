import IspDriver.Host

/-!
How routines end. `Ends` says of one run what holds of its outcome and of what it leaves behind;
`Gives` says the same of a run that succeeds; `Keeps` says that something true before a run is true
after it, whether the run succeeds or fails. All follow the way in which a routine is put together,
so a statement about a driver routine is assembled from statements about the requests in it.
-/

namespace IspDriver

/-- What comes of a request with this reply. -/
def Outcome.ofReply {α : Type} : Option (Except Error α) → Outcome α
  | some (.ok value) => .done value
  | some (.error error) => .failed error
  | none => .aborted

namespace Routine

variable {σ S T α β : Type} {host : Host σ} {state : S} {world : σ}

/-- The routine, run from `state` and `world`, ends as `post` says. -/
def Ends (routine : Routine σ S α) (host : Host σ) (state : S) (world : σ)
    (post : Outcome α → S → σ → Prop) : Prop :=
  post (routine host state world).1 (routine host state world).2.1 (routine host state world).2.2

/-- Holds `invariant` when there is an outcome to go on with, and `broken` when there is none. -/
def unlessAborted (invariant broken : S → σ → Prop) : Outcome α → S → σ → Prop
  | .done _ | .failed _ => invariant
  | .aborted => broken

/-- Every run that starts where `invariant` holds ends where it holds, or, if it is aborted, where
`broken` holds. -/
def Keeps (host : Host σ) (invariant broken : S → σ → Prop) (routine : Routine σ S α) : Prop :=
  ∀ state world, invariant state world →
    routine.Ends host state world (unlessAborted invariant broken)

/-- What has to hold after a first routine for `post` to hold after it and a second one: `next`
after a value, and `post` at once when there is none. -/
def followed (next : α → S → σ → Prop) (post : Outcome β → S → σ → Prop) :
    Outcome α → S → σ → Prop
  | .done value => next value
  | .failed error => post (.failed error)
  | .aborted => post .aborted

/-- The routine, run from `state` and `world`, ends with a value, and as `post` says. -/
def Gives (routine : Routine σ S α) (host : Host σ) (state : S) (world : σ)
    (post : α → S → σ → Prop) : Prop :=
  routine.Ends host state world (followed post fun (_ : Outcome α) _ _ => False)

/-- If the routine, run from `state` and `world`, ends with a value, it ends as `post` says. -/
def Yields (routine : Routine σ S α) (host : Host σ) (state : S) (world : σ)
    (post : α → S → σ → Prop) : Prop :=
  routine.Ends host state world (followed post fun (_ : Outcome α) _ _ => True)

/-- The routine, run from `state` and `world`, fails, and leaves behind what `post` says. -/
def Fails (routine : Routine σ S α) (host : Host σ) (state : S) (world : σ)
    (post : S → σ → Prop) : Prop :=
  routine.Ends host state world fun outcome after left =>
    (∃ error, outcome = .failed error) ∧ post after left

instance : LawfulMonad (Routine σ S) := by
  refine LawfulMonad.mk' (Routine σ S) ?_ ?_ ?_
  · intro α routine
    funext host state world
    change andThen routine _ host state world = _
    unfold andThen
    rcases routine host state world with ⟨_ | _ | _, after, left⟩ <;> rfl
  · intro α β value next
    rfl
  · intro α β γ routine next last
    funext host state world
    change andThen (andThen routine next) last host state world = andThen routine _ host state world
    unfold andThen
    rcases routine host state world with ⟨_ | _ | _, after, left⟩ <;> rfl

section Ends

variable {post : Outcome α → S → σ → Prop}

theorem Ends.mono {routine : Routine σ S α} {weaker : Outcome α → S → σ → Prop}
    (run : routine.Ends host state world post)
    (weaken : ∀ outcome after left, post outcome after left → weaker outcome after left) :
    routine.Ends host state world weaker :=
  weaken _ _ _ run

theorem Ends.and {routine : Routine σ S α} {other : Outcome α → S → σ → Prop}
    (left : routine.Ends host state world post) (right : routine.Ends host state world other) :
    routine.Ends host state world fun outcome after world =>
      post outcome after world ∧ other outcome after world :=
  ⟨left, right⟩

theorem ends_forall {ι : Sort _} {routine : Routine σ S α} {post : ι → Outcome α → S → σ → Prop}
    (runs : ∀ i, routine.Ends host state world (post i)) :
    routine.Ends host state world fun outcome after left => ∀ i, post i outcome after left :=
  runs

theorem ends_of_all {routine : Routine σ S α}
    (always : ∀ outcome after left, post outcome after left) :
    routine.Ends host state world post :=
  always _ _ _

@[simp] theorem ends_done {value : α} :
    (done value).Ends host state world post ↔ post (.done value) state world :=
  Iff.rfl

@[simp] theorem ends_pure {value : α} :
    (pure value : Routine σ S α).Ends host state world post ↔ post (.done value) state world :=
  Iff.rfl

@[simp] theorem ends_fail {error : Error} :
    (fail error : Routine σ S α).Ends host state world post ↔ post (.failed error) state world :=
  Iff.rfl

@[simp] theorem ends_refuse {cause : Refusal} :
    (refuse cause : Routine σ S α).Ends host state world post ↔
      post (.failed (.invalidArgument cause)) state world :=
  Iff.rfl

@[simp] theorem ends_abandon :
    (abandon : Routine σ S α).Ends host state world post ↔ post .aborted state world :=
  Iff.rfl

@[simp] theorem ends_ofExcept {result : Except Error α} :
    (ofExcept result : Routine σ S α).Ends host state world post ↔
      match result with
      | .ok value => post (.done value) state world
      | .error error => post (.failed error) state world := by
  cases result <;> rfl

@[simp] theorem ofExcept_ok_bind {value : α} {next : α → Routine σ S β} :
    (ofExcept (.ok value) >>= next : Routine σ S β) = next value :=
  rfl

@[simp] theorem ofExcept_error_bind {error : Error} {next : α → Routine σ S β} :
    (ofExcept (.error error) >>= next : Routine σ S β) = fail error :=
  rfl

@[simp] theorem ends_state {post : Outcome S → S → σ → Prop} :
    (Routine.state : Routine σ S S).Ends host state world post ↔ post (.done state) state world :=
  Iff.rfl

@[simp] theorem ends_modify {change : S → S} {post : Outcome Unit → S → σ → Prop} :
    (modify change : Routine σ S Unit).Ends host state world post ↔
      post (.done ()) (change state) world :=
  Iff.rfl

@[simp] theorem ends_note {level : Level} {text : String} {post : Outcome Unit → S → σ → Prop} :
    (note level text : Routine σ S Unit).Ends host state world post ↔
      post (.done ()) state (host.note ⟨level, text⟩ world) :=
  Iff.rfl

theorem ends_ask {request : Request} {post : Outcome (Reply request) → S → σ → Prop} :
    (ask request : Routine σ S (Reply request)).Ends host state world post ↔
      match host.answer request world with
      | (some reply, left) => post (.done reply) state left
      | (none, left) => post .aborted state left := by
  unfold Ends ask
  rcases host.answer request world with ⟨_ | reply, left⟩ <;> rfl

/-- A run of two routines is a run of the first, then one of the second unless there is no value
to go on with. -/
theorem ends_bind {routine : Routine σ S α} {next : α → Routine σ S β}
    {post : Outcome β → S → σ → Prop} :
    (routine >>= next).Ends host state world post ↔
      routine.Ends host state world
        (followed (fun value after left => (next value).Ends host after left post) post) := by
  change (andThen routine next).Ends host state world post ↔ _
  unfold Ends andThen
  rcases routine host state world with ⟨_ | _ | _, after, left⟩ <;> rfl

theorem Ends.bind {routine : Routine σ S α} {next : α → Routine σ S β}
    {middle : Outcome α → S → σ → Prop} {post : Outcome β → S → σ → Prop}
    (run : routine.Ends host state world middle)
    (done : ∀ value after left, middle (.done value) after left →
      (next value).Ends host after left post)
    (failed : ∀ error after left, middle (.failed error) after left →
      post (.failed error) after left)
    (aborted : ∀ after left, middle .aborted after left → post .aborted after left) :
    (routine >>= next).Ends host state world post := by
  refine ends_bind.mpr (run.mono ?_)
  intro outcome after left holds
  cases outcome with
  | done value => exact done value after left holds
  | failed error => exact failed error after left holds
  | aborted => exact aborted after left holds

theorem ends_attempt {routine : Routine σ S α} {post : Outcome (Except Error α) → S → σ → Prop} :
    routine.attempt.Ends host state world post ↔
      routine.Ends host state world fun
        | .done value => post (.done (.ok value))
        | .failed error => post (.done (.error error))
        | .aborted => post .aborted := by
  unfold Ends attempt
  rcases routine host state world with ⟨_ | _ | _, after, left⟩ <;> rfl

/-- What follows a run that failed is the cleanup, and then the same error. -/
theorem ends_onError {routine : Routine σ S α} {cleanup : Error → Routine σ S Unit} :
    (routine.onError cleanup).Ends host state world post ↔
      routine.Ends host state world fun
        | .done value => post (.done value)
        | .failed error => fun after left =>
            (cleanup error).Ends host after left (followed (fun _ => post (.failed error)) post)
        | .aborted => post .aborted := by
  change (andThen routine.attempt _).Ends host state world post ↔ _
  unfold Ends andThen attempt
  rcases routine host state world with ⟨value | error | _, after, left⟩
  · rfl
  · change (cleanup error >>= fun _ => fail error).Ends host after left post ↔ _
    exact ends_bind
  · rfl

@[simp] theorem ends_startingFrom {initial : T} {routine : Routine σ T α}
    {post : Outcome (α × T) → S → σ → Prop} :
    (startingFrom initial routine : Routine σ S (α × T)).Ends host state world post ↔
      routine.Ends host initial world fun
        | .done value, after, left => post (.done (value, after)) state left
        | .failed error, _, left => post (.failed error) state left
        | .aborted, _, left => post .aborted state left := by
  unfold Ends startingFrom
  rcases routine host initial world with ⟨_ | _ | _, after, left⟩ <;> rfl

@[simp] theorem ends_act {part : Part S T} {routine : Routine σ T α} :
    (part.act routine).Ends host state world post ↔
      routine.Ends host (part.get state) world fun outcome after left =>
        post outcome (part.put after state) left :=
  Iff.rfl

end Ends

variable {post : α → S → σ → Prop}

theorem gives_done {value : α} (holds : post value state world) :
    (done value).Gives host state world post :=
  holds

theorem Gives.mono {routine : Routine σ S α} {weaker : α → S → σ → Prop}
    (run : routine.Gives host state world post)
    (weaken : ∀ value after left, post value after left → weaker value after left) :
    routine.Gives host state world weaker := by
  refine Ends.mono run ?_
  intro outcome after left holds
  cases outcome with
  | done value => exact weaken value after left holds
  | failed error => exact holds
  | aborted => exact holds

theorem Gives.ends {routine : Routine σ S α} (run : routine.Gives host state world post) :
    routine.Ends host state world fun outcome after left =>
      ∃ value, outcome = .done value ∧ post value after left := by
  refine Ends.mono run ?_
  intro outcome after left holds
  cases outcome with
  | done value => exact ⟨value, rfl, holds⟩
  | failed error => cases holds
  | aborted => cases holds

theorem Gives.bind {routine : Routine σ S α} {next : α → Routine σ S β}
    {post : Outcome β → S → σ → Prop} {middle : α → S → σ → Prop}
    (run : routine.Gives host state world middle)
    (follows : ∀ value after left, middle value after left →
      (next value).Ends host after left post) :
    (routine >>= next).Ends host state world post :=
  Ends.bind run follows (fun _ _ _ never => never.elim) (fun _ _ never => never.elim)

theorem Gives.attempt {routine : Routine σ S α} (run : routine.Gives host state world post) :
    routine.attempt.Gives host state world fun result after left =>
      ∃ value, result = .ok value ∧ post value after left := by
  refine ends_attempt.mpr (Ends.mono run ?_)
  intro outcome after left holds
  cases outcome with
  | done value => exact ⟨value, rfl, holds⟩
  | failed error => exact holds.elim
  | aborted => exact holds

theorem Gives.onError {routine : Routine σ S α} {cleanup : Error → Routine σ S Unit}
    (run : routine.Gives host state world post) :
    (routine.onError cleanup).Gives host state world post := by
  refine ends_onError.mpr (Ends.mono run ?_)
  intro outcome after left holds
  cases outcome with
  | done value => exact holds
  | failed error => exact holds.elim
  | aborted => exact holds

theorem Gives.act {part : Part S T} {routine : Routine σ T α} {post : α → σ → Prop}
    (run : routine.Gives host (part.get state) world fun value _ left => post value left) :
    (part.act routine).Gives host state world fun value _ left => post value left := by
  refine ends_act.mpr (Ends.mono run ?_)
  intro outcome after left holds
  cases outcome with
  | done value => exact holds
  | failed error => exact holds
  | aborted => exact holds

theorem Ends.gives_of_done {routine : Routine σ S α} {post : Outcome α → S → σ → Prop} {value : α}
    (run : routine.Ends host state world post)
    (done : (routine host state world).1 = .done value) :
    routine.Gives host state world fun _ => post (.done value) := by
  unfold Ends at run
  unfold Gives Ends
  rw [done] at run ⊢
  exact run

theorem Ends.fails_of_failed {routine : Routine σ S α} {post : Outcome α → S → σ → Prop}
    {error : Error} (run : routine.Ends host state world post)
    (failed : (routine host state world).1 = .failed error) :
    routine.Fails host state world (post (.failed error)) := by
  unfold Ends at run
  rw [failed] at run
  exact ⟨⟨error, failed⟩, run⟩

theorem yields_fail {error : Error} :
    (fail error : Routine σ S α).Yields host state world post :=
  trivial

theorem Ends.yields {routine : Routine σ S α} {middle : Outcome α → S → σ → Prop}
    (run : routine.Ends host state world middle)
    (done : ∀ value after left, middle (.done value) after left → post value after left) :
    routine.Yields host state world post := by
  refine Ends.mono run ?_
  intro outcome after left holds
  cases outcome with
  | done value => exact done value after left holds
  | failed error => trivial
  | aborted => trivial

theorem Yields.mono {routine : Routine σ S α} {weaker : α → S → σ → Prop}
    (run : routine.Yields host state world post)
    (weaken : ∀ value after left, post value after left → weaker value after left) :
    routine.Yields host state world weaker :=
  Ends.yields run weaken

theorem Yields.and {routine : Routine σ S α} {other : α → S → σ → Prop}
    (left : routine.Yields host state world post) (right : routine.Yields host state world other) :
    routine.Yields host state world fun value after world =>
      post value after world ∧ other value after world :=
  (Ends.and left right).yields fun _ _ _ both => both

theorem Gives.and_yields {routine : Routine σ S α} {other : α → S → σ → Prop}
    (run : routine.Gives host state world post) (also : routine.Yields host state world other) :
    routine.Gives host state world fun value after left =>
      post value after left ∧ other value after left := by
  refine (Ends.and run also).mono ?_
  intro outcome after left ended
  cases outcome with
  | done value => exact ended
  | failed error => exact ended.1
  | aborted => exact ended.1

/-- Where it can be seen that a run succeeds, what it yields is what it gives. -/
theorem Yields.gives_of_seen {routine : Routine σ S α} {seen : β} {given : α → S → σ → Prop}
    {view : Outcome α × S × σ → Option β} (run : routine.Yields host state world post)
    (shows : view (routine host state world) = some seen)
    (failed : ∀ error after left, view (.failed error, after, left) = none)
    (aborted : ∀ after left, view (.aborted, after, left) = none)
    (follows : ∀ value after left, view (.done value, after, left) = some seen →
      post value after left → given value after left) :
    routine.Gives host state world given := by
  unfold Gives Ends
  unfold Yields Ends at run
  generalize routine host state world = ended at run shows ⊢
  obtain ⟨outcome, after, left⟩ := ended
  cases outcome with
  | done value => exact follows value after left shows run
  | failed error => cases (failed error after left).symm.trans shows
  | aborted => cases (aborted after left).symm.trans shows

/-- Where it can be seen that a run succeeds, it does not yield what is seen not to hold. -/
theorem Yields.false_of_seen {routine : Routine σ S α} {seen : β}
    {view : Outcome α × S × σ → Option β} (run : routine.Yields host state world post)
    (shows : view (routine host state world) = some seen)
    (failed : ∀ error after left, view (.failed error, after, left) = none)
    (aborted : ∀ after left, view (.aborted, after, left) = none)
    (misses : ∀ value after left, view (.done value, after, left) = some seen →
      ¬ post value after left) : False := by
  have given : routine.Gives host state world fun _ _ _ => False :=
    run.gives_of_seen shows failed aborted misses
  obtain ⟨_, -, never⟩ := given.ends
  exact never

theorem Keeps.yields {invariant broken : S → σ → Prop} {routine : Routine σ S α}
    (kept : Keeps host invariant broken routine) (holds : invariant state world) :
    routine.Yields host state world fun _ => invariant :=
  (kept state world holds).yields fun _ _ _ => id

theorem Yields.bind {routine : Routine σ S α} {next : α → Routine σ S β}
    {middle : α → S → σ → Prop} {post : β → S → σ → Prop}
    (run : routine.Yields host state world middle)
    (follows : ∀ value after left, middle value after left →
      (next value).Yields host after left post) :
    (routine >>= next).Yields host state world post :=
  Ends.bind run follows (fun _ _ _ _ => trivial) (fun _ _ _ => trivial)

theorem yields_last {routine : Routine σ S α} {next : α → Routine σ S β} {post : β → S → σ → Prop}
    (follows : ∀ value after left, (next value).Yields host after left post) :
    (routine >>= next).Yields host state world post := by
  refine ends_bind.mpr (ends_of_all fun outcome after left => ?_)
  cases outcome with
  | done value => exact follows value after left
  | failed error => trivial
  | aborted => trivial

theorem Yields.onError {routine : Routine σ S α} {cleanup : Error → Routine σ S Unit}
    (run : routine.Yields host state world post) :
    (routine.onError cleanup).Yields host state world post := by
  refine ends_onError.mpr (Ends.mono run ?_)
  intro outcome after left holds
  cases outcome with
  | done value => exact holds
  | failed error =>
      refine ends_of_all fun outcome after left => ?_
      cases outcome with
      | done _ => trivial
      | failed error => trivial
      | aborted => trivial
  | aborted => trivial

theorem Fails.yields {post : S → σ → Prop} {other : α → S → σ → Prop} {routine : Routine σ S α}
    (run : routine.Fails host state world post) : routine.Yields host state world other := by
  refine Ends.yields run ?_
  intro value after left failed
  obtain ⟨⟨error, none⟩, -⟩ := failed
  cases none

theorem Fails.bind {routine : Routine σ S α} {next : α → Routine σ S β} {post : S → σ → Prop}
    (run : routine.Fails host state world post) :
    (routine >>= next).Fails host state world post := by
  refine Ends.bind run ?_ ?_ ?_
  · intro value after left failed
    obtain ⟨⟨error, none⟩, -⟩ := failed
    cases none
  · intro error after left failed
    exact ⟨⟨error, rfl⟩, failed.2⟩
  · intro after left failed
    obtain ⟨⟨error, none⟩, -⟩ := failed
    cases none

theorem yields_startingFrom {initial : T} {routine : Routine σ T α} {post : α → T → σ → Prop}
    (run : routine.Yields host initial world post) :
    (startingFrom initial routine : Routine σ S (α × T)).Yields host state world
      fun result _ left => post result.1 result.2 left := by
  refine ends_startingFrom.mpr (Ends.mono run ?_)
  intro outcome after left holds
  cases outcome with
  | done value => exact holds
  | failed error => trivial
  | aborted => trivial

variable {invariant broken : S → σ → Prop}

/-- What also holds of an aborted run holds of every run. -/
theorem Keeps.ends {routine : Routine σ S α} (kept : Keeps host invariant invariant routine)
    (holds : invariant state world) : routine.Ends host state world fun _ => invariant := by
  refine (kept state world holds).mono ?_
  intro outcome after left ended
  cases outcome with
  | done value => exact ended
  | failed error => exact ended
  | aborted => exact ended

theorem Gives.keeping {routine : Routine σ S α} {post : α → S → σ → Prop}
    (run : routine.Gives host state world post) (kept : Keeps host invariant broken routine)
    (holds : invariant state world) :
    routine.Gives host state world fun value after left =>
      invariant after left ∧ post value after left := by
  refine (Ends.and run (kept state world holds)).mono ?_
  intro outcome after left ended
  cases outcome with
  | done value => exact ⟨ended.2, ended.1⟩
  | failed error => exact ended.1
  | aborted => exact ended.1

theorem keeps_done {value : α} : Keeps host invariant broken (done value) :=
  fun _ _ holds => holds

theorem keeps_pure {value : α} : Keeps host invariant broken (pure value) :=
  fun _ _ holds => holds

theorem keeps_fail {error : Error} : Keeps host invariant broken (fail error : Routine σ S α) :=
  fun _ _ holds => holds

theorem keeps_refuse {cause : Refusal} :
    Keeps host invariant broken (refuse cause : Routine σ S α) :=
  fun _ _ holds => holds

theorem keeps_abandon (breaks : ∀ state world, invariant state world → broken state world) :
    Keeps host invariant broken (abandon : Routine σ S α) :=
  breaks

theorem keeps_state : Keeps host invariant broken (Routine.state : Routine σ S S) :=
  fun _ _ holds => holds

theorem keeps_ofExcept {result : Except Error α} :
    Keeps host invariant broken (ofExcept result : Routine σ S α) := by
  cases result with
  | error error => exact keeps_fail
  | ok value => exact keeps_done

theorem keeps_modify {change : S → S}
    (kept : ∀ state world, invariant state world → invariant (change state) world) :
    Keeps host invariant broken (modify change) :=
  kept

theorem Keeps.bind {routine : Routine σ S α} {next : α → Routine σ S β}
    (first : Keeps host invariant broken routine)
    (second : ∀ value, Keeps host invariant broken (next value)) :
    Keeps host invariant broken (routine >>= next) :=
  fun state world holds => (first state world holds).bind
    (fun value after left kept => second value after left kept)
    (fun _ _ _ kept => kept) (fun _ _ kept => kept)

theorem Keeps.attempt {routine : Routine σ S α} (kept : Keeps host invariant broken routine) :
    Keeps host invariant broken routine.attempt := by
  intro state world holds
  refine ends_attempt.mpr ((kept state world holds).mono ?_)
  intro outcome after left ended
  cases outcome with
  | done value => exact ended
  | failed error => exact ended
  | aborted => exact ended

theorem Keeps.onError {routine : Routine σ S α} {cleanup : Error → Routine σ S Unit}
    (kept : Keeps host invariant broken routine)
    (cleaned : ∀ error, Keeps host invariant broken (cleanup error)) :
    Keeps host invariant broken (routine.onError cleanup) := by
  refine kept.attempt.bind fun result => ?_
  cases result with
  | ok value => exact keeps_done
  | error error => exact (cleaned error).bind fun _ => keeps_fail

theorem Keeps.act {part : Part S T} {routine : Routine σ T α}
    (kept : ∀ whole, Keeps host (fun piece => invariant (part.put piece whole))
      (fun piece => broken (part.put piece whole)) routine)
    (same : ∀ whole, part.put (part.get whole) whole = whole) :
    Keeps host invariant broken (part.act routine) := by
  intro state world holds
  refine ends_act.mpr ((kept state (part.get state) world ?_).mono ?_)
  · simpa only [same] using holds
  · intro outcome after left ended
    cases outcome with
    | done value => exact ended
    | failed error => exact ended
    | aborted => exact ended

theorem Keeps.known {routine : Routine σ S α} (fact : Prop)
    (kept : Keeps host invariant broken routine) :
    Keeps host (fun state world => fact ∧ invariant state world)
      (fun state world => fact ∧ broken state world) routine := by
  intro state world holds
  refine (kept state world holds.2).mono ?_
  intro outcome after left ended
  cases outcome with
  | done value => exact ⟨holds.1, ended⟩
  | failed error => exact ⟨holds.1, ended⟩
  | aborted => exact ⟨holds.1, ended⟩

theorem Keeps.some {ι : Type} {invariant broken : ι → S → σ → Prop} {routine : Routine σ S α}
    (each : ∀ i, Keeps host (invariant i) (broken i) routine) :
    Keeps host (fun state world => ∃ i, invariant i state world)
      (fun state world => ∃ i, broken i state world) routine := by
  intro state world holds
  obtain ⟨i, holds⟩ := holds
  refine (each i state world holds).mono ?_
  intro outcome after left ended
  cases outcome with
  | done value => exact ⟨i, ended⟩
  | failed error => exact ⟨i, ended⟩
  | aborted => exact ⟨i, ended⟩

variable {fact : S → Prop}

theorem keeps_fact_ask {request : Request} :
    Keeps host (fun state _ => fact state) (fun _ _ => True)
      (ask request : Routine σ S (Reply request)) := by
  intro state world holds
  rw [ends_ask]
  generalize host.answer request world = answer
  obtain ⟨reply, left⟩ := answer
  cases reply with
  | none => trivial
  | some reply => exact holds

theorem keeps_fact_note {level : Level} {text : String} :
    Keeps host (fun state _ => fact state) (fun _ _ => True) (note level text) :=
  fun _ _ holds => holds

theorem keeps_fact_act {part : Part S T} {routine : Routine σ T α}
    (same : ∀ piece whole, fact whole → fact (part.put piece whole)) :
    Keeps host (fun state _ => fact state) (fun _ _ => True) (part.act routine) := by
  intro state world holds
  refine ends_act.mpr (ends_of_all fun outcome after left => ?_)
  cases outcome with
  | done value => exact same after state holds
  | failed error => exact same after state holds
  | aborted => trivial

end Routine

end IspDriver
