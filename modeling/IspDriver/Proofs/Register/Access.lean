import IspDriver.Proofs.Power.Rails

/-!
Accesses to registers, paged or direct, exchange by exchange and on any host that answers. An access
selects the page of its register first, unless the map takes it to be selected; if that fails there
is no exchange with the register itself. `Performs` says of a routine what its exchanges, its value
and the map have to do with each other, and is put together as the routine is.
-/

namespace IspDriver

open Routine

/-- The map takes the register to be in reach as it is. -/
def RegisterMap.Shows (map : RegisterMap) (register : Register) : Prop :=
  register.isPaged = false ∨ map.page? = some register.page

/-- What comes of the choice of a register's page: the map before, the exchanges, the result and the
map after. -/
inductive SelectsPage (register : Register) :
    RegisterMap → List Exchange → Except Error Unit → RegisterMap → Prop
  | shown {map : RegisterMap} (shows : map.Shows register) :
      SelectsPage register map [] (.ok ()) map
  | turned {map : RegisterMap} (other : ¬ map.Shows register) :
      SelectsPage register map
        [⟨.write Layout.pageSelect.offset (Bytes.ofUInt32 register.page), some (.ok ())⟩] (.ok ())
        { page? := some register.page }
  | refused {map : RegisterMap} {error : Error} (other : ¬ map.Shows register) :
      SelectsPage register map
        [⟨.write Layout.pageSelect.offset (Bytes.ofUInt32 register.page), some (.error error)⟩]
        (.error error) { page? := none }

/-- What comes of a request to a register, whose reply is taken for the result. -/
inductive Reaches {α : Type} (register : Register) (request : Request)
    (taken : Reply request → Except Error α) :
    RegisterMap → List Exchange → Except Error α → RegisterMap → Prop
  | through {map after : RegisterMap} {log : List Exchange} {reply : Reply request}
      (selects : SelectsPage register map log (.ok ()) after) :
      Reaches register request taken map (log ++ [⟨request, some reply⟩]) (taken reply) after
  | shut {map after : RegisterMap} {log : List Exchange} {error : Error}
      (selects : SelectsPage register map log (.error error) after) :
      Reaches register request taken map log (.error error) after

/-- What comes of a read of a register. -/
def Reads (register : Register) : RegisterMap → List Exchange → Except Error UInt32 → RegisterMap →
    Prop :=
  Reaches register (.read register.busOffset register.width.toNat) fun reply =>
    reply.map fun bytes => Bytes.bigEndian bytes.toList

/-- What comes of a write to a register. -/
def Writes (register : Register) (value : UInt32) :
    RegisterMap → List Exchange → Except Error Unit → RegisterMap → Prop :=
  Reaches register (.write register.busOffset (RegisterMap.busBytes register value))
    fun reply => reply

/-- A routine that always ends with a value, and whose exchanges lead from the map before to that
value and the map after. -/
def Performs {σ α : Type} (host : Host σ)
    (step : RegisterMap → List Exchange → α → RegisterMap → Prop)
    (routine : Access (σ × List Exchange) α) : Prop :=
  ∀ map world, routine.Gives host.recording map world fun value after left =>
    ∃ log, left.2 = world.2 ++ log ∧ step map log value after

/-- A routine that may fail, and whose exchanges lead from the map before to its result and the map
after. -/
def Tries {σ α : Type} (host : Host σ)
    (step : RegisterMap → List Exchange → Except Error α → RegisterMap → Prop)
    (routine : Access (σ × List Exchange) α) : Prop :=
  ∀ map world, routine.Ends host.recording map world fun outcome after left =>
    ∃ log result, left.2 = world.2 ++ log ∧ step map log result after ∧
      outcome = .ofReply (some result)

/-- Steps one after the other, each from where the one before it led. -/
inductive Chained {α : Type} (step : RegisterMap → List Exchange → α → RegisterMap → Prop) :
    RegisterMap → List Exchange → List α → RegisterMap → Prop
  | nil {map : RegisterMap} : Chained step map [] [] map
  | cons {map next after : RegisterMap} {log more : List Exchange} {value : α} {values : List α}
      (first : step map log value next) (rest : Chained step next more values after) :
      Chained step map (log ++ more) (value :: values) after

variable {σ α β : Type} {host : Host σ} {routine : Access (σ × List Exchange) α}
  {next : α → Access (σ × List Exchange) β}
  {step weaker : RegisterMap → List Exchange → α → RegisterMap → Prop}
  {rest : α → RegisterMap → List Exchange → β → RegisterMap → Prop}
  {whole : RegisterMap → List Exchange → β → RegisterMap → Prop}

theorem performs_done {value : α} (here : ∀ map, step map [] value map) :
    Performs host step (done value) :=
  fun map _ => gives_done ⟨[], (List.append_nil _).symm, here map⟩

theorem performs_note {level : Level} {text : String} :
    Performs host (fun map log _ after => log = [] ∧ after = map) (note level text) :=
  fun _ _ => ⟨[], (List.append_nil _).symm, rfl, rfl⟩

theorem Performs.mono (performs : Performs host step routine)
    (weaken : ∀ map log value after, step map log value after → weaker map log value after) :
    Performs host weaker routine := by
  intro map world
  refine (performs map world).mono ?_
  intro value after left ended
  obtain ⟨log, logged, stepped⟩ := ended
  exact ⟨log, logged, weaken map log value after stepped⟩

theorem Performs.bind (first : Performs host step routine)
    (second : ∀ value, Performs host (rest value) (next value))
    (joined : ∀ map log value between more result after, step map log value between →
      rest value between more result after → whole map (log ++ more) result after) :
    Performs host whole (routine >>= next) := by
  intro map world
  refine (first map world).bind ?_
  intro value between left ended
  obtain ⟨log, logged, stepped⟩ := ended
  refine (second value between left).mono ?_
  intro result after final ended
  obtain ⟨more, grown, others⟩ := ended
  refine ⟨log ++ more, ?_, joined map log value between more result after stepped others⟩
  rw [grown, logged, List.append_assoc]

theorem Performs.returning {result : α → β} (performs : Performs host step routine)
    (joined : ∀ map log value after, step map log value after →
      whole map log (result value) after) :
    Performs host whole (routine >>= fun value => pure (result value)) := by
  intro map world
  refine (performs map world).bind ?_
  intro value after left ended
  obtain ⟨log, logged, stepped⟩ := ended
  exact ⟨log, logged, joined map log value after stepped⟩

/-- What asks for nothing does not show in what follows it. -/
theorem Performs.silent_bind
    (first : Performs host (fun map log _ after => log = [] ∧ after = map) routine)
    (second : ∀ value, Performs host whole (next value)) :
    Performs host whole (routine >>= next) := by
  apply first.bind second
  rintro map log value between more result after ⟨rfl, rfl⟩ others
  exact others

theorem Tries.attempt {step : RegisterMap → List Exchange → Except Error α → RegisterMap → Prop}
    (tries : Tries host step routine) : Performs host step (attempt routine) := by
  intro map world
  refine ends_attempt.mpr ((tries map world).mono ?_)
  intro outcome after left ended
  obtain ⟨log, result, logged, stepped, rfl⟩ := ended
  cases result with
  | ok value => exact ⟨log, logged, stepped⟩
  | error error => exact ⟨log, logged, stepped⟩

variable {register : Register} {value : UInt32} {request : Request}
  {taken : Reply request → Except Error α}

theorem Register.width_of32 (address : UInt32) : (Register.of32 address).width = 4 := by
  have kept : address.toNat &&& 16777215 = address.toNat % 2 ^ 24 :=
    Nat.and_two_pow_sub_one_eq_mod _ 24
  have low : (address &&& 0x00ffffff).toNat < 2 ^ 24 := by
    simp only [UInt32.toNat_and, UInt32.reduceToNat, kept]
    omega
  have shifted : ((4 : UInt32) <<< 24).toNat = 4 <<< 24 := by decide
  apply UInt32.toNat_inj.mp
  rw [Register.width, Register.of32, Register.ofWidth, UInt32.toNat_shiftRight, UInt32.toNat_or,
    shifted, ← Nat.shiftLeft_add_eq_or_of_lt low]
  simp only [UInt32.reduceToNat, Nat.reduceMod, Nat.shiftRight_eq_div_pow, Nat.shiftLeft_eq]
  omega

/-- What comes of a single request. -/
def Asked (request : Request) (taken : Reply request → Except Error α) (map : RegisterMap)
    (log : List Exchange) (result : Except Error α) (after : RegisterMap) : Prop :=
  after = map ∧ ∃ reply, log = [⟨request, some reply⟩] ∧ result = taken reply

theorem tries_request (answers : Answers host) (request : Request)
    (taken : Reply request → Except Error α) :
    Tries host (Asked request taken) (do ofExcept (taken (← ask request))) := by
  intro map world
  apply (ask_gives answers request).bind
  intro reply after left ended
  obtain ⟨rfl, logged⟩ := ended
  have asked : Asked request taken after [⟨request, some reply⟩] (taken reply) after :=
    ⟨rfl, reply, rfl, rfl⟩
  cases result : taken reply with
  | ok value => exact ⟨_, _, logged, asked, by rw [result]; rfl⟩
  | error error => exact ⟨_, _, logged, asked, by rw [result]; rfl⟩

theorem tries_readBlock (answers : Answers host) (offset : UInt16) (count : Nat) :
    Tries host (Asked (.read offset count) fun reply => reply)
      (Host.readBlock offset count : Access _ (Vector UInt8 count)) :=
  tries_request answers (.read offset count) fun reply => reply

theorem tries_writeBlock (answers : Answers host) (offset : UInt16) (data : List UInt8) :
    Tries host (Asked (.write offset data) fun reply => reply)
      (Host.writeBlock offset data : Access _ Unit) :=
  tries_request answers (.write offset data) fun reply => reply

/-- An error that is noted is still the result. -/
theorem Tries.noted {step : RegisterMap → List Exchange → Except Error α → RegisterMap → Prop}
    {routine : Access (σ × List Exchange) α} {level : Level} {text : Error → String}
    (tries : Tries host step routine) :
    Tries host step (routine.onError fun error => note level (text error)) := by
  intro map world
  refine ends_onError.mpr ((tries map world).mono ?_)
  intro outcome after left ended
  obtain ⟨log, result, logged, stepped, rfl⟩ := ended
  cases result with
  | ok value => exact ⟨log, _, logged, stepped, rfl⟩
  | error error => exact ⟨log, _, logged, stepped, rfl⟩

theorem selectPage_tries (answers : Answers host) (register : Register) :
    Tries host (SelectsPage register) (RegisterMap.selectPage register) := by
  intro map world
  unfold RegisterMap.selectPage
  rw [ends_bind, ends_state]
  simp only [followed]
  by_cases shows : map.Shows register
  · rw [if_pos (by simpa [RegisterMap.Shows] using shows), ends_done]
    exact ⟨[], _, (List.append_nil _).symm, .shown shows, rfl⟩
  · rw [if_neg (by simpa [RegisterMap.Shows] using shows), ends_bind, ends_onError]
    refine (tries_writeBlock answers _ _ map world).mono ?_
    intro outcome after left ended
    obtain ⟨log, reply, logged, ⟨rfl, _, rfl, rfl⟩, rfl⟩ := ended
    cases reply with
    | ok _ =>
        simp only [Outcome.ofReply, followed, ends_bind, ends_note]
        exact ⟨_, _, logged, .turned shows, rfl⟩
    | error error =>
        simp only [Outcome.ofReply, followed, ends_bind, ends_note]
        exact ⟨_, _, logged, .refused shows, rfl⟩

theorem tries_reach {routine : Access (σ × List Exchange) α} (answers : Answers host)
    (asks : Tries host (Asked request taken) routine) :
    Tries host (Reaches register request taken)
      (RegisterMap.selectPage register >>= fun _ => routine) := by
  intro map world
  refine ends_bind.mpr ((selectPage_tries answers register map world).mono ?_)
  intro outcome between left ended
  obtain ⟨log, result, logged, selects, rfl⟩ := ended
  cases result with
  | error error => exact ⟨log, _, logged, .shut selects, rfl⟩
  | ok value =>
      simp only [Outcome.ofReply, followed]
      refine (asks between left).mono ?_
      intro outcome after final ended
      obtain ⟨more, result, grown, ⟨rfl, reply, rfl, rfl⟩, rfl⟩ := ended
      refine ⟨_, _, ?_, .through selects, rfl⟩
      rw [grown, logged, List.append_assoc]

theorem read_tries (answers : Answers host) (width : register.width = 2 ∨ register.width = 4) :
    Tries host (Reads register) (RegisterMap.read register) := by
  intro map world
  rw [RegisterMap.read, ends_bind, RegisterMap.ends_checkWidth width]
  refine tries_reach answers (Tries.noted ?_) map world
  intro map world
  rw [RegisterMap.ends_receive width]
  refine (tries_readBlock answers _ _ map world).mono ?_
  intro outcome after left ended
  obtain ⟨log, reply, logged, ⟨rfl, _, rfl, rfl⟩, rfl⟩ := ended
  cases reply with
  | error error => exact ⟨_, _, logged, ⟨rfl, _, rfl, rfl⟩, rfl⟩
  | ok bytes =>
      refine ⟨_, _, logged, ⟨rfl, _, rfl, rfl⟩, ?_⟩
      rw [← Bytes.bigEndian_eq]
      rfl

theorem write_tries (answers : Answers host) (width : register.width = 2 ∨ register.width = 4)
    (value : UInt32) : Tries host (Writes register value) (RegisterMap.write register value) := by
  intro map world
  rw [RegisterMap.write, ends_bind, RegisterMap.ends_checkWidth width]
  refine tries_reach answers ?_ map world
  intro map world
  rw [ends_bind, ends_note, RegisterMap.send_eq width]
  exact Tries.noted (tries_writeBlock answers _ _) map _

end IspDriver
