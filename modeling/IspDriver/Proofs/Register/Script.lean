import IspDriver.Proofs.Register.Map

/-!
Scripts for registers of the direct space: steps that are carried out in order, on any host, up to
the first exchange that is not granted.
-/

namespace IspDriver

open Routine

/-- Whether a reply grants the request, or with which error it does not. -/
def Request.verdict : (request : Request) → Reply request → Except Error Unit
  | .read _ _, reply => reply.map fun _ => ()
  | .fetch _, reply => reply.map fun _ => ()
  | .write _ _, reply => reply
  | .setLine _ _, reply => reply
  | .findSupply _ _, reply => reply
  | .enableSupply _ _, reply => reply
  | .disableSupply _ _, reply => reply
  | .enableClock, reply => reply
  | .disableClock, _ => .ok ()
  | .wait _, _ => .ok ()

/-- What an exchange comes to for the one who asked. -/
def Exchange.verdict (exchange : Exchange) : Outcome Unit :=
  .ofReply (exchange.reply.map exchange.request.verdict)

variable {σ S : Type} {host : Host σ} {state : S} {world : σ} {past : List Exchange}
  {offset : UInt16}

theorem answer_recorded (request : Request) :
    host.recording.answer request (world, past) =
      ((host.answer request world).1, (host.answer request world).2,
        past ++ [⟨request, (host.answer request world).1⟩]) :=
  rfl

theorem readBlock_recorded {count : Nat} :
    (Host.readBlock offset count).Ends host.recording state (world, past) fun outcome after left =>
      after = state ∧ ∃ reply, left.2 = past ++ [⟨.read offset count, reply⟩] ∧
        outcome = .ofReply reply := by
  unfold Host.readBlock
  rw [ends_bind, ends_ask, answer_recorded]
  rcases host.answer (.read offset count) world with ⟨_ | _ | _, left⟩
  · exact ⟨rfl, none, rfl, rfl⟩
  · exact ⟨rfl, some (.error _), rfl, rfl⟩
  · exact ⟨rfl, some (.ok _), rfl, rfl⟩

theorem writeBlock_recorded {data : List UInt8} :
    (Host.writeBlock offset data).Ends host.recording state (world, past) fun outcome after left =>
      after = state ∧ ∃ reply, left.2 = past ++ [⟨.write offset data, reply⟩] ∧
        outcome = .ofReply reply := by
  unfold Host.writeBlock
  rw [ends_bind, ends_ask, answer_recorded]
  rcases host.answer (.write offset data) world with ⟨_ | _ | _, left⟩
  · exact ⟨rfl, none, rfl, rfl⟩
  · exact ⟨rfl, some (.error _), rfl, rfl⟩
  · exact ⟨rfl, some (.ok _), rfl, rfl⟩

/-- A register that is reached without a page select. -/
def Register.IsDirect (register : Register) : Prop :=
  (register.width = 2 ∨ register.width = 4) ∧ register.page = 0

instance : DecidablePred Register.IsDirect :=
  fun _ => inferInstanceAs (Decidable ((_ ∨ _) ∧ _))

/-- Something to do to a register. -/
inductive Step where
  | write (register : Register) (value : UInt32)
  | update (register : Register) (mask value : UInt32)
deriving DecidableEq, Repr

namespace Step

def register : Step → Register
  | write register _ => register
  | update register _ _ => register

def run : Step → Access σ Unit
  | write register value => RegisterMap.write register value
  | update register mask value => RegisterMap.updateBits register mask value

def runEach : List Step → Access σ Unit
  | [] => done ()
  | step :: rest => do
      step.run
      runEach rest

/-- What a step asks of the bus first. -/
def request : Step → Request
  | write register value => .write register.offset (RegisterMap.busBytes register value)
  | update register _ _ => .read register.offset register.width.toNat

/-- The value with the masked bits taken from another one. -/
def merge (current mask value : UInt32) : UInt32 :=
  (current &&& ~~~mask) ||| (value &&& mask)

end Step

open Step in
/-- What steps come to, by their exchanges: they are carried out in order; an update reads, and then
writes unless nothing changes; and the first exchange that is not granted is the last. -/
inductive Carried : List Step → List Exchange → Outcome Unit → Prop
  | finished : Carried [] [] (.done ())
  | stopped {step : Step} {rest : List Step} {exchange : Exchange}
      (asked : exchange.request = step.request) (refused : exchange.verdict ≠ .done ()) :
      Carried (step :: rest) [exchange] exchange.verdict
  | written {register : Register} {value : UInt32} {rest : List Step} {log : List Exchange}
      {outcome : Outcome Unit} (others : Carried rest log outcome) :
      Carried (write register value :: rest)
        (⟨(write register value).request, some (.ok ())⟩ :: log) outcome
  | unchanged {register : Register} {mask value : UInt32} {rest : List Step} {log : List Exchange}
      {outcome : Outcome Unit} (bytes : Vector UInt8 register.width.toNat)
      (same : merge (Bytes.positional bytes.toList).toUInt32 mask value =
        (Bytes.positional bytes.toList).toUInt32) (others : Carried rest log outcome) :
      Carried (update register mask value :: rest)
        (⟨(update register mask value).request, some (.ok bytes)⟩ :: log) outcome
  | changed {register : Register} {mask value : UInt32} {rest : List Step} {log : List Exchange}
      {outcome : Outcome Unit} (bytes : Vector UInt8 register.width.toNat)
      (differs : merge (Bytes.positional bytes.toList).toUInt32 mask value ≠
        (Bytes.positional bytes.toList).toUInt32)
      (others : Carried
        (write register (merge (Bytes.positional bytes.toList).toUInt32 mask value) :: rest) log
        outcome) :
      Carried (update register mask value :: rest)
        (⟨(update register mask value).request, some (.ok bytes)⟩ :: log) outcome

/-- Either everything was granted, or the last exchange alone was not, and that is the outcome. -/
def Settles (log : List Exchange) (outcome : Outcome Unit) : Prop :=
  (outcome = .done () ∧ ∀ exchange ∈ log, exchange.verdict = .done ()) ∨
    ∃ before last, log = before ++ [last] ∧ (∀ exchange ∈ before, exchange.verdict = .done ()) ∧
      last.verdict ≠ .done () ∧ outcome = last.verdict

theorem Settles.cons {log : List Exchange} {outcome : Outcome Unit} {exchange : Exchange}
    (settles : Settles log outcome) (granted : exchange.verdict = .done ()) :
    Settles (exchange :: log) outcome := by
  rcases settles with ⟨done, all⟩ | ⟨before, last, rfl, all, refused, same⟩
  · exact .inl ⟨done, List.forall_mem_cons.mpr ⟨granted, all⟩⟩
  · exact .inr ⟨exchange :: before, last, rfl, List.forall_mem_cons.mpr ⟨granted, all⟩, refused,
      same⟩

namespace Carried

variable {first second : List Step} {log more : List Exchange} {outcome : Outcome Unit}

theorem settles (carried : Carried first log outcome) : Settles log outcome := by
  induction carried with
  | finished => exact .inl ⟨rfl, by simp⟩
  | @stopped _ _ exchange _ refused => exact .inr ⟨[], exchange, rfl, by simp, refused, rfl⟩
  | written _ ih => exact ih.cons rfl
  | unchanged _ _ _ ih => exact ih.cons rfl
  | changed _ _ _ ih => exact ih.cons rfl

theorem append (carried : Carried first log (.done ())) (others : Carried second more outcome) :
    Carried (first ++ second) (log ++ more) outcome := by
  generalize ended : Outcome.done () = whole at carried
  induction carried with
  | finished => exact others
  | stopped _ refused => exact absurd ended.symm refused
  | written _ ih => exact .written (ih ended)
  | unchanged bytes same _ ih => exact .unchanged bytes same (ih ended)
  | changed bytes differs _ ih => exact .changed bytes differs (ih ended)

end Carried

variable {map : RegisterMap} {register : Register} {mask value : UInt32}

theorem write_recorded (direct : register.IsDirect) :
    (RegisterMap.write register value).Ends host.recording map (world, past)
      fun outcome after left => after = map ∧
        ∃ reply, left.2 = past ++ [⟨(Step.write register value).request, reply⟩] ∧
          outcome = .ofReply reply := by
  obtain ⟨width, direct⟩ := direct
  unfold RegisterMap.write
  rw [ends_bind, RegisterMap.ends_checkWidth width]
  simp only [followed]
  rw [ends_bind, RegisterMap.ends_selectPage_of_direct direct]
  simp only [followed]
  rw [ends_bind, ends_note]
  simp only [followed]
  rw [RegisterMap.send_eq width, ends_onError, RegisterMap.busOffset_of_direct direct]
  refine writeBlock_recorded.mono ?_
  intro outcome after left ended
  cases outcome with
  | done _ => exact ended
  | failed error => exact ended
  | aborted => exact ended

theorem read_recorded (direct : register.IsDirect) :
    (RegisterMap.read register).Ends host.recording map (world, past)
      fun outcome after left => after = map ∧
        ∃ reply : Option (Except Error (Vector UInt8 register.width.toNat)),
          left.2 = past ++ [⟨.read register.offset register.width.toNat, reply⟩] ∧
            outcome = .ofReply (reply.map fun reply =>
              reply.map fun bytes => (Bytes.positional bytes.toList).toUInt32) := by
  obtain ⟨width, direct⟩ := direct
  unfold RegisterMap.read
  rw [ends_bind, RegisterMap.ends_checkWidth width]
  simp only [followed]
  rw [ends_bind, RegisterMap.ends_selectPage_of_direct direct]
  simp only [followed]
  rw [ends_onError, RegisterMap.ends_receive width, RegisterMap.busOffset_of_direct direct]
  refine readBlock_recorded.mono ?_
  intro outcome after left ended
  obtain ⟨same, reply, logged, rfl⟩ := ended
  rcases reply with _ | error | bytes
  · exact ⟨same, none, logged, rfl⟩
  · exact ⟨same, some (.error error), logged, rfl⟩
  · exact ⟨same, some (.ok bytes), logged, rfl⟩

namespace Step

end Step

end IspDriver
