import IspDriver.Proofs.Register.Script
import Mathlib.Data.List.Destutter
import Mathlib.Data.List.ReduceOption

/-!
The pages that a sequence of accesses selects, on any bus that grants the selections; other
requests may fail, or find nobody there. A page is selected where the accesses turn to it, and not
again while they stay with it, unless the map has been told to forget it.
-/

namespace IspDriver

open Routine
open RegisterMap (busBytes)

/-- The page that has to be selected for a register. -/
def Register.page? (register : Register) : Option UInt32 :=
  if register.isPaged then some register.page else none

/-- Something to do with a register map. -/
inductive MapCall where
  | read (register : Register)
  | write (register : Register) (value : UInt32)
  | forgetPage
deriving DecidableEq, Repr

namespace MapCall

def perform {σ : Type} : MapCall → Access σ Unit
  | read register => do
      let _ ← RegisterMap.read register
      return ()
  | write register value => RegisterMap.write register value
  | forgetPage => RegisterMap.forgetPage

/-- What an access asks of the bus on its own account; only some widths get there. -/
def request? : MapCall → Option Request
  | read register =>
      if register.width = 2 ∨ register.width = 4 then
        some (.read register.busOffset register.width.toNat)
      else none
  | write register value =>
      if register.width = 2 ∨ register.width = 4 then
        some (.write register.busOffset (busBytes register value))
      else none
  | forgetPage => none

/-- The page that an access needs. -/
def page? : MapCall → Option UInt32
  | read register | write register _ =>
      if register.width = 2 ∨ register.width = 4 then register.page? else none
  | forgetPage => none

/-- The page that is remembered after a call. -/
def leaves (shown : Option UInt32) (call : MapCall) : Option UInt32 :=
  if call = forgetPage then none else call.page?.or shown

end MapCall

/-- The request that selects a page. -/
def selection (page : UInt32) : Request :=
  .write Layout.pageSelect.offset (Bytes.ofUInt32 page)

/-- What a call asks of the host if it selects the page first. -/
def MapCall.requests (call : MapCall) (page? : Option UInt32) : List Request :=
  page?.toList.map selection ++ call.request?.toList

/-- The host lets every page be selected. -/
def GrantsSelections {σ : Type} (host : Host σ) : Prop :=
  ∀ register : Register, register.isPaged = true → ∀ world,
    (host.answer (selection register.page) world).1 = some (.ok ())

/-- What each call asks of the host, whatever comes of it. -/
def requestsOfEach {σ : Type} (host : Host σ) :
    List MapCall → RegisterMap → σ → List (List Request)
  | [], _, _ => []
  | call :: rest, map, world =>
      let (_, after, left, log) := call.perform host.recording map (world, [])
      log.map Exchange.request :: requestsOfEach host rest after left

/-- The pages of the accesses, but none that is the page before it; a map that is told to forget
starts over. -/
def duePages (calls : List MapCall) : List UInt32 :=
  (calls.splitOn .forgetPage).flatMap fun run =>
    (run.filterMap MapCall.page?).destutter (· ≠ ·)

/-- The page to select for one that is needed, while another may be shown. -/
def selected (shown needed : Option UInt32) : Option UInt32 :=
  if needed = shown then none else needed

/-- The log has grown from `past` by these requests. -/
def Grows (past : List Exchange) (requests : List Request) (log : List Exchange) : Prop :=
  ∃ more, log = past ++ more ∧ more.map Exchange.request = requests

theorem grows_nothing (past : List Exchange) : Grows past [] past :=
  ⟨[], (List.append_nil past).symm, rfl⟩

theorem Grows.append {past log later : List Exchange} {first second : List Request}
    (asks : Grows past first log) (others : Grows log second later) :
    Grows past (first ++ second) later := by
  obtain ⟨more, rfl, rfl⟩ := asks
  obtain ⟨others, rfl, rfl⟩ := others
  exact ⟨more ++ others, List.append_assoc .., List.map_append⟩

/-- What a call makes of the remembered page and of the log. -/
def MapCall.Selects (call : MapCall) (shown : Option UInt32) (past : List Exchange)
    (remembered : Option UInt32) (log : List Exchange) : Prop :=
  remembered = call.leaves shown ∧ Grows past (call.requests (selected shown call.page?)) log

variable {σ α : Type} {host : Host σ} {map : RegisterMap} {world : σ} {past : List Exchange}
  {register : Register} {value : UInt32} {request : Request}

theorem writeBlock_granted {offset : UInt16} {data : List UInt8}
    (granted : (host.answer (.write offset data) world).1 = some (.ok ())) :
    (Host.writeBlock offset data).Gives host.recording map (world, past) fun _ _ left =>
      Grows past [.write offset data] left.2 := by
  unfold Host.writeBlock
  refine ends_bind.mpr (ends_ask.mpr ?_)
  rw [answer_recorded, granted]
  exact ⟨_, rfl, rfl⟩

theorem selectPage_selects (grants : GrantsSelections host) :
    (RegisterMap.selectPage register).Gives host.recording map (world, past)
      fun _ after left => after.page? = register.page?.or map.page? ∧
        Grows past ((selected map.page? register.page?).toList.map selection) left.2 := by
  unfold RegisterMap.selectPage selected
  refine ends_bind.mpr (ends_state.mpr ?_)
  simp only [followed]
  by_cases paged : register.isPaged = true
  · have needed : register.page? = some register.page := if_pos paged
    rw [needed]
    by_cases shown : map.page? = some register.page
    · rw [if_pos (by simp [shown]), if_pos shown.symm]
      exact ⟨shown, grows_nothing past⟩
    · rw [if_neg (by simp [paged, shown]), if_neg (Ne.symm shown)]
      refine Gives.bind (writeBlock_granted (grants register paged world)).onError ?_
      intro _ after left asks
      exact ⟨rfl, asks⟩
  · have needless : register.page? = none := if_neg paged
    rw [if_pos (by simp [paged]), needless, ite_self]
    exact ⟨rfl, grows_nothing past⟩

/-- An access of a width that does not get to the bus asks for nothing. Any other asks for its page,
unless that is shown, and then for what it is after, even when nothing comes of that. -/
theorem access_selects {call : MapCall} {routine : Access (σ × List Exchange) α}
    (grants : GrantsSelections host) (access : call ≠ .forgetPage)
    (page : call.page? = if register.width = 2 ∨ register.width = 4 then register.page? else none)
    (own : call.request? = if register.width = 2 ∨ register.width = 4 then some request else none)
    (asks : register.width = 2 ∨ register.width = 4 → ∀ map world past,
      routine.Ends host.recording map (world, past) fun _ after left =>
        after = map ∧ Grows past [request] left.2) :
    (RegisterMap.checkWidth register >>= fun _ =>
        RegisterMap.selectPage register >>= fun _ => routine).Ends host.recording map (world, past)
      fun _ after left => call.Selects map.page? past after.page? left.2 := by
  by_cases width : register.width = 2 ∨ register.width = 4
  · rw [ends_bind, RegisterMap.ends_checkWidth width]
    simp only [followed]
    rw [if_pos width] at page own
    refine (selectPage_selects grants).bind ?_
    intro _ between left ended
    obtain ⟨remembered, selects⟩ := ended
    refine (asks width between left.1 left.2).mono ?_
    intro outcome after final ended
    obtain ⟨rfl, asks⟩ := ended
    refine ⟨by rw [MapCall.leaves, if_neg access, page, remembered], ?_⟩
    rw [MapCall.requests, page, own]
    exact selects.append asks
  · rw [if_neg width] at page own
    have refused : (RegisterMap.checkWidth register : Access (σ × List Exchange) Unit) =
        refuse (.registerWidth register) := if_neg width
    rw [refused]
    constructor
    · rw [MapCall.leaves, if_neg access, page]
      rfl
    · rw [MapCall.requests, page, own, selected, ite_self]
      exact grows_nothing past

theorem readBlock_asks {offset : UInt16} {count : Nat} :
    (Host.readBlock offset count).Ends host.recording map (world, past) fun _ after left =>
      after = map ∧ Grows past [.read offset count] left.2 := by
  refine readBlock_recorded.mono ?_
  intro outcome after left ended
  obtain ⟨same, reply, logged, -⟩ := ended
  exact ⟨same, _, logged, rfl⟩

theorem writeBlock_asks {offset : UInt16} {data : List UInt8} :
    (Host.writeBlock offset data).Ends host.recording map (world, past) fun _ after left =>
      after = map ∧ Grows past [.write offset data] left.2 := by
  refine writeBlock_recorded.mono ?_
  intro outcome after left ended
  obtain ⟨same, reply, logged, -⟩ := ended
  exact ⟨same, _, logged, rfl⟩

theorem ends_noted {routine : Access (σ × List Exchange) α} {level : Level} {text : Error → String}
    (asks : routine.Ends host.recording map (world, past) fun _ after left =>
      after = map ∧ Grows past [request] left.2) :
    (routine.onError fun error => note level (text error)).Ends host.recording map (world, past)
      fun _ after left => after = map ∧ Grows past [request] left.2 := by
  refine ends_onError.mpr (asks.mono ?_)
  intro outcome after left ended
  cases outcome with
  | done value => exact ended
  | failed error => exact ended
  | aborted => exact ended

theorem read_selects (grants : GrantsSelections host) :
    (RegisterMap.read register).Ends host.recording map (world, past) fun _ after left =>
      (MapCall.read register).Selects map.page? past after.page? left.2 := by
  refine access_selects grants nofun rfl rfl fun width map world past => ends_noted ?_
  rw [RegisterMap.ends_receive width]
  refine readBlock_asks.mono ?_
  intro outcome after left ended
  cases outcome with
  | done bytes => exact ended
  | failed error => exact ended
  | aborted => exact ended

theorem write_selects (grants : GrantsSelections host) :
    (RegisterMap.write register value).Ends host.recording map (world, past) fun _ after left =>
      (MapCall.write register value).Selects map.page? past after.page? left.2 := by
  refine access_selects grants nofun rfl rfl fun width map world past => ?_
  rw [ends_bind, ends_note]
  simp only [followed]
  rw [RegisterMap.send_eq width]
  exact ends_noted writeBlock_asks

theorem perform_selects (grants : GrantsSelections host) (call : MapCall) :
    call.perform.Ends host.recording map (world, past) fun _ after left =>
      call.Selects map.page? past after.page? left.2 := by
  cases call with
  | read register =>
      refine ends_bind.mpr ((read_selects grants).mono ?_)
      intro outcome after left ended
      cases outcome with
      | done value => exact ended
      | failed error => exact ended
      | aborted => exact ended
  | write register value => exact write_selects grants
  | forgetPage =>
      refine ⟨rfl, ?_⟩
      rw [MapCall.requests, MapCall.page?, selected, ite_self]
      exact grows_nothing past

/-- The page that each call selects, from the page that is shown to begin with. -/
def selections : Option UInt32 → List MapCall → List (Option UInt32)
  | _, [] => []
  | shown, call :: rest => selected shown call.page? :: selections (call.leaves shown) rest

theorem requestsOfEach_eq {σ : Type} {host : Host σ} (grants : GrantsSelections host)
    (calls : List MapCall) (map : RegisterMap) (world : σ) :
    requestsOfEach host calls map world =
      List.zipWith MapCall.requests calls (selections map.page? calls) := by
  induction calls generalizing map world with
  | nil => rfl
  | cons call rest ih =>
      have ended := @perform_selects _ _ map world [] grants call
      unfold Ends at ended
      unfold requestsOfEach
      generalize call.perform host.recording map (world, []) = run at ended
      obtain ⟨outcome, after, left, log⟩ := run
      obtain ⟨remembered, more, rfl, asks⟩ := ended
      simp only
      rw [asks, ih, remembered]
      rfl

theorem selections_needed (shown : Option UInt32) (calls : List MapCall) :
    List.Forall₂ (fun call page? => ∀ page ∈ page?, call.page? = some page) calls
      (selections shown calls) := by
  induction calls generalizing shown with
  | nil => exact .nil
  | cons call rest ih =>
      refine .cons ?_ (ih _)
      intro page chosen
      unfold selected at chosen
      split at chosen
      · cases chosen
      · exact chosen

theorem selections_take (shown : Option UInt32) (calls : List MapCall) (count : Nat) :
    (selections shown calls).take count = selections shown (calls.take count) := by
  induction calls generalizing shown count with
  | nil => simp [selections]
  | cons call rest ih =>
      cases count with
      | zero => rfl
      | succ count => simp [selections, ih]

/-- The pages without those that are shown already. -/
def turns : Option UInt32 → List UInt32 → List UInt32
  | _, [] => []
  | shown, page :: rest =>
      if some page = shown then turns shown rest else page :: turns (some page) rest

theorem destutter'_eq_turns (page : UInt32) (pages : List UInt32) :
    pages.destutter' (· ≠ ·) page = page :: turns (some page) pages := by
  induction pages generalizing page with
  | nil => rfl
  | cons next rest ih =>
      by_cases same : next = page
      · subst same
        rw [List.destutter'_cons_neg _ (by simp), ih, turns, if_pos rfl]
      · rw [List.destutter'_cons_pos _ (Ne.symm same), ih, turns, if_neg (by simpa using same)]

theorem turns_none (pages : List UInt32) : turns none pages = pages.destutter (· ≠ ·) := by
  cases pages with
  | nil => rfl
  | cons page rest => rw [List.destutter_cons', destutter'_eq_turns, turns, if_neg (by simp)]

/-- What is due when a page is shown to begin with. -/
def dueFrom (shown : Option UInt32) : List (List MapCall) → List UInt32
  | [] => []
  | run :: others =>
      turns shown (run.filterMap MapCall.page?) ++
        others.flatMap fun run => (run.filterMap MapCall.page?).destutter (· ≠ ·)

theorem dueFrom_none (runs : List (List MapCall)) :
    dueFrom none runs =
      runs.flatMap fun run => (run.filterMap MapCall.page?).destutter (· ≠ ·) := by
  cases runs with
  | nil => rfl
  | cons run others => rw [dueFrom, turns_none, List.flatMap_cons]

theorem selections_due (shown : Option UInt32) (calls : List MapCall) :
    (selections shown calls).reduceOption = dueFrom shown (calls.splitOn .forgetPage) := by
  induction calls generalizing shown with
  | nil => simp [selections, dueFrom, turns]
  | cons call rest ih =>
      rw [selections, List.splitOn_cons_eq_if_modifyHead]
      by_cases forgets : call = .forgetPage
      · subst forgets
        have idle : selected shown (MapCall.page? .forgetPage) = none := ite_self none
        rw [idle, List.reduceOption_cons_of_none, ih, if_pos (by simp)]
        simp only [dueFrom, List.filterMap_nil, turns, List.nil_append]
        exact dueFrom_none _
      · rw [if_neg (by simpa using forgets)]
        obtain ⟨run, others, runs⟩ := List.exists_cons_of_ne_nil
          (List.splitOn_ne_nil MapCall.forgetPage rest)
        have remembers : call.leaves shown = call.page?.or shown := if_neg forgets
        rw [runs] at ih ⊢
        rw [List.modifyHead_cons, dueFrom, List.filterMap_cons, remembers]
        cases needed : call.page? with
        | none =>
            have idle : selected shown none = none := ite_self none
            rw [idle, List.reduceOption_cons_of_none, ih, Option.none_or, dueFrom]
        | some page =>
            rw [selected, turns, Option.some_or]
            split
            · next same => rw [List.reduceOption_cons_of_none, ih, ← same, dueFrom]
            · rw [List.reduceOption_cons_of_some, ih, dueFrom, List.cons_append]

/-- On a bus that lets every page be selected, every call asks for its page, if it does, and then
for what it is after. The pages that are selected are those that are due, and none is late: they are
those after any number of calls. -/
theorem selections_minimal {σ : Type} {host : Host σ} (grants : GrantsSelections host)
    (calls : List MapCall) (world : σ) :
    ∃ pages : List (Option UInt32),
      requestsOfEach host calls {} world = List.zipWith MapCall.requests calls pages ∧
        List.Forall₂ (fun call page? => ∀ page ∈ page?, call.page? = some page) calls pages ∧
        ∀ count, (pages.take count).reduceOption = duePages (calls.take count) := by
  refine ⟨selections none calls, requestsOfEach_eq grants calls {} world,
    selections_needed none calls, ?_⟩
  intro count
  rw [selections_take, selections_due, dueFrom_none]
  rfl

/-- A host that lets every page be selected, and has nothing else to offer. -/
def selectionsOnly : Host Unit where
  answer
    | .write offset _ => fun world =>
        (some (if offset = Layout.pageSelect.offset then .ok ()
          else .error (.transfer .timedOut "no answer")), world)
    | .read _ _ => fun world => (some (.error (.transfer .timedOut "no answer")), world)
    | _ => fun world => (none, world)
  note _ world := world

/-- Between accesses to two pages, a direct one and one of a width that no register has. -/
def strayingCalls : List MapCall :=
  [.read (.of32 0x00420008), .read (.of16 0x0002), .write (.ofWidth 1 0x00490040) 1,
    .write (.of16 0x0042000c) 7, .read (.of32 0x00490040), .forgetPage, .read (.of32 0x00490044),
    .read (.of32 0x00490040), .write (.of32 0x00420008) 0]

theorem selections_minimal_straying :
    GrantsSelections selectionsOnly ∧
      ∃ pages : List (Option UInt32),
        requestsOfEach selectionsOnly strayingCalls {} () =
            List.zipWith MapCall.requests strayingCalls pages ∧
          (pages.take 9).reduceOption = [0x00420000, 0x00490000, 0x00490000, 0x00420000] := by
  have grants : GrantsSelections selectionsOnly := fun _ _ _ => rfl
  obtain ⟨pages, made, -, due⟩ := selections_minimal grants strayingCalls ()
  exact ⟨grants, pages, made, (due 9).trans (by decide +kernel)⟩

end IspDriver
