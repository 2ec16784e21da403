import IspDriver.Host

/-!
The switches of supplies and of the clock among what a driver exchanged with its host, and what is
on after them. Switching is in order when each resource goes on and off by turns, on first. The
levels of the lines are read off the same exchanges.
-/

namespace IspDriver

inductive Resource where
  | clock
  | supply (consumer name : String)
deriving DecidableEq, Repr

structure Switch where
  resource : Resource
  on : Bool
deriving DecidableEq, Repr

def Resource.turnedOn (resource : Resource) : Switch := ⟨resource, true⟩

def Resource.turnedOff (resource : Resource) : Switch := ⟨resource, false⟩

/-- An enable counts when it succeeds, a disable always. -/
def Exchange.switch? : Exchange → Option Switch
  | ⟨.enableSupply consumer name, some (.ok ())⟩ => some (Resource.supply consumer name).turnedOn
  | ⟨.disableSupply consumer name, _⟩ => some (Resource.supply consumer name).turnedOff
  | ⟨.enableClock, some (.ok ())⟩ => some Resource.clock.turnedOn
  | ⟨.disableClock, _⟩ => some Resource.clock.turnedOff
  | _ => none

def switchesIn (past : List Exchange) : List Switch :=
  past.filterMap Exchange.switch?

/-- The switches of one resource, `true` for on. -/
def Resource.levels (resource : Resource) (switches : List Switch) : List Bool :=
  (switches.filter (·.resource = resource)).map (·.on)

/-- Each differs from the one before it, the first one from `level`. -/
def Alternates : (level : Bool) → List Bool → Prop
  | _, [] => True
  | level, next :: rest => next = !level ∧ Alternates next rest

def Resource.IsOn (resource : Resource) (switches : List Switch) : Prop :=
  (resource.levels switches).getLast? = some true

/-- Switching was in order, and these resources are on. -/
structure Live (switches : List Switch) (live : List Resource) : Prop where
  alternates : ∀ resource : Resource, Alternates false (resource.levels switches)
  isOn_iff : ∀ resource : Resource, resource.IsOn switches ↔ resource ∈ live

variable {switches : List Switch} {resource : Resource} {live : List Resource}

theorem switchesIn_append (past more : List Exchange) :
    switchesIn (past ++ more) = switchesIn past ++ switchesIn more :=
  List.filterMap_append

theorem Resource.levels_append (front back : List Switch) :
    resource.levels (front ++ back) = resource.levels front ++ resource.levels back := by
  rw [levels, List.filter_append, List.map_append]
  rfl

theorem Resource.levels_same (level : Bool) : resource.levels [⟨resource, level⟩] = [level] := by
  simp [levels]

theorem Resource.levels_other {other : Resource} (differ : other ≠ resource) (level : Bool) :
    resource.levels [⟨other, level⟩] = [] := by
  simp [levels, differ]

theorem alternates_concat {level next : Bool} {levels : List Bool}
    (alternates : Alternates level levels) (turned : next = !(levels.getLast?.getD level)) :
    Alternates level (levels ++ [next]) := by
  induction levels generalizing level with
  | nil => exact ⟨turned, trivial⟩
  | cons first rest ih =>
      obtain ⟨differs, others⟩ := alternates
      refine ⟨differs, ih others ?_⟩
      rw [turned, List.getLast?_cons]
      rfl

theorem Live.congr {other : List Resource} (holds : Live switches live)
    (same : ∀ resource, resource ∈ live ↔ resource ∈ other) : Live switches other :=
  ⟨holds.alternates, fun resource => (holds.isOn_iff resource).trans (same resource)⟩

theorem live_nil : Live [] [] :=
  ⟨fun _ => trivial, fun _ => ⟨fun on => (nomatch on), fun member => (nomatch member)⟩⟩

theorem Live.turnOn (holds : Live switches live) (off : resource ∉ live) :
    Live (switches ++ [resource.turnedOn]) (resource :: live) := by
  have wasOff : (resource.levels switches).getLast?.getD false = false := by
    have notOn : ¬ resource.IsOn switches := fun on => off ((holds.isOn_iff resource).mp on)
    unfold Resource.IsOn at notOn
    cases last : (resource.levels switches).getLast? with
    | none => rfl
    | some level =>
        cases level with
        | false => rfl
        | true => exact absurd last notOn
  constructor
  · intro other
    rw [Resource.levels_append]
    by_cases same : resource = other
    · subst same
      rw [Resource.turnedOn, Resource.levels_same]
      exact alternates_concat (holds.alternates resource) (by rw [wasOff]; rfl)
    · rw [Resource.turnedOn, Resource.levels_other same, List.append_nil]
      exact holds.alternates other
  · intro other
    rw [Resource.IsOn, Resource.levels_append, List.mem_cons]
    by_cases same : resource = other
    · subst same
      simp [Resource.turnedOn, Resource.levels_same]
    · rw [Resource.turnedOn, Resource.levels_other same, List.append_nil]
      have others := holds.isOn_iff other
      simp only [Ne.symm same, false_or]
      exact others

theorem Live.turnOff (holds : Live switches (resource :: live)) (once : resource ∉ live) :
    Live (switches ++ [resource.turnedOff]) live := by
  have wasOn : (resource.levels switches).getLast? = some true :=
    (holds.isOn_iff resource).mpr (List.mem_cons_self ..)
  constructor
  · intro other
    rw [Resource.levels_append]
    by_cases same : resource = other
    · subst same
      rw [Resource.turnedOff, Resource.levels_same]
      exact alternates_concat (holds.alternates resource) (by rw [wasOn]; rfl)
    · rw [Resource.turnedOff, Resource.levels_other same, List.append_nil]
      exact holds.alternates other
  · intro other
    rw [Resource.IsOn, Resource.levels_append]
    by_cases same : resource = other
    · subst same
      simp [Resource.turnedOff, Resource.levels_same, once]
    · rw [Resource.turnedOff, Resource.levels_other same, List.append_nil]
      have others := holds.isOn_iff other
      rw [List.mem_cons] at others
      simp only [Ne.symm same, false_or] at others
      exact others

theorem Live.turnAllOff {gone : List Resource} (holds : Live switches (gone ++ live))
    (once : (gone ++ live).Nodup) : Live (switches ++ gone.map Resource.turnedOff) live := by
  induction gone generalizing switches with
  | nil => simpa using holds
  | cons resource rest ih =>
      obtain ⟨fresh, once⟩ := List.nodup_cons.mp once
      have after := ih (holds.turnOff fresh) once
      rwa [List.append_assoc] at after

theorem Resource.levels_turned {turned : List Resource} (level : Bool) :
    resource.levels (turned.map fun other => ⟨other, level⟩) =
      List.replicate (turned.count resource) level := by
  induction turned with
  | nil => rfl
  | cons first rest ih =>
      by_cases same : first = resource
      · subst same
        simpa [levels, List.replicate_succ] using ih
      · simpa [levels, same, List.count_cons] using ih

/-- What is turned on is on. -/
theorem Resource.isOn_turnedOn {turned : List Resource} (member : resource ∈ turned) :
    resource.IsOn (switches ++ turned.map turnedOn) := by
  have on : resource.levels (turned.map turnedOn) =
      List.replicate (turned.count resource) true := levels_turned true
  have some : turned.count resource ≠ 0 := by simpa [List.count_eq_zero] using member
  simp [IsOn, levels_append, on, List.getLast?_append, List.getLast?_replicate, some]

/-- What is turned on and off again is off, and all else as it was. -/
theorem Resource.isOn_turnedBack {turned : List Resource} :
    resource.IsOn (switches ++ (turned.map turnedOn ++ turned.reverse.map turnedOff)) ↔
      resource ∉ turned ∧ resource.IsOn switches := by
  have on : resource.levels (turned.map turnedOn) =
      List.replicate (turned.count resource) true := levels_turned true
  have off : resource.levels (turned.reverse.map turnedOff) =
      List.replicate (turned.reverse.count resource) false := levels_turned false
  rw [List.count_reverse] at off
  rw [IsOn, IsOn, levels_append, levels_append, on, off]
  by_cases member : resource ∈ turned
  · have some : turned.count resource ≠ 0 := by simpa [List.count_eq_zero] using member
    simp [List.getLast?_append, List.getLast?_replicate, some, member]
  · have none : turned.count resource = 0 := List.count_eq_zero.mpr member
    simp [none, member]

/-- Each resource that is turned off in a row has one more switch, the others have none. -/
theorem Resource.levels_turnedOff {gone : List Resource} (once : gone.Nodup) :
    resource.levels (gone.map turnedOff) = if resource ∈ gone then [false] else [] := by
  induction gone with
  | nil => rfl
  | cons first rest ih =>
      obtain ⟨fresh, once⟩ := List.nodup_cons.mp once
      have split : (first :: rest).map turnedOff = [⟨first, false⟩] ++ rest.map turnedOff := rfl
      rw [split, levels_append, ih once]
      by_cases same : first = resource
      · subst same
        simp [levels_same, fresh]
      · simp [levels_other same, Ne.symm same]

/-- The level that a line was given, if it was asked for and the line moved. -/
def Exchange.moved? (line : Line) : Exchange → Option Bool
  | ⟨.setLine other active, some (.ok ())⟩ => if other = line then some active else none
  | _ => none

/-- The level of a line after these exchanges, if it was ever given one. -/
def Line.level? (line : Line) (past : List Exchange) : Option Bool :=
  (past.filterMap (Exchange.moved? line)).getLast?

variable {past : List Exchange} {exchange : Exchange} {line : Line}

theorem Line.level?_concat :
    line.level? (past ++ [exchange]) = (exchange.moved? line).or (line.level? past) := by
  unfold Line.level?
  cases moved : exchange.moved? line with
  | none => simp [moved]
  | some level => simp [moved]

/-- A resource is on if it was just turned on, or was on and was not just turned off. -/
theorem Resource.isOn_concat :
    resource.IsOn (switchesIn (past ++ [exchange])) ↔
      exchange.switch? = some resource.turnedOn ∨
        resource.IsOn (switchesIn past) ∧ exchange.switch? ≠ some resource.turnedOff := by
  cases switched : exchange.switch? with
  | none => simp [switchesIn, switched]
  | some switch =>
      obtain ⟨other, level⟩ := switch
      by_cases same : other = resource
      · subst same
        cases level <;>
          simp [IsOn, switchesIn, switched, levels_append, levels_same, turnedOn, turnedOff]
      · simp [IsOn, switchesIn, switched, levels_append, levels_other same, turnedOn, turnedOff,
          same]

namespace Resource

def enabling : Resource → Request
  | clock => .enableClock
  | supply consumer name => .enableSupply consumer name

def disabling : Resource → Request
  | clock => .disableClock
  | supply consumer name => .disableSupply consumer name

theorem switch?_enabling (reply : Option (Reply resource.enabling)) :
    Exchange.switch? ⟨resource.enabling, reply⟩ = none ∨
      Exchange.switch? ⟨resource.enabling, reply⟩ = some resource.turnedOn := by
  cases resource <;> rcases reply with _ | _ | _ <;> simp [Exchange.switch?, enabling]

theorem switch?_disabling (reply : Option (Reply resource.disabling)) :
    Exchange.switch? ⟨resource.disabling, reply⟩ = some resource.turnedOff := by
  cases resource <;> rfl

@[simp] theorem moved?_enabling (line : Line) (reply : Option (Reply resource.enabling)) :
    Exchange.moved? line ⟨resource.enabling, reply⟩ = none := by
  cases resource <;> rfl

@[simp] theorem moved?_disabling (line : Line) (reply : Option (Reply resource.disabling)) :
    Exchange.moved? line ⟨resource.disabling, reply⟩ = none := by
  cases resource <;> rfl

theorem turnedOn_ne_turnedOff (resource other : Resource) :
    resource.turnedOn ≠ other.turnedOff := by
  simp [turnedOn, turnedOff]

end Resource

end IspDriver
