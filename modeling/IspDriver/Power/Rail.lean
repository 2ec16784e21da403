import IspDriver.Host

/-!
Supplies and the order in which they are switched: on in the order given, off in the reverse order,
and off again at once when one of them cannot be switched on.
-/

namespace IspDriver

/-- A claimed supply. -/
structure Rail where
  consumer : String
  name : String
  settleMicroseconds : UInt32
deriving DecidableEq, Repr

namespace Rail

open Routine

variable {σ S : Type}

/-- Disables the rails in the order given. One that refuses does not hold up the others. -/
def disableEach (who : String) : List Rail → Routine σ S Unit
  | [] => done ()
  | rail :: rest => do
      match ← attempt (Host.disableSupply rail.consumer rail.name) with
      | .ok () => done ()
      | .error error =>
          note .warn (s!"Failed to disable {who} supply {rail.name}: " ++ error.message)
      disableEach who rest

/-- Disables rails that were enabled in the order given. -/
def disableAll (who : String) (rails : List Rail) : Routine σ S Unit :=
  disableEach who rails.reverse

/-- Enables rails in order after those in `enabled`, which has the last one in front. On a failure
all that were enabled are disabled. -/
def enableAfter (who : String) (complaint : Rail → String) (enabled : List Rail) :
    List Rail → Routine σ S Unit
  | [] => done ()
  | rail :: rest => do
      onError (Host.enableSupply rail.consumer rail.name) fun error => do
        note .error (complaint rail ++ ": " ++ error.message)
        disableEach who enabled
      Host.wait rail.settleMicroseconds
      enableAfter who complaint (rail :: enabled) rest

def enableAll (who : String) (complaint : Rail → String) (rails : List Rail) : Routine σ S Unit :=
  enableAfter who complaint [] rails

/-- Looks the rails up in order, up to the first that is not there. -/
def findAll (complaint : Rail → String) : List Rail → Routine σ S Unit
  | [] => done ()
  | rail :: rest => do
      onError (Host.findSupply rail.consumer rail.name) fun error =>
        note .error (complaint rail ++ ": " ++ error.message)
      findAll complaint rest

end Rail

end IspDriver
