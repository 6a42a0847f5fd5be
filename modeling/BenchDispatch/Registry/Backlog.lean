import BenchDispatch.Record.Basic
/-!
# The backlog

While a target is busy, the newest request for it waits here, one per target. A request offered
for a target replaces the waiting one unless the waiting one is strictly newer; among requests
with the same timestamp the last offered wins. Draining a target hands its request over and
leaves the target without one.
-/

set_option autoImplicit false

namespace BenchDispatch

/-- At most one waiting request per target, kept as target and request pairs. -/
structure Backlog where
  entries : List (BuildTarget × BuildRequest)
  deriving Inhabited

namespace Backlog

/-- The backlog with nothing waiting. -/
def empty : Backlog := ⟨[]⟩

/-- The request waiting for a target. -/
def peek (backlog : Backlog) (target : BuildTarget) : Option BuildRequest :=
  (backlog.entries.find? (·.1 == target)).map (·.2)

/-- The backlog without the target's entry. -/
def erase (backlog : Backlog) (target : BuildTarget) : Backlog :=
  ⟨backlog.entries.filter (·.1 != target)⟩

/-- The backlog with the request waiting for the target in place of any other. -/
def put (backlog : Backlog) (target : BuildTarget) (request : BuildRequest) : Backlog :=
  ⟨(backlog.erase target).entries ++ [(target, request)]⟩

/-- Offers a request for a target: it waits from now on, and the answer is true, unless the
waiting request is strictly newer. -/
def offer (backlog : Backlog) (target : BuildTarget) (request : BuildRequest) : Bool × Backlog :=
  match backlog.peek target with
  | some held =>
    if held.timestamp.isAfter request.timestamp then (false, backlog)
    else (true, backlog.put target request)
  | none => (true, backlog.put target request)

/-- Takes the target's waiting request out. -/
def drain (backlog : Backlog) (target : BuildTarget) : Option BuildRequest × Backlog :=
  (backlog.peek target, backlog.erase target)

/-- The number of targets with a waiting request. -/
def size (backlog : Backlog) : Nat :=
  backlog.entries.length

end Backlog

end BenchDispatch
