/-!
# Waiting with a deadline

A thread that waits for something guarded by a lock looks at it, parks if it is not there, and looks
again whenever it is woken, for a reason or without one. When its deadline passes it looks one last
time. `TimedWait` is the state of such a thread; every look is one section under the lock, so that
other threads act only between looks.
-/

namespace EditorAnalysis

/-- A thread waiting, up to a deadline, for a value. -/
inductive TimedWait (Value : Type) where
  /-- About to look; after the deadline this is the last look. -/
  | looking (last : Bool)
  /-- Parked until it is woken or its deadline passes. -/
  | parked
  /-- Done, with the value if it was there at some look. -/
  | done (value : Option Value)
  deriving DecidableEq, Repr

namespace TimedWait

variable {Value : Type}

/-- A wait that has not looked yet. -/
def begin : TimedWait Value := .looking false

/-- One look, at which the value is there or not. -/
def look (found : Option Value) : TimedWait Value → TimedWait Value
  | .looking last =>
      match found with
      | some value => .done (some value)
      | none => if last then .done none else .parked
  | wait => wait

/-- The thread is woken before its deadline, perhaps for no reason. -/
def wake : TimedWait Value → TimedWait Value
  | .parked => .looking false
  | wait => wait

/-- The deadline passes. -/
def expire : TimedWait Value → TimedWait Value
  | .parked => .looking true
  | wait => wait

/-- The value a finished wait returned; `none` also while it is not finished. -/
def result : TimedWait Value → Option Value
  | .done value => value
  | _ => none

end TimedWait

end EditorAnalysis
