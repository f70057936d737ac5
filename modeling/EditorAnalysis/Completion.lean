import EditorAnalysis.Analysis
import EditorAnalysis.Latch

/-!
# Completions

A completion is the write-once cell shared by a request and the handles on it. Only the first outcome
is recorded; after it the latch is set, for threads that wait with a deadline, and an announcement is
made, for those who watch. A `Watch` is the state of one such watcher, which is polled: it registers
for announcements before it looks at the outcome, so that none slips between the look and the parking.
-/

namespace EditorAnalysis

variable {Output : Type}

/-- The write-once cell of an outcome. -/
structure Completion (Output : Type) where
  outcome : Option (Outcome Output) := none
  /-- The latch for threads that wait with a deadline. -/
  latch : Latch := {}
  /-- The number of announcements made. -/
  announcements : Nat := 0
  deriving DecidableEq, Repr

namespace Completion

/-- The cell without an outcome. -/
def pending : Completion Output := {}

/-- There is an outcome. -/
def isComplete (cell : Completion Output) : Bool := cell.outcome.isSome

/-- Records the outcome, if it is the first. -/
def record (outcome : Outcome Output) (cell : Completion Output) : Completion Output :=
  { cell with outcome := some (cell.outcome.getD outcome) }

/-- Lets the threads through that wait with a deadline. -/
def release (cell : Completion Output) : Completion Output :=
  { cell with latch := cell.latch.set }

/-- Wakes every watcher registered so far. -/
def announce (cell : Completion Output) : Completion Output :=
  { cell with announcements := cell.announcements + 1 }

/-- Ends the request with an outcome; a second outcome has no effect. -/
def finish (outcome : Outcome Output) (cell : Completion Output) : Completion Output :=
  if cell.isComplete then cell else ((cell.record outcome).release).announce

/-- A wait with a deadline during which nobody else acts. -/
def waitTimeout (cell : Completion Output) : Bool := cell.latch.waitTimeout

end Completion

/-- One watcher of a completion. -/
inductive Watch (Output : Type) where
  | unpolled
  /-- Parked after it registered when the given number of announcements had been made. -/
  | parked (seen : Nat)
  | resolved (outcome : Outcome Output)
  deriving DecidableEq, Repr

namespace Watch

/-- The outcome a watcher resolved with. -/
def outcome? : Watch Output → Option (Outcome Output)
  | .resolved outcome => some outcome
  | _ => none

/-- Registers for announcements and looks at the outcome. -/
def register (cell : Completion Output) : Watch Output :=
  match cell.outcome with
  | some outcome => .resolved outcome
  | none => .parked cell.announcements

/-- One poll. A parked watcher goes on only after an announcement made since it registered. -/
def poll (cell : Completion Output) : Watch Output → Watch Output
  | .unpolled => register cell
  | .parked seen => if seen < cell.announcements then register cell else .parked seen
  | .resolved outcome => .resolved outcome

end Watch

end EditorAnalysis
