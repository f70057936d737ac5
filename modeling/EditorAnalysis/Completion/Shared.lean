import EditorAnalysis.Completion

/-!
# Completions between threads

`Completion.finish`, `Completion.waitTimeout` and `Watch.poll` say what a call does while nobody else
acts. Here every call is taken apart into the sections between which other threads act
(`SharedCompletion.Event`). A handle is a reference to the completion, and so is each of its clones: it
makes no difference through which of them a call comes.

An announcement wakes every watcher that registered before it, be it parked by then or not.
-/

namespace EditorAnalysis

variable {Output : Type}

/-- How far a call that ends the request has got. -/
inductive FinishCall (Output : Type) where
  /-- About to record its outcome. -/
  | recording (outcome : Outcome Output)
  /-- It was the first, and is about to set the latch. -/
  | releasing
  /-- About to announce the outcome. -/
  | announcing
  /-- Over, with whether it was the first. -/
  | returned (first : Bool)
  deriving DecidableEq, Repr

namespace FinishCall

/-- The next section of a call. -/
def next (cell : Completion Output) : FinishCall Output → FinishCall Output × Completion Output
  | .recording outcome =>
      if cell.isComplete then (.returned false, cell) else (.releasing, cell.record outcome)
  | .releasing => (.announcing, cell.release)
  | .announcing => (.returned true, cell.announce)
  | .returned first => (.returned first, cell)

/-- The next section is the announcement. -/
def announces : FinishCall Output → Bool
  | .announcing => true
  | _ => false

end FinishCall

/-- A watcher of a completion, amid a poll or between polls. -/
inductive Watcher (Output : Type) where
  | unpolled
  /-- Amid a poll, about to look at the outcome; it registered when the given number of announcements
  had been made. -/
  | registered (seen : Nat)
  /-- Amid a poll, about to park: there was no outcome. -/
  | looked (seen : Nat)
  /-- The poll is over and was pending; the watcher has been woken or not. -/
  | parked (seen : Nat) (woken : Bool)
  /-- The poll is over and was ready. -/
  | resolved (outcome : Outcome Output)
  /-- Given up between polls. -/
  | dropped
  deriving DecidableEq, Repr

namespace Watcher

/-- A poll begins. A parked watcher goes on only after an announcement made since it registered. -/
def poll (cell : Completion Output) : Watcher Output → Watcher Output
  | .unpolled => .registered cell.announcements
  | .parked seen woken =>
      if seen < cell.announcements then .registered cell.announcements else .parked seen woken
  | watcher => watcher

/-- The poll under way goes on. A watcher that found no outcome parks, unless an announcement was made
since it registered. -/
def goOn (cell : Completion Output) : Watcher Output → Watcher Output
  | .registered seen =>
      match cell.outcome with
      | some outcome => .resolved outcome
      | none => .looked seen
  | .looked seen =>
      if seen < cell.announcements then .registered cell.announcements else .parked seen false
  | watcher => watcher

/-- An announcement is made. -/
def wake : Watcher Output → Watcher Output
  | .parked seen _ => .parked seen true
  | watcher => watcher

/-- The watcher is given up, unless a poll is under way. -/
def drop : Watcher Output → Watcher Output
  | .registered seen => .registered seen
  | .looked seen => .looked seen
  | _ => .dropped

/-- The state of a watcher between polls. -/
def watch? : Watcher Output → Option (Watch Output)
  | .unpolled => some .unpolled
  | .parked seen _ => some (.parked seen)
  | .resolved outcome => some (.resolved outcome)
  | _ => none

end Watcher

/-- A completion with the calls on it, each in the order of their beginning. -/
structure SharedCompletion (Output : Type) where
  cell : Completion Output := .pending
  finishes : List (FinishCall Output) := []
  /-- The waits with a deadline. -/
  waits : List (TimedWait Unit) := []
  watchers : List (Watcher Output) := []

namespace SharedCompletion

/-- The completion nobody has called. -/
def fresh : SharedCompletion Output := {}

/-- One section of one thread. -/
inductive Event (Output : Type) where
  /-- A thread begins to end the request with an outcome. -/
  | finish (outcome : Outcome Output)
  /-- The call that ends the request goes on. -/
  | advance (number : Nat)
  /-- A thread begins to wait with a deadline. -/
  | wait
  /-- A wait looks at the latch. -/
  | look (number : Nat)
  /-- A wait is woken, perhaps for no reason. -/
  | wake (number : Nat)
  /-- The deadline of a wait passes. -/
  | expire (number : Nat)
  /-- A watcher is created. -/
  | watch
  /-- A watcher is polled. -/
  | poll (number : Nat)
  /-- The poll of a watcher goes on. -/
  | goOn (number : Nat)
  /-- A watcher is given up. -/
  | drop (number : Nat)
  deriving DecidableEq

variable (shared : SharedCompletion Output)

/-- The call of the given number goes on, and wakes the watchers where it announces the outcome. -/
def advance (number : Nat) : SharedCompletion Output :=
  match shared.finishes[number]? with
  | none => shared
  | some call =>
      let (next, cell) := call.next shared.cell
      { shared with
        cell
        finishes := shared.finishes.set number next
        watchers := if call.announces then shared.watchers.map Watcher.wake else shared.watchers }

/-- The completion after one section. -/
def step : Event Output → SharedCompletion Output
  | .finish outcome => { shared with finishes := shared.finishes ++ [.recording outcome] }
  | .advance number => shared.advance number
  | .wait => { shared with waits := shared.waits ++ [TimedWait.begin] }
  | .look number =>
      { shared with
        waits := shared.waits.modify number (TimedWait.look shared.cell.latch.observe) }
  | .wake number => { shared with waits := shared.waits.modify number TimedWait.wake }
  | .expire number => { shared with waits := shared.waits.modify number TimedWait.expire }
  | .watch => { shared with watchers := shared.watchers ++ [.unpolled] }
  | .poll number =>
      { shared with watchers := shared.watchers.modify number (Watcher.poll shared.cell) }
  | .goOn number =>
      { shared with watchers := shared.watchers.modify number (Watcher.goOn shared.cell) }
  | .drop number => { shared with watchers := shared.watchers.modify number Watcher.drop }

/-- The completion after a run. -/
def after (events : List (Event Output)) : SharedCompletion Output :=
  events.foldl step shared

end SharedCompletion

end EditorAnalysis
