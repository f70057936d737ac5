import EditorAnalysis.Scenario.Play

/-!
# Transcripts

The transcript of a scenario has an entry for every step of its client: the answer, what was completed
and logged since the entry before, and the state of the scheduler once it has settled.
-/

namespace EditorAnalysis

namespace Scenario

/-- What a scheduler shows of its state. -/
structure StateView where
  stats : Stats
  active : Option SourceId
  recent : Option (RecentResult String)
  down : Bool
  /-- The scheduler is busy; not shown once it was shut down. -/
  busy : Option Bool

/-- The entry of one step. -/
structure Entry where
  reply : Reply
  /-- The requests completed since the entry before, ordered by tag. -/
  completed : List (Tag × Outcome String)
  /-- The analyzer calls logged since the entry before. -/
  calls : List CallEntry
  /-- The callbacks logged since the entry before. -/
  callbacks : List CallbackEntry
  /-- The state of the scheduler, unless it was given up. -/
  state : Option StateView

end Scenario

open Scenario in
/-- A scripted session with one scheduler. -/
structure Scenario where
  config : Config
  /-- The reasons for which the analyzer takes the recent result, if not the usual ones. -/
  sufficient : Option (List Reason)
  /-- The posts, counted from zero, at which the dispatcher raises an exception. -/
  trips : List Nat
  steps : List Step

namespace Scenario

/-- What a scheduler shows of its state. -/
def stateView (scheduler : ScriptedScheduler) : StateView where
  stats := scheduler.stats
  active := scheduler.cache.active
  recent := scheduler.cache.slot
  down := scheduler.isShutDown
  busy := if scheduler.isShutDown then none else some scheduler.isBusy

namespace World

/-- The outcome of a tracked request that was not reported yet. -/
def unreported (world : World) (tracked : TrackedHandle) : Option (Outcome String) :=
  if tracked.reported then none else (world.cell tracked.handle.id).outcome

/-- The entry for an answer, and the world with everything in it reported. -/
def report (reply : Reply) (world : World) : Entry × World :=
  let entry := {
    reply
    completed := world.handles.filterMap fun (tag, tracked) =>
      (world.unreported tracked).map fun outcome => (tag, outcome)
    calls := world.calls.reverse
    callbacks := world.callbacks.reverse
    state := if world.held then some (stateView world.scheduler) else none }
  let handles := world.handles.map fun (tag, tracked) =>
    (tag, { tracked with reported := (world.cell tracked.handle.id).isComplete })
  (entry, { world with calls := [], callbacks := [], handles })

end World

/-- The world before the first step. -/
def world (scenario : Scenario) : World where
  scheduler :=
    let sufficient := match scenario.sufficient with
      | none => Reason.reusesRecentResult
      | some reasons => fun reason => reasons.contains reason
    .new scenario.config sufficient
  trips := scenario.trips

/-- A number of nested actions that is never reached. -/
def bound (scenario : Scenario) : Nat := 32 * (stepsWeight scenario.steps + 4)

/-- One step of the client, after which the scheduler settles. -/
def advance (bound : Nat) (step : Step) (world : World) : Entry × World :=
  let (reply, performed) := (perform bound .caller step).run world
  let ((), settled) := (settle bound).run performed
  settled.report reply

/-- The entries of steps carried out one after the other. -/
def entries (bound : Nat) (world : World) : List Step → List Entry
  | [] => []
  | step :: rest =>
      let (entry, next) := advance bound step world
      entry :: entries bound next rest

/-- The transcript of a scenario. -/
def transcript (scenario : Scenario) : List Entry :=
  entries scenario.bound scenario.world scenario.steps

end Scenario

end EditorAnalysis
