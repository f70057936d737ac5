import EditorAnalysis.Request

/-!
# Scripts

A scenario is a scripted session with a scheduler. `Step` is one thing the client does. A submission
carries two scripts of its own: the `Act` of the analyzer on that request, and the `Reaction` of the
callback to its completion. Both may hold further steps, so that the analyzer and the callbacks can
call back in.
-/

namespace EditorAnalysis.Scenario

/-- What the scripted analyzer comes to in the end. -/
inductive Answer where
  /-- A result with a payload. -/
  | result
  /-- A result without a payload. -/
  | empty
  /-- An aborted analysis. -/
  | decline
  | fail
  /-- The failure of not knowing the source. -/
  | unknownSource
  /-- Giving up on cancellation. -/
  | giveUp
  /-- An exception that carries a text. -/
  | fault
  /-- An exception that carries a number. -/
  | numberFault
  deriving DecidableEq, Repr

/-- The version that a scripted result is given. -/
inductive ResultVersion where
  /-- The version the request was submitted against. -/
  | ofRequest
  /-- The version of the buffer when the analyzer ends. -/
  | ofBuffer
  | given (version : Version)
  deriving DecidableEq, Repr

/-- The script of the analyzer for one request, in the order of its fields. -/
structure Act (Step : Type) where
  /-- It waits at a gate, if the worker's loop called it. -/
  holds : Bool := false
  /-- At the gate it also wakes up when the request is cancelled. -/
  wakesOnCancel : Bool := false
  /-- What it then comes to. -/
  onCancel : Answer := .giveUp
  sleepMs : Nat := 0
  /-- It carries out steps, if it has any to carry out. -/
  during : Option (List Step) := none
  version : ResultVersion := .ofRequest
  /-- The payload of its result, if not the usual one. -/
  payload : Option String := none
  answer : Answer := .result

/-- The script of a callback: it is logged, carries out its steps and may raise an exception. -/
structure Reaction (Step : Type) where
  /-- The log entry has a description of the request. -/
  describes : Bool := false
  /-- It carries out steps, if it has any to carry out. -/
  steps : Option (List Step) := none
  faults : Bool := false

/-- When the scripted version source raises an exception. -/
inductive VersionFaults where
  | never
  /-- When asked on the worker thread. -/
  | onWorker
  | always
  deriving DecidableEq, Repr

/-- The number by which a script knows a request. -/
abbrev Tag := Nat

/-- One thing the client of a scheduler does. -/
inductive Step where
  | submit (tag : Tag) (source : SourceId) (position : Position) (reason : Reason)
      (synchronous requireFresh : Bool) (act : Act Step) (reaction : Option (Reaction Step))
  /-- Lets the idle loop tick, so many milliseconds after the last edit. -/
  | idle (tag : Tag) (source : SourceId) (position : Position) (needsRefresh : Bool) (quietMs : Int)
      (reportsRemaining : Bool) (act : Act Step) (reaction : Option (Reaction Step))
  | setVersion (source : SourceId) (version : Version)
  /-- Sets when the version source raises an exception. -/
  | setVersionFaults (faults : VersionFaults)
  /-- Makes another document the active one, or none. -/
  | setActive (source : Option SourceId)
  /-- Opens the gate of the analyzer call that is held; with a tag, from another thread while this one
  waits for that request. -/
  | release (waitOn : Option Tag)
  | pump
  | pumpNext
  | dropPump
  /-- Sees to it that the worker runs. -/
  | start
  | shutdown
  | drop
  | inspect (tag : Tag)
  /-- Waits for a request so many milliseconds. -/
  | wait (tag : Tag) (millis : Nat)
  /-- Waits for a request as long as the settings suggest. -/
  | waitBounded (tag : Tag)
  | poll (tag : Tag)
  | describe
  | readConfig
  /-- Compares the duration of the last idle check with a number of milliseconds. -/
  | lastCompletionAtLeast (millis : UInt64)

/-- The snapshot of a scripted request: the script of the analyzer. -/
structure Task where
  tag : Tag
  act : Act Step

/-- The callback of a scripted request. -/
structure TaggedReaction where
  tag : Tag
  reaction : Reaction Step

mutual

/-- The number of steps in a step, itself and those of its scripts. -/
def Step.weight : Step → Nat
  | .submit _ _ _ _ _ _ act reaction => 1 + actWeight act + reactionWeight reaction
  | .idle _ _ _ _ _ _ act reaction => 1 + actWeight act + reactionWeight reaction
  | _ => 1

/-- The number of steps in the script of an analyzer. -/
def actWeight : Act Step → Nat
  | ⟨_, _, _, _, during, _, _, _⟩ => optionWeight during

/-- The number of steps in the script of a callback. -/
def reactionWeight : Option (Reaction Step) → Nat
  | none => 0
  | some ⟨_, steps, _⟩ => optionWeight steps

/-- The number of steps in a list that may be missing. -/
def optionWeight : Option (List Step) → Nat
  | none => 0
  | some steps => stepsWeight steps

/-- The number of steps in a list of steps. -/
def stepsWeight : List Step → Nat
  | [] => 0
  | step :: rest => step.weight + stepsWeight rest

end

end EditorAnalysis.Scenario
