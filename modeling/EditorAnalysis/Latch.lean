import EditorAnalysis.TimedWait

/-!
# Latches

A latch is an event that stays set, and lets every waiter through, until it is reset by hand.
-/

namespace EditorAnalysis

/-- An event that is set or not. -/
structure Latch where
  /-- The latch lets waiters through. -/
  isSet : Bool := false
  deriving DecidableEq, Repr

namespace Latch

/-- Lets every present and later waiter through. -/
def set (_ : Latch) : Latch := ⟨true⟩

/-- Makes later waiters wait again. -/
def reset (_ : Latch) : Latch := ⟨false⟩

/-- What a waiter finds when it looks. -/
def observe (latch : Latch) : Option Unit :=
  if latch.isSet then some () else none

/-- A timed wait during which nobody else acts: whether the latch was seen set. -/
def waitTimeout (latch : Latch) : Bool :=
  let first := TimedWait.begin.look latch.observe
  (first.expire.look latch.observe).result.isSome

/-- A timed wait during which another thread sets the latch, while the waiter waits or after it has
returned. -/
def waitWhileSetting (latch : Latch) : Bool × Latch :=
  let first := TimedWait.begin.look latch.observe
  let after := latch.set
  ((first.wake.look after.observe).result.isSome, after)

/-- One call on a latch. -/
inductive Command where
  | set
  | reset
  /-- Wait up to a deadline while nobody else acts. -/
  | wait
  /-- Wait while another thread sets the latch. -/
  | waitWhileSetting
  deriving Repr

/-- Carries out one call; a wait answers whether the latch was seen set. -/
def apply (latch : Latch) : Command → Option Bool × Latch
  | .set => (none, latch.set)
  | .reset => (none, latch.reset)
  | .wait => (some latch.waitTimeout, latch)
  | .waitWhileSetting => let (seen, next) := latch.waitWhileSetting; (some seen, next)

/-- Carries out calls one after the other and lists each answer with the latch after it. -/
def history (latch : Latch) : List Command → List (Option Bool × Latch)
  | [] => []
  | command :: rest =>
      let (answer, next) := latch.apply command
      (answer, next) :: next.history rest

end Latch

end EditorAnalysis
