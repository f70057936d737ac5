/-!
# Scheduling lanes

Queued work runs in one of two lanes. Interactive work answers an explicit gesture of the user and
makes everything queued before it obsolete. Background work is speculative (idle checks, reparses)
and only ever trails interactive work.
-/

namespace EditorAnalysis

/-- The two lanes of queued work. -/
inductive Lane where
  /-- Latency-sensitive work that directly affects what the user sees. -/
  | interactive
  /-- Speculative work that a newer submission may replace. -/
  | background
  deriving DecidableEq, Repr, Inhabited

namespace Lane

/-- Both lanes, in the order of their urgency. -/
def all : List Lane := [.interactive, .background]

/-- The name of a lane in reports. -/
def name : Lane → String
  | .interactive => "interactive"
  | .background => "background"

end Lane

/-- Items that belong to a lane for as long as they are queued. -/
class HasLane (Item : Type) where
  lane : Item → Lane

export HasLane (lane)

end EditorAnalysis
