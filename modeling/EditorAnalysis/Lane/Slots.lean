import EditorAnalysis.Lane

/-!
# The two-slot queue

`LaneSlots` holds at most one interactive item, followed by at most one background item. A push into
an empty queue stores the item. An interactive item throws out everything that waits; a background
item replaces a waiting background item, or trails a waiting interactive one. Items thrown out are
handed back, oldest first, so that whoever pushed can conclude them.

`LaneSlots.toList` is the queue as its readers see it, head first.
-/

namespace EditorAnalysis

variable {Item : Type}

/-- What became of a pushed item. -/
inductive PushOutcome where
  /-- The queue was empty; the item is now its sole entry. -/
  | enqueued
  /-- The item waits behind an interactive item. -/
  | trailing
  /-- The item took the place of one or two items. -/
  | coalesced
  deriving DecidableEq, Repr

/-- The result of one push: what became of the item, and what it threw out, oldest first. -/
structure Pushed (Item : Type) where
  outcome : PushOutcome
  /-- The items thrown out, oldest first. -/
  displaced : List Item
  deriving DecidableEq, Repr

/-- A queue of at most two items. -/
structure LaneSlots (Item : Type) where
  /-- The head of the queue. -/
  first : Option Item := none
  /-- The item behind the head. -/
  second : Option Item := none
  deriving DecidableEq, Repr

namespace LaneSlots

/-- The queue without items. -/
def empty : LaneSlots Item := {}

/-- The queued items, head first. -/
def toList (slots : LaneSlots Item) : List Item :=
  slots.first.toList ++ slots.second.toList

/-- The number of queued items. -/
def size (slots : LaneSlots Item) : Nat :=
  match slots.first, slots.second with
  | none, _ => 0
  | some _, none => 1
  | some _, some _ => 2

/-- No item is queued. -/
def isEmpty (slots : LaneSlots Item) : Bool :=
  slots.first.isNone

/-- Takes the head out and moves the item behind it up. -/
def pop (slots : LaneSlots Item) : Option Item × LaneSlots Item :=
  match slots.first with
  | none => (none, slots)
  | some head => (some head, { first := slots.second, second := none })

/-- Throws out every item and stores the given one alone. -/
def reset (item : Item) (slots : LaneSlots Item) : List Item × LaneSlots Item :=
  (slots.toList, { first := some item, second := none })

variable [HasLane Item]

/-- An item of the given lane is queued. -/
def contains (wanted : Lane) (slots : LaneSlots Item) : Bool :=
  slots.toList.any fun item => lane item == wanted

/-- Queues an item by the rules of the lanes. -/
def push (item : Item) (slots : LaneSlots Item) : Pushed Item × LaneSlots Item :=
  match slots.first, slots.second with
  | none, _ => (⟨.enqueued, []⟩, { first := some item, second := none })
  | some head, none =>
      if lane item = .interactive ∨ lane item = lane head then
        (⟨.coalesced, [head]⟩, { first := some item, second := none })
      else
        (⟨.trailing, []⟩, { first := some head, second := some item })
  | some head, some last =>
      if lane item = .interactive then
        (⟨.coalesced, [head, last]⟩, { first := some item, second := none })
      else
        (⟨.coalesced, [last]⟩, { first := some head, second := some item })

/-- One operation on the queue. -/
inductive Command (Item : Type) where
  /-- Queue an item by the rules of the lanes. -/
  | push (item : Item)
  | pop
  /-- Ask for an item of a lane. -/
  | contains (wanted : Lane)
  /-- Throw out every item and store one. -/
  | reset (item : Item)
  deriving Repr

/-- The answer to one operation on the queue. -/
inductive Answer (Item : Type) where
  | pushed (result : Pushed Item)
  /-- The head that was taken out, if there was one. -/
  | popped (head : Option Item)
  /-- Whether an item of the lane is queued. -/
  | found (present : Bool)
  /-- The items a reset threw out. -/
  | displaced (items : List Item)
  deriving Repr

/-- Carries out one operation. -/
def apply (slots : LaneSlots Item) : Command Item → Answer Item × LaneSlots Item
  | .push item => let (result, next) := slots.push item; (.pushed result, next)
  | .pop => let (head, next) := slots.pop; (.popped head, next)
  | .contains wanted => (.found (slots.contains wanted), slots)
  | .reset item => let (items, next) := slots.reset item; (.displaced items, next)

/-- Carries out operations one after the other and lists each answer with the queue after it. -/
def history (slots : LaneSlots Item) : List (Command Item) → List (Answer Item × LaneSlots Item)
  | [] => []
  | command :: rest =>
      let (answer, next) := slots.apply command
      (answer, next) :: next.history rest

end LaneSlots

end EditorAnalysis
