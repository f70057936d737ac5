import EditorAnalysis.Lane.Slots
import EditorAnalysis.TimedWait

/-!
# The mailbox

A `Mailbox` is the two-slot queue shared between threads, with the threads that wait for an item.
Every send, receive and reset is one section under the lock; a timed receive is a chain of such
sections, its looks, between which other threads act (`Mailbox.Event`).

`receive` is a timed receive during which nobody else acts, and `receiveDuring` one during which
another thread acts once the receiver waits.
-/

namespace EditorAnalysis

variable {Item : Type}

/-- The shared queue and every timed receive begun so far, in the order of their beginning. -/
structure Mailbox (Item : Type) where
  /-- The queued items. -/
  slots : LaneSlots Item := {}
  /-- The timed receives begun so far. -/
  waits : List (TimedWait Item) := []

namespace Mailbox

/-- The mailbox without items and without receivers. -/
def empty : Mailbox Item := {}

/-- The lane of each queued item, head first. -/
def lanes [HasLane Item] (mailbox : Mailbox Item) : List Lane :=
  mailbox.slots.toList.map lane

/-- Queues an item by the rules of the lanes. -/
def send [HasLane Item] (item : Item) (mailbox : Mailbox Item) : Pushed Item × Mailbox Item :=
  let (result, slots) := mailbox.slots.push item
  (result, { mailbox with slots })

/-- Takes the head out without waiting. -/
def tryReceive (mailbox : Mailbox Item) : Option Item × Mailbox Item :=
  let (head, slots) := mailbox.slots.pop
  (head, { mailbox with slots })

/-- Throws out every item and stores the given one alone. -/
def reset (item : Item) (mailbox : Mailbox Item) : List Item × Mailbox Item :=
  let (items, slots) := mailbox.slots.reset item
  (items, { mailbox with slots })

/-- Begins a timed receive and returns its number. -/
def beginReceive (mailbox : Mailbox Item) : Nat × Mailbox Item :=
  (mailbox.waits.length, { mailbox with waits := mailbox.waits ++ [TimedWait.begin] })

/-- The timed receive of the given number looks, and takes the head out if there is one. -/
def look (number : Nat) (mailbox : Mailbox Item) : Mailbox Item :=
  match mailbox.waits[number]? with
  | some (.looking last) =>
      let (head, slots) := mailbox.slots.pop
      { slots, waits := mailbox.waits.set number (TimedWait.look head (.looking last)) }
  | _ => mailbox

/-- The timed receive of the given number is woken. -/
def wake (number : Nat) (mailbox : Mailbox Item) : Mailbox Item :=
  { mailbox with waits := mailbox.waits.modify number TimedWait.wake }

/-- The deadline of the timed receive of the given number passes. -/
def expire (number : Nat) (mailbox : Mailbox Item) : Mailbox Item :=
  { mailbox with waits := mailbox.waits.modify number TimedWait.expire }

/-- What the timed receive of the given number returned, if it has returned an item. -/
def received (number : Nat) (mailbox : Mailbox Item) : Option Item :=
  mailbox.waits[number]?.bind TimedWait.result

/-- A timed receive during which nobody else acts. -/
def receive (mailbox : Mailbox Item) : Option Item × Mailbox Item :=
  let (number, begun) := mailbox.beginReceive
  let final := ((begun.look number).expire number).look number
  (final.received number, final)

/-- A timed receive during which another thread acts, once, while the receiver waits or after it has
returned. -/
def receiveDuring {Result : Type} (act : Mailbox Item → Result × Mailbox Item)
    (mailbox : Mailbox Item) : (Option Item × Result) × Mailbox Item :=
  let (number, begun) := mailbox.beginReceive
  let (result, acted) := act (begun.look number)
  let final := (acted.wake number).look number
  ((final.received number, result), final)

/-- One step of one thread. -/
inductive Event (Item : Type) where
  | send (item : Item)
  | tryReceive
  /-- A thread resets the mailbox to one item. -/
  | reset (item : Item)
  | beginReceive
  /-- A timed receive looks. -/
  | look (number : Nat)
  /-- A timed receive is woken, perhaps for no reason. -/
  | wake (number : Nat)
  /-- The deadline of a timed receive passes. -/
  | expire (number : Nat)

/-- The mailbox after one step. -/
def step [HasLane Item] (mailbox : Mailbox Item) : Event Item → Mailbox Item
  | .send item => (mailbox.send item).2
  | .tryReceive => mailbox.tryReceive.2
  | .reset item => (mailbox.reset item).2
  | .beginReceive => mailbox.beginReceive.2
  | .look number => mailbox.look number
  | .wake number => mailbox.wake number
  | .expire number => mailbox.expire number

/-- One call on the mailbox, as its users make it. -/
inductive Command (Item : Type) where
  | send (item : Item)
  | tryReceive
  /-- Receive, waiting up to a deadline while nobody else acts. -/
  | receive
  /-- Ask for an item of a lane. -/
  | contains (wanted : Lane)
  /-- Throw out every item and store one. -/
  | reset (item : Item)
  | receiveWhileSending (item : Item)
  | receiveWhileResetting (item : Item)

/-- The answer to one call on the mailbox. -/
inductive Answer (Item : Type) where
  | sent (result : Pushed Item)
  /-- The item a receive returned, if it returned one. -/
  | received (item : Option Item)
  /-- Whether an item of the lane is queued. -/
  | found (present : Bool)
  /-- The items a reset threw out. -/
  | displaced (items : List Item)
  /-- What a receive returned, and what the send beside it answered. -/
  | receivedAndSent (item : Option Item) (result : Pushed Item)
  /-- What a receive returned, and what the reset beside it answered. -/
  | receivedAndDisplaced (item : Option Item) (items : List Item)

variable [HasLane Item]

/-- Carries out one call. -/
def apply (mailbox : Mailbox Item) : Command Item → Answer Item × Mailbox Item
  | .send item => let (result, next) := mailbox.send item; (.sent result, next)
  | .tryReceive => let (item, next) := mailbox.tryReceive; (.received item, next)
  | .receive => let (item, next) := mailbox.receive; (.received item, next)
  | .contains wanted => (.found (mailbox.slots.contains wanted), mailbox)
  | .reset item => let (items, next) := mailbox.reset item; (.displaced items, next)
  | .receiveWhileSending item =>
      let ((received, result), next) := mailbox.receiveDuring (send item)
      (.receivedAndSent received result, next)
  | .receiveWhileResetting item =>
      let ((received, items), next) := mailbox.receiveDuring (reset item)
      (.receivedAndDisplaced received items, next)

/-- Carries out calls one after the other and lists each answer with the mailbox after it. -/
def history (mailbox : Mailbox Item) : List (Command Item) → List (Answer Item × Mailbox Item)
  | [] => []
  | command :: rest =>
      let (answer, next) := mailbox.apply command
      (answer, next) :: next.history rest

end Mailbox

end EditorAnalysis
