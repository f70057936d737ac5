import EditorAnalysis.Proofs.Lane.Slots

/-!
# The two-slot queue refines a list

The rules of the lanes are short when they are said of a plain list: an interactive item empties the
list, a background item takes the background items out of it, and either goes to its end.
`LaneSlots.applyList` carries out every operation in this way, without a bound on the number of
items. This file proves that two slots are enough: they give every sequence of operations the answers
that the list gives, and what they hold is the list.

A reset is the one operation that looks at no lane. It may leave a background item at the head, behind
which nothing ever trails, so that the slots stay proper under it as well.
-/

namespace EditorAnalysis

variable {Item : Type} [HasLane Item]

namespace LaneSlots

/-- The items of a list that give way to a pushed item, in their order. -/
def givingWay (item : Item) (waiting : List Item) : List Item :=
  match lane item with
  | .interactive => waiting
  | .background => waiting.filter fun other => lane other = .background

/-- The items of a list that a pushed item leaves in place. -/
def staying (item : Item) (waiting : List Item) : List Item :=
  match lane item with
  | .interactive => []
  | .background => waiting.filter fun other => lane other ≠ .background

/-- What becomes of an item pushed onto a list. -/
def listOutcome (item : Item) (waiting : List Item) : PushOutcome :=
  if waiting.isEmpty then .enqueued
  else if (givingWay item waiting).isEmpty then .trailing
  else .coalesced

/-- Carries out one operation on a list, by the rules of the lanes. -/
def applyList (waiting : List Item) : Command Item → Answer Item × List Item
  | .push item =>
      (.pushed ⟨listOutcome item waiting, givingWay item waiting⟩, staying item waiting ++ [item])
  | .pop => (.popped waiting.head?, waiting.tail)
  | .contains wanted => (.found (waiting.any fun item => lane item == wanted), waiting)
  | .reset item => (.displaced waiting, [item])

/-- Carries out operations on a list and lists each answer with the list after it. -/
def listHistory (waiting : List Item) : List (Command Item) → List (Answer Item × List Item)
  | [] => []
  | command :: rest =>
      let (answer, next) := applyList waiting command
      (answer, next) :: listHistory next rest

/-- The queues around the operations of a sequence, the first one included. -/
def visited (slots : LaneSlots Item) (commands : List (Command Item)) : List (LaneSlots Item) :=
  slots :: (slots.history commands).map Prod.snd

section Outcome

variable {item : Item} {waiting : List Item}

theorem listOutcome_eq_enqueued_iff : listOutcome item waiting = .enqueued ↔ waiting = [] := by
  unfold listOutcome
  split
  · simp_all
  · split <;> simp_all

theorem listOutcome_eq_trailing_iff :
    listOutcome item waiting = .trailing ↔ waiting ≠ [] ∧ givingWay item waiting = [] := by
  unfold listOutcome
  split
  · simp_all
  · split <;> simp_all

theorem listOutcome_eq_coalesced_iff :
    listOutcome item waiting = .coalesced ↔ givingWay item waiting ≠ [] := by
  have nothing : givingWay item [] = [] := by
    cases itemLane : lane item <;> simp [givingWay, itemLane]
  unfold listOutcome
  split
  · simp_all
  · split <;> simp_all

end Outcome

section Push

variable {slots : LaneSlots Item}

theorem displaced_push_eq_givingWay (item : Item) (proper : slots.Proper) :
    (slots.push item).1.displaced = givingWay item slots.toList := by
  rw [displaced_push item proper]
  cases itemLane : lane item <;> simp [givingWay, itemLane]

theorem toList_push_eq_staying (item : Item) (proper : slots.Proper) :
    (slots.push item).2.toList = staying item slots.toList ++ [item] := by
  have complement (other : Item) :
      decide (lane other = .interactive) = !decide (lane other = .background) := by
    cases lane other <;> rfl
  rw [toList_push item proper]
  cases itemLane : lane item <;> simp [staying, itemLane, complement]

theorem outcome_push_eq_listOutcome (item : Item) (proper : slots.Proper) :
    (slots.push item).1.outcome = listOutcome item slots.toList := by
  rcases slots with ⟨_ | head, _ | last⟩
  · simp [push, listOutcome, toList]
  · exact proper.elim
  · cases itemLane : lane item <;> cases headLane : lane head <;>
      simp [push, listOutcome, givingWay, toList, itemLane, headLane]
  · rcases proper with ⟨headLane, lastLane⟩
    cases itemLane : lane item <;>
      simp [push, listOutcome, givingWay, toList, itemLane, headLane, lastLane]

end Push

omit [HasLane Item] in
theorem pop_eq {slots : LaneSlots Item} (filled : slots.second.isSome → slots.first.isSome) :
    slots.pop.1 = slots.toList.head? ∧ slots.pop.2.toList = slots.toList.tail := by
  rcases slots with ⟨_ | head, _ | last⟩ <;> simp_all [pop, toList]

namespace Proper

variable {slots : LaneSlots Item}

theorem isSome_first (proper : slots.Proper) (filled : slots.second.isSome) :
    slots.first.isSome := by
  rcases slots with ⟨_ | head, _ | last⟩ <;> simp_all [Proper]

theorem apply (proper : slots.Proper) (command : Command Item) :
    (slots.apply command).2.Proper := by
  cases command with
  | push item => exact proper_push item proper
  | pop => exact proper_pop proper
  | contains wanted => exact proper
  | reset item => exact proper_single item

theorem apply_eq (proper : slots.Proper) (command : Command Item) :
    ((slots.apply command).1, (slots.apply command).2.toList) =
      applyList slots.toList command := by
  cases command with
  | push item =>
    simp only [LaneSlots.apply, applyList, Prod.mk.injEq, Answer.pushed.injEq]
    refine ⟨?_, toList_push_eq_staying item proper⟩
    rw [← outcome_push_eq_listOutcome item proper, ← displaced_push_eq_givingWay item proper]
  | pop =>
    have pops := pop_eq proper.isSome_first
    simp only [LaneSlots.apply, applyList, pops]
  | contains wanted => rfl
  | reset item => rfl

/-- The slots answer as the list does, and hold what it holds. -/
theorem history_eq (proper : slots.Proper) (commands : List (Command Item)) :
    (slots.history commands).map (fun entry => (entry.1, entry.2.toList)) =
      listHistory slots.toList commands := by
  induction commands generalizing slots with
  | nil => rfl
  | cons command rest ih =>
    have step := proper.apply_eq command
    simp only [history, listHistory, List.map_cons, ← step, ih (proper.apply command)]

theorem of_mem_visited (proper : slots.Proper) {commands : List (Command Item)}
    {reached : LaneSlots Item} (member : reached ∈ slots.visited commands) : reached.Proper := by
  induction commands generalizing slots with
  | nil =>
    cases List.mem_singleton.mp member
    exact proper
  | cons command rest ih =>
    rcases List.mem_cons.mp member with rfl | later
    · exact proper
    · apply ih (proper.apply command)
      simpa [visited, history] using later

end Proper

/-- The readers of a queue agree on the list it stands for, which has the shape of the lanes. -/
structure Faithful (slots : LaneSlots Item) : Prop where
  filled : slots.second.isSome → slots.first.isSome
  pair : ∀ head last, slots.first = some head → slots.second = some last →
    lane head = .interactive ∧ lane last = .background
  atMostTwo : slots.toList.length ≤ 2
  lanes : slots.toList.length = 2 → slots.toList.map lane = [.interactive, .background]
  size : slots.size = slots.toList.length
  empty : slots.isEmpty = true ↔ slots.toList = []
  contains : ∀ wanted, slots.contains wanted = true ↔ ∃ item ∈ slots.toList, lane item = wanted

theorem Proper.faithful {slots : LaneSlots Item} (proper : slots.Proper) : slots.Faithful where
  filled := proper.isSome_first
  pair head last first second := by simpa [Proper, first, second] using proper
  atMostTwo := by
    rcases slots with ⟨_ | head, _ | last⟩ <;> simp [toList]
  lanes := by
    rcases slots with ⟨_ | head, _ | last⟩ <;> simp_all [toList, Proper]
  size := by
    rcases slots with ⟨_ | head, _ | last⟩ <;> simp_all [toList, size, Proper]
  empty := by simp [isEmpty_eq proper]
  contains wanted := by simp [LaneSlots.contains]

/-- One push onto a list: what gives way is handed back in its order, all else stays, the pushed item
goes to the end, and the outcome tells the cases apart. -/
structure Conserves (item : Item) (before after : List Item) (pushed : Pushed Item) : Prop where
  perm : (before ++ [item]).Perm (after ++ pushed.displaced)
  order : pushed.displaced.Sublist before
  kept : after.getLast? = some item
  enqueued : pushed.outcome = .enqueued ↔ before = []
  coalesced : pushed.outcome = .coalesced ↔ pushed.displaced ≠ []
  trailing : pushed.outcome = .trailing ↔ before ≠ [] ∧ pushed.displaced = []

theorem Proper.conserves {slots : LaneSlots Item} (proper : slots.Proper) (item : Item) :
    Conserves item slots.toList (slots.push item).2.toList (slots.push item).1 := by
  have outcome := outcome_push_eq_listOutcome item proper
  have displaced := displaced_push_eq_givingWay item proper
  refine ⟨?_, displaced_push_sublist item proper, ?_, ?_, ?_, ?_⟩
  · exact (List.perm_append_singleton item slots.toList).trans (push_perm item proper).symm
  · simp [toList_push_eq_staying item proper]
  · rw [outcome, listOutcome_eq_enqueued_iff]
  · rw [outcome, displaced, listOutcome_eq_coalesced_iff]
  · rw [outcome, displaced, listOutcome_eq_trailing_iff]

/-- The two slots refine the list, over every sequence of operations from the empty queue on. Every
queue on the way is faithful to its list, and whatever is pushed onto it is kept, what gives way is
handed back, and nothing else changes. -/
theorem slots_refine_list (commands : List (Command Item)) :
    ((empty.history commands).map fun entry => (entry.1, entry.2.toList)) =
      listHistory [] commands ∧
    ∀ slots ∈ empty.visited commands, slots.Faithful ∧
      ∀ item, Conserves item slots.toList (slots.push item).2.toList (slots.push item).1 := by
  refine ⟨proper_empty.history_eq commands, ?_⟩
  intro slots reached
  have proper := proper_empty.of_mem_visited reached
  exact ⟨proper.faithful, proper.conserves⟩

/-- A number with a lane, as an item of that lane. -/
instance : HasLane (Nat × Lane) where
  lane := Prod.snd

/-- A push of either lane behind a reset to a background item, between pushes that trail and
coalesce. -/
def resetToBackground : List (Command (Nat × Lane)) :=
  [.push (1, .interactive), .push (2, .background), .push (3, .background),
    .reset (4, .background), .push (5, .background), .push (6, .interactive),
    .push (7, .background), .pop, .pop, .pop]

theorem slots_refine_list_resetToBackground :
    (listHistory [] resetToBackground).map (fun entry => entry.2.map Prod.fst) =
        [[1], [1, 2], [1, 3], [4], [5], [6], [6, 7], [7], [], []] ∧
      ((empty.history resetToBackground).map fun entry => (entry.1, entry.2.toList)) =
        listHistory [] resetToBackground ∧
      ∀ slots ∈ empty.visited resetToBackground, slots.Faithful :=
  ⟨rfl, (slots_refine_list _).1, fun slots reached => ((slots_refine_list _).2 slots reached).1⟩

end LaneSlots

end EditorAnalysis
