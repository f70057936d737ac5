import EditorAnalysis.Lane.Slots

/-!
# The two-slot queue as a list

The slots are two optional items, and a push is a case split over both. This file reads every
operation through `LaneSlots.toList`, so that proofs about whole queues know lists only: an
interactive item stays alone, a background item goes behind the waiting interactive one, and
whatever gives way is handed back in the order in which it waited.

All of it rests on `LaneSlots.Proper`, which every operation keeps. A second item without a first
one would be lost by the next push.
-/

namespace EditorAnalysis

variable {Item : Type} [HasLane Item]

namespace LaneSlots

/-- The second slot is in use only behind an interactive item, and then by a background one. -/
def Proper (slots : LaneSlots Item) : Prop :=
  match slots.first, slots.second with
  | none, some _ => False
  | some head, some last => lane head = .interactive ∧ lane last = .background
  | _, none => True

theorem proper_empty : (empty : LaneSlots Item).Proper := trivial

theorem proper_single (item : Item) : Proper { first := some item, second := none } := trivial

theorem proper_push {slots : LaneSlots Item} (item : Item) (proper : slots.Proper) :
    (slots.push item).2.Proper := by
  rcases slots with ⟨_ | head, _ | last⟩
  · exact trivial
  · exact proper.elim
  · by_cases gives : lane item = .interactive ∨ lane item = lane head
    · simp [push, gives, Proper]
    · rcases not_or.mp gives with ⟨notInteractive, other⟩
      simp only [push, if_neg gives, Proper]
      cases itemLane : lane item <;> cases headLane : lane head <;> simp_all
  · by_cases interactive : lane item = .interactive
    · simp [push, interactive, Proper]
    · simp only [push, if_neg interactive, Proper]
      cases itemLane : lane item <;> simp_all [Proper]

theorem proper_pop {slots : LaneSlots Item} (proper : slots.Proper) : slots.pop.2.Proper := by
  rcases slots with ⟨_ | head, _ | last⟩
  · exact trivial
  · exact proper
  · exact trivial
  · exact trivial

theorem toList_push {slots : LaneSlots Item} (item : Item) (proper : slots.Proper) :
    (slots.push item).2.toList =
      if lane item = .interactive then [item]
      else slots.toList.filter (fun waiting => lane waiting = .interactive) ++ [item] := by
  rcases slots with ⟨_ | head, _ | last⟩
  · simp [push, toList]
  · exact proper.elim
  · cases itemLane : lane item <;> cases headLane : lane head <;>
      simp [push, toList, itemLane, headLane]
  · rcases proper with ⟨headLane, lastLane⟩
    cases itemLane : lane item <;> simp [push, toList, itemLane, headLane, lastLane]

theorem displaced_push {slots : LaneSlots Item} (item : Item) (proper : slots.Proper) :
    (slots.push item).1.displaced =
      if lane item = .interactive then slots.toList
      else slots.toList.filter (fun waiting => lane waiting = .background) := by
  rcases slots with ⟨_ | head, _ | last⟩
  · simp [push, toList]
  · exact proper.elim
  · cases itemLane : lane item <;> cases headLane : lane head <;>
      simp [push, toList, itemLane, headLane]
  · rcases proper with ⟨headLane, lastLane⟩
    cases itemLane : lane item <;> simp [push, toList, itemLane, headLane, lastLane]

theorem displaced_push_sublist {slots : LaneSlots Item} (item : Item)
    (proper : slots.Proper) : (slots.push item).1.displaced.Sublist slots.toList := by
  rw [displaced_push item proper]
  split
  · exact List.Sublist.refl _
  · exact List.filter_sublist

/-- A push neither loses nor invents an item. -/
theorem push_perm {slots : LaneSlots Item} (item : Item) (proper : slots.Proper) :
    ((slots.push item).2.toList ++ (slots.push item).1.displaced).Perm (item :: slots.toList) := by
  rw [toList_push item proper, displaced_push item proper]
  by_cases interactive : lane item = .interactive
  · rw [if_pos interactive, if_pos interactive]
    exact List.Perm.refl _
  · rw [if_neg interactive, if_neg interactive, List.append_assoc]
    have complement : (fun waiting : Item => decide (lane waiting = .background)) =
        fun waiting => !decide (lane waiting = .interactive) := by
      funext waiting
      cases lane waiting <;> rfl
    rw [complement]
    exact List.perm_middle.trans ((List.filter_append_perm _ slots.toList).cons item)

omit [HasLane Item] in
theorem toList_of_pop_none {slots rest : LaneSlots Item} (pops : slots.pop = (none, rest)) :
    rest = slots := by
  rcases slots with ⟨_ | head, second⟩ <;> simp_all [pop]

/-- A pop comes back with nothing only if nothing waits. -/
theorem toList_eq_nil_of_pop_none {slots rest : LaneSlots Item} (proper : slots.Proper)
    (pops : slots.pop = (none, rest)) : slots.toList = [] := by
  rcases slots with ⟨_ | head, _ | last⟩
  · rfl
  · exact proper.elim
  · simp [pop] at pops
  · simp [pop] at pops

theorem isEmpty_eq {slots : LaneSlots Item} (proper : slots.Proper) :
    slots.isEmpty = slots.toList.isEmpty := by
  rcases slots with ⟨_ | head, _ | last⟩
  · rfl
  · exact proper.elim
  · rfl
  · rfl

omit [HasLane Item] in
theorem toList_of_pop_some {slots rest : LaneSlots Item} {item : Item}
    (pops : slots.pop = (some item, rest)) : slots.toList = item :: rest.toList := by
  rcases slots with ⟨_ | head, second⟩
  · simp [pop] at pops
  · simp only [pop, Prod.mk.injEq, Option.some.injEq] at pops
    rcases pops with ⟨rfl, rfl⟩
    simp [toList]

end LaneSlots

end EditorAnalysis
