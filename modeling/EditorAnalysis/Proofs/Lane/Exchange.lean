import EditorAnalysis.Lane.Mailbox
import EditorAnalysis.Proofs.Lane.Refinement
import Mathlib.Data.List.Induction

/-!
# What goes into the mailbox comes out once

Threads send, reset and receive in any order, a timed receive in several looks between which the
others act. This file keeps the books of every such run: what was given to the mailbox, what each
receive returned and what each send and reset handed back as displaced. Equal items are told apart by
their places among the items given (`Mailbox.Accounted`), so that the books say of every single one
where it is.

The second part is about a timed receive that comes back with nothing. It had seen its deadline pass,
and it looked once more and found nothing. A receive that looks at a queue with an item in it always
takes the head.
-/

namespace EditorAnalysis

variable {Item : Type}

namespace Mailbox

/-- The item that a step gives to the mailbox. -/
def Event.given : Event Item → List Item
  | .send item | .reset item => [item]
  | _ => []

/-- An item that a receive returned, with the number of the receive if it is a timed one. -/
structure Receipt (Item : Type) where
  wait : Option Nat
  item : Item

/-- The item that a receive returns by a step. -/
def receipts (mailbox : Mailbox Item) : Event Item → List (Receipt Item)
  | .tryReceive => mailbox.tryReceive.1.toList.map fun item => ⟨none, item⟩
  | .look number =>
      if (mailbox.received number).isSome then []
      else ((mailbox.look number).received number).toList.map fun item => ⟨some number, item⟩
  | _ => []

section Steps

variable [HasLane Item]

/-- The items that a step hands back as displaced. -/
def displaced (mailbox : Mailbox Item) : Event Item → List Item
  | .send item => (mailbox.send item).1.displaced
  | .reset item => (mailbox.reset item).1
  | _ => []

/-- The mailbox after a run. -/
def after (mailbox : Mailbox Item) (events : List (Event Item)) : Mailbox Item :=
  events.foldl step mailbox

/-- What the steps of a run come to, one after the other. -/
def gather {Entry : Type} (entries : Mailbox Item → Event Item → List Entry)
    (mailbox : Mailbox Item) : List (Event Item) → List Entry
  | [] => []
  | event :: rest => entries mailbox event ++ gather entries (mailbox.step event) rest

/-- The steps of one call, whose timed receive gets the given number. -/
def Command.steps (number : Nat) : Command Item → List (Event Item)
  | .send item => [.send item]
  | .tryReceive => [.tryReceive]
  | .receive => [.beginReceive, .look number, .expire number, .look number]
  | .contains _ => []
  | .reset item => [.reset item]
  | .receiveWhileSending item =>
      [.beginReceive, .look number, .send item, .wake number, .look number]
  | .receiveWhileResetting item =>
      [.beginReceive, .look number, .reset item, .wake number, .look number]

theorem after_steps (mailbox : Mailbox Item) (command : Command Item) :
    mailbox.after (command.steps mailbox.waits.length) = (mailbox.apply command).2 := by
  cases command <;> rfl

theorem after_concat (mailbox : Mailbox Item) (events : List (Event Item)) (event : Event Item) :
    mailbox.after (events ++ [event]) = (mailbox.after events).step event := by
  simp [after]

end Steps

/-! ## The books -/

/-- Every item given is in one of three places: a receive returned it, it was displaced, or it waits.
Each is taken with its place among the items given; the items returned, and behind them those that
wait, are in the order in which they were given. -/
def Accounted (given taken displaced waiting : List Item) : Prop :=
  ∃ out gone left : List (Item × Nat),
    out.map Prod.fst = taken ∧ gone.map Prod.fst = displaced ∧ left.map Prod.fst = waiting ∧
    (out ++ gone ++ left).Perm given.zipIdx ∧ (out ++ left).Sublist given.zipIdx

theorem accounted_nil : Accounted ([] : List Item) [] [] [] :=
  ⟨[], [], [], rfl, rfl, rfl, .refl _, .refl _⟩

namespace Accounted

variable {given taken displaced waiting : List Item} {item : Item}

/-- An item comes in, and some of the waiting ones are displaced for it. -/
theorem give (books : Accounted given taken displaced waiting) (item : Item)
    (yields : Item → Bool) :
    Accounted (given ++ [item]) taken (displaced ++ waiting.filter yields)
      (waiting.filter (fun other => !yields other) ++ [item]) := by
  rcases books with ⟨out, gone, left, rfl, rfl, rfl, perm, order⟩
  have numbered : (given ++ [item]).zipIdx = given.zipIdx ++ [(item, given.length)] := by
    simp [List.zipIdx_append]
  refine ⟨out, gone ++ left.filter (yields ∘ Prod.fst),
    left.filter ((fun other => !yields other) ∘ Prod.fst) ++ [(item, given.length)],
    rfl, ?_, ?_, ?_, ?_⟩
  · simp [List.filter_map]
  · simp [List.filter_map]
  · rw [numbered]
    have parted : (left.filter (yields ∘ Prod.fst) ++
        left.filter ((fun other => !yields other) ∘ Prod.fst)).Perm left :=
      List.filter_append_perm (yields ∘ Prod.fst) left
    have parts := (parted.append_left (out ++ gone)).append_right [(item, given.length)]
    simp only [List.append_assoc] at parts perm ⊢
    apply parts.trans
    simpa using perm.append_right [(item, given.length)]
  · rw [numbered, ← List.append_assoc]
    apply List.Sublist.append _ (.refl _)
    exact ((List.Sublist.refl out).append List.filter_sublist).trans order

/-- An item comes in, and all that wait are displaced for it. -/
theorem giveAlone (books : Accounted given taken displaced waiting) (item : Item) :
    Accounted (given ++ [item]) taken (displaced ++ waiting) [item] := by
  have everything : waiting.filter (fun _ => true) = waiting :=
    List.filter_eq_self.mpr fun _ _ => rfl
  have nothing : waiting.filter (fun _ => !true) = [] := by simp
  simpa only [everything, nothing, List.nil_append] using books.give item fun _ => true

/-- The head of the queue goes out. -/
theorem take (books : Accounted given taken displaced (item :: waiting)) :
    Accounted given (taken ++ [item]) displaced waiting := by
  rcases books with ⟨out, gone, left, rfl, rfl, waits, perm, order⟩
  rcases List.map_eq_cons_iff.mp waits with ⟨entry, rest, rfl, rfl, rfl⟩
  refine ⟨out ++ [entry], gone, rest, by simp, rfl, rfl, ?_, ?_⟩
  · have moved : (out ++ [entry] ++ gone ++ rest).Perm (out ++ gone ++ entry :: rest) := by
      simp only [List.append_assoc, List.singleton_append]
      exact (List.perm_middle.symm).append_left out
    exact moved.trans perm
  · simpa using order

end Accounted

section Received

variable {mailbox : Mailbox Item} {number other : Nat} {change : TimedWait Item → TimedWait Item}

/-- What a change of parked receives comes to for one of them. -/
theorem wait_of_modify {wait : TimedWait Item} {waits : List (TimedWait Item)}
    (parkedOnly : ∀ old, old ≠ .parked → change old = old)
    (becomes : (waits.modify number change)[other]? = some wait) :
    waits[other]? = some wait ∨
      waits[other]? = some .parked ∧ number = other ∧ wait = change .parked := by
  rw [List.getElem?_modify] at becomes
  cases was : waits[other]? with
  | none => simp [was] at becomes
  | some old =>
    simp only [was, Option.map_eq_map, Option.map_some, Option.some.injEq] at becomes
    by_cases same : number = other
    · rw [if_pos same] at becomes
      by_cases parked : old = .parked
      · subst parked
        exact .inr ⟨rfl, same, becomes.symm⟩
      · rw [parkedOnly old parked] at becomes
        exact .inl (congrArg some becomes)
    · rw [if_neg same] at becomes
      exact .inl (congrArg some becomes)

theorem wake_of_ne_parked {old : TimedWait Item} (awake : old ≠ .parked) : old.wake = old := by
  cases old <;> simp_all [TimedWait.wake]

theorem expire_of_ne_parked {old : TimedWait Item} (awake : old ≠ .parked) :
    old.expire = old := by
  cases old <;> simp_all [TimedWait.expire]

theorem received_modify (parkedOnly : ∀ old, old ≠ .parked → change old = old)
    (unanswered : (change .parked).result = none) :
    received other { mailbox with waits := mailbox.waits.modify number change } =
      mailbox.received other := by
  have same (old : TimedWait Item) : (change old).result = old.result := by
    by_cases parked : old = .parked
    · rw [parked, unanswered]
      rfl
    · rw [parkedOnly old parked]
  simp only [received, List.getElem?_modify]
  cases mailbox.waits[other]? with
  | none => rfl
  | some old =>
    simp only [Option.map_eq_map, Option.map_some, Option.bind_some]
    split
    · exact same old
    · rfl

theorem received_beginReceive (mailbox : Mailbox Item) (other : Nat) :
    mailbox.beginReceive.2.received other = mailbox.received other := by
  simp only [beginReceive, received, List.getElem?_append]
  split
  · rfl
  · rename_i outside
    rw [List.getElem?_eq_none (Nat.le_of_not_lt outside)]
    cases other - mailbox.waits.length <;> simp [TimedWait.begin, TimedWait.result]

theorem received_set {last : Bool} (looking : mailbox.waits[number]? = some (.looking last))
    (slots : LaneSlots Item) (wait : TimedWait Item) :
    received other ⟨slots, mailbox.waits.set number wait⟩ =
      if number = other then wait.result else mailbox.received other := by
  have inside := (List.getElem?_eq_some_iff.mp looking).1
  by_cases same : number = other
  · subst same
    simp [received, inside]
  · simp [received, same]

theorem received_of_looking {last : Bool}
    (looking : mailbox.waits[number]? = some (.looking last)) : mailbox.received number = none := by
  simp [received, looking, TimedWait.result]

end Received

/-- What one look of a timed receive does. -/
inductive Looks (mailbox : Mailbox Item) (number : Nat) : List (Receipt Item) → Mailbox Item → Prop
    where
  | idle (elsewhere : ∀ last, mailbox.waits[number]? ≠ some (.looking last)) :
      Looks mailbox number [] mailbox
  | finds {last : Bool} {item : Item} {rest : LaneSlots Item}
      (looking : mailbox.waits[number]? = some (.looking last))
      (pops : mailbox.slots.pop = (some item, rest)) :
      Looks mailbox number [⟨some number, item⟩]
        { slots := rest, waits := mailbox.waits.set number (.done (some item)) }
  | misses {last : Bool} (looking : mailbox.waits[number]? = some (.looking last))
      (pops : mailbox.slots.pop = (none, mailbox.slots)) :
      Looks mailbox number []
        { mailbox with waits := mailbox.waits.set number (if last then .done none else .parked) }

theorem looks (mailbox : Mailbox Item) (number : Nat) :
    mailbox.Looks number (mailbox.receipts (.look number)) (mailbox.look number) := by
  by_cases looking : ∃ last, mailbox.waits[number]? = some (.looking last)
  · rcases looking with ⟨last, looking⟩
    have waited := received_of_looking looking
    cases pops : mailbox.slots.pop with
    | mk head rest =>
      cases head with
      | none =>
        cases LaneSlots.toList_of_pop_none pops
        have looked : mailbox.look number = { mailbox with
            waits := mailbox.waits.set number (if last then .done none else .parked) } := by
          simp [look, looking, pops, TimedWait.look]
        have none : mailbox.receipts (.look number) = [] := by
          cases last <;> simp [receipts, waited, looked, received_set looking, TimedWait.result]
        rw [looked, none]
        exact .misses looking pops
      | some item =>
        have looked : mailbox.look number =
            { slots := rest, waits := mailbox.waits.set number (.done (some item)) } := by
          simp [look, looking, pops, TimedWait.look]
        have one : mailbox.receipts (.look number) = [⟨some number, item⟩] := by
          simp [receipts, waited, looked, received_set looking, TimedWait.result]
        rw [looked, one]
        exact .finds looking pops
  · have elsewhere : ∀ last, mailbox.waits[number]? ≠ some (.looking last) :=
      fun last at_ => looking ⟨last, at_⟩
    have looked : mailbox.look number = mailbox := by
      unfold look
      split
      · exact absurd ‹_› (elsewhere _)
      · rfl
    have none : mailbox.receipts (.look number) = [] := by
      cases returned : mailbox.received number <;> simp [receipts, looked, returned]
    rw [looked, none]
    exact .idle elsewhere

/-- The books of a run so far. -/
structure Booked [HasLane Item] (given : List Item) (receipts : List (Receipt Item))
    (displaced : List Item) (mailbox : Mailbox Item) : Prop where
  proper : mailbox.slots.Proper
  accounted : Accounted given (receipts.map Receipt.item) displaced mailbox.slots.toList
  once : (receipts.filterMap Receipt.wait).Nodup
  returned : ∀ number item, mailbox.received number = some item ↔ ⟨some number, item⟩ ∈ receipts

section Booked

variable [HasLane Item] {given displaced : List Item} {receipts : List (Receipt Item)}
  {mailbox next : Mailbox Item}

theorem booked_empty : Booked [] [] [] (empty : Mailbox Item) where
  proper := LaneSlots.proper_empty
  accounted := accounted_nil
  once := List.nodup_nil
  returned number item := by simp [empty, received]

/-- A step that leaves the queue alone and answers no timed receive. -/
theorem Booked.of_received (booked : Booked given receipts displaced mailbox)
    (received : ∀ number, next.received number = mailbox.received number)
    (slots : next.slots = mailbox.slots) : Booked given receipts displaced next where
  proper := slots ▸ booked.proper
  accounted := slots ▸ booked.accounted
  once := booked.once
  returned number item := by rw [received, booked.returned]

theorem Booked.send (booked : Booked given receipts displaced mailbox) (item : Item) :
    Booked (given ++ [item]) receipts (displaced ++ (mailbox.send item).1.displaced)
      (mailbox.send item).2 where
  proper := LaneSlots.proper_push item booked.proper
  accounted := by
    simp only [Mailbox.send, LaneSlots.displaced_push_eq_givingWay item booked.proper,
      LaneSlots.toList_push_eq_staying item booked.proper]
    cases itemLane : lane item with
    | interactive =>
      simpa [LaneSlots.givingWay, LaneSlots.staying, itemLane] using
        booked.accounted.giveAlone item
    | background =>
      simpa [LaneSlots.givingWay, LaneSlots.staying, itemLane] using
        booked.accounted.give item fun other => decide (lane other = .background)
  once := booked.once
  returned := booked.returned

theorem Booked.reset (booked : Booked given receipts displaced mailbox) (item : Item) :
    Booked (given ++ [item]) receipts (displaced ++ (mailbox.reset item).1)
      (mailbox.reset item).2 where
  proper := LaneSlots.proper_single item
  accounted := by
    simpa [Mailbox.reset, LaneSlots.reset, LaneSlots.toList] using
      booked.accounted.giveAlone item
  once := booked.once
  returned := booked.returned

/-- A receive returns the head of the queue. -/
theorem Booked.receive {item : Item} {rest : LaneSlots Item} {wait : Option Nat}
    (booked : Booked given receipts displaced mailbox)
    (pops : mailbox.slots.pop = (some item, rest)) (slots : next.slots = rest)
    (fresh : ∀ number, wait = some number → mailbox.received number = none)
    (received : ∀ number other, next.received number = some other ↔
      mailbox.received number = some other ∨ wait = some number ∧ item = other) :
    Booked given (receipts ++ [⟨wait, item⟩]) displaced next where
  proper := by
    have proper := LaneSlots.proper_pop booked.proper
    rwa [pops, ← slots] at proper
  accounted := by
    have accounted := booked.accounted
    rw [LaneSlots.toList_of_pop_some pops, ← slots] at accounted
    simpa using accounted.take
  once := by
    cases wait with
    | none => simpa using booked.once
    | some number =>
      have unknown : number ∉ receipts.filterMap Receipt.wait := by
        intro known
        rcases List.mem_filterMap.mp known with ⟨⟨_, other⟩, member, rfl⟩
        have returned := (booked.returned number other).mpr member
        simp [fresh number rfl] at returned
      rw [List.filterMap_append, List.nodup_append]
      refine ⟨booked.once, by simp, ?_⟩
      intro known member other new same
      have new : other = number := by simpa using new
      exact unknown (new ▸ same ▸ member)
  returned number other := by
    rw [received, booked.returned]
    simp [Eq.comm]

theorem Booked.look (booked : Booked given receipts displaced mailbox) (number : Nat) :
    Booked given (receipts ++ mailbox.receipts (.look number)) displaced (mailbox.look number) := by
  have looks := mailbox.looks number
  generalize mailbox.receipts (.look number) = receipts at looks
  generalize mailbox.look number = next at looks
  cases looks with
  | idle => simpa using booked
  | finds looking pops =>
    apply booked.receive pops rfl
    · intro own same
      cases same
      exact received_of_looking looking
    · intro other item
      rw [received_set looking]
      by_cases same : number = other
      · cases same
        simp [received_of_looking looking, TimedWait.result]
      · simp [same]
  | misses looking pops =>
    rw [List.append_nil]
    refine booked.of_received ?_ rfl
    intro other
    rw [received_set looking]
    by_cases same : number = other
    · rw [if_pos same, ← same, received_of_looking looking]
      split <;> rfl
    · rw [if_neg same]

theorem Booked.step (booked : Booked given receipts displaced mailbox) (event : Event Item) :
    Booked (given ++ event.given) (receipts ++ mailbox.receipts event)
      (displaced ++ mailbox.displaced event) (mailbox.step event) := by
  cases event with
  | send item =>
    simpa [Event.given, Mailbox.receipts, Mailbox.displaced, Mailbox.step] using booked.send item
  | reset item =>
    simpa [Event.given, Mailbox.receipts, Mailbox.displaced, Mailbox.step] using booked.reset item
  | tryReceive =>
    cases pops : mailbox.slots.pop with
    | mk head rest =>
      cases head with
      | none =>
        have same := LaneSlots.toList_of_pop_none pops
        have kept : Booked given receipts displaced { mailbox with slots := rest } :=
          booked.of_received (fun _ => rfl) same
        simpa [Event.given, Mailbox.receipts, Mailbox.displaced, Mailbox.step, tryReceive, pops]
          using kept
      | some item =>
        have taken : Booked given (receipts ++ [⟨none, item⟩]) displaced
            { mailbox with slots := rest } :=
          booked.receive pops rfl (by simp) (by simp [received])
        simpa [Event.given, Mailbox.receipts, Mailbox.displaced, Mailbox.step, tryReceive, pops]
          using taken
  | beginReceive =>
    simpa [Event.given, Mailbox.receipts, Mailbox.displaced, Mailbox.step] using
      booked.of_received mailbox.received_beginReceive rfl
  | look number =>
    simpa [Event.given, Mailbox.displaced, Mailbox.step] using booked.look number
  | wake number =>
    simpa [Event.given, Mailbox.receipts, Mailbox.displaced, Mailbox.step, wake] using
      booked.of_received (fun _ => received_modify (fun _ => wake_of_ne_parked) rfl) rfl
  | expire number =>
    simpa [Event.given, Mailbox.receipts, Mailbox.displaced, Mailbox.step, expire] using
      booked.of_received (fun _ => received_modify (fun _ => expire_of_ne_parked) rfl) rfl

theorem Booked.run (booked : Booked given receipts displaced mailbox)
    (events : List (Event Item)) :
    Booked (given ++ events.flatMap Event.given)
      (receipts ++ gather Mailbox.receipts mailbox events)
      (displaced ++ gather Mailbox.displaced mailbox events) (mailbox.after events) := by
  induction events generalizing given receipts displaced mailbox with
  | nil => simpa [gather, after] using booked
  | cons event rest ih => simpa [gather, after] using ih (booked.step event)

end Booked

/-! ## The last look -/

section Deadline

variable [HasLane Item] {mailbox : Mailbox Item} {event : Event Item} {number : Nat}

/-- How a timed receive comes to the state that it is in after a step. -/
inductive Turns (mailbox : Mailbox Item) (number : Nat) : Event Item → TimedWait Item → Prop where
  | stays {event : Event Item} {wait : TimedWait Item} (was : mailbox.waits[number]? = some wait)
      (looked : event = .look number → ∀ last, wait ≠ .looking last) :
      Turns mailbox number event wait
  | begins : Turns mailbox number .beginReceive (.looking false)
  | wakes (was : mailbox.waits[number]? = some .parked) :
      Turns mailbox number (.wake number) (.looking false)
  | expires (was : mailbox.waits[number]? = some .parked) :
      Turns mailbox number (.expire number) (.looking true)
  | finds {last : Bool} {item : Item} (was : mailbox.waits[number]? = some (.looking last)) :
      Turns mailbox number (.look number) (.done (some item))
  | misses {last : Bool} (was : mailbox.waits[number]? = some (.looking last))
      (pops : mailbox.slots.pop = (none, mailbox.slots)) :
      Turns mailbox number (.look number) (if last then .done none else .parked)

theorem turns_of_step {wait : TimedWait Item}
    (becomes : (mailbox.step event).waits[number]? = some wait) :
    mailbox.Turns number event wait := by
  cases event with
  | send | reset | tryReceive => exact .stays becomes (by simp)
  | beginReceive =>
    simp only [step, beginReceive, TimedWait.begin, List.getElem?_append] at becomes
    split at becomes
    · exact .stays becomes (by simp)
    · have last := List.mem_of_getElem? becomes
      simp only [List.mem_singleton] at last
      exact last ▸ .begins
  | look other =>
    have looks := mailbox.looks other
    simp only [step] at becomes
    generalize mailbox.receipts (.look other) = receipts at looks
    generalize mailbox.look other = next at looks becomes
    by_cases same : other = number
    · subst same
      cases looks with
      | idle elsewhere =>
        refine .stays becomes ?_
        intro _ last looking
        exact elsewhere last (looking ▸ becomes)
      | finds looking pops =>
        have inside := (List.getElem?_eq_some_iff.mp looking).1
        simp only [List.getElem?_set_self inside, Option.some.injEq] at becomes
        exact becomes ▸ .finds looking
      | misses looking pops =>
        have inside := (List.getElem?_eq_some_iff.mp looking).1
        simp only [List.getElem?_set_self inside, Option.some.injEq] at becomes
        exact becomes ▸ .misses looking pops
    · refine .stays ?_ (by simp [same])
      cases looks with
      | idle => exact becomes
      | finds | misses => simpa [same] using becomes
  | wake other =>
    rcases wait_of_modify (fun _ => wake_of_ne_parked) becomes with was | ⟨was, rfl, rfl⟩
    · exact .stays was (by simp)
    · exact .wakes was
  | expire other =>
    rcases wait_of_modify (fun _ => expire_of_ne_parked) becomes with was | ⟨was, rfl, rfl⟩
    · exact .stays was (by simp)
    · exact .expires was

theorem parked_of_looks_last (last : (mailbox.step event).waits[number]? = some (.looking true)) :
    mailbox.waits[number]? = some (.looking true) ∧ event ≠ .look number ∨
      mailbox.waits[number]? = some .parked ∧ event = .expire number := by
  generalize wait_eq : TimedWait.looking true = wait at last
  cases turns_of_step last with
  | stays was looked =>
    subst wait_eq
    exact .inl ⟨was, fun looks => looked looks true rfl⟩
  | expires was => exact .inr ⟨was, rfl⟩
  | begins | wakes | finds => cases wait_eq
  | misses => split at wait_eq <;> cases wait_eq

theorem empty_of_gives_up (proper : mailbox.slots.Proper)
    (gaveUp : (mailbox.step event).waits[number]? = some (.done none)) :
    mailbox.waits[number]? = some (.done none) ∨
      mailbox.waits[number]? = some (.looking true) ∧ event = .look number ∧
        mailbox.slots.toList = [] := by
  generalize wait_eq : TimedWait.done none = wait at gaveUp
  cases turns_of_step gaveUp with
  | stays was => exact .inl (wait_eq ▸ was)
  | @misses last was pops =>
    cases last with
    | false => cases wait_eq
    | true => exact .inr ⟨was, rfl, LaneSlots.toList_eq_nil_of_pop_none proper pops⟩
  | begins | wakes | expires | finds => cases wait_eq

/-- The deadline of a receive about to look for the last time has passed, and it has not looked
since. -/
theorem exists_expire {events : List (Event Item)}
    (last : (empty.after events).waits[number]? = some (.looking true)) :
    ∃ earlier later, events = earlier ++ .expire number :: later ∧
      (empty.after earlier).waits[number]? = some .parked ∧ .look number ∉ later := by
  induction events using List.reverseRecOn with
  | nil => simp [after, empty] at last
  | append_singleton events event ih =>
    rw [after_concat] at last
    rcases parked_of_looks_last last with ⟨before, looks⟩ | ⟨parked, rfl⟩
    · rcases ih before with ⟨earlier, later, rfl, parked, unlooked⟩
      refine ⟨earlier, later ++ [event], by simp, parked, ?_⟩
      simp [unlooked, Ne.symm looks]
    · exact ⟨events, [], rfl, parked, List.not_mem_nil⟩

/-- A receive that gave up had its deadline pass and found nothing at its only look after that. -/
theorem exists_last_look {events : List (Event Item)}
    (gaveUp : (empty.after events).waits[number]? = some (.done none)) :
    ∃ earlier later rest, events = earlier ++ .expire number :: later ++ .look number :: rest ∧
      (empty.after earlier).waits[number]? = some .parked ∧ .look number ∉ later ∧
      (empty.after (earlier ++ .expire number :: later)).slots.toList = [] := by
  induction events using List.reverseRecOn with
  | nil => simp [after, empty] at gaveUp
  | append_singleton events event ih =>
    rw [after_concat] at gaveUp
    have proper := (booked_empty.run events).proper
    rcases empty_of_gives_up proper gaveUp with before | ⟨last, rfl, nothing⟩
    · rcases ih before with ⟨earlier, later, rest, rfl, parked, unlooked, nothing⟩
      exact ⟨earlier, later, rest ++ [event], by simp, parked, unlooked, nothing⟩
    · rcases exists_expire last with ⟨earlier, later, rfl, parked, unlooked⟩
      exact ⟨earlier, later, [], rfl, parked, unlooked, nothing⟩

theorem receives_of_looking {last : Bool} {item : Item} {rest : List Item}
    (looking : mailbox.waits[number]? = some (.looking last))
    (waits : mailbox.slots.toList = item :: rest) (proper : mailbox.slots.Proper) :
    (mailbox.look number).received number = some item ∧
      (mailbox.look number).slots.toList = rest := by
  have looks := mailbox.looks number
  generalize mailbox.receipts (.look number) = receipts at looks
  generalize mailbox.look number = next at looks
  cases looks with
  | idle elsewhere => exact absurd looking (elsewhere last)
  | finds _ pops =>
    rw [LaneSlots.toList_of_pop_some pops, List.cons.injEq] at waits
    rcases waits with ⟨rfl, rfl⟩
    rw [received_set looking]
    simp [TimedWait.result]
  | misses _ pops =>
    rw [LaneSlots.toList_eq_nil_of_pop_none proper pops] at waits
    cases waits

end Deadline

/-- The exchange of items, over every run of any number of threads.

Every item given is returned by one receive, displaced once or waiting, and the items come out in the
order in which they went in. A timed receive returns at most one item, for good. It comes back with
nothing only after its deadline, when its only look since then found an empty queue, and it takes the
head as soon as it looks at a queue that has one. Each call, whatever happens during it, is such a
run. -/
theorem items_exchanged_once [HasLane Item] (events : List (Event Item)) :
    Accounted (events.flatMap Event.given) ((gather receipts empty events).map Receipt.item)
      (gather displaced empty events) (empty.after events).slots.toList ∧
    ((gather receipts empty events).filterMap Receipt.wait).Nodup ∧
    (∀ number item, (empty.after events).received number = some item ↔
      ⟨some number, item⟩ ∈ gather receipts empty events) ∧
    (∀ number, (empty.after events).waits[number]? = some (.done none) →
      ∃ earlier later rest, events = earlier ++ .expire number :: later ++ .look number :: rest ∧
        (empty.after earlier).waits[number]? = some .parked ∧ .look number ∉ later ∧
        (empty.after (earlier ++ .expire number :: later)).slots.toList = []) ∧
    (∀ number last item rest, (empty.after events).waits[number]? = some (.looking last) →
      (empty.after events).slots.toList = item :: rest →
      ((empty.after events).look number).received number = some item ∧
        ((empty.after events).look number).slots.toList = rest) ∧
    ∀ command : Command Item, ((empty.after events).apply command).2 =
      empty.after (events ++ command.steps (empty.after events).waits.length) := by
  have booked := booked_empty.run events
  simp only [List.nil_append] at booked
  refine ⟨booked.accounted, booked.once, booked.returned, ?_, ?_, ?_⟩
  · intro number gaveUp
    exact exists_last_look gaveUp
  · intro number last item rest looking waits
    exact receives_of_looking looking waits booked.proper
  · intro command
    rw [← after_steps]
    simp [after]

/-- Two receives wait at a time. The first one is woken for nothing, sees its deadline pass and gives
up, the second one is woken for an item that is displaced before it looks. -/
def woken : List (Event (Nat × Lane)) :=
  [.beginReceive, .beginReceive, .look 0, .look 1, .wake 0, .look 0, .expire 0,
    .send (1, .background), .tryReceive, .look 0, .send (2, .background), .wake 1,
    .send (3, .interactive), .look 1, .send (4, .background), .reset (5, .background)]

theorem items_exchanged_once_woken :
    (empty.after woken).waits[0]? = some (.done none) ∧
      (empty.after woken).received 1 = some (3, .interactive) ∧
      ⟨some 1, (3, .interactive)⟩ ∈ gather receipts empty woken ∧
      (gather displaced empty woken).map Prod.fst = [2, 4] ∧
      Accounted (woken.flatMap Event.given) ((gather receipts empty woken).map Receipt.item)
        (gather displaced empty woken) (empty.after woken).slots.toList ∧
      ∃ earlier later rest, woken = earlier ++ .expire 0 :: later ++ .look 0 :: rest ∧
        (empty.after earlier).waits[0]? = some .parked ∧ .look 0 ∉ later ∧
        (empty.after (earlier ++ .expire 0 :: later)).slots.toList = [] := by
  rcases items_exchanged_once woken with ⟨accounted, _, returned, gaveUp, _, _⟩
  have receipt := (returned 1 (3, .interactive)).mp rfl
  exact ⟨rfl, rfl, receipt, rfl, accounted, gaveUp 0 rfl⟩

end Mailbox

end EditorAnalysis
