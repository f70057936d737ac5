import EditorAnalysis.Completion.Shared
import Mathlib.Data.List.Induction

/-!
# Waiters and the outcome

A call that ends a request records the outcome, sets the latch and announces the outcome, in three
sections between which anybody may act. `SharedCompletion.Won` says how far the first such call has
got, which is all there is to say about the cell: nobody else changes it. A watcher registers before it
looks, so one that found no outcome registered before the announcement (`Watcher.Fits`), and the
announcement reaches it, parked or not.

`SharedCompletion.waiters_agree` puts this together: once the first call is through, everybody who
waits is told its outcome.
-/

namespace EditorAnalysis

variable {Output : Type}

namespace FinishCall

/-- The cell that the first call leaves behind, by how far it has got. -/
def cell? (outcome : Outcome Output) : FinishCall Output → Option (Completion Output)
  | .releasing => some { outcome := some outcome }
  | .announcing => some { outcome := some outcome, latch := ⟨true⟩ }
  | .returned true => some { outcome := some outcome, latch := ⟨true⟩, announcements := 1 }
  | _ => none

/-- The call has not got to the cell, or it came too late. -/
def Late : FinishCall Output → Prop
  | .recording _ | .returned false => True
  | _ => False

variable {cell : Completion Output} {call : FinishCall Output} {outcome : Outcome Output}

theorem outcome_of_cell? (won : call.cell? outcome = some cell) : cell.outcome = some outcome := by
  cases call with
  | recording => cases won
  | returned first => cases first <;> cases won; rfl
  | releasing | announcing => cases won; rfl

/-- The first call goes from section to section. -/
theorem cell?_next (won : call.cell? outcome = some cell) :
    (call.next cell).1.cell? outcome = some (call.next cell).2 := by
  cases call with
  | recording => cases won
  | returned first => cases first <;> cases won; rfl
  | releasing | announcing => cases won; rfl

/-- A late call leaves the cell of the first one as it is. -/
theorem Late.next (late : call.Late) (settled : cell.outcome = some outcome) :
    (call.next cell).1.Late ∧ (call.next cell).2 = cell ∧ call.announces = false := by
  cases call with
  | recording other => simp [FinishCall.next, Completion.isComplete, settled, Late, announces]
  | returned first => exact ⟨late, rfl, rfl⟩
  | releasing | announcing => exact late.elim

/-- No call unsets the latch. -/
theorem isSet_next (call : FinishCall Output) (set : cell.latch.isSet = true) :
    (call.next cell).2.latch.isSet = true := by
  cases call with
  | recording outcome =>
    rw [FinishCall.next]
    split <;> exact set
  | releasing => rfl
  | announcing | returned => exact set

end FinishCall

/-- What a watcher knows fits the cell. Whoever found no outcome registered before any announcement,
and is woken if there has been one. -/
def Watcher.Fits (cell : Completion Output) : Watcher Output → Prop
  | .registered seen => seen ≤ cell.announcements
  | .looked seen => seen = 0
  | .parked seen woken => seen = 0 ∧ woken = decide (0 < cell.announcements)
  | .resolved outcome => cell.outcome = some outcome
  | _ => True

namespace Watcher

/-- A poll, begun now or under way, carried to its end while nobody else acts. -/
def through (cell : Completion Output) (watcher : Watcher Output) : Watcher Output :=
  ((watcher.poll cell).goOn cell).goOn cell

variable {cell : Completion Output} {watcher : Watcher Output} {outcome : Outcome Output}

/-- Polls of which nobody disturbs one are those of a watch. -/
theorem watch?_through (cell : Completion Output) {watch : Watch Output}
    (between : watcher.watch? = some watch) :
    (watcher.through cell).watch? = some (watch.poll cell) := by
  cases watcher with
  | unpolled =>
    cases between
    cases settled : cell.outcome <;>
      simp [through, poll, goOn, watch?, Watch.poll, Watch.register, settled]
  | parked seen woken =>
    cases between
    by_cases announced : seen < cell.announcements <;> cases settled : cell.outcome <;>
      simp [through, poll, goOn, watch?, Watch.poll, Watch.register, announced, settled]
  | resolved outcome =>
    cases between
    rfl
  | registered | looked | dropped => cases between

theorem ne_dropped_of_watch? {watch : Watch Output} (between : watcher.watch? = some watch) :
    watcher ≠ .dropped := by
  rintro rfl
  cases between

theorem Fits.poll (fits : watcher.Fits cell) : (watcher.poll cell).Fits cell := by
  cases watcher with
  | unpolled => exact Nat.le_refl _
  | parked seen woken =>
    rw [Watcher.poll]
    split
    · exact Nat.le_refl _
    · exact fits
  | _ => exact fits

/-- A watcher that finds no outcome registered before any announcement, for there has been none. -/
theorem Fits.goOn (quiet : cell.outcome = none → cell.announcements = 0)
    (fits : watcher.Fits cell) : (watcher.goOn cell).Fits cell := by
  cases watcher with
  | registered seen =>
    rw [Watcher.goOn]
    split
    next settled => exact settled
    next unsettled => exact Nat.le_zero.mp (quiet unsettled ▸ fits)
  | looked seen =>
    rw [Watcher.goOn]
    split
    next => exact Nat.le_refl _
    next unannounced => exact ⟨fits, (decide_eq_false (fits ▸ unannounced)).symm⟩
  | _ => exact fits

theorem Fits.drop (fits : watcher.Fits cell) : watcher.drop.Fits cell := by
  cases watcher with
  | registered | looked => exact fits
  | _ => trivial

/-- A call that ends the request wakes whoever its announcement has to reach. -/
theorem Fits.next (fits : watcher.Fits cell) (call : FinishCall Output) :
    (if call.announces then watcher.wake else watcher).Fits (call.next cell).2 := by
  cases call with
  | recording outcome =>
    simp only [FinishCall.next, FinishCall.announces, Bool.false_eq_true, if_false]
    split
    · exact fits
    next incomplete =>
      cases watcher with
      | resolved other =>
        rw [Completion.isComplete, show cell.outcome = some other from fits] at incomplete
        exact absurd rfl incomplete
      | _ => exact fits
  | releasing => cases watcher <;> exact fits
  | announcing =>
    cases watcher with
    | registered seen => exact Nat.le_succ_of_le fits
    | parked seen woken => exact ⟨fits.1, (decide_eq_true (Nat.succ_pos _)).symm⟩
    | _ => exact fits
  | returned first => exact fits

theorem through_of_quiet (unsettled : cell.outcome = none) (quiet : cell.announcements = 0)
    (fits : watcher.Fits cell) (kept : watcher ≠ .dropped) :
    watcher.through cell = .parked 0 false := by
  cases watcher with
  | unpolled => simp [through, poll, goOn, unsettled, quiet]
  | registered seen =>
    have start : seen = 0 := Nat.le_zero.mp (quiet ▸ fits)
    simp [through, poll, goOn, unsettled, quiet, start]
  | looked seen =>
    have start : seen = 0 := fits
    simp [through, poll, goOn, quiet, start]
  | parked seen woken =>
    rcases fits with ⟨rfl, rfl⟩
    simp [through, poll, goOn, quiet]
  | resolved outcome => exact absurd (unsettled.symm.trans fits) nofun
  | dropped => exact absurd rfl kept

theorem through_of_announced (settled : cell.outcome = some outcome)
    (announced : cell.announcements = 1) (fits : watcher.Fits cell) (kept : watcher ≠ .dropped) :
    watcher.through cell = .resolved outcome := by
  cases watcher with
  | unpolled | registered => simp [through, poll, goOn, settled]
  | looked seen =>
    have start : seen = 0 := fits
    simp [through, poll, goOn, settled, announced, start]
  | parked seen woken =>
    rcases fits with ⟨rfl, rfl⟩
    simp [through, poll, goOn, settled, announced]
  | resolved other =>
    cases settled.symm.trans fits
    rfl
  | dropped => exact absurd rfl kept

/-- Nobody parks once the announcement has been made, and whoever is parked goes on when polled. -/
theorem poll_ne_parked {seen : Nat} {woken : Bool} (announced : cell.announcements = 1)
    (fits : watcher.Fits cell) : watcher.poll cell ≠ .parked seen woken := by
  cases watcher with
  | parked seen woken =>
    rcases fits with ⟨rfl, rfl⟩
    simp [poll, announced]
  | _ => exact nofun

theorem eq_of_goOn_parked {seen : Nat} {woken : Bool} (announced : cell.announcements = 1)
    (fits : watcher.Fits cell) (parks : watcher.goOn cell = .parked seen woken) :
    watcher = .parked seen woken := by
  cases watcher with
  | registered seen =>
    rw [goOn] at parks
    split at parks <;> cases parks
  | looked seen =>
    have start : seen = 0 := fits
    simp [goOn, announced, start] at parks
  | _ => exact parks

theorem drop_ne_parked {seen : Nat} {woken : Bool} : watcher.drop ≠ .parked seen woken := by
  cases watcher <;> exact nofun

end Watcher

namespace SharedCompletion

variable {shared : SharedCompletion Output} {number : Nat} {outcome : Outcome Output}
  {events later : List (Event Output)} {event : Event Output}

/-- No call has got to the cell. -/
structure Open (shared : SharedCompletion Output) : Prop where
  cell : shared.cell = .pending
  begun : ∀ call ∈ shared.finishes, ∃ outcome, call = .recording outcome

/-- The call of the given number was the first to record its outcome. -/
structure Won (number : Nat) (outcome : Outcome Output) (shared : SharedCompletion Output) :
    Prop where
  first : ∃ call, shared.finishes[number]? = some call ∧ call.cell? outcome = some shared.cell
  others : ∀ other call, other ≠ number → shared.finishes[other]? = some call → call.Late

/-- The call of the given number is the first in a run to record its outcome. -/
def FirstFinish (events : List (Event Output)) (number : Nat) (outcome : Outcome Output) : Prop :=
  ∃ past later, events = past ++ .advance number :: later ∧
    (fresh.after past).finishes[number]? = some (.recording outcome) ∧
    (fresh.after past).cell.outcome = none

section Runs

theorem after_append (shared : SharedCompletion Output) (events later : List (Event Output)) :
    shared.after (events ++ later) = (shared.after events).after later :=
  List.foldl_append

theorem after_concat (shared : SharedCompletion Output) (events : List (Event Output))
    (event : Event Output) :
    shared.after (events ++ [event]) = (shared.after events).step event := by
  rw [after_append]
  rfl

/-- What every section keeps, every run keeps. -/
theorem after_preserves {motive : SharedCompletion Output → Prop}
    (keeps : ∀ shared event, motive shared → motive (shared.step event)) (start : motive shared)
    (events : List (Event Output)) : motive (shared.after events) := by
  induction events generalizing shared with
  | nil => exact start
  | cons event rest ih => exact ih (keeps shared event start)

end Runs

section Calls

variable {call : FinishCall Output}

theorem advance_eq (found : shared.finishes[number]? = some call) :
    shared.advance number =
      { shared with
        cell := (call.next shared.cell).2
        finishes := shared.finishes.set number (call.next shared.cell).1
        watchers :=
          if call.announces then shared.watchers.map Watcher.wake else shared.watchers } := by
  simp only [advance, found]

theorem finishes_advance (found : shared.finishes[number]? = some call) (other : Nat) :
    (shared.advance number).finishes[other]? =
      if other = number then some (call.next shared.cell).1 else shared.finishes[other]? := by
  rw [advance_eq found, List.getElem?_set, if_pos (List.getElem?_eq_some_iff.mp found).1]
  simp only [eq_comm]

theorem advance_eq_self (missing : shared.finishes[number]? = none) :
    shared.advance number = shared := by
  simp only [advance, missing]

theorem finishes_finish {other : Nat} {recorded : Outcome Output}
    (found : shared.finishes[other]? = some call) :
    (shared.step (.finish recorded)).finishes[other]? = some call :=
  (List.getElem?_append_left (List.getElem?_eq_some_iff.mp found).1).trans found

/-- The first call records its outcome. -/
theorem Open.won_of_advance (unreached : shared.Open)
    (found : shared.finishes[number]? = some (.recording outcome)) :
    Won number outcome (shared.advance number) := by
  refine ⟨⟨.releasing, ?_, ?_⟩, ?_⟩
  · rw [finishes_advance found, if_pos rfl, unreached.cell]
    rfl
  · rw [advance_eq found, unreached.cell]
    rfl
  · intro other call different at_
    rw [finishes_advance found, if_neg different] at at_
    rcases unreached.begun call (List.mem_of_getElem? at_) with ⟨recorded, rfl⟩
    trivial

theorem Open.step (unreached : shared.Open) (event : Event Output) :
    (shared.step event).Open ∨
      ∃ number outcome, event = .advance number ∧
        shared.finishes[number]? = some (.recording outcome) := by
  cases event with
  | advance number =>
    cases found : shared.finishes[number]? with
    | none =>
      rw [SharedCompletion.step, advance_eq_self found]
      exact .inl unreached
    | some call =>
      rcases unreached.begun call (List.mem_of_getElem? found) with ⟨outcome, rfl⟩
      exact .inr ⟨number, outcome, rfl, found⟩
  | finish outcome =>
    left
    refine ⟨unreached.cell, ?_⟩
    intro call member
    rcases List.mem_append.mp member with old | new
    · exact unreached.begun call old
    · exact ⟨outcome, List.mem_singleton.mp new⟩
  | _ => exact .inl ⟨unreached.cell, unreached.begun⟩

theorem Won.settled (won : Won number outcome shared) : shared.cell.outcome = some outcome := by
  rcases won.first with ⟨call, _, cell⟩
  exact FinishCall.outcome_of_cell? cell

theorem Won.step (won : Won number outcome shared) (event : Event Output) :
    Won number outcome (shared.step event) := by
  rcases won.first with ⟨winner, foundWinner, cell⟩
  cases event with
  | advance other =>
    rw [SharedCompletion.step]
    cases found : shared.finishes[other]? with
    | none =>
      rw [advance_eq_self found]
      exact won
    | some call =>
      by_cases same : other = number
      · subst same
        cases found.symm.trans foundWinner
        refine ⟨⟨(winner.next shared.cell).1, ?_, ?_⟩, ?_⟩
        · rw [finishes_advance found, if_pos rfl]
        · rw [advance_eq found]
          exact FinishCall.cell?_next cell
        · intro another late different at_
          rw [finishes_advance found, if_neg different] at at_
          exact won.others another late different at_
      · rcases (won.others other call same found).next won.settled with ⟨late, kept, _⟩
        refine ⟨⟨winner, ?_, ?_⟩, ?_⟩
        · rw [finishes_advance found, if_neg (Ne.symm same)]
          exact foundWinner
        · rw [advance_eq found, kept]
          exact cell
        · intro another next different at_
          rw [finishes_advance found] at at_
          split at at_
          · cases at_
            exact late
          · exact won.others another next different at_
  | finish recorded =>
    refine ⟨⟨winner, finishes_finish foundWinner, cell⟩, ?_⟩
    intro other call different at_
    by_cases old : other < shared.finishes.length
    · exact won.others other call different ((List.getElem?_append_left old).symm.trans at_)
    · have new := (List.getElem?_append_right (Nat.le_of_not_lt old)).symm.trans at_
      rw [List.mem_singleton.mp (List.mem_of_getElem? new)]
      trivial
  | _ => exact ⟨⟨winner, foundWinner, cell⟩, won.others⟩

theorem opened_or_won (events : List (Event Output)) :
    (fresh.after events).Open ∨
      ∃ number outcome, FirstFinish events number outcome ∧
        Won number outcome (fresh.after events) := by
  induction events using List.reverseRecOn with
  | nil => exact .inl ⟨rfl, fun call member => absurd member List.not_mem_nil⟩
  | append_singleton past event ih =>
    rw [after_concat]
    rcases ih with unreached | ⟨number, outcome, ⟨before, later, rfl, first⟩, won⟩
    · rcases unreached.step event with still | ⟨number, outcome, rfl, found⟩
      · exact .inl still
      · refine .inr ⟨number, outcome, ⟨past, [], rfl, found, ?_⟩, unreached.won_of_advance found⟩
        rw [unreached.cell]
        rfl
    · exact .inr ⟨number, outcome, ⟨before, later ++ [event], by simp, first⟩, won.step event⟩

theorem won_of_firstFinish (first : FirstFinish events number outcome) :
    Won number outcome (fresh.after events) := by
  rcases first with ⟨past, later, rfl, found, unsettled⟩
  have unreached : (fresh.after past).Open := by
    rcases opened_or_won past with unreached | ⟨_, other, _, won⟩
    · exact unreached
    · rw [won.settled] at unsettled
      cases unsettled
  rw [List.append_cons, after_append, after_concat]
  exact after_preserves (fun _ event won => won.step event) (unreached.won_of_advance found) later

theorem FirstFinish.extend (first : FirstFinish events number outcome)
    (later : List (Event Output)) : FirstFinish (events ++ later) number outcome := by
  rcases first with ⟨past, rest, rfl, first⟩
  exact ⟨past, rest ++ later, by simp, first⟩

/-- The first call is through. -/
structure Through (number : Nat) (outcome : Outcome Output) (shared : SharedCompletion Output) :
    Prop where
  won : Won number outcome shared
  returned : shared.finishes[number]? = some (.returned true)

theorem Through.cell (through : Through number outcome shared) :
    shared.cell = Completion.pending.finish outcome := by
  rcases through.won.first with ⟨call, found, cell⟩
  cases through.returned.symm.trans found
  exact (Option.some.inj cell).symm

theorem Through.step (through : Through number outcome shared) (event : Event Output) :
    Through number outcome (shared.step event) := by
  refine ⟨through.won.step event, ?_⟩
  cases event with
  | advance other =>
    rw [SharedCompletion.step]
    cases found : shared.finishes[other]? with
    | none =>
      rw [advance_eq_self found]
      exact through.returned
    | some call =>
      rw [finishes_advance found]
      split
      next same =>
        subst same
        cases found.symm.trans through.returned
        rfl
      next => exact through.returned
  | finish recorded => exact finishes_finish through.returned
  | _ => exact through.returned

/-- A call that nobody disturbs is `Completion.finish`. -/
theorem finish_undisturbed (shared : SharedCompletion Output) (outcome : Outcome Output) :
    (shared.after (.finish outcome :: List.replicate 3 (.advance shared.finishes.length))).cell =
        shared.cell.finish outcome ∧
      (shared.after
          (.finish outcome :: List.replicate 3 (.advance shared.finishes.length))).finishes =
        shared.finishes ++ [.returned !shared.cell.isComplete] := by
  cases complete : shared.cell.isComplete <;>
    simp [after, List.replicate, SharedCompletion.step, advance, FinishCall.next, complete,
      Completion.finish]

/-- Once a call has returned, the first one has recorded its outcome, and where no call is between
its sections the first one is through. -/
theorem Won.through (won : Won number outcome shared) (notReleasing : .releasing ∉ shared.finishes)
    (notAnnouncing : .announcing ∉ shared.finishes) : Through number outcome shared := by
  refine ⟨won, ?_⟩
  rcases won.first with ⟨call, found, cell⟩
  have member := List.mem_of_getElem? found
  cases call with
  | recording => cases cell
  | releasing => exact absurd member notReleasing
  | announcing => exact absurd member notAnnouncing
  | returned first => cases first <;> [cases cell; exact found]

end Calls

section Waiting

/-- What the waiters know fits the cell. -/
structure Fitting (shared : SharedCompletion Output) : Prop where
  watchers : ∀ watcher ∈ shared.watchers, watcher.Fits shared.cell
  waits : ∀ wait ∈ shared.waits, wait = .done (some ()) → shared.cell.latch.isSet = true

/-- The latch and the announcements come after the outcome. -/
theorem cell_of_unsettled (events : List (Event Output))
    (unsettled : (fresh.after events).cell.outcome = none) :
    (fresh.after events).cell = .pending := by
  rcases opened_or_won events with unreached | ⟨_, _, _, won⟩
  · exact unreached.cell
  · rw [won.settled] at unsettled
    cases unsettled

theorem found_of_append {α : Type} {entries : List α} (added : α) {entry : α} {index : Nat}
    (different : entry ≠ added) (at_ : (entries ++ [added])[index]? = some entry) :
    entries[index]? = some entry := by
  by_cases old : index < entries.length
  · exact (List.getElem?_append_left old).symm.trans at_
  · have new := (List.getElem?_append_right (Nat.le_of_not_lt old)).symm.trans at_
    exact absurd (List.mem_singleton.mp (List.mem_of_getElem? new)) different

theorem found_of_modify {α : Type} {entries : List α} {change : α → α} {entry : α} {index : Nat}
    (at_ : (entries.modify number change)[index]? = some entry) :
    ∃ old, entries[index]? = some old ∧ (if number = index then change old else old) = entry := by
  rw [List.getElem?_modify] at at_
  rcases Option.map_eq_some_iff.mp at_ with ⟨old, found, becomes⟩
  refine ⟨old, found, ?_⟩
  split at becomes
  next same => rw [if_pos same, ← becomes]
  next different => rw [if_neg different, ← becomes]

theorem forall_mem_modify {α : Type} {property : α → Prop} {entries : List α} {change : α → α}
    (keeps : ∀ entry, property entry → property (change entry))
    (all : ∀ entry ∈ entries, property entry) (number : Nat) :
    ∀ entry ∈ entries.modify number change, property entry := by
  intro entry member
  rcases List.getElem?_of_mem member with ⟨index, found⟩
  rcases found_of_modify found with ⟨old, foundOld, rfl⟩
  have kept := all old (List.mem_of_getElem? foundOld)
  split
  · exact keeps old kept
  · exact kept

/-- Only a look at the set latch sees it set. -/
theorem isSet_of_look {latch : Latch} {wait : TimedWait Unit}
    (before : wait = .done (some ()) → latch.isSet = true)
    (seen : wait.look latch.observe = .done (some ())) : latch.isSet = true := by
  cases wait with
  | looking last =>
    by_contra unset
    rw [Bool.not_eq_true] at unset
    cases last <;> simp [TimedWait.look, Latch.observe, unset] at seen
  | parked => cases seen
  | done value => exact before seen

theorem Fitting.step (fitting : shared.Fitting)
    (quiet : shared.cell.outcome = none → shared.cell.announcements = 0) (event : Event Output) :
    (shared.step event).Fitting := by
  rcases fitting with ⟨watchers, waits⟩
  cases event with
  | finish outcome => exact ⟨watchers, waits⟩
  | advance number =>
    cases found : shared.finishes[number]? with
    | none =>
      rw [SharedCompletion.step, advance_eq_self found]
      exact ⟨watchers, waits⟩
    | some call =>
      rw [SharedCompletion.step, advance_eq found]
      refine ⟨?_, ?_⟩
      · intro watcher member
        cases announces : call.announces with
        | false =>
          rw [announces] at member
          simpa [announces] using (watchers watcher member).next call
        | true =>
          rw [announces] at member
          rcases List.mem_map.mp member with ⟨old, inside, rfl⟩
          simpa [announces] using (watchers old inside).next call
      · intro wait member seen
        exact FinishCall.isSet_next call (waits wait member seen)
  | wait =>
    refine ⟨watchers, ?_⟩
    intro wait member seen
    rcases List.mem_append.mp member with old | new
    · exact waits wait old seen
    · cases (List.mem_singleton.mp new).symm.trans seen
  | look number =>
    refine ⟨watchers, forall_mem_modify ?_ waits number⟩
    intro wait before seen
    exact isSet_of_look before seen
  | wake number =>
    refine ⟨watchers, forall_mem_modify ?_ waits number⟩
    intro wait before seen
    cases wait <;> first | exact before seen | cases seen
  | expire number =>
    refine ⟨watchers, forall_mem_modify ?_ waits number⟩
    intro wait before seen
    cases wait <;> first | exact before seen | cases seen
  | watch =>
    refine ⟨?_, waits⟩
    intro watcher member
    rcases List.mem_append.mp member with old | new
    · exact watchers watcher old
    · rw [List.mem_singleton.mp new]
      trivial
  | poll number =>
    exact ⟨forall_mem_modify (fun _ fits => fits.poll) watchers number, waits⟩
  | goOn number =>
    exact ⟨forall_mem_modify (fun _ fits => fits.goOn quiet) watchers number, waits⟩
  | drop number =>
    exact ⟨forall_mem_modify (fun _ fits => fits.drop) watchers number, waits⟩

theorem fitting_after (events : List (Event Output)) : (fresh.after events).Fitting := by
  induction events using List.reverseRecOn with
  | nil => exact ⟨nofun, nofun⟩
  | append_singleton past event ih =>
    rw [after_concat]
    apply ih.step
    intro unsettled
    rw [cell_of_unsettled past unsettled]
    rfl

end Waiting

section Aftermath

/-- What everybody is told before the first call gets to the cell. -/
structure Unanswered (shared : SharedCompletion Output) : Prop where
  incomplete : shared.cell.isComplete = false
  unrecorded : shared.cell.outcome = none
  /-- A wait with a deadline that nobody disturbs, and each look of one. -/
  timedOut : shared.cell.waitTimeout = false
  unseen : ∀ wait ∈ shared.waits, wait.look shared.cell.latch.observe ≠ .done (some ())
  pending : ∀ watcher ∈ shared.watchers, watcher ≠ .dropped →
    watcher.through shared.cell = .parked 0 false
  /-- A poll that nobody disturbs. -/
  polled : ∀ watcher ∈ shared.watchers, ∀ watch, watcher.watch? = some watch →
    watch.poll shared.cell = .parked 0

/-- What everybody is told once the first call is through. -/
structure Answered (outcome : Outcome Output) (shared : SharedCompletion Output) : Prop where
  complete : shared.cell.isComplete = true
  recorded : shared.cell.outcome = some outcome
  /-- A wait with a deadline that nobody disturbs, and each look of one. -/
  waited : shared.cell.waitTimeout = true
  seen : ∀ last, (TimedWait.looking last).look shared.cell.latch.observe = .done (some ())
  ready : ∀ watcher ∈ shared.watchers, watcher ≠ .dropped →
    watcher.through shared.cell = .resolved outcome
  /-- A poll that nobody disturbs. -/
  polled : ∀ watcher ∈ shared.watchers, ∀ watch, watcher.watch? = some watch →
    watch.poll shared.cell = .resolved outcome
  woken : ∀ seen woken, .parked seen woken ∈ shared.watchers → woken = true

theorem Open.unanswered (unreached : shared.Open) (fitting : shared.Fitting) :
    shared.Unanswered := by
  rcases shared with ⟨cell, finishes, waits, watchers⟩
  cases unreached.cell
  have pending (watcher : Watcher Output) (member : watcher ∈ watchers)
      (kept : watcher ≠ .dropped) : watcher.through .pending = .parked 0 false :=
    Watcher.through_of_quiet rfl rfl (fitting.watchers watcher member) kept
  refine ⟨rfl, rfl, rfl, ?_, pending, ?_⟩
  · intro wait member seen
    exact nomatch isSet_of_look (fitting.waits wait member) seen
  · intro watcher member watch between
    have through := Watcher.watch?_through .pending between
    rw [pending watcher member (Watcher.ne_dropped_of_watch? between)] at through
    exact (Option.some.inj through).symm

theorem Through.answered (through : Through number outcome shared) (fitting : shared.Fitting) :
    Answered outcome shared := by
  have cell := through.cell
  rcases shared with ⟨_, finishes, waits, watchers⟩
  cases cell
  have ready (watcher : Watcher Output) (member : watcher ∈ watchers)
      (kept : watcher ≠ .dropped) :
      watcher.through (Completion.pending.finish outcome) = .resolved outcome :=
    Watcher.through_of_announced rfl rfl (fitting.watchers watcher member) kept
  refine ⟨rfl, rfl, rfl, fun last => rfl, ready, ?_, ?_⟩
  · intro watcher member watch between
    have through := Watcher.watch?_through (Completion.pending.finish outcome) between
    rw [ready watcher member (Watcher.ne_dropped_of_watch? between)] at through
    exact (Option.some.inj through).symm
  · intro seen woken member
    exact (fitting.watchers _ member).2

variable {seen index : Nat} {woken : Bool}

theorem Through.announced (through : Through number outcome shared) :
    shared.cell.announcements = 1 := by
  rw [through.cell]
  rfl

/-- Nobody announces the outcome again. -/
theorem Through.watchers_advance (through : Through number outcome shared) (other : Nat) :
    (shared.step (.advance other)).watchers = shared.watchers := by
  cases found : shared.finishes[other]? with
  | none => rw [SharedCompletion.step, advance_eq_self found]
  | some call =>
    have silent : call.announces = false := by
      by_cases same : other = number
      · subst same
        cases found.symm.trans through.returned
        rfl
      · exact ((through.won.others other call same found).next through.won.settled).2.2
    rw [SharedCompletion.step, advance_eq found, silent]
    rfl

/-- Once the first call is through, whoever is parked was parked, and has not been polled. -/
theorem Through.parked_of_step (through : Through number outcome shared)
    (fitting : shared.Fitting) (event : Event Output)
    (parks : (shared.step event).watchers[index]? = some (.parked seen woken)) :
    shared.watchers[index]? = some (.parked seen woken) ∧ event ≠ .poll index := by
  cases event with
  | advance other =>
    rw [through.watchers_advance] at parks
    exact ⟨parks, nofun⟩
  | watch => exact ⟨found_of_append .unpolled nofun parks, nofun⟩
  | poll other =>
    rcases found_of_modify parks with ⟨watcher, found, becomes⟩
    split at becomes
    next =>
      have fits := fitting.watchers watcher (List.mem_of_getElem? found)
      exact absurd becomes (Watcher.poll_ne_parked through.announced fits)
    next different =>
      refine ⟨found.trans (congrArg some becomes), ?_⟩
      rintro ⟨⟩
      exact different rfl
  | goOn other =>
    rcases found_of_modify parks with ⟨watcher, found, becomes⟩
    refine ⟨found.trans (congrArg some ?_), nofun⟩
    split at becomes
    · have fits := fitting.watchers watcher (List.mem_of_getElem? found)
      exact Watcher.eq_of_goOn_parked through.announced fits becomes
    · exact becomes
  | drop other =>
    rcases found_of_modify parks with ⟨watcher, found, becomes⟩
    refine ⟨found.trans (congrArg some ?_), nofun⟩
    split at becomes
    · exact absurd becomes Watcher.drop_ne_parked
    · exact becomes
  | _ => exact ⟨parks, nofun⟩

/-- Once the first call is through, no wait comes back with nothing. -/
theorem Through.done_of_step (through : Through number outcome shared) (event : Event Output)
    (gaveUp : (shared.step event).waits[index]? = some (.done none)) :
    shared.waits[index]? = some (.done none) := by
  cases event with
  | advance other =>
    rw [SharedCompletion.step] at gaveUp
    cases found : shared.finishes[other]? with
    | none =>
      rw [advance_eq_self found] at gaveUp
      exact gaveUp
    | some call =>
      rw [advance_eq found] at gaveUp
      exact gaveUp
  | wait => exact found_of_append TimedWait.begin nofun gaveUp
  | look other =>
    rcases found_of_modify gaveUp with ⟨wait, found, becomes⟩
    refine found.trans (congrArg some ?_)
    rw [through.cell] at becomes
    split at becomes
    · cases wait with
      | looking | parked => cases becomes
      | done value => exact becomes
    · exact becomes
  | wake other | expire other =>
    rcases found_of_modify gaveUp with ⟨wait, found, becomes⟩
    refine found.trans (congrArg some ?_)
    split at becomes
    · cases wait with
      | looking | parked => cases becomes
      | done value => exact becomes
    · exact becomes
  | _ => exact gaveUp

/-- What one section keeps once the first call is through, every run keeps. -/
theorem Through.run (through : Through number outcome (fresh.after events))
    (later : List (Event Output)) :
    Through number outcome (fresh.after (events ++ later)) ∧
      (∀ (index : Nat) seen woken,
        (fresh.after (events ++ later)).watchers[index]? = some (.parked seen woken) →
          (fresh.after events).watchers[index]? = some (.parked seen woken) ∧
            .poll index ∉ later) ∧
      ∀ index : Nat, (fresh.after (events ++ later)).waits[index]? = some (.done none) →
        (fresh.after events).waits[index]? = some (.done none) := by
  induction later using List.reverseRecOn with
  | nil =>
    rw [List.append_nil]
    exact ⟨through, fun index seen woken parks => ⟨parks, List.not_mem_nil⟩,
      fun index gaveUp => gaveUp⟩
  | append_singleton past event ih =>
    rcases ih with ⟨still, parked, done⟩
    rw [← List.append_assoc, after_concat]
    refine ⟨still.step event, ?_, ?_⟩
    · intro index seen woken parks
      rcases still.parked_of_step (fitting_after _) event parks with ⟨before, notPoll⟩
      rcases parked index seen woken before with ⟨start, unpolled⟩
      refine ⟨start, ?_⟩
      intro polled
      rcases List.mem_append.mp polled with inside | last
      · exact unpolled inside
      · exact notPoll (List.mem_singleton.mp last).symm
    · intro index gaveUp
      exact done index (still.done_of_step event gaveUp)

end Aftermath

/-- Waiters and the outcome, over every run of any number of threads.

Before a call that ends the request has got to the cell, everybody is told that there is no outcome.
From the first such call on there is one, its own, for good. When that call is through, every wait is
let through, every poll is ready with this outcome, and whoever is parked has been woken; nobody parks
or comes back with nothing after that.

A call that comes too late can be over while the first one is still between its sections. There is an
outcome by then, and if nobody is between sections the first call is through. A call that nobody
disturbs is `Completion.finish`. -/
theorem waiters_agree (events : List (Event Output)) :
    ((∀ call ∈ (fresh.after events).finishes, ∃ outcome, call = .recording outcome) →
      (fresh.after events).Unanswered) ∧
    (∀ number outcome, FirstFinish events number outcome →
      (∀ later, (fresh.after (events ++ later)).cell.isComplete = true ∧
        (fresh.after (events ++ later)).cell.outcome = some outcome ∧
        ∀ other, .resolved other ∈ (fresh.after (events ++ later)).watchers → other = outcome) ∧
      ((fresh.after events).finishes[number]? = some (.returned true) →
        ∀ later, Answered outcome (fresh.after (events ++ later)) ∧
          (∀ (index : Nat) seen woken,
            (fresh.after (events ++ later)).watchers[index]? = some (.parked seen woken) →
              (fresh.after events).watchers[index]? = some (.parked seen woken) ∧
                .poll index ∉ later) ∧
          ∀ index : Nat, (fresh.after (events ++ later)).waits[index]? = some (.done none) →
            (fresh.after events).waits[index]? = some (.done none))) ∧
    (∀ first, .returned first ∈ (fresh.after events).finishes →
      ∃ number outcome, FirstFinish events number outcome ∧
        (.releasing ∉ (fresh.after events).finishes → .announcing ∉ (fresh.after events).finishes →
          (fresh.after events).finishes[number]? = some (.returned true))) ∧
    ∀ outcome,
      let alone := fresh.after (events ++
        .finish outcome :: List.replicate 3 (.advance (fresh.after events).finishes.length))
      alone.cell = (fresh.after events).cell.finish outcome ∧
        alone.finishes =
          (fresh.after events).finishes ++ [.returned !(fresh.after events).cell.isComplete] := by
  refine ⟨?_, ?_, ?_, ?_⟩
  · intro recording
    rcases opened_or_won events with unreached | ⟨number, outcome, _, won⟩
    · exact unreached.unanswered (fitting_after events)
    · rcases won.first with ⟨call, found, cell⟩
      rcases recording call (List.mem_of_getElem? found) with ⟨other, rfl⟩
      cases cell
  · intro number outcome first
    refine ⟨?_, ?_⟩
    · intro later
      have settled := (won_of_firstFinish (first.extend later)).settled
      refine ⟨Option.isSome_iff_exists.mpr ⟨outcome, settled⟩, settled, ?_⟩
      intro other resolved
      have fits := (fitting_after (events ++ later)).watchers _ resolved
      exact Option.some.inj (fits.symm.trans settled)
    · intro returned later
      have through : Through number outcome (fresh.after events) :=
        ⟨won_of_firstFinish first, returned⟩
      rcases through.run later with ⟨still, parked, done⟩
      exact ⟨still.answered (fitting_after _), parked, done⟩
  · intro first member
    rcases opened_or_won events with unreached | ⟨number, outcome, firstFinish, won⟩
    · rcases unreached.begun _ member with ⟨outcome, same⟩
      cases same
    · refine ⟨number, outcome, firstFinish, ?_⟩
      intro notReleasing notAnnouncing
      exact (won.through notReleasing notAnnouncing).returned
  · intro outcome
    rw [after_append]
    exact finish_undisturbed (fresh.after events) outcome

/-- A watcher is parked when two threads end the request, and the second one is over at once. -/
def overtaken : List (Event Nat) :=
  [.watch, .poll 0, .goOn 0, .goOn 0, .finish .displaced, .finish .aborted, .advance 0, .advance 1]

/-- When a call that came too late is over, a wait may still come back with nothing and a poll may still
be pending. -/
theorem late_finish_overtakes :
    (fresh.after overtaken).finishes = [.releasing, .returned false] ∧
      (fresh.after (overtaken ++ [.wait, .look 0, .expire 0, .look 0])).waits = [.done none] ∧
      (fresh.after (overtaken ++ [.poll 0])).watchers = [.parked 0 false] :=
  ⟨rfl, rfl, rfl⟩

/-- Two watchers park and a third one is about to, when two threads end the request. The second one
records first, the other one is over at once, and the announcement comes before the third watcher
parks. -/
def contended : List (Event Nat) :=
  [.watch, .watch, .watch, .wait, .poll 0, .goOn 0, .goOn 0, .look 0, .poll 1, .goOn 1, .goOn 1,
    .poll 2, .goOn 2, .finish .superseded, .finish .displaced, .advance 1, .advance 0, .drop 1,
    .wait, .look 1, .advance 1, .advance 1, .expire 0, .look 0]

theorem waiters_agree_contended :
    FirstFinish contended 1 .displaced ∧
      (fresh.after contended).finishes = [.returned false, .returned true] ∧
      (fresh.after contended).watchers = [.parked 0 true, .dropped, .looked 0] ∧
      (fresh.after contended).waits = [.done (some ()), .parked] ∧
      Answered .displaced (fresh.after contended) ∧
      Answered .displaced (fresh.after (contended ++ [.poll 0, .goOn 0, .goOn 2])) := by
  have first : FirstFinish contended 1 .displaced :=
    ⟨contended.take 15, contended.drop 16, rfl, rfl, rfl⟩
  rcases (waiters_agree contended).2.1 1 .displaced first with ⟨_, answered⟩
  exact ⟨first, rfl, rfl, rfl, (answered rfl []).1, (answered rfl _).1⟩

end SharedCompletion

end EditorAnalysis
