import EditorAnalysis.Proofs.Config.Notation
import EditorAnalysis.Proofs.Config.Schema
import EditorAnalysis.Proofs.Toml.Keys

/-!
# What a document makes of the settings

Members are visited in the order of their keys, and the first one that is refused ends the reading.
The visits of members that all fit leave every setting at the value that the table gives it, and the
others as they were (`visits_of_fits`); a member that offends is reported as soon as everything before
it fits (`visits_of_offends`). Since the keys of a table are distinct, what stands before a member in
the order of visits is what has a lesser key.
-/

namespace EditorAnalysis.Config

open Toml (Table)

namespace Follows

variable {table : Table} {before changed config : Config}

theorem nil : Follows [] config config where
  given _ _ member := absurd member List.not_mem_nil
  left _ _ := rfl

/-- A member and the members after it, where its key does not return. -/
theorem cons {member : String × Toml.Value} (fresh : member.1 ∉ table.map Prod.fst)
    (first : Follows [member] before changed) (rest : Follows table changed config) :
    Follows (member :: table) before config where
  given field value mem := by
    rcases List.mem_cons.mp mem with own | later
    · have untouched : config.setting field = changed.setting field := by
        apply rest.left
        intro other later
        rw [← own] at fresh
        exact fresh (List.mem_map.mpr ⟨_, later, rfl⟩)
      rw [untouched]
      exact first.given field value (List.mem_singleton.mpr own)
    · exact rest.given field value later
  left field unnamed := by
    rw [rest.left field fun value later => unnamed value (List.mem_cons_of_mem _ later)]
    apply first.left
    intro value own
    exact unnamed value (List.mem_cons.mpr (.inl (List.mem_singleton.mp own)))

theorem of_perm {shuffled : Table} (perm : shuffled.Perm table)
    (follows : Follows shuffled before config) : Follows table before config where
  given field value member := follows.given field value (perm.mem_iff.mpr member)
  left field unnamed := follows.left field fun value member =>
    unnamed value (perm.mem_iff.mp member)

end Follows

section Visits

theorem visits_of_fits {members : Table} (distinct : (members.map Prod.fst).Nodup)
    (fit : ∀ member ∈ members, Fits member) (config : Config) :
    ∃ final, members.foldlM visit config = .ok final ∧ Follows members config final := by
  induction members generalizing config with
  | nil => exact ⟨config, rfl, .nil⟩
  | cons member rest ih =>
    rcases List.nodup_cons.mp distinct with ⟨fresh, distinctRest⟩
    have fitRest : ∀ other ∈ rest, Fits other := by
      intro other later
      exact fit other (List.mem_cons_of_mem _ later)
    rcases visit_of_fits (fit member List.mem_cons_self) config with ⟨changed, visited, first⟩
    rcases ih distinctRest fitRest changed with ⟨final, remaining, follows⟩
    refine ⟨final, ?_, first.cons fresh follows⟩
    rw [List.foldlM_cons, visited]
    exact remaining

theorem visits_of_offends {before after : Table} {member : String × Toml.Value} {error : Error}
    (fit : ∀ earlier ∈ before, Fits earlier) (offends : Offends member error) (config : Config) :
    (before ++ member :: after).foldlM visit config = .error error := by
  induction before generalizing config with
  | nil =>
    rw [List.nil_append, List.foldlM_cons, visit_of_offends offends]
    rfl
  | cons earlier rest ih =>
    rcases visit_of_fits (fit earlier List.mem_cons_self) config with ⟨changed, visited, _⟩
    rw [List.cons_append, List.foldlM_cons, visited]
    exact ih (fun other later => fit other (List.mem_cons_of_mem _ later)) changed

end Visits

section Order

variable {table before after : Table} {member other : String × Toml.Value}
  (split : sortedByKey table = before ++ member :: after)

include split

/-- Members that are visited before a member have lesser keys. -/
theorem lt_of_mem_before (distinct : (table.map Prod.fst).Nodup) (mem : other ∈ before) :
    other.1 < member.1 := by
  have ordered := pairwise_sortedByKey table
  have apart := ((perm_sortedByKey table).map Prod.fst).nodup_iff.mpr distinct
  rw [split] at ordered apart
  have atMost : other.1 ≤ member.1 :=
    (List.pairwise_append.mp ordered).2.2 other mem member List.mem_cons_self
  have different : other.1 ≠ member.1 := by
    rw [List.map_append, List.nodup_append] at apart
    exact apart.2.2 _ (List.mem_map_of_mem mem) _ (List.mem_map_of_mem List.mem_cons_self)
  apply String.not_le.mp
  intro atLeast
  exact different (String.le_antisymm atMost atLeast)

/-- Members with lesser keys are visited before a member. -/
theorem mem_before_of_lt (mem : other ∈ table) (less : other.1 < member.1) : other ∈ before := by
  have ordered := pairwise_sortedByKey table
  have visited := (perm_sortedByKey table).mem_iff.mpr mem
  rw [split] at ordered visited
  have notLater : ¬ member.1 ≤ other.1 := String.not_le.mpr less
  rcases List.mem_append.mp visited with earlier | rest
  · exact earlier
  · rcases List.mem_cons.mp rest with rfl | later
    · exact absurd (String.le_refl other.1) notLater
    · have behind := (List.pairwise_append.mp ordered).2.1
      exact absurd ((List.pairwise_cons.mp behind).1 other later) notLater

end Order

section Decode

variable {table : Table}

theorem decode_eq_visits (representable : ∀ member ∈ table, Representable member) :
    decode table = (sortedByKey table).foldlM visit Config.default := by
  apply if_pos
  rw [List.all_eq_true]
  intro member mem
  exact memberFits_iff.mpr (representable member mem)

theorem decode_of_fits (distinct : (table.map Prod.fst).Nodup)
    (representable : ∀ member ∈ table, Representable member) (fit : ∀ member ∈ table, Fits member) :
    ∃ config, decode table = .ok config ∧ Follows table Config.default config := by
  have perm := perm_sortedByKey table
  have apart := (perm.map Prod.fst).nodup_iff.mpr distinct
  have sortedFit : ∀ member ∈ sortedByKey table, Fits member := by
    intro member mem
    exact fit member (perm.mem_iff.mp mem)
  rcases visits_of_fits apart sortedFit Config.default with ⟨config, visited, follows⟩
  rw [decode_eq_visits representable]
  exact ⟨config, visited, follows.of_perm perm⟩

theorem decode_of_offends (distinct : (table.map Prod.fst).Nodup)
    (representable : ∀ member ∈ table, Representable member) {member : String × Toml.Value}
    {error : Error} (mem : member ∈ table) (offends : Offends member error)
    (least : ∀ other ∈ table, other.1 < member.1 → Fits other) : decode table = .error error := by
  have perm := perm_sortedByKey table
  rcases List.append_of_mem (perm.mem_iff.mpr mem) with ⟨before, after, split⟩
  have fit : ∀ earlier ∈ before, Fits earlier := by
    intro earlier first
    apply least earlier
    · apply perm.mem_iff.mp
      rw [split]
      exact List.mem_append_left _ first
    · exact lt_of_mem_before split distinct first
  rw [decode_eq_visits representable, split]
  exact visits_of_offends fit offends Config.default

/-- If not every member fits, there is a first one that does not. -/
theorem exists_least_offender (representable : ∀ member ∈ table, Representable member)
    (misfit : ¬ ∀ member ∈ table, Fits member) :
    ∃ member ∈ table, ∃ error, Offends member error ∧
      ∀ other ∈ table, other.1 < member.1 → Fits other := by
  classical
  have perm := perm_sortedByKey table
  cases first : (sortedByKey table).find? fun member => ¬ Fits member with
  | none =>
    exfalso
    apply misfit
    intro member mem
    have passed := List.find?_eq_none.mp first member (perm.mem_iff.mpr mem)
    simpa using passed
  | some member =>
    rcases List.find?_eq_some_iff_append.mp first with ⟨stops, before, after, split, fit⟩
    have mem : member ∈ table := perm.mem_iff.mp (List.mem_of_find?_eq_some first)
    rcases fits_or_offends (representable member mem) with fits | ⟨error, offends⟩
    · exact absurd fits (of_decide_eq_true stops)
    · refine ⟨member, mem, error, offends, ?_⟩
      intro other otherMem less
      have passed := fit other (mem_before_of_lt split otherMem less)
      simpa using passed

theorem decode_eq_ok_iff (distinct : (table.map Prod.fst).Nodup)
    (representable : ∀ member ∈ table, Representable member) {config : Config} :
    decode table = .ok config ↔
      (∀ member ∈ table, Fits member) ∧ Follows table Config.default config := by
  constructor
  · intro decoded
    have fit : ∀ member ∈ table, Fits member := by
      by_contra misfit
      rcases exists_least_offender representable misfit with ⟨member, mem, error, offends, least⟩
      rw [decode_of_offends distinct representable mem offends least] at decoded
      cases decoded
    rcases decode_of_fits distinct representable fit with ⟨other, again, follows⟩
    rw [decoded] at again
    cases again
    exact ⟨fit, follows⟩
  · rintro ⟨fit, follows⟩
    rcases decode_of_fits distinct representable fit with ⟨other, decoded, again⟩
    rw [decoded, follows.unique again]

theorem decode_eq_error_iff (distinct : (table.map Prod.fst).Nodup)
    (representable : ∀ member ∈ table, Representable member) {error : Error} :
    decode table = .error error ↔
      ∃ member ∈ table, Offends member error ∧
        ∀ other ∈ table, other.1 < member.1 → Fits other := by
  constructor
  · intro refused
    have misfit : ¬ ∀ member ∈ table, Fits member := by
      intro fit
      rcases decode_of_fits distinct representable fit with ⟨config, decoded, _⟩
      rw [refused] at decoded
      cases decoded
    rcases exists_least_offender representable misfit with ⟨member, mem, reason, offends, least⟩
    rw [decode_of_offends distinct representable mem offends least] at refused
    cases refused
    exact ⟨member, mem, offends, least⟩
  · rintro ⟨member, mem, offends, least⟩
    exact decode_of_offends distinct representable mem offends least

end Decode

section Reading

variable {read : String → Option Table} {text : String} {table : Table}

/-- A text that denotes a table is read by its table. -/
theorem ofReading_eq (reads : read text = some table) : ofReading read text = decode table := by
  rw [ofReading, reads]

/-- Whatever reads documents into tables with distinct keys, the settings are those of the table. -/
theorem settings_of_reading
    (distinct : ∀ text table, read text = some table → (table.map Prod.fst).Nodup)
    (reads : read text = some table) (representable : ∀ member ∈ table, Representable member) :
    ((∃ config, ofReading read text = .ok config) ↔ ∀ member ∈ table, Fits member) ∧
    (∀ config, ofReading read text = .ok config ↔
      (∀ member ∈ table, Fits member) ∧ Follows table Config.default config) ∧
    (∀ error, ofReading read text = .error error ↔
      ∃ member ∈ table, Offends member error ∧
        ∀ other ∈ table, other.1 < member.1 → Fits other) ∧
    ∀ (rewritten : String) (shuffled : Table), read rewritten = some shuffled →
      Toml.SameMembers table shuffled → ofReading read rewritten = ofReading read text := by
  have apart := distinct text table reads
  rw [ofReading_eq reads]
  refine ⟨?_, ?_, ?_, ?_⟩
  · constructor
    · rintro ⟨config, decoded⟩
      exact ((decode_eq_ok_iff apart representable).mp decoded).1
    · intro fit
      rcases decode_of_fits apart representable fit with ⟨config, decoded, _⟩
      exact ⟨config, decoded⟩
  · intro config
    exact decode_eq_ok_iff apart representable
  · intro error
    exact decode_eq_error_iff apart representable
  · intro rewritten shuffled readsShuffled same
    rw [ofReading_eq readsShuffled]
    exact (decode_eq_of_sameMembers apart same).symm

end Reading

/-- A document whose whole numbers are within range gives settings exactly if all its members fit the
schema. Each setting then has the value that the document gives it, or else its default. Otherwise the
error is that of the offending member with the least key. Neither depends on the order of the members
or on how they are written. -/
theorem settings_of_document {text : String} {table : Table}
    (reads : Toml.table? text = some table)
    (representable : ∀ member ∈ table, Representable member) :
    ((∃ config, ofText text = .ok config) ↔ ∀ member ∈ table, Fits member) ∧
    (∀ config, ofText text = .ok config ↔
      (∀ member ∈ table, Fits member) ∧ Follows table Config.default config) ∧
    (∀ error, ofText text = .error error ↔
      ∃ member ∈ table, Offends member error ∧
        ∀ other ∈ table, other.1 < member.1 → Fits other) ∧
    ∀ (rewritten : String) (shuffled : Table), Toml.table? rewritten = some shuffled →
      Toml.SameMembers table shuffled → ofText rewritten = ofText text :=
  settings_of_reading (fun _ _ => Toml.nodup_table?) reads representable

/-- The table of a document with two settings. -/
def uiSettings : Table := [("thread-name", .string "ui"), ("async-enabled", .boolean false)]

/-- The table of a document that offends twice, under the lesser key at its end. -/
def lateOffender : Table := [("zz", .boolean true), ("poll-interval-ms", .number (.integer (-1)))]

theorem follows_uiSettings :
    Follows uiSettings Config.default { asyncEnabled := false, threadName := "ui" } where
  given field value member := by
    rcases List.mem_cons.mp member with first | rest
    · rcases Prod.mk.inj first with ⟨named, rfl⟩
      have same : field = .threadName := name_injective named
      rw [same]
      exact .text "ui"
    · rcases Prod.mk.inj (List.mem_singleton.mp rest) with ⟨named, rfl⟩
      have same : field = .asyncEnabled := name_injective named
      rw [same]
      exact .boolean false
  left field unnamed := by
    cases field with
    | threadName => exact absurd List.mem_cons_self (unnamed (.string "ui"))
    | asyncEnabled =>
      exact absurd (List.mem_cons_of_mem _ List.mem_cons_self) (unnamed (.boolean false))
    | _ => rfl

/-- Two settings in one order and notation and then in another, and a document whose least offending
key comes last. -/
theorem settings_of_document_twoNotations :
    ofText "thread-name = 'ui'\nasync-enabled = false" =
      .ok { asyncEnabled := false, threadName := "ui" } ∧
    ofText "\x22async-enabled\x22=false # off\nthread-name=\x22ui\x22" =
      ofText "thread-name = 'ui'\nasync-enabled = false" ∧
    ofText "zz=true\npoll-interval-ms=-1" = .error (.negative (-1)) := by
  have reads : Toml.table? "thread-name = 'ui'\nasync-enabled = false" = some uiSettings := by
    decide +kernel
  have rewritten : Toml.table? "\x22async-enabled\x22=false # off\nthread-name=\x22ui\x22" =
      some uiSettings.reverse := by decide +kernel
  have offending : Toml.table? "zz=true\npoll-interval-ms=-1" = some lateOffender := by
    decide +kernel
  have noNumber : ∀ member ∈ uiSettings, Representable member := by
    intro member mem
    exact memberFits_iff.mp (List.all_eq_true.mp (by decide) member mem)
  have small : ∀ member ∈ lateOffender, Representable member := by
    intro member mem
    exact memberFits_iff.mp (List.all_eq_true.mp (by decide) member mem)
  have fit : ∀ member ∈ uiSettings, Fits member := by
    rw [uiSettings, List.forall_mem_cons, List.forall_mem_singleton]
    constructor
    · exact ⟨.threadName, .text "ui", rfl, rfl, .text _⟩
    · exact ⟨.asyncEnabled, .boolean false, rfl, rfl, .boolean _⟩
  rcases settings_of_document reads noNumber with ⟨_, accepted, _, sameAnswer⟩
  rcases settings_of_document offending small with ⟨_, _, refused, _⟩
  refine ⟨?_, ?_, ?_⟩
  · exact (accepted _).mpr ⟨fit, follows_uiSettings⟩
  · exact sameAnswer _ _ rewritten (.swap _ _ _)
  · apply (refused _).mpr
    refine ⟨_, List.mem_cons_of_mem _ List.mem_cons_self, ?_, ?_⟩
    · exact @Offends.negative .pollInterval (-1) rfl (by decide)
    · intro other mem less
      rcases List.mem_cons.mp mem with rfl | last
      · exact absurd less (by decide)
      · rw [List.mem_singleton.mp last] at less
        exact absurd less (String.lt_irrefl _)

end EditorAnalysis.Config
