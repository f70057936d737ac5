import EditorAnalysis.Config.Decode
import Mathlib.Data.List.Nodup

/-!
# Documents with the same members

A table is kept in the order in which its keys are first mentioned, so that two documents with the
same members may be read into different lists, at the top and in the tables further down. They are
compared after the tables within their values have been put in the order of their keys: then they have
the same members if one list is a permutation of the other (`SameMembers`). Nothing that the settings
are read from depends on either order, provided that the keys at the top are distinct.
-/

namespace EditorAnalysis

namespace Toml

open Config (sortedByKey)

mutual

/-- A value with the tables in it, at any depth, in the order of their keys. -/
def Value.ordered : Value → Value
  | .array items => .array (orderedItems items)
  | .table members => .table (sortedByKey (orderedMembers members))
  | .string text => .string text
  | .number value => .number value
  | .boolean value => .boolean value
  | .dateTime => .dateTime

/-- Items with the tables in them in the order of their keys. -/
def orderedItems : List Value → List Value
  | [] => []
  | item :: rest => item.ordered :: orderedItems rest

/-- Members, in their own order, with the tables in their values in the order of the keys. -/
def orderedMembers : List (String × Value) → List (String × Value)
  | [] => []
  | (key, value) :: rest => (key, value.ordered) :: orderedMembers rest

end

/-- The tables have the same keys with the same values, in whatever order. -/
def SameMembers (table other : Table) : Prop := (orderedMembers table).Perm (orderedMembers other)

theorem orderedMembers_eq (members : Table) :
    orderedMembers members = members.map fun member => (member.1, member.2.ordered) := by
  induction members with
  | nil => rfl
  | cons member rest ih => rw [orderedMembers, ih, List.map_cons]

theorem keys_orderedMembers (members : Table) :
    (orderedMembers members).map Prod.fst = members.map Prod.fst := by
  rw [orderedMembers_eq, List.map_map]
  rfl

theorem integersOfMembers_eq (members : Table) :
    integersOfMembers members = members.flatMap fun member => member.2.integers := by
  induction members with
  | nil => rfl
  | cons member rest ih => rw [integersOfMembers, ih, List.flatMap_cons]

mutual

theorem Value.integers_ordered : ∀ value : Value, value.ordered.integers.Perm value.integers
  | .array items => by
      rw [Value.ordered, Value.integers, Value.integers]
      exact integers_orderedItems items
  | .table members => by
      rw [Value.ordered, Value.integers, Value.integers, integersOfMembers_eq]
      apply ((List.mergeSort_perm _ _).flatMap_right _).trans
      rw [← integersOfMembers_eq]
      exact integers_orderedMembers members
  | .string _ | .number _ | .boolean _ | .dateTime => .refl _

theorem integers_orderedItems : ∀ items : List Value,
    (integersOfItems (orderedItems items)).Perm (integersOfItems items)
  | [] => .refl _
  | item :: rest => by
      rw [orderedItems, integersOfItems, integersOfItems]
      exact item.integers_ordered.append (integers_orderedItems rest)

theorem integers_orderedMembers : ∀ members : List (String × Value),
    (integersOfMembers (orderedMembers members)).Perm (integersOfMembers members)
  | [] => .refl _
  | (_, value) :: rest => by
      rw [orderedMembers, integersOfMembers, integersOfMembers]
      exact value.integers_ordered.append (integers_orderedMembers rest)

end

end Toml

namespace Config

open Toml (Table SameMembers orderedMembers)

section SortedByKey

theorem perm_sortedByKey (table : Table) : (sortedByKey table).Perm table :=
  List.mergeSort_perm table _

theorem pairwise_sortedByKey (table : Table) :
    (sortedByKey table).Pairwise fun left right => left.1 ≤ right.1 := by
  have transitive (left middle right : String × Toml.Value) (first : decide (left.1 ≤ middle.1) = true)
      (second : decide (middle.1 ≤ right.1) = true) : decide (left.1 ≤ right.1) = true :=
    decide_eq_true (String.le_trans (of_decide_eq_true first) (of_decide_eq_true second))
  have total (left right : String × Toml.Value) :
      (decide (left.1 ≤ right.1) || decide (right.1 ≤ left.1)) = true := by
    rw [Bool.or_eq_true, decide_eq_true_eq, decide_eq_true_eq]
    exact String.le_total left.1 right.1
  exact (List.pairwise_mergeSort transitive total table).imp of_decide_eq_true

/-- Under distinct keys there is only one way to sort the members of a table. -/
theorem sortedByKey_eq_of_perm {table other : Table} (distinct : (table.map Prod.fst).Nodup)
    (perm : table.Perm other) : sortedByKey table = sortedByKey other := by
  have tablePerm := perm_sortedByKey table
  have otherPerm := perm_sortedByKey other
  apply List.Perm.eq_of_pairwise _ (pairwise_sortedByKey table) (pairwise_sortedByKey other)
  · exact tablePerm.trans (perm.trans otherPerm.symm)
  · intro left right leftMem rightMem atMost atLeast
    have rightTable := perm.mem_iff.mpr (otherPerm.mem_iff.mp rightMem)
    exact List.inj_on_of_nodup_map distinct (tablePerm.mem_iff.mp leftMem) rightTable
      (String.le_antisymm atMost atLeast)

theorem decode_eq_of_perm {table other : Table} (distinct : (table.map Prod.fst).Nodup)
    (perm : table.Perm other) : decode table = decode other := by
  rw [decode, decode, perm.all_eq, sortedByKey_eq_of_perm distinct perm]

end SortedByKey

section Ordered

theorem memberFits_ordered (key : String) (value : Toml.Value) :
    memberFits (key, value.ordered) = memberFits (key, value) := by
  have same := value.integers_ordered.all_eq (f := isSignedWord)
  cases value with
  | string _ | number _ | boolean _ | dateTime => rfl
  | array _ | table _ =>
    rw [memberFits, memberFits]
    cases Field.ofName? key <;> exact same

/-- No setting is a list or a table, and the message about one tells no more than that it is one. -/
theorem visit_ordered (config : Config) (key : String) (value : Toml.Value) :
    visit config (key, value.ordered) = visit config (key, value) := by
  cases value with
  | string _ | number _ | boolean _ | dateTime => rfl
  | array _ | table _ =>
    rw [visit, visit]
    cases Field.ofName? key with
    | none => rfl
    | some field => cases field <;> rfl

theorem sortedByKey_orderedMembers (table : Table) :
    sortedByKey (orderedMembers table) = orderedMembers (sortedByKey table) := by
  rw [Toml.orderedMembers_eq, Toml.orderedMembers_eq]
  symm
  unfold sortedByKey
  exact List.map_mergeSort fun _ _ _ _ => rfl

theorem decode_orderedMembers (table : Table) : decode (orderedMembers table) = decode table := by
  have fits : (orderedMembers table).all memberFits = table.all memberFits := by
    rw [Toml.orderedMembers_eq, List.all_map]
    exact congrArg table.all (funext fun member => memberFits_ordered member.1 member.2)
  have visits : (sortedByKey (orderedMembers table)).foldlM visit Config.default =
      (sortedByKey table).foldlM visit Config.default := by
    rw [sortedByKey_orderedMembers, Toml.orderedMembers_eq, List.foldlM_map]
    congr 1
    funext config member
    exact visit_ordered config member.1 member.2
  rw [decode, decode, fits, visits]

/-- Documents with the same members give the same settings, or the same error. -/
theorem decode_eq_of_sameMembers {table other : Table} (distinct : (table.map Prod.fst).Nodup)
    (same : SameMembers table other) : decode table = decode other := by
  rw [← decode_orderedMembers table, ← decode_orderedMembers other]
  apply decode_eq_of_perm _ same
  rw [Toml.keys_orderedMembers]
  exact distinct

end Ordered

end Config

end EditorAnalysis
