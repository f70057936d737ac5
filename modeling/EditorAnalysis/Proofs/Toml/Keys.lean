import EditorAnalysis.Toml.Document
import Mathlib.Data.List.Nodup

/-!
# The keys of a document

A document gives every key of its table one value. Every change to a table under construction goes
through `Members.alter`, which changes the member of a key in its place or adds one under a new key at
the end. So one fact about `alter` carries the distinctness of the keys through headers, dotted keys
and assignments to the finished table.
-/

namespace EditorAnalysis.Toml

namespace Members

/-- The keys of a table under construction. -/
def keys (members : Members) : List String := members.map Prod.fst

theorem keys_alter {key : String} {change : Option Node → Option Node} {members changed : Members}
    (altered : members.alter key change = some changed) :
    changed.keys = members.keys ∨ key ∉ members.keys ∧ changed.keys = members.keys ++ [key] := by
  induction members generalizing changed with
  | nil =>
    rcases Option.map_eq_some_iff.mp altered with ⟨node, _, rfl⟩
    right
    exact ⟨List.not_mem_nil, rfl⟩
  | cons member rest ih =>
    rcases member with ⟨name, node⟩
    rw [alter] at altered
    split at altered
    · rcases Option.map_eq_some_iff.mp altered with ⟨_, _, rfl⟩
      left
      rfl
    · next other =>
      rcases Option.map_eq_some_iff.mp altered with ⟨tail, alteredTail, rfl⟩
      rcases ih alteredTail with same | ⟨absent, added⟩
      · left
        exact congrArg (name :: ·) same
      · right
        constructor
        · intro member
          rcases List.mem_cons.mp member with rfl | later
          · exact other rfl
          · exact absent later
        · exact congrArg (name :: ·) added

theorem nodup_alter {key : String} {change : Option Node → Option Node} {members changed : Members}
    (distinct : members.keys.Nodup) (altered : members.alter key change = some changed) :
    changed.keys.Nodup := by
  rcases keys_alter altered with same | ⟨absent, added⟩
  · rw [same]
    exact distinct
  · rw [added, ← List.concat_eq_append]
    exact distinct.concat absent

/-- Along a path only the first key matters to a table: what lies deeper is the value of that key. -/
theorem nodup_under {path : List String} {change : Members → Option Members}
    {members changed : Members} (distinct : members.keys.Nodup)
    (keeps : ∀ {inner after : Members}, inner.keys.Nodup → change inner = some after →
      after.keys.Nodup)
    (altered : members.under path change = some changed) : changed.keys.Nodup := by
  cases path with
  | nil => exact keeps distinct altered
  | cons key rest => exact nodup_alter distinct altered

theorem nodup_name {path : List String} {key : String} {members changed : Members}
    (distinct : members.keys.Nodup) (named : members.name path key = some changed) :
    changed.keys.Nodup :=
  nodup_under distinct nodup_alter named

theorem nodup_nameNext {path : List String} {key : String} {members changed : Members}
    (distinct : members.keys.Nodup) (named : members.nameNext path key = some changed) :
    changed.keys.Nodup :=
  nodup_under distinct nodup_alter named

theorem nodup_add {assignment : Assignment} {members changed : Members}
    (distinct : members.keys.Nodup) (added : members.add assignment = some changed) :
    changed.keys.Nodup := by
  rw [add] at added
  cases others : assignment.others with
  | nil =>
    rw [others, assign] at added
    exact nodup_alter distinct added
  | cons next rest =>
    rw [others, assign] at added
    exact nodup_alter distinct added

end Members

theorem Draft.nodup_add {draft next : Draft} {line : Line} (distinct : draft.members.keys.Nodup)
    (added : draft.add line = some next) : next.members.keys.Nodup := by
  cases line with
  | table key others =>
    rcases Option.bind_eq_some_iff.mp added with ⟨members, named, made⟩
    cases made
    exact Members.nodup_name distinct named
  | nextTable key others =>
    rcases Option.bind_eq_some_iff.mp added with ⟨members, named, made⟩
    cases made
    exact Members.nodup_nameNext distinct named
  | assignment content =>
    rcases Option.bind_eq_some_iff.mp added with ⟨members, altered, made⟩
    cases made
    exact Members.nodup_under distinct Members.nodup_add altered

theorem Draft.nodup_lines {lines : List Line} {draft final : Draft}
    (distinct : draft.members.keys.Nodup) (drafted : lines.foldlM Draft.add draft = some final) :
    final.members.keys.Nodup := by
  induction lines generalizing draft with
  | nil =>
    cases drafted
    exact distinct
  | cons line rest ih =>
    rw [List.foldlM_cons] at drafted
    rcases Option.bind_eq_some_iff.mp drafted with ⟨next, added, remaining⟩
    exact ih (Draft.nodup_add distinct added) remaining

theorem keys_tableOf (members : Members) : (tableOf members).map Prod.fst = members.keys := by
  induction members with
  | nil => rfl
  | cons member rest ih => exact congrArg (member.1 :: ·) ih

/-- The keys of a document are distinct. -/
theorem nodup_table? {text : String} {table : Table} (reads : table? text = some table) :
    (table.map Prod.fst).Nodup := by
  rcases Option.bind_eq_some_iff.mp reads with ⟨lines, _, rest⟩
  rcases Option.bind_eq_some_iff.mp rest with ⟨draft, drafted, made⟩
  cases made
  have empty : ({} : Draft).members.keys.Nodup := List.nodup_nil
  rw [keys_tableOf]
  exact Draft.nodup_lines empty drafted

end EditorAnalysis.Toml
