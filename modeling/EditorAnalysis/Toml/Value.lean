import EditorAnalysis.Toml.Number

/-!
# Values of a document

A document is a table, whose keys are distinct; the values of a table may be tables again.
-/

namespace EditorAnalysis.Toml

/-- A value of a document. Of dates and times only their place is kept. -/
inductive Value where
  | string (text : String)
  | number (value : Number)
  | boolean (value : Bool)
  | dateTime
  | array (items : List Value)
  | table (members : List (String × Value))
  deriving Inhabited

/-- A table of values under distinct keys, in the order in which the keys are first mentioned. -/
abbrev Table := List (String × Value)

mutual

/-- Equality of values is decidable. -/
def Value.decEq (left right : Value) : Decidable (left = right) :=
  match left with
  | .string text =>
      match right with
      | .string other => decidable_of_iff (text = other) (by simp)
      | .number _ | .boolean _ | .dateTime | .array _ | .table _ => isFalse nofun
  | .number value =>
      match right with
      | .number other => decidable_of_iff (value = other) (by simp)
      | .string _ | .boolean _ | .dateTime | .array _ | .table _ => isFalse nofun
  | .boolean value =>
      match right with
      | .boolean other => decidable_of_iff (value = other) (by simp)
      | .string _ | .number _ | .dateTime | .array _ | .table _ => isFalse nofun
  | .dateTime =>
      match right with
      | .dateTime => isTrue rfl
      | .string _ | .number _ | .boolean _ | .array _ | .table _ => isFalse nofun
  | .array items =>
      match right with
      | .array others =>
          match decEqItems items others with
          | isTrue same => isTrue (congrArg Value.array same)
          | isFalse different => isFalse fun same => different (Value.array.inj same)
      | .string _ | .number _ | .boolean _ | .dateTime | .table _ => isFalse nofun
  | .table members =>
      match right with
      | .table others =>
          match decEqMembers members others with
          | isTrue same => isTrue (congrArg Value.table same)
          | isFalse different => isFalse fun same => different (Value.table.inj same)
      | .string _ | .number _ | .boolean _ | .dateTime | .array _ => isFalse nofun

/-- Equality of lists of values is decidable. -/
def decEqItems (left right : List Value) : Decidable (left = right) :=
  match left, right with
  | [], [] => isTrue rfl
  | [], _ :: _ | _ :: _, [] => isFalse nofun
  | item :: rest, other :: others =>
      match item.decEq other, decEqItems rest others with
      | isTrue same, isTrue sameRest => isTrue (same ▸ sameRest ▸ rfl)
      | isFalse different, _ => isFalse fun same => different (List.cons.inj same).1
      | _, isFalse different => isFalse fun same => different (List.cons.inj same).2

/-- Equality of the members of tables is decidable. -/
def decEqMembers (left right : List (String × Value)) : Decidable (left = right) :=
  match left, right with
  | [], [] => isTrue rfl
  | [], _ :: _ | _ :: _, [] => isFalse nofun
  | (key, value) :: rest, (otherKey, other) :: others =>
      match decEq key otherKey, value.decEq other, decEqMembers rest others with
      | isTrue sameKey, isTrue same, isTrue sameRest => isTrue (sameKey ▸ same ▸ sameRest ▸ rfl)
      | isFalse different, _, _ => isFalse fun same =>
          different (Prod.mk.inj (List.cons.inj same).1).1
      | _, isFalse different, _ => isFalse fun same =>
          different (Prod.mk.inj (List.cons.inj same).1).2
      | _, _, isFalse different => isFalse fun same => different (List.cons.inj same).2

end

instance : DecidableEq Value := Value.decEq

mutual

/-- The whole numbers in a value, at any depth. -/
def Value.integers : Value → List Int
  | .number (.integer value) => [value]
  | .array items => integersOfItems items
  | .table members => integersOfMembers members
  | _ => []

/-- The whole numbers in a list of values, at any depth. -/
def integersOfItems : List Value → List Int
  | [] => []
  | item :: rest => item.integers ++ integersOfItems rest

/-- The whole numbers in the values of a table, at any depth. -/
def integersOfMembers : List (String × Value) → List Int
  | [] => []
  | (_, value) :: rest => value.integers ++ integersOfMembers rest

end

end EditorAnalysis.Toml
