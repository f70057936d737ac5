import EditorAnalysis.Config.Field
import EditorAnalysis.Decimal.Shortest
import EditorAnalysis.Reason
import EditorAnalysis.Text.Quoted

/-!
# Errors of the settings

Settings are refused because their file cannot be read, because its text is no document, or because
the document does not fit the settings.
-/

namespace EditorAnalysis.Config

open Decimal (Binary64)

/-- What a value of a document looks like in messages. -/
inductive Shape where
  | integer (value : Int)
  /-- A number of double precision. -/
  | float (value : Binary64)
  | boolean (value : Bool)
  | text (content : String)
  | sequence
  /-- A table, or a date or time. -/
  | map
  deriving DecidableEq, Repr, Inhabited

namespace Shape

/-- The shape of a value. -/
def of : Toml.Value → Shape
  | .string content => .text content
  | .number (.integer value) => .integer value
  | .number (.float value) => .float value
  | .boolean value => .boolean value
  | .array _ => .sequence
  | .dateTime | .table _ => .map

/-- The words for a shape. -/
def describe : Shape → String
  | .integer value => "integer `" ++ toString value ++ "`"
  | .float value => "floating point `" ++ value.text ++ "`"
  | .boolean value => "boolean `" ++ (if value then "true" else "false") ++ "`"
  | .text content => "string " ++ Text.quote content
  | .sequence => "sequence"
  | .map => "map"

end Shape

/-- Why settings are refused. -/
inductive Error where
  /-- The file at a path cannot be read. -/
  | unreadable (path cause : String)
  | notADocument
  /-- A whole number of the document fits no machine word. -/
  | outOfRange
  /-- The document gives a value to something that is no setting. -/
  | unknownField (name : String)
  /-- A value has another type than its setting. -/
  | wrongType (found : Shape) (expected : FieldType)
  /-- A setting that cannot be negative is given a negative value. -/
  | negative (value : Int)
  deriving DecidableEq, Repr, Inhabited

namespace Error

/-- The message of an error. What is wrong with a text that is no document is not told. -/
def message? : Error → Option String
  | .unreadable path cause => some ("I/O error reading " ++ path ++ ": " ++ cause)
  | .notADocument | .outOfRange => none
  | .unknownField name =>
      some ("unknown field `" ++ name ++ "`, expected one of " ++
        Reason.quotedNames (Field.all.map Field.name))
  | .wrongType found expected =>
      some ("invalid type: " ++ found.describe ++ ", expected " ++ expected.name)
  | .negative value =>
      some ("invalid value: " ++ (Shape.integer value).describe ++ ", expected " ++
        FieldType.word.name)

/-- The message of the error behind an error: none is given. -/
def cause? : Error → Option String := fun _ => none

end Error

end EditorAnalysis.Config
