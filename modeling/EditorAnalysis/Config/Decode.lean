import EditorAnalysis.Config.Error
import EditorAnalysis.Toml.Document

/-!
# Settings from a document

The keys of a document are visited in the order of their code points. The first one that names no
setting, or whose value does not have the type of its setting, is reported; what follows it is not
looked at. Settings that the document leaves out keep their defaults.
-/

namespace EditorAnalysis.Config

/-- A whole number is a signed 64-bit word. -/
def isSignedWord (value : Int) : Bool :=
  -9223372036854775808 ≤ value && value ≤ 9223372036854775807

/-- A whole number is an unsigned 64-bit word. -/
def isWord (value : Int) : Bool := 0 ≤ value && value ≤ 18446744073709551615

/-- Every whole number in a member of a document is a signed word, or it is an unsigned one that is
the value of a setting of this type. -/
def memberFits (member : String × Toml.Value) : Bool :=
  match Field.ofName? member.1, member.2 with
  | some field, .number (.integer value) =>
      isSignedWord value || (field.type == .word && isWord value)
  | _, value => value.integers.all isSignedWord

/-- The truth value that a value is. -/
def boolean? : Toml.Value → Except Error Bool
  | .boolean value => .ok value
  | other => .error (.wrongType (.of other) .boolean)

/-- The word that a value is. -/
def word? : Toml.Value → Except Error UInt64
  | .number (.integer value) =>
      if value < 0 then .error (.negative value) else .ok (UInt64.ofNat value.toNat)
  | other => .error (.wrongType (.of other) .word)

/-- The text that a value is. -/
def text? : Toml.Value → Except Error String
  | .string text => .ok text
  | other => .error (.wrongType (.of other) .text)

/-- The settings with one of them changed to a value of a document. -/
def set (config : Config) (field : Field) (value : Toml.Value) : Except Error Config :=
  match field with
  | .asyncEnabled => return { config with asyncEnabled := ← boolean? value }
  | .pollInterval => return { config with pollIntervalMs := ← word? value }
  | .shutdownTimeout => return { config with shutdownTimeoutMs := ← word? value }
  | .completionWait => return { config with completionWaitMs := ← word? value }
  | .codeSenseDelay => return { config with codeSenseDelayMs := ← word? value }
  | .maxIdleDelay => return { config with maxIdleDelayMs := ← word? value }
  | .threadName => return { config with threadName := ← text? value }

/-- The settings changed by a member of a document. -/
def visit (config : Config) (member : String × Toml.Value) : Except Error Config :=
  match Field.ofName? member.1 with
  | none => .error (.unknownField member.1)
  | some field => config.set field member.2

/-- The members of a table in the order of their keys. -/
def sortedByKey (table : Toml.Table) : Toml.Table :=
  table.mergeSort fun left right => decide (left.1 ≤ right.1)

/-- The settings of a document. -/
def decode (table : Toml.Table) : Except Error Config :=
  if table.all memberFits then (sortedByKey table).foldlM visit Config.default
  else .error .outOfRange

/-- The settings of a text, with the table that a reader of documents makes of it. -/
def ofReading (read : String → Option Toml.Table) (text : String) : Except Error Config :=
  match read text with
  | none => .error .notADocument
  | some table => decode table

/-- The settings of a text. -/
def ofText (text : String) : Except Error Config := ofReading Toml.table? text

end EditorAnalysis.Config
