import EditorAnalysis.Config
import EditorAnalysis.Toml.Value

/-!
# Fields of the settings

Each setting has a name, under which a document may give it a value, and a type.
-/

namespace EditorAnalysis.Config

/-- A setting. -/
inductive Field where
  | asyncEnabled
  | pollInterval
  | shutdownTimeout
  | completionWait
  /-- The least quiet period. -/
  | codeSenseDelay
  /-- The cap on the quiet period. -/
  | maxIdleDelay
  | threadName
  deriving DecidableEq, Repr, Inhabited

/-- The type of a setting. -/
inductive FieldType where
  | boolean
  /-- A whole number from zero up to the greatest 64-bit word. -/
  | word
  | text
  deriving DecidableEq, Repr, Inhabited

/-- The name of a type in messages. -/
def FieldType.name : FieldType → String
  | .boolean => "a boolean"
  | .word => "u64"
  | .text => "a string"

namespace Field

/-- Every setting, in the order of declaration. -/
def all : List Field :=
  [.asyncEnabled, .pollInterval, .shutdownTimeout, .completionWait, .codeSenseDelay, .maxIdleDelay,
    .threadName]

/-- The name of a setting in documents. -/
def name : Field → String
  | .asyncEnabled => "async-enabled"
  | .pollInterval => "poll-interval-ms"
  | .shutdownTimeout => "shutdown-timeout-ms"
  | .completionWait => "completion-wait-ms"
  | .codeSenseDelay => "code-sense-delay-ms"
  | .maxIdleDelay => "max-idle-delay-ms"
  | .threadName => "thread-name"

/-- The setting of a given name. -/
def ofName? (name : String) : Option Field := all.find? fun field => field.name == name

/-- The type of a setting. -/
def type : Field → FieldType
  | .asyncEnabled => .boolean
  | .threadName => .text
  | _ => .word

end Field

end EditorAnalysis.Config
