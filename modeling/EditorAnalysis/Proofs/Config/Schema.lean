import EditorAnalysis.Config.Decode

/-!
# The schema of the settings

What a document may hold is said here without reference to how it is read. `Denotes` relates a value
of a document to what a setting is set to, `Fits` is the schema of a member, and `Offends` gives every
member that breaks the schema its error. The main lemmas are about a single visit: a member that fits
changes its own setting only, a member that offends is refused with its error, and within the range
of whole numbers there is no third kind of member.
-/

namespace EditorAnalysis.Config

/-- What a setting is set to. -/
inductive Setting where
  | boolean (value : Bool)
  | word (value : UInt64)
  | text (content : String)
  deriving DecidableEq, Repr

/-- The type of the settings that can be set so. -/
def Setting.type : Setting → FieldType
  | .boolean _ => .boolean
  | .word _ => .word
  | .text _ => .text

/-- What a setting is set to in a configuration. -/
def setting (config : Config) : Field → Setting
  | .asyncEnabled => .boolean config.asyncEnabled
  | .pollInterval => .word config.pollIntervalMs
  | .shutdownTimeout => .word config.shutdownTimeoutMs
  | .completionWait => .word config.completionWaitMs
  | .codeSenseDelay => .word config.codeSenseDelayMs
  | .maxIdleDelay => .word config.maxIdleDelayMs
  | .threadName => .text config.threadName

/-- Configurations with the same settings are the same. -/
theorem setting_injective {left right : Config}
    (same : ∀ field, left.setting field = right.setting field) : left = right := by
  rcases left with ⟨_, _, _, _, _, _, _⟩
  rcases right with ⟨_, _, _, _, _, _, _⟩
  cases same .asyncEnabled
  cases same .pollInterval
  cases same .shutdownTimeout
  cases same .completionWait
  cases same .codeSenseDelay
  cases same .maxIdleDelay
  cases same .threadName
  rfl

/-- A value of a document says what a setting is set to. -/
inductive Denotes : Toml.Value → Setting → Prop where
  | boolean (value : Bool) : Denotes (.boolean value) (.boolean value)
  | word (value : UInt64) : Denotes (.number (.integer value.toNat)) (.word value)
  | text (content : String) : Denotes (.string content) (.text content)

theorem Denotes.unique {value : Toml.Value} {setting other : Setting}
    (denotes : Denotes value setting) (again : Denotes value other) : setting = other := by
  cases denotes with
  | boolean => cases again; rfl
  | word word =>
    generalize written : (word.toNat : Int) = number at again
    cases again with
    | word another => rw [UInt64.toNat_inj.mp (Int.ofNat.inj written)]
  | text => cases again; rfl

/-- The type that the values of a kind have, if any setting has that type. Whole numbers are words as
far as their kind goes, whether they are in range or not. -/
def typeOf? : Toml.Value → Option FieldType
  | .boolean _ => some .boolean
  | .number (.integer _) => some .word
  | .string _ => some .text
  | _ => none

/-- The key of a member names a setting, and the value says what to set it to. -/
def Fits (member : String × Toml.Value) : Prop :=
  ∃ (field : Field) (setting : Setting),
    field.name = member.1 ∧ setting.type = field.type ∧ Denotes member.2 setting

/-- What is wrong with a member of a document. -/
inductive Offends : String × Toml.Value → Error → Prop where
  | unknownField {key : String} {value : Toml.Value} (unknown : ∀ field : Field, field.name ≠ key) :
      Offends (key, value) (.unknownField key)
  | wrongType {field : Field} {value : Toml.Value} (wrong : typeOf? value ≠ some field.type) :
      Offends (field.name, value) (.wrongType (.of value) field.type)
  | negative {field : Field} {value : Int} (word : field.type = .word) (below : value < 0) :
      Offends (field.name, .number (.integer value)) (.negative value)

/-- The whole numbers of a member are signed words, or it is an unsigned word under the name of a
setting of that type. -/
def Representable (member : String × Toml.Value) : Prop :=
  (∀ value ∈ member.2.integers, -9223372036854775808 ≤ value ∧ value ≤ 9223372036854775807) ∨
  ∃ (field : Field) (value : Int), field.name = member.1 ∧ field.type = .word ∧
    member.2 = .number (.integer value) ∧ 0 ≤ value ∧ value ≤ 18446744073709551615

/-- Every setting that a table names has the value that the table gives it, and the others are as
before. -/
structure Follows (table : Toml.Table) (before config : Config) : Prop where
  given : ∀ (field : Field) (value : Toml.Value), (field.name, value) ∈ table →
    Denotes value (config.setting field)
  left : ∀ field : Field, (∀ value, (field.name, value) ∉ table) →
    config.setting field = before.setting field

theorem Follows.unique {table : Toml.Table} {before config other : Config}
    (follows : Follows table before config) (again : Follows table before other) :
    config = other := by
  apply setting_injective
  intro field
  by_cases named : ∃ value, (field.name, value) ∈ table
  · rcases named with ⟨value, member⟩
    exact (follows.given field value member).unique (again.given field value member)
  · have unnamed : ∀ value, (field.name, value) ∉ table := not_exists.mp named
    rw [follows.left field unnamed, again.left field unnamed]

section Names

theorem ofName?_name (field : Field) : Field.ofName? field.name = some field := by
  cases field <;> decide

theorem ofName?_eq_some_iff {name : String} {field : Field} :
    Field.ofName? name = some field ↔ field.name = name := by
  constructor
  · intro found
    exact beq_iff_eq.mp (List.find?_some (p := fun field : Field => field.name == name) found)
  · rintro rfl
    exact ofName?_name field

theorem ofName?_eq_none_iff {name : String} :
    Field.ofName? name = none ↔ ∀ field : Field, field.name ≠ name := by
  rw [Option.eq_none_iff_forall_ne_some]
  exact forall_congr' fun field => not_congr ofName?_eq_some_iff

theorem name_injective {field other : Field} (same : field.name = other.name) : field = other := by
  have found := ofName?_name field
  rw [same, ofName?_name] at found
  exact (Option.some.inj found).symm

end Names

section Range

theorem isSignedWord_iff {value : Int} :
    isSignedWord value = true ↔ -9223372036854775808 ≤ value ∧ value ≤ 9223372036854775807 := by
  rw [isSignedWord, Bool.and_eq_true, decide_eq_true_eq, decide_eq_true_eq]

theorem isWord_iff {value : Int} :
    isWord value = true ↔ 0 ≤ value ∧ value ≤ 18446744073709551615 := by
  rw [isWord, Bool.and_eq_true, decide_eq_true_eq, decide_eq_true_eq]

theorem all_isSignedWord_iff {values : List Int} :
    values.all isSignedWord = true ↔
      ∀ value ∈ values, -9223372036854775808 ≤ value ∧ value ≤ 9223372036854775807 := by
  rw [List.all_eq_true]
  exact forall₂_congr fun value _ => isSignedWord_iff

theorem memberFits_iff {member : String × Toml.Value} :
    memberFits member = true ↔ Representable member := by
  rcases member with ⟨key, value⟩
  simp only [memberFits, Representable]
  split
  · next field number found =>
    have named := ofName?_eq_some_iff.mp found
    simp only [Bool.or_eq_true, Bool.and_eq_true, beq_iff_eq, isSignedWord_iff, isWord_iff]
    apply or_congr
    · simp [Toml.Value.integers]
    · constructor
      · rintro ⟨word, range⟩
        exact ⟨field, number, named, word, rfl, range⟩
      · rintro ⟨other, same, otherNamed, word, written, range⟩
        cases written
        rw [name_injective (named.trans otherNamed.symm)]
        exact ⟨word, range⟩
  · next other =>
    rw [all_isSignedWord_iff]
    constructor
    · exact Or.inl
    · rintro (signed | ⟨field, number, named, _, rfl, _⟩)
      · exact signed
      · exact absurd rfl (other field number (ofName?_eq_some_iff.mpr named))

end Range

section Visit

theorem word?_toNat (word : UInt64) : word? (.number (.integer word.toNat)) = .ok word := by
  have nonnegative : ¬ (word.toNat : Int) < 0 := by omega
  rw [word?, if_neg nonnegative, Int.toNat_natCast, UInt64.ofNat_toNat]

/-- Setting a setting to a value of its type changes this setting and no other. -/
theorem set_of_denotes {field : Field} {value : Toml.Value} {setting : Setting}
    (typed : setting.type = field.type) (denotes : Denotes value setting) (config : Config) :
    ∃ changed, config.set field value = .ok changed ∧ changed.setting field = setting ∧
      ∀ other, other ≠ field → changed.setting other = config.setting other := by
  cases denotes with
  | boolean value =>
    cases field <;> cases typed
    refine ⟨_, rfl, rfl, ?_⟩
    intro other different
    cases other <;> simp_all [Config.setting]
  | word word =>
    cases field <;> cases typed
    all_goals
      rw [set, word?_toNat]
      refine ⟨_, rfl, rfl, ?_⟩
      intro other different
      cases other <;> simp_all [Config.setting]
  | text content =>
    cases field <;> cases typed
    refine ⟨_, rfl, rfl, ?_⟩
    intro other different
    cases other <;> simp_all [Config.setting]

theorem boolean?_of_wrongType {value : Toml.Value} (wrong : typeOf? value ≠ some .boolean) :
    boolean? value = .error (.wrongType (.of value) .boolean) := by
  unfold boolean?
  split
  · exact absurd rfl wrong
  · rfl

theorem word?_of_wrongType {value : Toml.Value} (wrong : typeOf? value ≠ some .word) :
    word? value = .error (.wrongType (.of value) .word) := by
  unfold word?
  split
  · exact absurd rfl wrong
  · rfl

theorem text?_of_wrongType {value : Toml.Value} (wrong : typeOf? value ≠ some .text) :
    text? value = .error (.wrongType (.of value) .text) := by
  unfold text?
  split
  · exact absurd rfl wrong
  · rfl

theorem set_of_wrongType {field : Field} {value : Toml.Value}
    (wrong : typeOf? value ≠ some field.type) (config : Config) :
    config.set field value = .error (.wrongType (.of value) field.type) := by
  cases type : field.type with
  | boolean =>
    rw [type] at wrong
    cases field <;> cases type
    rw [set, boolean?_of_wrongType wrong]
    rfl
  | word =>
    rw [type] at wrong
    cases field <;> cases type <;> rw [set, word?_of_wrongType wrong] <;> rfl
  | text =>
    rw [type] at wrong
    cases field <;> cases type
    rw [set, text?_of_wrongType wrong]
    rfl

theorem set_of_negative {field : Field} {value : Int} (word : field.type = .word)
    (below : value < 0) (config : Config) :
    config.set field (.number (.integer value)) = .error (.negative value) := by
  have refused : word? (.number (.integer value)) = .error (.negative value) := by
    rw [word?, if_pos below]
  cases field <;> cases word <;> rw [set, refused] <;> rfl

/-- The visit of a member that fits changes the setting that it names and no other. -/
theorem visit_of_fits {member : String × Toml.Value} (fits : Fits member) (config : Config) :
    ∃ changed, visit config member = .ok changed ∧ Follows [member] config changed := by
  rcases member with ⟨key, value⟩
  rcases fits with ⟨field, setting, rfl, typed, denotes⟩
  rcases set_of_denotes typed denotes config with ⟨changed, sets, own, others⟩
  refine ⟨changed, ?_, ?_, ?_⟩
  · rw [visit, ofName?_name]
    exact sets
  · intro other written mem
    rcases Prod.mk.inj (List.mem_singleton.mp mem) with ⟨same, rfl⟩
    rw [name_injective same, own]
    exact denotes
  · intro other unnamed
    apply others
    rintro rfl
    exact unnamed value List.mem_cons_self

theorem visit_of_offends {member : String × Toml.Value} {error : Error}
    (offends : Offends member error) (config : Config) : visit config member = .error error := by
  cases offends with
  | unknownField unknown => rw [visit, ofName?_eq_none_iff.mpr unknown]
  | wrongType wrong =>
    rw [visit, ofName?_name]
    exact set_of_wrongType wrong config
  | negative word below =>
    rw [visit, ofName?_name]
    exact set_of_negative word below config

/-- A value of the type of a setting says what to set it to, unless it is a number out of range. -/
theorem denotes_of_typeOf? {value : Toml.Value} {type : FieldType}
    (typed : typeOf? value = some type)
    (range : ∀ number, value = .number (.integer number) →
      0 ≤ number ∧ number ≤ 18446744073709551615) :
    ∃ setting : Setting, setting.type = type ∧ Denotes value setting := by
  unfold typeOf? at typed
  split at typed <;> cases typed
  · next truth => exact ⟨.boolean truth, rfl, .boolean truth⟩
  · next number =>
    rcases range number rfl with ⟨nonnegative, below⟩
    have exact : ((UInt64.ofNat number.toNat).toNat : Int) = number := by
      rw [UInt64.toNat_ofNat']
      omega
    have denotes := Denotes.word (UInt64.ofNat number.toNat)
    rw [exact] at denotes
    exact ⟨_, rfl, denotes⟩
  · next content => exact ⟨.text content, rfl, .text content⟩

/-- Within the range of whole numbers every member fits or offends. -/
theorem fits_or_offends {member : String × Toml.Value} (representable : Representable member) :
    Fits member ∨ ∃ error, Offends member error := by
  rcases member with ⟨key, value⟩
  cases found : Field.ofName? key with
  | none => exact Or.inr ⟨_, .unknownField (ofName?_eq_none_iff.mp found)⟩
  | some field =>
    obtain rfl := ofName?_eq_some_iff.mp found
    by_cases typed : typeOf? value = some field.type
    · by_cases negative : ∃ number, value = .number (.integer number) ∧ number < 0
      · rcases negative with ⟨number, rfl, below⟩
        exact Or.inr ⟨_, .negative (Option.some.inj typed).symm below⟩
      · left
        have range : ∀ number, value = .number (.integer number) →
            0 ≤ number ∧ number ≤ 18446744073709551615 := by
          rintro number rfl
          have nonnegative : ¬ number < 0 := fun below => negative ⟨number, rfl, below⟩
          rcases representable with signed | ⟨_, _, _, _, written, _, below⟩
          · have := signed number (List.mem_singleton_self number)
            omega
          · cases written
            omega
        rcases denotes_of_typeOf? typed range with ⟨setting, ofType, denotes⟩
        exact ⟨field, setting, rfl, ofType, denotes⟩
    · exact Or.inr ⟨_, .wrongType typed⟩

end Visit

end EditorAnalysis.Config
