import EditorAnalysis.Proofs.Duration
import Mathlib.Order.MinMax

/-!
# The length of the quiet period

The quiet period is computed on pairs of words, and words wrap around. Here the computation is carried
out a second time with checks: `idleDelay?` takes the exact value of every step in natural numbers and
refuses it if its word cannot hold it, and refuses a pair whose nanoseconds make up a second. The main
statement says that nothing is ever refused and what comes out in nanoseconds, from which the bounds
and the monotonicity of the quiet period follow.

The critical step is the third of the last check. The seconds left over by the division are carried
into the nanoseconds, where they make up to two thirds of a second beside the third of the
nanoseconds; both together stay below one second, and the carried product stays far below a word.
-/

namespace EditorAnalysis

section Words

/-- The 64-bit word of a value, unless the word cannot hold it. -/
def word64? (value : Nat) : Option UInt64 :=
  if value < UInt64.size then some (UInt64.ofNat value) else none

/-- The 32-bit word of a value, unless the word cannot hold it. -/
def word32? (value : Nat) : Option UInt32 :=
  if value < UInt32.size then some (UInt32.ofNat value) else none

theorem word64?_toNat (word : UInt64) : word64? word.toNat = some word := by
  rw [word64?, if_pos word.toNat_lt_size, UInt64.ofNat_toNat]

theorem word32?_toNat (word : UInt32) : word32? word.toNat = some word := by
  rw [word32?, if_pos word.toNat_lt_size, UInt32.ofNat_toNat]

end Words

namespace Duration

/-- The span of seconds and nanoseconds, unless the nanoseconds make up a second. -/
def ofParts? (secs : UInt64) (nanos : UInt32) : Option Duration :=
  if normal : nanos.toNat < nanosPerSecond then some ⟨secs, nanos, normal⟩ else none

/-- A span whose parts are known to be normal is put together from them. -/
theorem ofParts?_parts (span : Duration) : ofParts? span.secs span.nanos = some span := by
  rw [ofParts?, dif_pos span.nanos_lt]

section Third

/-- A third of a span, with every step checked. -/
def third? (span : Duration) : Option Duration := do
  let carried ← word64? (span.secs.toNat % 3 * 1000000000)
  let leftover ← word64? (carried.toNat + span.nanos.toNat % 3)
  let share ← word32? (leftover.toNat / 3)
  let nanos ← word32? (span.nanos.toNat / 3 + share.toNat)
  ofParts? (span.secs / 3) nanos

/-- What the division of both parts leaves over, in nanoseconds. -/
def leftover (span : Duration) : UInt64 :=
  span.secs % 3 * 1000000000 + (span.nanos % 3).toUInt64

variable (span : Duration)

theorem toNat_carried :
    (span.secs % 3 * 1000000000).toNat = span.secs.toNat % 3 * 1000000000 := by
  simp only [UInt64.toNat_mul, UInt64.toNat_mod, UInt64.reduceToNat]
  apply Nat.mod_eq_of_lt
  omega

theorem toNat_leftover :
    span.leftover.toNat = (span.secs % 3 * 1000000000).toNat + span.nanos.toNat % 3 := by
  rw [leftover, UInt64.toNat_add, UInt32.toNat_toUInt64]
  simp only [UInt32.toNat_mod, UInt32.reduceToNat]
  apply Nat.mod_eq_of_lt
  rw [toNat_carried]
  omega

theorem leftover_lt : span.leftover.toNat < 3 * nanosPerSecond := by
  rw [toNat_leftover, toNat_carried]
  simp only [nanosPerSecond]
  omega

theorem toNat_share : (span.leftover / 3).toUInt32.toNat = span.leftover.toNat / 3 := by
  have few := span.leftover_lt
  simp only [nanosPerSecond] at few
  simp only [UInt64.toNat_toUInt32, UInt64.toNat_div, UInt64.reduceToNat]
  apply Nat.mod_eq_of_lt
  omega

theorem toNat_nanos_third :
    span.third.nanos.toNat = span.nanos.toNat / 3 + (span.leftover / 3).toUInt32.toNat := by
  have below := span.nanos_lt
  have few := span.leftover_lt
  simp only [nanosPerSecond] at below few
  change (span.nanos / 3 + (span.leftover / 3).toUInt32).toNat = _
  simp only [UInt32.toNat_add, UInt32.toNat_div, UInt32.reduceToNat]
  apply Nat.mod_eq_of_lt
  rw [toNat_share]
  omega

/-- No step towards a third of a span overflows. -/
theorem third?_eq : span.third? = some span.third := by
  simp only [third?, Option.bind_eq_bind]
  rw [← toNat_carried, word64?_toNat, Option.bind_some, ← toNat_leftover, word64?_toNat,
    Option.bind_some, ← toNat_share, word32?_toNat, Option.bind_some, ← toNat_nanos_third,
    word32?_toNat, Option.bind_some]
  exact ofParts?_parts span.third

theorem toNanos_third : span.third.toNanos = span.toNanos / 3 := by
  have secs : span.third.secs.toNat = span.secs.toNat / 3 := UInt64.toNat_div _ _
  simp only [toNanos, nanosPerSecond, secs, toNat_nanos_third, toNat_share, toNat_leftover,
    toNat_carried]
  omega

end Third

section Millis

/-- The span of a number of milliseconds, with every step checked. -/
def ofMillis? (millis : UInt64) : Option Duration := do
  let left ← word32? (millis.toNat % 1000)
  let nanos ← word32? (left.toNat * 1000000)
  ofParts? (millis / 1000) nanos

variable (millis : UInt64)

theorem toNat_millisLeft : (millis % 1000).toUInt32.toNat = millis.toNat % 1000 := by
  simp only [UInt64.toNat_toUInt32, UInt64.toNat_mod, UInt64.reduceToNat]
  apply Nat.mod_eq_of_lt
  omega

theorem toNat_nanos_ofMillis :
    (ofMillis millis).nanos.toNat = (millis % 1000).toUInt32.toNat * 1000000 := by
  simp only [ofMillis, UInt32.toNat_mul, UInt32.reduceToNat]
  apply Nat.mod_eq_of_lt
  rw [toNat_millisLeft]
  omega

/-- No number of milliseconds overflows. -/
theorem ofMillis?_eq : ofMillis? millis = some (ofMillis millis) := by
  simp only [ofMillis?, Option.bind_eq_bind]
  rw [← toNat_millisLeft, word32?_toNat, Option.bind_some, ← toNat_nanos_ofMillis, word32?_toNat,
    Option.bind_some]
  exact ofParts?_parts (ofMillis millis)

end Millis

end Duration

namespace Config

/-- The quiet period, with every step checked. -/
def idleDelay? (lastCompletion : Duration) (config : Config) : Option Duration := do
  let third ← lastCompletion.third?
  let least ← Duration.ofMillis? config.codeSenseDelayMs
  let cap ← Duration.ofMillis? config.maxIdleDelayMs
  return (third.max least).min cap

/-- The computation of the quiet period never overflows. -/
theorem idleDelay?_eq (lastCompletion : Duration) (config : Config) :
    config.idleDelay? lastCompletion = some (config.idleDelay lastCompletion) := by
  rw [idleDelay?, Duration.third?_eq, Duration.ofMillis?_eq, Duration.ofMillis?_eq]
  rfl

theorem toNanos_idleDelay (lastCompletion : Duration) (config : Config) :
    (config.idleDelay lastCompletion).toNanos =
      min (max (lastCompletion.toNanos / 3) (config.codeSenseDelayMs.toNat * 1000000))
        (config.maxIdleDelayMs.toNat * 1000000) := by
  rw [idleDelay, Duration.toNanos_min, Duration.toNanos_max, Duration.toNanos_third, codeSenseDelay,
    maxIdleDelay, Duration.toNanos_ofMillis, Duration.toNanos_ofMillis]

theorem idleDelay_mono {lastCompletion longer : Duration} {config raised : Config}
    (last : lastCompletion.toNanos ≤ longer.toNanos)
    (least : config.codeSenseDelayMs ≤ raised.codeSenseDelayMs)
    (cap : config.maxIdleDelayMs ≤ raised.maxIdleDelayMs) :
    (config.idleDelay lastCompletion).toNanos ≤ (raised.idleDelay longer).toNanos := by
  rw [UInt64.le_iff_toNat_le] at least cap
  rw [toNanos_idleDelay, toNanos_idleDelay]
  apply min_le_min
  · apply max_le_max
    · exact Nat.div_le_div_right last
    · exact Nat.mul_le_mul_right _ least
  · exact Nat.mul_le_mul_right _ cap

/-- The quiet period is computed without overflow. In nanoseconds it is a third of the last check, cut
off to a whole number, between the least quiet period and the cap, where the cap goes before. Longer
checks and greater settings never shorten it. -/
theorem idleDelay_exact (lastCompletion : Duration) (config : Config) :
    config.idleDelay? lastCompletion = some (config.idleDelay lastCompletion) ∧
    (config.idleDelay lastCompletion).nanos.toNat < nanosPerSecond ∧
    (config.idleDelay lastCompletion).toNanos =
      min (max (lastCompletion.toNanos / 3) (config.codeSenseDelayMs.toNat * 1000000))
        (config.maxIdleDelayMs.toNat * 1000000) ∧
    (∀ left right : Duration,
      compareLex (compareOn Duration.secs) (compareOn Duration.nanos) left right =
        compare left.toNanos right.toNanos ∧
      left.le right = (compare left.toNanos right.toNanos).isLE) ∧
    (∀ (longer : Duration) (raised : Config), lastCompletion.le longer = true →
      config.codeSenseDelayMs ≤ raised.codeSenseDelayMs →
      config.maxIdleDelayMs ≤ raised.maxIdleDelayMs →
      (config.idleDelay lastCompletion).le (raised.idleDelay longer) = true) ∧
    (config.idleDelay lastCompletion).le config.maxIdleDelay = true ∧
    (config.codeSenseDelay.min config.maxIdleDelay).le
      (config.idleDelay lastCompletion) = true := by
  refine ⟨idleDelay?_eq lastCompletion config, Duration.nanos_lt _,
    toNanos_idleDelay lastCompletion config, ?_, ?_, ?_, ?_⟩
  · intro left right
    exact ⟨Duration.compareLex_eq_compare_toNanos, Duration.le_eq_isLE_compare⟩
  · intro longer raised last least cap
    apply Duration.le_iff.mpr
    exact idleDelay_mono (Duration.le_iff.mp last) least cap
  · apply Duration.le_iff.mpr
    exact idleDelay_le lastCompletion config
  · apply Duration.le_iff.mpr
    rw [toNanos_idleDelay, Duration.toNanos_min, codeSenseDelay, maxIdleDelay,
      Duration.toNanos_ofMillis, Duration.toNanos_ofMillis]
    omega

/-- The longest check there can be, whose third leaves a second and nanoseconds over, on a scheduler
whose least quiet period is beyond its cap. -/
theorem idleDelay_exact_longestCheck :
    (idleDelay? ⟨18446744073709551614, 999999999, by decide⟩
        { codeSenseDelayMs := 18446744073709551615, maxIdleDelayMs := 18446744073709551614 }) =
      some ⟨18446744073709551, 614000000, by decide⟩ ∧
    (idleDelay ⟨18446744073709551614, 999999999, by decide⟩ {}).le
      (idleDelay ⟨18446744073709551615, 0, by decide⟩
        { codeSenseDelayMs := 1000, maxIdleDelayMs := 5000 }) = true := by
  rcases idleDelay_exact ⟨18446744073709551614, 999999999, by decide⟩
    { codeSenseDelayMs := 18446744073709551615, maxIdleDelayMs := 18446744073709551614 } with
    ⟨unrefused, _⟩
  rcases idleDelay_exact ⟨18446744073709551614, 999999999, by decide⟩ {} with
    ⟨_, _, _, _, monotone, _⟩
  exact ⟨unrefused, monotone _ _ (by decide) (by decide) (by decide)⟩

end Config

end EditorAnalysis
