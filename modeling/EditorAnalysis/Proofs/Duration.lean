import EditorAnalysis.Config

/-!
# The order of durations

Durations are compared as pairs of words. The lemmas here say what the comparison and the operations
built on it are in nanoseconds, where they are those of natural numbers.
-/

namespace EditorAnalysis

namespace Duration

variable {left right span spent : Duration}

theorem toNanos_injective (same : left.toNanos = right.toNanos) : left = right := by
  have leftBelow := left.nanos_lt
  have rightBelow := right.nanos_lt
  simp only [toNanos, nanosPerSecond] at same leftBelow rightBelow
  apply Duration.ext
  · apply UInt64.toNat_inj.mp
    omega
  · apply UInt32.toNat_inj.mp
    omega

/-- The order of the pairs is the order of the spans. -/
theorem le_iff : left.le right = true ↔ left.toNanos ≤ right.toNanos := by
  have leftBelow := left.nanos_lt
  have rightBelow := right.nanos_lt
  simp only [le, toNanos, nanosPerSecond, Bool.or_eq_true, Bool.and_eq_true, decide_eq_true_eq,
    beq_iff_eq, UInt64.lt_iff_toNat_lt, UInt32.le_iff_toNat_le, ← UInt64.toNat_inj] at *
  omega

theorem not_le : left.le right = false ↔ right.toNanos < left.toNanos := by
  rw [← Bool.not_eq_true, le_iff]
  exact Nat.not_le

theorem toNanos_min : (left.min right).toNanos = Min.min left.toNanos right.toNanos := by
  unfold min
  split
  · next ordered => exact (Nat.min_eq_left (le_iff.mp ordered)).symm
  · next reversed =>
    rw [le_iff] at reversed
    omega

theorem toNanos_max : (left.max right).toNanos = Max.max left.toNanos right.toNanos := by
  unfold max
  split
  · next ordered => exact (Nat.max_eq_right (le_iff.mp ordered)).symm
  · next reversed =>
    rw [le_iff] at reversed
    omega

/-- The seconds decide, and the nanoseconds where the seconds are the same. -/
theorem compareLex_eq_compare_toNanos :
    compareLex (compareOn secs) (compareOn nanos) left right =
      compare left.toNanos right.toNanos := by
  have leftBelow := left.nanos_lt
  have rightBelow := right.nanos_lt
  simp only [nanosPerSecond] at leftBelow rightBelow
  simp only [compareLex, compareOn, toNanos, nanosPerSecond]
  symm
  cases secs : compare left.secs right.secs with
  | lt =>
    have := UInt64.lt_iff_toNat_lt.mp (Std.compare_eq_lt.mp secs)
    exact Nat.compare_eq_lt.mpr (by omega)
  | gt =>
    have := UInt64.lt_iff_toNat_lt.mp (Std.compare_eq_gt.mp secs)
    exact Nat.compare_eq_gt.mpr (by omega)
  | eq =>
    rw [Std.compare_eq_iff_eq.mp secs]
    cases nanos : compare left.nanos right.nanos with
    | lt =>
      have := UInt32.lt_iff_toNat_lt.mp (Std.compare_eq_lt.mp nanos)
      exact Nat.compare_eq_lt.mpr (by omega)
    | gt =>
      have := UInt32.lt_iff_toNat_lt.mp (Std.compare_eq_gt.mp nanos)
      exact Nat.compare_eq_gt.mpr (by omega)
    | eq =>
      rw [Std.compare_eq_iff_eq.mp nanos]
      exact Nat.compare_eq_eq.mpr rfl

theorem le_eq_isLE_compare : left.le right = (compare left.toNanos right.toNanos).isLE := by
  rw [Bool.eq_iff_iff, le_iff, Nat.isLE_compare]

theorem toNanos_ofMillis (millis : UInt64) :
    (ofMillis millis).toNanos = millis.toNat * 1000000 := by
  have below : (millis % 1000).toNat = millis.toNat % 1000 := UInt64.toNat_mod _ _
  simp only [toNanos, ofMillis, nanosPerSecond, UInt64.toNat_div, UInt32.toNat_mul,
    UInt64.toNat_toUInt32, UInt64.reduceToNat, UInt32.reduceToNat, below]
  omega

/-- What is left of a span, with a second borrowed where the nanoseconds do not suffice. -/
theorem toNanos_sub (fits : spent.toNanos ≤ span.toNanos) :
    (span.sub spent).toNanos = span.toNanos - spent.toNanos := by
  have spanBelow := span.nanos_lt
  have spentBelow := spent.nanos_lt
  simp only [toNanos, nanosPerSecond] at fits spanBelow spentBelow
  unfold sub
  split
  · next enough =>
    rw [UInt32.le_iff_toNat_le] at enough
    have secs : spent.secs ≤ span.secs := by
      rw [UInt64.le_iff_toNat_le]
      omega
    simp only [toNanos, nanosPerSecond, UInt64.toNat_sub_of_le _ _ secs, UInt32.toNat_ofNat']
    omega
  · next borrows =>
    rw [UInt32.le_iff_toNat_le] at borrows
    have secs : spent.secs ≤ span.secs := by
      rw [UInt64.le_iff_toNat_le]
      omega
    have one : 1 ≤ span.secs - spent.secs := by
      rw [UInt64.le_iff_toNat_le, UInt64.toNat_sub_of_le _ _ secs]
      simp only [UInt64.reduceToNat]
      omega
    simp only [toNanos, nanosPerSecond, UInt64.toNat_sub_of_le _ _ one,
      UInt64.toNat_sub_of_le _ _ secs, UInt32.toNat_ofNat', UInt64.reduceToNat]
    omega

end Duration

/-- No quiet period is longer than the cap. -/
theorem Config.idleDelay_le (lastCompletion : Duration) (config : Config) :
    (config.idleDelay lastCompletion).toNanos ≤ config.maxIdleDelay.toNanos := by
  rw [idleDelay, Duration.toNanos_min]
  exact Nat.min_le_right _ _

end EditorAnalysis
