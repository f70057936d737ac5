/-!
# Durations

A duration is a pair of whole seconds, in a 64-bit word, and nanoseconds below one second, in a
32-bit word. The pairs are ordered lexicographically, which is the order of the spans they denote
(`Duration.toNanos`).
-/

namespace EditorAnalysis

/-- Nanoseconds in one second. -/
abbrev nanosPerSecond : Nat := 1000000000

/-- A span of time. -/
@[ext]
structure Duration where
  secs : UInt64
  /-- Nanoseconds beyond the whole seconds. -/
  nanos : UInt32
  /-- The nanoseconds make up less than a second. -/
  nanos_lt : nanos.toNat < nanosPerSecond
  deriving DecidableEq, Repr

namespace Duration

/-- The empty span. -/
def zero : Duration := ⟨0, 0, by decide⟩

/-- The length of the span in nanoseconds. -/
def toNanos (span : Duration) : Nat :=
  span.secs.toNat * nanosPerSecond + span.nanos.toNat

/-- The span of a number of milliseconds. -/
def ofMillis (millis : UInt64) : Duration where
  secs := millis / 1000
  nanos := (millis % 1000).toUInt32 * 1000000
  nanos_lt := by
    have small : (millis % 1000).toNat < 1000 := by
      rw [UInt64.toNat_mod]
      exact Nat.mod_lt _ (by decide)
    have kept : (millis % 1000).toNat % 2 ^ 32 = (millis % 1000).toNat :=
      Nat.mod_eq_of_lt (by omega)
    rw [UInt32.toNat_mul, UInt64.toNat_toUInt32, kept]
    simp only [nanosPerSecond, UInt32.reduceToNat]
    rw [Nat.mod_eq_of_lt] <;> omega

/-- The length of the longest span in nanoseconds. -/
abbrev maxNanos : Nat := UInt64.size * nanosPerSecond - 1

/-- The span of a number of nanoseconds, or the longest span if that is shorter. -/
def ofNanos (count : Nat) : Duration where
  secs := UInt64.ofNat (Nat.min count maxNanos / nanosPerSecond)
  nanos := UInt32.ofNat (Nat.min count maxNanos % nanosPerSecond)
  nanos_lt := by
    rw [UInt32.toNat_ofNat']
    simp only [nanosPerSecond]
    omega

/-- A third of a span, cut off to whole nanoseconds. The seconds left over by the division of the
seconds are carried into the nanoseconds. -/
def third (span : Duration) : Duration where
  secs := span.secs / 3
  nanos := span.nanos / 3 +
    (((span.secs % 3) * 1000000000 + (span.nanos % 3).toUInt64) / 3).toUInt32
  nanos_lt := by
    have below := span.nanos_lt
    simp only [nanosPerSecond] at below ⊢
    have carried : (span.secs % 3).toNat < 3 := by
      rw [UInt64.toNat_mod]
      exact Nat.mod_lt _ (by decide)
    have left : (span.nanos % 3).toNat = span.nanos.toNat % 3 := UInt32.toNat_mod _ _
    have spread : ((span.secs % 3) * 1000000000 + (span.nanos % 3).toUInt64).toNat =
        (span.secs % 3).toNat * 1000000000 + span.nanos.toNat % 3 := by
      rw [UInt64.toNat_add, UInt64.toNat_mul, UInt32.toNat_toUInt64, left]
      simp only [UInt64.reduceToNat]
      rw [Nat.mod_eq_of_lt (a := _ * _) (by omega), Nat.mod_eq_of_lt (by omega)]
    have narrow : (((span.secs % 3).toNat * 1000000000 + span.nanos.toNat % 3) / 3) % 2 ^ 32 =
        ((span.secs % 3).toNat * 1000000000 + span.nanos.toNat % 3) / 3 :=
      Nat.mod_eq_of_lt (by omega)
    rw [UInt32.toNat_add, UInt32.toNat_div, UInt64.toNat_toUInt32, UInt64.toNat_div, spread]
    simp only [UInt64.reduceToNat, UInt32.reduceToNat]
    rw [narrow, Nat.mod_eq_of_lt] <;> omega

/-- The lexicographic order of the pairs. -/
def le (left right : Duration) : Bool :=
  left.secs < right.secs || (left.secs == right.secs && left.nanos ≤ right.nanos)

/-- The longer of two spans. -/
def max (left right : Duration) : Duration :=
  if left.le right then right else left

/-- The shorter of two spans. -/
def min (left right : Duration) : Duration :=
  if left.le right then left else right

/-- What is left of a span after another one; meant for a span that is no shorter. -/
def sub (span spent : Duration) : Duration :=
  if spent.nanos ≤ span.nanos then
    { secs := span.secs - spent.secs
      nanos := UInt32.ofNat (span.nanos.toNat - spent.nanos.toNat)
      nanos_lt := by
        have := span.nanos_lt
        rw [UInt32.toNat_ofNat']
        simp only [nanosPerSecond] at *
        omega }
  else
    { secs := span.secs - spent.secs - 1
      nanos := UInt32.ofNat ((span.nanos.toNat + nanosPerSecond - spent.nanos.toNat) % nanosPerSecond)
      nanos_lt := by
        rw [UInt32.toNat_ofNat']
        simp only [nanosPerSecond]
        omega }

/-- The length of a span in seconds, rounded up. -/
def ceilSeconds (span : Duration) : Nat :=
  if span.nanos = 0 then span.secs.toNat else span.secs.toNat + 1

end Duration

/-- A reading of a clock that never goes back, in nanoseconds. -/
abbrev Instant := Nat

namespace Instant

/-- The span from one reading to another, empty if the other is the earlier one. -/
def elapsed (start now : Instant) : Duration := .ofNanos (now - start)

/-- Whole milliseconds from one reading to another, as far as they fit a 64-bit word. -/
def millisSince (start now : Instant) : UInt64 :=
  UInt64.ofNat (Nat.min ((now - start) / 1000000) (UInt64.size - 1))

end Instant

end EditorAnalysis
