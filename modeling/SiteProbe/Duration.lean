/-!
# Durations

A duration is a number of seconds in a 64-bit word and less than a second in nanoseconds. Multiplying it either gives
the exact product (`nanoseconds_eq_of_times?`) or stops at the longest duration, so that it never wraps.
-/

namespace SiteProbe

/-- A length of time. -/
structure Duration where
  seconds : UInt64
  nanos : UInt32
  nanos_lt : nanos.toNat < 1000000000
  deriving DecidableEq, Repr

namespace Duration

/-- No time at all. -/
def zero : Duration := ⟨0, 0, by decide⟩

/-- The longest duration. -/
def longest : Duration := ⟨18446744073709551615, 999999999, by decide⟩

instance : Inhabited Duration := ⟨zero⟩

/-- Whole seconds. -/
def ofSeconds (n : UInt64) : Duration := ⟨n, 0, by decide⟩

/-- A nanosecond count below a second fits its word. -/
theorem toNat_ofNat_mod (n : Nat) : (UInt32.ofNat (n % 1000000000)).toNat = n % 1000000000 := by
  have h : n % 1000000000 < 1000000000 := Nat.mod_lt n (by decide)
  rw [UInt32.toNat_ofNat_of_lt' (Nat.lt_trans h (by decide))]

/-- The duration of whole seconds and any number of nanoseconds below a second. -/
def ofParts (seconds : UInt64) (nanos : Nat) : Duration :=
  ⟨seconds, .ofNat (nanos % 1000000000), by rw [toNat_ofNat_mod]; exact Nat.mod_lt nanos (by decide)⟩

/-- Whole milliseconds. -/
def ofMillis (n : UInt64) : Duration := ofParts (n / 1000) ((n % 1000).toNat * 1000000)

/-- The whole milliseconds of a duration. -/
def toMillis (d : Duration) : Nat := d.seconds.toNat * 1000 + d.nanos.toNat / 1000000

/-- The nanoseconds of a duration. -/
def nanoseconds (d : Duration) : Nat := d.seconds.toNat * 1000000000 + d.nanos.toNat

/-- The product of words, if it is one. -/
def mulWords? (a b : UInt64) : Option UInt64 := if a.toNat * b.toNat < 18446744073709551616 then some (a * b) else none

/-- The sum of words, if it is one. -/
def addWords? (a b : UInt64) : Option UInt64 := if a.toNat + b.toNat < 18446744073709551616 then some (a + b) else none

/-- The product of a duration and a word, if it is a duration: the nanoseconds carry whole seconds over. -/
def times? (d : Duration) (k : UInt32) : Option Duration := do
  let nanos := d.nanos.toUInt64 * k.toUInt64
  let seconds ← mulWords? d.seconds k.toUInt64
  let seconds ← addWords? seconds (nanos / 1000000000)
  return ofParts seconds nanos.toNat

/-- The product of a duration and a word, at most the longest duration. -/
def times (d : Duration) (k : UInt32) : Duration := (d.times? k).getD longest

/-- Whether a duration is at most as long as another one. -/
def le (d e : Duration) : Bool := d.nanoseconds ≤ e.nanoseconds

theorem toNat_mulWords? {a b c : UInt64} (h : mulWords? a b = some c) : c.toNat = a.toNat * b.toNat := by
  unfold mulWords? at h
  split at h
  · rename_i hlt
    cases h
    rw [UInt64.toNat_mul, Nat.mod_eq_of_lt hlt]
  · cases h

theorem toNat_addWords? {a b c : UInt64} (h : addWords? a b = some c) : c.toNat = a.toNat + b.toNat := by
  unfold addWords? at h
  split at h
  · rename_i hlt
    cases h
    rw [UInt64.toNat_add, Nat.mod_eq_of_lt hlt]
  · cases h

/-- The nanoseconds of a duration and a word make a word when they are multiplied. -/
theorem toNat_nanos_mul (d : Duration) (k : UInt32) :
    (d.nanos.toUInt64 * k.toUInt64).toNat = d.nanos.toNat * k.toNat := by
  have h : d.nanos.toNat * k.toNat < 1000000000 * 2 ^ 32 :=
    Nat.lt_of_le_of_lt (Nat.mul_le_mul_right _ (Nat.le_of_lt d.nanos_lt))
      (Nat.mul_lt_mul_of_pos_left k.toNat_lt (by decide))
  rw [UInt64.toNat_mul, UInt32.toNat_toUInt64, UInt32.toNat_toUInt64, Nat.mod_eq_of_lt (Nat.lt_trans h (by decide))]

/-- A product is exact if there is one. -/
theorem nanoseconds_eq_of_times? {d e : Duration} {k : UInt32} (h : d.times? k = some e) :
    e.nanoseconds = d.nanoseconds * k.toNat := by
  unfold times? at h
  simp only [Option.bind_eq_bind, Option.bind_eq_some_iff, Option.pure_def, Option.some.injEq] at h
  obtain ⟨s, hs, t, ht, rfl⟩ := h
  have hs := toNat_mulWords? hs
  have ht := toNat_addWords? ht
  have hunit : UInt64.toNat 1000000000 = 1000000000 := by decide
  rw [UInt64.toNat_div, toNat_nanos_mul, hs, hunit, UInt32.toNat_toUInt64] at ht
  simp only [nanoseconds, ofParts, toNat_ofNat_mod, toNat_nanos_mul, ht]
  have hparts := Nat.div_add_mod (d.nanos.toNat * k.toNat) 1000000000
  rw [Nat.add_mul, Nat.add_mul, Nat.mul_right_comm, Nat.add_assoc, Nat.mul_comm (_ / _)]
  omega

end Duration
end SiteProbe
