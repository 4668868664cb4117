import Mathlib.Algebra.Group.Nat.Defs
import SiteProbe.Config

/-!
# Pauses before retries

The product of a duration and a word is exact as long as it is a duration, and the longest duration otherwise
(`Duration.nanoseconds_times`). The word that a pause is multiplied with is the power of two of its attempt, or the
greatest word if that is less (`RetryPolicy.toNat_factor`). So pauses double until one of the two bounds is met, and
then never become shorter (`RetryPolicy.backoff_doubles`).
-/

namespace SiteProbe

namespace Duration

variable {d e : Duration} {k : UInt32}

theorem eq_of_nanoseconds_eq (h : d.nanoseconds = e.nanoseconds) : d = e := by
  obtain ⟨s, n, hn⟩ := d
  obtain ⟨s', n', hn'⟩ := e
  simp only [nanoseconds] at h
  have hs : s = s' := UInt64.toNat_inj.mp (by omega)
  have hnanos : n = n' := UInt32.toNat_inj.mp (by omega)
  subst hs hnanos
  rfl

theorem nanoseconds_longest : longest.nanoseconds = 18446744073709551616 * 1000000000 - 1 := by decide

/-- A number of nanoseconds is that of a duration if its whole seconds are a word. -/
theorem nanoseconds_le_longest_iff {n : Nat} : n ≤ longest.nanoseconds ↔ n / 1000000000 < 18446744073709551616 := by
  rw [nanoseconds_longest]
  omega

theorem nanoseconds_le_longest (d : Duration) : d.nanoseconds ≤ longest.nanoseconds := by
  have hseconds := d.seconds.toNat_lt
  have hnanos := d.nanos_lt
  rw [nanoseconds_le_longest_iff, nanoseconds]
  omega

/-- The whole seconds of a product: those of the seconds, and those that the nanoseconds carry over. -/
theorem nanoseconds_mul_div (d : Duration) (n : Nat) :
    d.nanoseconds * n / 1000000000 = d.seconds.toNat * n + d.nanos.toNat * n / 1000000000 := by
  have hparts : d.nanoseconds * n = d.nanos.toNat * n + 1000000000 * (d.seconds.toNat * n) := by
    rw [nanoseconds, Nat.add_mul, Nat.mul_right_comm, Nat.add_comm, Nat.mul_comm 1000000000]
  rw [hparts, Nat.add_mul_div_left _ _ (by decide), Nat.add_comm]

theorem mulWords?_of_lt {a b : UInt64} (h : a.toNat * b.toNat < 18446744073709551616) :
    mulWords? a b = some (a * b) := if_pos h

theorem addWords?_of_lt {a b : UInt64} (h : a.toNat + b.toNat < 18446744073709551616) :
    addWords? a b = some (a + b) := if_pos h

/-- There is a product if it is no longer than the longest duration. -/
theorem isSome_times?_iff : (d.times? k).isSome ↔ d.nanoseconds * k.toNat ≤ longest.nanoseconds := by
  constructor
  · intro h
    obtain ⟨e, he⟩ := Option.isSome_iff_exists.mp h
    rw [← nanoseconds_eq_of_times? he]
    exact e.nanoseconds_le_longest
  · intro h
    rw [nanoseconds_le_longest_iff, nanoseconds_mul_div] at h
    have hproduct : d.seconds.toNat * k.toUInt64.toNat < 18446744073709551616 := by
      rw [UInt32.toNat_toUInt64]
      omega
    have hsum : (d.seconds * k.toUInt64).toNat + (d.nanos.toUInt64 * k.toUInt64 / 1000000000).toNat <
        18446744073709551616 := by
      rw [UInt64.toNat_mul, Nat.mod_eq_of_lt hproduct, UInt32.toNat_toUInt64, UInt64.toNat_div, toNat_nanos_mul]
      exact h
    simp [times?, mulWords?_of_lt hproduct, addWords?_of_lt hsum]

/-- Multiplying is exact as long as the product is a duration. -/
theorem nanoseconds_times (d : Duration) (k : UInt32) :
    (d.times k).nanoseconds = min (d.nanoseconds * k.toNat) longest.nanoseconds := by
  unfold times
  cases h : d.times? k with
  | some e =>
    have hsome : (d.times? k).isSome := by rw [h]; rfl
    rw [Option.getD_some, nanoseconds_eq_of_times? h, Nat.min_eq_left (isSome_times?_iff.mp hsome)]
  | none =>
    have hnone : ¬(d.times? k).isSome := by rw [h]; exact nofun
    rw [isSome_times?_iff, Nat.not_le] at hnone
    rw [Option.getD_none, Nat.min_eq_right (Nat.le_of_lt hnone)]

end Duration

namespace RetryPolicy

open Duration

/-- Shifting one loses no bit for the attempts that are told apart. -/
theorem toNat_factor (attempt : UInt32) : (factor attempt).toNat = min (2 ^ attempt.toNat) 4294967295 := by
  unfold factor
  split
  · rename_i h
    have hlt : attempt.toNat < 32 := UInt32.lt_iff_toNat_lt.mp h
    have hpow : 2 ^ attempt.toNat ≤ 2 ^ 31 := Nat.pow_le_pow_right (by decide) (by omega)
    rw [UInt32.toNat_shiftLeft, UInt32.toNat_one, Nat.mod_eq_of_lt hlt, Nat.shiftLeft_eq, Nat.one_mul,
      Nat.mod_eq_of_lt (by omega), Nat.min_eq_left (by omega)]
  · rename_i h
    have hle : 32 ≤ attempt.toNat := Nat.le_of_not_lt fun hlt => h (UInt32.lt_iff_toNat_lt.mpr hlt)
    have hpow : 2 ^ 32 ≤ 2 ^ attempt.toNat := Nat.pow_le_pow_right (by decide) hle
    rw [Nat.min_eq_right (by omega)]
    rfl

theorem nanoseconds_backoff (p : RetryPolicy) (attempt : UInt32) : (p.backoff attempt).nanoseconds =
    min (p.initialBackoff.nanoseconds * min (2 ^ attempt.toNat) 4294967295) longest.nanoseconds := by
  rw [backoff, nanoseconds_times, toNat_factor]

/-- For the attempts that are told apart the power of two is the lesser of the bounds on the factor. -/
theorem min_factor_of_le {attempt : UInt32} (h : attempt ≤ 31) :
    min (2 ^ attempt.toNat) 4294967295 = 2 ^ attempt.toNat := by
  have hle : attempt.toNat ≤ 31 := UInt32.le_iff_toNat_le.mp h
  exact Nat.min_eq_left (Nat.le_trans (Nat.pow_le_pow_right (by decide) hle) (by decide))

theorem min_factor_of_lt {attempt : UInt32} (h : 31 < attempt) :
    min (2 ^ attempt.toNat) 4294967295 = 4294967295 := by
  have hlt : 31 < attempt.toNat := UInt32.lt_iff_toNat_lt.mp h
  exact Nat.min_eq_right (Nat.le_trans (by decide) (Nat.pow_le_pow_right (by decide) hlt))

/-- A later pause is no shorter. -/
theorem backoff_mono (p : RetryPolicy) {attempt later : UInt32} (h : attempt ≤ later) :
    (p.backoff attempt).nanoseconds ≤ (p.backoff later).nanoseconds := by
  have hpow : 2 ^ attempt.toNat ≤ 2 ^ later.toNat :=
    Nat.pow_le_pow_right (by decide) (UInt32.le_iff_toNat_le.mp h)
  have hfactor : min (2 ^ attempt.toNat) 4294967295 ≤ min (2 ^ later.toNat) 4294967295 := by omega
  have hproduct := Nat.mul_le_mul_left p.initialBackoff.nanoseconds hfactor
  rw [nanoseconds_backoff, nanoseconds_backoff]
  omega

/-- For every first pause and every attempt: no operation on words wraps, as the factor keeps all bits of the power or
is the greatest word, and the product of the nanoseconds is a word; the nanoseconds of the pause are less than a second;
and no later pause is shorter. Up to attempt 31 the pause is the first one, doubled as often as there were attempts
before; behind that it is the first one, times the greatest word. Where this is longer than the longest duration, it is
the longest one. -/
theorem backoff_doubles (p : RetryPolicy) (attempt : UInt32) :
    (factor attempt).toNat = min (2 ^ attempt.toNat) 4294967295 ∧
    mulWords? p.initialBackoff.nanos.toUInt64 (factor attempt).toUInt64 =
      some (p.initialBackoff.nanos.toUInt64 * (factor attempt).toUInt64) ∧
    (p.backoff attempt).nanos.toNat < 1000000000 ∧
    (∀ later, attempt ≤ later → (p.backoff attempt).le (p.backoff later)) ∧
    (attempt ≤ 31 → p.initialBackoff.nanoseconds * 2 ^ attempt.toNat ≤ longest.nanoseconds →
      (p.backoff attempt).nanoseconds = p.initialBackoff.nanoseconds * 2 ^ attempt.toNat) ∧
    (attempt ≤ 31 → longest.nanoseconds < p.initialBackoff.nanoseconds * 2 ^ attempt.toNat →
      p.backoff attempt = longest) ∧
    (31 < attempt → p.initialBackoff.nanoseconds * 4294967295 ≤ longest.nanoseconds →
      (p.backoff attempt).nanoseconds = p.initialBackoff.nanoseconds * 4294967295) ∧
    (31 < attempt → longest.nanoseconds < p.initialBackoff.nanoseconds * 4294967295 →
      p.backoff attempt = longest) := by
  refine ⟨toNat_factor attempt, mulWords?_of_lt ?_, (p.backoff attempt).nanos_lt, fun later hlater => ?_,
    fun hattempt hfits => ?_, fun hattempt hlong => ?_, fun hattempt hfits => ?_, fun hattempt hlong => ?_⟩
  · rw [UInt32.toNat_toUInt64, UInt32.toNat_toUInt64]
    exact Nat.lt_of_le_of_lt
      (Nat.mul_le_mul (Nat.le_of_lt p.initialBackoff.nanos_lt) (Nat.le_of_lt (factor attempt).toNat_lt)) (by decide)
  · exact decide_eq_true (p.backoff_mono hlater)
  · rw [nanoseconds_backoff, min_factor_of_le hattempt, Nat.min_eq_left hfits]
  · refine eq_of_nanoseconds_eq ?_
    rw [nanoseconds_backoff, min_factor_of_le hattempt, Nat.min_eq_right (Nat.le_of_lt hlong)]
  · rw [nanoseconds_backoff, min_factor_of_lt hattempt, Nat.min_eq_left hfits]
  · refine eq_of_nanoseconds_eq ?_
    rw [nanoseconds_backoff, min_factor_of_lt hattempt, Nat.min_eq_right (Nat.le_of_lt hlong)]

/-- The pauses of a second and a half carry over and meet the bound of the factor, those of ten thousand years the
longest duration. -/
theorem backoff_doubles_bounds :
    let short : RetryPolicy := ⟨1, ⟨1, 500000000, by decide⟩⟩
    let long : RetryPolicy := ⟨1, .ofSeconds 315360000000⟩
    (short.backoff 31).nanoseconds = 1500000000 * 2 ^ 31 ∧ (short.backoff 31).le (short.backoff 32) ∧
    (short.backoff 32).nanoseconds = 1500000000 * 4294967295 ∧
    long.backoff 31 = longest ∧ long.backoff 32 = longest := by
  intro short long
  obtain ⟨-, -, -, hlater, hexact, -, -, -⟩ := backoff_doubles short 31
  obtain ⟨-, -, -, -, -, -, hcapped, -⟩ := backoff_doubles short 32
  obtain ⟨-, -, -, -, -, hlongest, -, -⟩ := backoff_doubles long 31
  obtain ⟨-, -, -, -, -, -, -, hlongest'⟩ := backoff_doubles long 32
  exact ⟨(hexact (by decide) (by decide)).trans (by decide), hlater 32 (by decide),
    (hcapped (by decide) (by decide)).trans (by decide), hlongest (by decide) (by decide),
    hlongest' (by decide) (by decide)⟩

end RetryPolicy
end SiteProbe
