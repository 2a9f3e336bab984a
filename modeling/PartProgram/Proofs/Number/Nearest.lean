import Mathlib.Analysis.Real.Sqrt
import PartProgram.Proofs.Number.Encoding
import PartProgram.Proofs.Number.Exact

namespace PartProgram.Number

open Float.Model UnpackedFloat

/-- How many times the least positive double the magnitude with these bits is. The bits of an
infinity give the power of two behind the last double. -/
def unitsOfBits (bits : Nat) : Nat :=
  if bits / 2 ^ (52 : Nat) = 0 then bits
  else (2 ^ (52 : Nat) + bits % 2 ^ (52 : Nat)) * 2 ^ (bits / 2 ^ (52 : Nat) - 1)

/-- A significand of full length, or any at the lowest place, is written behind the number of its
place. A significand that is one too long is written as the first one of the next place. -/
theorem unitsOfBits_place {place significand : Nat}
    (long : place = 0 ∨ 2 ^ (52 : Nat) ≤ significand) (short : significand ≤ 2 ^ (53 : Nat)) :
    unitsOfBits (place * 2 ^ (52 : Nat) + significand) = significand * 2 ^ place := by
  unfold unitsOfBits
  rcases Nat.lt_trichotomy significand (2 ^ (53 : Nat)) with less | rfl | greater
  · by_cases low : significand < 2 ^ (52 : Nat)
    · obtain rfl : place = 0 := by omega
      rw [if_pos (by omega), Nat.pow_zero]
      omega
    · have field : (place * 2 ^ (52 : Nat) + significand) / 2 ^ (52 : Nat) = place + 1 := by omega
      have fraction : 2 ^ (52 : Nat) + (place * 2 ^ (52 : Nat) + significand) % 2 ^ (52 : Nat) =
          significand := by omega
      rw [field, if_neg (Nat.succ_ne_zero place), fraction, Nat.add_sub_cancel]
  · have field : (place * 2 ^ (52 : Nat) + 2 ^ (53 : Nat)) / 2 ^ (52 : Nat) = place + 2 := by omega
    have fraction : (place * 2 ^ (52 : Nat) + 2 ^ (53 : Nat)) % 2 ^ (52 : Nat) = 0 := by omega
    rw [field, if_neg (Nat.succ_ne_zero _), fraction, Nat.add_zero, Nat.add_sub_assoc (by decide),
      Nat.pow_add]
    omega
  · omega

/-- All bits are those of a significand at some place. -/
theorem exists_place (bits : Nat) : ∃ place significand,
    bits = place * 2 ^ (52 : Nat) + significand ∧
      (place = 0 ∨ 2 ^ (52 : Nat) ≤ significand) ∧ significand < 2 ^ (53 : Nat) :=
  ⟨bits / 2 ^ (52 : Nat) - 1, bits - (bits / 2 ^ (52 : Nat) - 1) * 2 ^ (52 : Nat), by omega,
    by omega, by omega⟩

theorem unitsOfBits_strictMono : StrictMono unitsOfBits := by
  refine strictMono_nat_of_lt_succ fun bits => ?_
  obtain ⟨place, significand, rfl, long, short⟩ := exists_place bits
  rw [Nat.add_assoc, unitsOfBits_place long (Nat.le_of_lt short),
    unitsOfBits_place (long.imp_right Nat.le_succ_of_le) short]
  exact Nat.mul_lt_mul_of_pos_right (Nat.lt_succ_self _) (Nat.two_pow_pos place)

/-- Of all magnitudes none is nearer to a number of units. Another is as near only if these bits are
even. An infinity counts as the power of two behind the last double. -/
def IsNearest (h : ℝ) (bits : Nat) : Prop :=
  ∀ other, |(unitsOfBits bits : ℝ) - h| ≤ |(unitsOfBits other : ℝ) - h| ∧
    (|(unitsOfBits bits : ℝ) - h| = |(unitsOfBits other : ℝ) - h| → other = bits ∨ bits % 2 = 0)

section Neighbours

variable {h : ℝ} {bits : Nat}

end Neighbours

/-- The last magnitude of a place, and the first one of the next. -/
theorem unitsOfBits_last (place : Nat) :
    (unitsOfBits (place * 2 ^ (52 : Nat) + (2 ^ (53 : Nat) - 1)) : ℝ) =
        (2 ^ (53 : Nat) - 1) * 2 ^ place ∧
      (unitsOfBits (place * 2 ^ (52 : Nat) + 2 ^ (53 : Nat)) : ℝ) = 2 ^ (53 : Nat) * 2 ^ place := by
  rw [unitsOfBits_place (.inr (by decide)) (by decide),
    unitsOfBits_place (.inr (by decide)) (by decide), Nat.cast_mul, Nat.cast_mul]
  norm_num

/-- Below the middle behind the last double, and only there, a finite magnitude is the nearest. -/
theorem IsNearest.lt_iff {h : ℝ} {bits : Nat} (nearest : IsNearest h bits) :
    bits < 2047 * 2 ^ (52 : Nat) ↔ h < (2 ^ (53 : Nat) - 1 / 2) * 2 ^ (2045 : Nat) := by
  have final : 2045 * 2 ^ (52 : Nat) + (2 ^ (53 : Nat) - 1) = 2047 * 2 ^ (52 : Nat) - 1 := by decide
  have next : 2045 * 2 ^ (52 : Nat) + 2 ^ (53 : Nat) = 2047 * 2 ^ (52 : Nat) := by decide
  obtain ⟨last, infinity⟩ := unitsOfBits_last 2045
  rw [final] at last
  rw [next] at infinity
  have unit : (0 : ℝ) < 2 ^ (2045 : Nat) := by positivity
  -- only that it is positive is needed of the place of the last double
  generalize (2 : ℝ) ^ (2045 : Nat) = scale at *
  constructor
  · intro finite
    by_contra! large
    have below : (unitsOfBits bits : ℝ) ≤ unitsOfBits (2047 * 2 ^ (52 : Nat) - 1) :=
      Nat.cast_le.mpr (unitsOfBits_strictMono.monotone (Nat.le_sub_one_of_lt finite))
    obtain ⟨least, tie⟩ := nearest (2047 * 2 ^ (52 : Nat))
    rw [abs_sub_comm, abs_of_nonneg (by linarith)] at least tie
    rcases le_total h (unitsOfBits (2047 * 2 ^ (52 : Nat))) with inside | outside
    · rw [abs_of_nonneg (sub_nonneg.mpr inside)] at least tie
      have same : (unitsOfBits bits : ℝ) = unitsOfBits (2047 * 2 ^ (52 : Nat) - 1) := by linarith
      obtain rfl := unitsOfBits_strictMono.injective (Nat.cast_inj.mp same)
      exact absurd (tie (by linarith)) (by decide)
    · rw [abs_sub_comm, abs_of_nonneg (sub_nonneg.mpr outside)] at least
      linarith
  · intro small
    by_contra! infinite
    have above : (unitsOfBits (2047 * 2 ^ (52 : Nat)) : ℝ) ≤ unitsOfBits bits :=
      Nat.cast_le.mpr (unitsOfBits_strictMono.monotone infinite)
    have least := (nearest (2047 * 2 ^ (52 : Nat) - 1)).1
    rw [abs_of_nonneg (by linarith)] at least
    rcases le_total h (unitsOfBits (2047 * 2 ^ (52 : Nat) - 1)) with inside | outside
    · rw [abs_of_nonneg (sub_nonneg.mpr inside)] at least
      linarith
    · rw [abs_sub_comm, abs_of_nonneg (sub_nonneg.mpr outside)] at least
      linarith

end PartProgram.Number
