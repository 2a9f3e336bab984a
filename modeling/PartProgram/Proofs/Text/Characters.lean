import PartProgram.Text.DecimalDigit
import PartProgram.Text.UpperCase

namespace PartProgram.Text

/-- A property of the characters below a code, checked code by code. -/
theorem forall_of_lt {b : Nat} {P : Char → Prop} (all : ∀ n < b, P (Char.ofNat n)) {c : Char}
    (low : c.toNat < b) : P c := by
  have here := all c.toNat low
  rwa [Char.ofNat_toNat] at here

/-- No other code, be it a character or not, gives a character but the first. -/
theorem ofNat_ne {n : Nat} {c : Char} (some : 0 < c.toNat) (other : n ≠ c.toNat) :
    Char.ofNat n ≠ c := by
  rintro rfl
  by_cases valid : n.isValidChar
  · rw [Char.ofNat, dif_pos valid] at other
    exact other rfl
  · rw [Char.ofNat, dif_neg valid] at some
    exact absurd some (by decide)

theorem isDecimalDigit_ascii {c : Char} (ascii : c.toNat < 128) (digit : isDecimalDigit c = true) :
    c.isDigit = true := by
  have zeros : ∀ z ∈ digitZeros, z = 0x30 ∨ 128 ≤ z := by decide
  obtain ⟨z, mem, range⟩ := List.any_eq_true.mp digit
  simp only [Bool.and_eq_true, decide_eq_true_eq] at range
  obtain rfl : z = 0x30 := by
    rcases zeros z mem with zero | beyond
    · exact zero
    · omega
  simp only [Char.isDigit, Bool.and_eq_true, decide_eq_true_eq, ge_iff_le, UInt32.le_iff_toNat_le]
  exact ⟨range.1, Nat.le_of_lt_succ range.2⟩

/-- A digit is `0` or one of the nine characters after it. -/
theorem toNat_of_isDigit {c : Char} (digit : c.isDigit = true) : 48 ≤ c.toNat ∧ c.toNat ≤ 57 := by
  simp only [Char.isDigit, Bool.and_eq_true, decide_eq_true_eq] at digit
  exact ⟨UInt32.le_iff_toNat_le.mp digit.1, UInt32.le_iff_toNat_le.mp digit.2⟩

theorem toUpper_of_ascii {c : Char} (ascii : c.toNat < 128) :
    c.toUpper = c ∨ 'A'.toNat ≤ c.toUpper.toNat :=
  forall_of_lt (P := fun c => c.toUpper = c ∨ 'A'.toNat ≤ c.toUpper.toNat) (by decide) ascii

theorem eq_of_mem_upperCase {c mark : Char} (some : 0 < mark.toNat)
    (low : mark.toNat < 'A'.toNat) (mem : mark ∈ upperCase c) : c = mark := by
  have expansions : ∀ e ∈ upperExpansions, ∀ n ∈ e.2, 'A'.toNat ≤ n := by decide +kernel
  have runs : ∀ r ∈ upperRuns, ('A'.toNat : Int) ≤ r.first + r.distance := by decide +kernel
  unfold upperCase at mem
  split at mem
  next ascii =>
    obtain rfl := List.mem_singleton.mp mem
    rcases toUpper_of_ascii ascii with same | high
    · exact same.symm
    · omega
  next =>
    unfold upperBeyondAscii at mem
    split at mem
    next ns found =>
      obtain ⟨n, here, same⟩ := List.mem_map.mp mem
      obtain ⟨before, after, table, -⟩ := List.lookup_eq_some_iff.mp found
      have high := expansions (c.toNat, ns) (by simp [table]) n here
      exact absurd same (ofNat_ne some (by omega))
    next =>
      split at mem
      next run found =>
        have same := List.mem_singleton.mp mem
        have first := List.find?_some found
        simp only [CaseRun.covers, Bool.and_eq_true, decide_eq_true_eq] at first
        have high := runs run (List.mem_of_find?_eq_some found)
        exact absurd same.symm (ofNat_ne some (by omega))
      next => exact (List.mem_singleton.mp mem).symm

end PartProgram.Text
