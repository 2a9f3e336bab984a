import Mathlib.Data.List.Forall2
import PartProgram.Proofs.Number.Encoding
import PartProgram.Proofs.Number.Exact

namespace PartProgram.Number

open Float.Model UnpackedFloat

/-- The whole part of a finite value, toward zero, kept within 32 bits; an end of that range for an
infinity. -/
structure IsCodeOf (code : Int) (x : Float) : Prop where
  finite : ∀ a ∈ units? x, code = max (-2 ^ (31 : Nat))
    (min (2 ^ (31 : Nat) - 1) (a.tdiv (2 ^ (1074 : Nat) : Nat)))
  infinite : x.isInf = true →
    code = if isNegative x then -2 ^ (31 : Nat) else 2 ^ (31 : Nat) - 1
  noNumber : x.isNaN = true → code = 0

namespace Binary

theorem le_exponent_ofFloat (x : Float) : -1074 ≤ (ofFloat x).exponent := by
  unfold ofFloat
  dsimp only
  split
  · exact Int.le_refl _
  · dsimp only
    omega

/-- The whole part, from the magnitude in units of `2 ^ (-m)`. -/
theorem whole_eq {b : Binary} {m : Nat} {k : Int} (same : k = m) (bound : -k ≤ b.exponent) :
    b.whole = b.significand * 2 ^ (b.exponent + k).toNat / 2 ^ m := by
  show b.significand * 2 ^ b.exponent.toNat / (1 * 2 ^ (-b.exponent).toNat) = _
  rw [Nat.one_mul]
  by_cases positive : 0 ≤ b.exponent
  · have left : (-b.exponent).toNat = 0 := by omega
    have right : (b.exponent + k).toNat = b.exponent.toNat + m := by omega
    rw [left, right, Nat.pow_add, ← Nat.mul_assoc, Nat.mul_div_cancel _ (Nat.two_pow_pos m),
      Nat.pow_zero, Nat.div_one]
  · have left : b.exponent.toNat = 0 := by omega
    have right : m = (b.exponent + k).toNat + (-b.exponent).toNat := by omega
    generalize (b.exponent + k).toNat = above at right
    generalize (-b.exponent).toNat = below at right
    rw [left, right, Nat.pow_zero, Nat.mul_one, Nat.pow_add, Nat.mul_comm (2 ^ above),
      Nat.mul_div_mul_right _ _ (Nat.two_pow_pos above)]

end Binary

theorem toCode_of_units? {x : Float} {a : Int} (value : units? x = some a) :
    toCode x = max (-2 ^ (31 : Nat))
      (min (2 ^ (31 : Nat) - 1) (a.tdiv (2 ^ (1074 : Nat) : Nat))) := by
  unfold units? at value
  split at value
  · cases value
  next finite =>
    have number : x.isNaN = false := by
      rw [Bool.or_eq_true] at finite
      exact Bool.eq_false_iff.mpr fun nan => finite (.inl nan)
    have whole := Binary.whole_eq (m := 1074) (k := 1074) rfl (Binary.le_exponent_ofFloat x)
    rw [toCode, number, if_neg Bool.false_ne_true, whole, ← Option.some.inj value]
    generalize (Binary.ofFloat x).significand *
      2 ^ ((Binary.ofFloat x).exponent + 1074).toNat = magnitude
    generalize 2 ^ (1074 : Nat) = unit
    clear whole value
    split
    next =>
      rw [Int.neg_tdiv, ← Int.ofNat_tdiv]
      generalize magnitude / unit = parts
      omega
    next =>
      rw [← Int.ofNat_tdiv]
      generalize magnitude / unit = parts
      omega

theorem isNaN_of_isInf {x : Float} (h : x.isInf = true) : x.isNaN = false := by
  have nan : x.isNaN = x.toModel.unpack.isNaN := rfl
  have inf : x.isInf = x.toModel.unpack.isInf := rfl
  rw [inf] at h
  rw [nan]
  cases unpacked : x.toModel.unpack with
  | notANumber =>
    rw [unpacked] at h
    cases h
  | _ => rfl

/-- Only with all bits of the exponent set a value is infinite. -/
theorem exponent_of_isInf {x : Float} (h : x.isInf = true) :
    x.toBits.toNat / 2 ^ (52 : Nat) % 2 ^ (11 : Nat) = 2047 := by
  have inf : x.isInf = x.toModel.unpack.isInf := rfl
  rw [inf] at h
  obtain ⟨sign, field, fraction, narrow, below, bits, decoded⟩ := exists_fields x
  generalize x.toModel.unpack = u at decoded h
  cases decoded with
  | infinity full none =>
    rw [bits]
    omega
  | _ => cases h

theorem toCode_of_isInf {x : Float} (h : x.isInf = true) :
    toCode x = if isNegative x then -2 ^ (31 : Nat) else 2 ^ (31 : Nat) - 1 := by
  have beyond : 2 ^ (31 : Nat) ≤ (Binary.ofFloat x).whole := by
    have magnitude : Binary.ofFloat x =
        ⟨2 ^ (52 : Nat) + x.toBits.toNat % 2 ^ (52 : Nat), 972⟩ := by
      simp [Binary.ofFloat, exponent_of_isInf h]
    have whole : (Binary.ofFloat x).whole =
        (2 ^ (52 : Nat) + x.toBits.toNat % 2 ^ (52 : Nat)) * 2 ^ (972 : Nat) / (1 * 1) := by
      rw [magnitude]
      rfl
    rw [whole, Nat.one_mul, Nat.div_one]
    calc 2 ^ (31 : Nat) ≤ 2 ^ (52 : Nat) + x.toBits.toNat % 2 ^ (52 : Nat) := by omega
      _ ≤ _ := Nat.le_mul_of_pos_right _ (Nat.two_pow_pos _)
  rw [toCode, isNaN_of_isInf h, if_neg Bool.false_ne_true]
  split <;> omega

theorem isCodeOf_toCode (x : Float) : IsCodeOf (toCode x) x :=
  ⟨fun _ value => toCode_of_units? value, toCode_of_isInf, fun nan => by rw [toCode, if_pos nan]⟩

theorem forall₂_toCode (values : List Float) :
    List.Forall₂ IsCodeOf (values.map toCode) values := by
  rw [List.forall₂_map_left_iff, List.forall₂_same]
  exact fun x _ => isCodeOf_toCode x

end PartProgram.Number
