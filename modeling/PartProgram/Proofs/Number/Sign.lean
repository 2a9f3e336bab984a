namespace PartProgram.Number

open Float.Model

theorem unpack_zero : (0.0 : Float).toModel.unpack = .zero .positive := rfl

theorem le_iff_compare {x y : Float} :
    x ≤ y ↔ (x.toModel.unpack.compare y.toModel.unpack).any (·.isLE) = true := by
  show decide (x.toModel ≤ y.toModel) = true ↔ _
  rw [decide_eq_true_iff]
  rfl

theorem lt_iff_compare {x y : Float} :
    x < y ↔ (x.toModel.unpack.compare y.toModel.unpack == some .lt) = true := by
  show decide (x.toModel < y.toModel) = true ↔ _
  rw [decide_eq_true_iff]
  rfl

theorem beq_iff_compare {x y : Float} :
    (x == y) = true ↔ (x.toModel.unpack.compare y.toModel.unpack == some .eq) = true :=
  Iff.rfl

/-- A value that is at least zero is neither NaN nor negative. -/
theorem isNumber_of_nonneg {x : Float} (h : 0.0 ≤ x) : x.isNaN = false ∧ ¬x < 0.0 := by
  have nan : x.isNaN = x.toModel.unpack.isNaN := rfl
  rw [le_iff_compare, unpack_zero] at h
  rw [lt_iff_compare, unpack_zero, nan]
  cases hx : x.toModel.unpack with
  | notANumber =>
    rw [hx] at h
    cases h
  | zero sign => exact ⟨rfl, by cases sign <;> decide⟩
  | infinity sign =>
    cases sign with
    | positive => exact ⟨rfl, by decide⟩
    | negative =>
      rw [hx] at h
      cases h
  | finite sign mantissa exponent pos =>
    cases sign with
    | positive => exact ⟨rfl, nofun⟩
    | negative =>
      rw [hx] at h
      cases h

end PartProgram.Number
