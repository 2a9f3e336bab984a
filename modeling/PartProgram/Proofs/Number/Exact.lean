import PartProgram.Number.Binary

namespace PartProgram.Number

/-- How many times the least positive double `2 ^ (-1074)` a finite double is. -/
def units? (x : Float) : Option Int :=
  if x.isNaN || x.isInf then none
  else
    let b := Binary.ofFloat x
    let magnitude : Nat := b.significand * 2 ^ (b.exponent + 1074).toNat
    some (if isNegative x then -(magnitude : Int) else magnitude)

/-- Both are finite and of the same value; only the zeros can differ. -/
def SameValue (x y : Float) : Prop :=
  ∃ a ∈ units? x, units? y = some a

instance (x y : Float) : Decidable (SameValue x y) :=
  inferInstanceAs (Decidable (∃ a ∈ units? x, units? y = some a))

/-- The sum is that of the values. -/
def SumExact (x y : Float) : Prop :=
  ∃ a ∈ units? x, ∃ b ∈ units? y, units? (x + y) = some (a + b)

instance (x y : Float) : Decidable (SumExact x y) :=
  inferInstanceAs (Decidable (∃ a ∈ units? x, ∃ b ∈ units? y, units? (x + y) = some (a + b)))

/-- The difference is that of the values. -/
def DifferenceExact (x y : Float) : Prop :=
  ∃ a ∈ units? x, ∃ b ∈ units? y, units? (x - y) = some (a - b)

instance (x y : Float) : Decidable (DifferenceExact x y) :=
  inferInstanceAs (Decidable (∃ a ∈ units? x, ∃ b ∈ units? y, units? (x - y) = some (a - b)))

theorem SumExact.units {x y : Float} {a b : Int} (h : SumExact x y) (left : units? x = some a)
    (right : units? y = some b) : units? (x + y) = some (a + b) := by
  obtain ⟨a', ha, b', hb, sum⟩ := h
  obtain rfl : a = a' := Option.some.inj (left.symm.trans ha)
  obtain rfl : b = b' := Option.some.inj (right.symm.trans hb)
  exact sum

theorem DifferenceExact.units {x y : Float} {a b : Int} (h : DifferenceExact x y)
    (left : units? x = some a) (right : units? y = some b) : units? (x - y) = some (a - b) := by
  obtain ⟨a', ha, b', hb, difference⟩ := h
  obtain rfl : a = a' := Option.some.inj (left.symm.trans ha)
  obtain rfl : b = b' := Option.some.inj (right.symm.trans hb)
  exact difference

theorem units?_zero : units? 0.0 = some 0 := by
  decide

theorem sameValue_iff {x y : Float} {a b : Int} (left : units? x = some a)
    (right : units? y = some b) : SameValue x y ↔ a = b := by
  unfold SameValue
  rw [left, right]
  simp [eq_comm]

example : SumExact 0.5 0.25 ∧ ¬SumExact 0.1 0.2 := by
  decide +kernel

end PartProgram.Number
