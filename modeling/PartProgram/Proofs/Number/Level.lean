import PartProgram.Number.Order
import PartProgram.Proofs.Number.Encoding
import PartProgram.Proofs.Number.Sign

namespace PartProgram.Number

open Float.Model UnpackedFloat

/-- The place of a number, but −0 is at the place of 0. -/
def level (x : Float) : Int :=
  if place x < 0 then place x + 1 else place x

/-- A step of the exponent is worth as much as all mantissas of one exponent. -/
def levelOf : UnpackedFloat → Int
  | .infinity sign => sign.apply (2047 * 2 ^ (52 : Nat))
  | .notANumber => 0
  | .zero _ => 0
  | .finite sign mantissa exponent _ => sign.apply ((exponent + 1074) * 2 ^ (52 : Nat) + mantissa)

/-- The mantissa is as long as it can be, and the exponent is in range. -/
def IsCanonical : UnpackedFloat → Prop
  | .finite _ mantissa exponent _ => -1074 ≤ exponent ∧ exponent < 972 ∧
      mantissa < 2 ^ (53 : Nat) ∧ (exponent = -1074 ∨ 2 ^ (52 : Nat) ≤ mantissa)
  | _ => True

theorem canonical_unpack (x : Float) : IsCanonical x.toModel.unpack := by
  obtain ⟨sign, field, fraction, narrow, below, -, decoded⟩ := exists_fields x
  generalize x.toModel.unpack = u at decoded
  cases decoded with
  | subnormal pos zero =>
    refine ⟨?_, ?_, ?_, ?_⟩ <;> omega
  | normal pos long low high =>
    refine ⟨?_, ?_, ?_, ?_⟩ <;> omega
  | _ => trivial

theorem Decodes.levelOf_eq {sign : Sign} {field fraction : Nat} {u : UnpackedFloat}
    (decoded : Decodes sign field fraction u) (number : u.isNaN = false) :
    levelOf u = sign.apply (field * 2 ^ (52 : Nat) + fraction) := by
  cases decoded with
  | zero low none =>
    have nothing : (field : Int) * 2 ^ (52 : Nat) + fraction = 0 := by omega
    rw [nothing]
    cases sign <;> rfl
  | subnormal pos low =>
    have least : ((-1074 : Int) + 1074) * 2 ^ (52 : Nat) + fraction =
        field * 2 ^ (52 : Nat) + fraction := by omega
    exact congrArg sign.apply least
  | @normal mantissa pos long low high =>
    have biased : ((field : Int) - 1075 + 1074) * 2 ^ (52 : Nat) + mantissa =
        field * 2 ^ (52 : Nat) + fraction := by omega
    exact congrArg sign.apply biased
  | infinity high none =>
    have top : (2047 : Int) * 2 ^ (52 : Nat) = field * 2 ^ (52 : Nat) + fraction := by omega
    exact congrArg sign.apply top
  | notANumber => cases number

theorem levelOf_unpack {x : Float} (number : x.isNaN = false) :
    levelOf x.toModel.unpack = level x := by
  obtain ⟨sign, field, fraction, narrow, below, bits, decoded⟩ := exists_fields x
  rw [decoded.levelOf_eq number, level, place, bits]
  cases sign with
  | positive =>
    simp only [Sign.apply, Sign.toBitVec, BitVec.toNat_ofNat]
    omega
  | negative =>
    simp only [Sign.apply, Sign.toBitVec, BitVec.toNat_ofNat]
    omega

section compare

/-- Of two canonical magnitudes the one with the greater exponent is greater. -/
theorem compare_then {e f : Int} {m n : Nat} (low : -1074 ≤ e) (low' : -1074 ≤ f)
    (below : m < 2 ^ (53 : Nat)) (below' : n < 2 ^ (53 : Nat))
    (long : e = -1074 ∨ 2 ^ (52 : Nat) ≤ m) (long' : f = -1074 ∨ 2 ^ (52 : Nat) ≤ n) :
    (compare e f).then (compare m n) =
      compare ((e + 1074) * 2 ^ (52 : Nat) + m) ((f + 1074) * 2 ^ (52 : Nat) + n) := by
  rcases Int.lt_trichotomy e f with less | rfl | greater
  · rw [Int.compare_eq_lt.mpr less]
    exact (Int.compare_eq_lt.mpr (by omega)).symm
  · rw [Int.compare_eq_eq.mpr rfl]
    rcases Nat.lt_trichotomy m n with less | rfl | greater
    · rw [Nat.compare_eq_lt.mpr less]
      exact (Int.compare_eq_lt.mpr (by omega)).symm
    · rw [Nat.compare_eq_eq.mpr rfl]
      exact (Int.compare_eq_eq.mpr rfl).symm
    · rw [Nat.compare_eq_gt.mpr greater]
      exact (Int.compare_eq_gt.mpr (by omega)).symm
  · rw [Int.compare_eq_gt.mpr greater]
    exact (Int.compare_eq_gt.mpr (by omega)).symm

theorem swap_compare_neg (a b : Int) : (compare a b).swap = compare (-a) (-b) := by
  rcases Int.lt_trichotomy a b with less | rfl | greater
  · rw [Int.compare_eq_lt.mpr less]
    exact (Int.compare_eq_gt.mpr (by omega)).symm
  · rw [Int.compare_eq_eq.mpr rfl]
    exact (Int.compare_eq_eq.mpr rfl).symm
  · rw [Int.compare_eq_gt.mpr greater]
    exact (Int.compare_eq_lt.mpr (by omega)).symm

variable {mantissa : Nat} {exponent : Int} {pos : 0 < mantissa}

theorem levelOf_positive (canonical : IsCanonical (.finite .positive mantissa exponent pos)) :
    0 < levelOf (.finite .positive mantissa exponent pos) ∧
      levelOf (.finite .positive mantissa exponent pos) < 2047 * 2 ^ (52 : Nat) := by
  obtain ⟨low, high, below, -⟩ := canonical
  have level : levelOf (.finite .positive mantissa exponent pos) =
      (exponent + 1074) * 2 ^ (52 : Nat) + mantissa := rfl
  rw [level]
  constructor <;> omega

theorem levelOf_negative (canonical : IsCanonical (.finite .negative mantissa exponent pos)) :
    levelOf (.finite .negative mantissa exponent pos) < 0 ∧
      -(2047 * 2 ^ (52 : Nat)) < levelOf (.finite .negative mantissa exponent pos) := by
  obtain ⟨low, high, below, -⟩ := canonical
  have level : levelOf (.finite .negative mantissa exponent pos) =
      -((exponent + 1074) * 2 ^ (52 : Nat) + mantissa) := rfl
  rw [level]
  constructor <;> omega

theorem compare_finite {s t : Sign} {m n : Nat} {e f : Int} {pos : 0 < m} {pos' : 0 < n}
    (left : IsCanonical (.finite s m e pos)) (right : IsCanonical (.finite t n f pos')) :
    UnpackedFloat.compare (.finite s m e pos) (.finite t n f pos') =
      some (compare (levelOf (.finite s m e pos)) (levelOf (.finite t n f pos'))) := by
  have magnitudes := compare_then left.1 right.1 left.2.2.1 right.2.2.1 left.2.2.2 right.2.2.2
  cases s with
  | positive =>
    cases t with
    | positive => exact congrArg some magnitudes
    | negative =>
      have less := Int.lt_trans (levelOf_negative right).1 (levelOf_positive left).1
      exact congrArg some (Int.compare_eq_gt.mpr less).symm
  | negative =>
    cases t with
    | positive =>
      have less := Int.lt_trans (levelOf_negative left).1 (levelOf_positive right).1
      exact congrArg some (Int.compare_eq_lt.mpr less).symm
    | negative =>
      refine congrArg some ?_
      rw [magnitudes, swap_compare_neg]
      rfl

/-- A finite value lies between the infinities, on its side of zero. -/
theorem compare_eq {u v : UnpackedFloat} (left : IsCanonical u) (right : IsCanonical v)
    (number : u.isNaN = false) (number' : v.isNaN = false) :
    u.compare v = some (compare (levelOf u) (levelOf v)) := by
  have less {a b : Int} (h : a < b) : some Ordering.lt = some (compare a b) :=
    congrArg some (Int.compare_eq_lt.mpr h).symm
  have greater {a b : Int} (h : b < a) : some Ordering.gt = some (compare a b) :=
    congrArg some (Int.compare_eq_gt.mpr h).symm
  have bottom : -(2047 * 2 ^ (52 : Nat)) < (0 : Int) := by decide
  have top : (0 : Int) < 2047 * 2 ^ (52 : Nat) := by decide
  cases u with
  | notANumber => cases number
  | infinity s =>
    cases v with
    | notANumber => cases number'
    | infinity t => cases s <;> cases t <;> rfl
    | zero t => cases s <;> rfl
    | finite t m e pos =>
      cases s with
      | positive =>
        cases t with
        | positive => exact greater (levelOf_positive right).2
        | negative => exact greater (Int.lt_trans (levelOf_negative right).1 top)
      | negative =>
        cases t with
        | positive => exact less (Int.lt_trans bottom (levelOf_positive right).1)
        | negative => exact less (levelOf_negative right).2
  | zero s =>
    cases v with
    | notANumber => cases number'
    | infinity t => cases t <;> rfl
    | zero t => rfl
    | finite t m e pos =>
      cases t with
      | positive => exact less (levelOf_positive right).1
      | negative => exact greater (levelOf_negative right).1
  | finite s m e pos =>
    cases v with
    | notANumber => cases number'
    | infinity t =>
      cases t with
      | positive =>
        cases s with
        | positive => exact less (levelOf_positive left).2
        | negative => exact less (Int.lt_trans (levelOf_negative left).1 top)
      | negative =>
        cases s with
        | positive => exact greater (Int.lt_trans bottom (levelOf_positive left).1)
        | negative => exact greater (levelOf_negative left).2
    | zero t =>
      cases s with
      | positive => exact greater (levelOf_positive left).1
      | negative => exact less (levelOf_negative left).1
    | finite t n f pos' => exact compare_finite left right

theorem compare_of_isNaN {u v : UnpackedFloat} (nan : u.isNaN = true ∨ v.isNaN = true) :
    u.compare v = none := by
  rcases nan with left | right
  · cases u with
    | notANumber => rfl
    | _ => cases left
  · cases v with
    | notANumber => cases u <;> rfl
    | _ => cases right

/-- Numbers compare as their levels do, and NaN compares with nothing. -/
theorem compare_eq_some_iff {x y : Float} {order : Ordering} :
    x.toModel.unpack.compare y.toModel.unpack = some order ↔
      x.isNaN = false ∧ y.isNaN = false ∧ compare (level x) (level y) = order := by
  by_cases numbers : x.isNaN = false ∧ y.isNaN = false
  · have levels := compare_eq (canonical_unpack x) (canonical_unpack y) numbers.1 numbers.2
    rw [levelOf_unpack numbers.1, levelOf_unpack numbers.2] at levels
    rw [levels, Option.some.injEq]
    exact ⟨fun same => ⟨numbers.1, numbers.2, same⟩, fun h => h.2.2⟩
  · have nan : x.isNaN = true ∨ y.isNaN = true := by
      rw [Decidable.not_and_iff_or_not, Bool.not_eq_false, Bool.not_eq_false] at numbers
      exact numbers
    rw [compare_of_isNaN nan]
    exact iff_of_false nofun fun h => numbers ⟨h.1, h.2.1⟩

end compare

variable {x y z : Float}

theorem lt_iff_level : x < y ↔ x.isNaN = false ∧ y.isNaN = false ∧ level x < level y := by
  rw [lt_iff_compare, beq_iff_eq, compare_eq_some_iff, Int.compare_eq_lt]

theorem beq_iff_level :
    (x == y) = true ↔ x.isNaN = false ∧ y.isNaN = false ∧ level x = level y := by
  rw [beq_iff_compare, beq_iff_eq, compare_eq_some_iff, Int.compare_eq_eq]

theorem le_iff_lt_or_beq : x ≤ y ↔ x < y ∨ (x == y) = true := by
  rw [le_iff_compare, lt_iff_compare, beq_iff_compare]
  cases x.toModel.unpack.compare y.toModel.unpack with
  | none => decide
  | some order => cases order <;> decide

theorem le_iff_level : x ≤ y ↔ x.isNaN = false ∧ y.isNaN = false ∧ level x ≤ level y := by
  rw [le_iff_lt_or_beq, lt_iff_level, beq_iff_level, Int.le_iff_lt_or_eq]
  constructor
  · rintro (⟨left, right, less⟩ | ⟨left, right, equal⟩)
    · exact ⟨left, right, .inl less⟩
    · exact ⟨left, right, .inr equal⟩
  · rintro ⟨left, right, less | equal⟩
    · exact .inl ⟨left, right, less⟩
    · exact .inr ⟨left, right, equal⟩

theorem le_refl_of_number (number : x.isNaN = false) : x ≤ x :=
  le_iff_level.mpr ⟨number, number, Int.le_refl _⟩

theorem le_trans (first : x ≤ y) (second : y ≤ z) : x ≤ z := by
  rw [le_iff_level] at first second ⊢
  exact ⟨first.1, second.2.1, Int.le_trans first.2.2 second.2.2⟩

/-- Of two numbers the one that is not less is at least the other. -/
theorem le_of_not_lt (number : x.isNaN = false) (number' : y.isNaN = false) (h : ¬y < x) :
    x ≤ y := by
  rw [lt_iff_level] at h
  rw [le_iff_level]
  exact ⟨number, number', Int.not_lt.mp fun below => h ⟨number', number, below⟩⟩

theorem le_of_lt (h : x < y) : x ≤ y :=
  le_iff_lt_or_beq.mpr (.inl h)

/-- The values are equal as numbers, −0 and 0 too, or neither is a number. -/
def SameNumber (x y : Float) : Prop :=
  (x == y) = true ∨ (x.isNaN = true ∧ y.isNaN = true)

instance (x y : Float) : Decidable (SameNumber x y) :=
  inferInstanceAs (Decidable (_ ∨ _))

theorem sameNumber_iff : SameNumber x y ↔
    x.isNaN = y.isNaN ∧ (x.isNaN = false → level x = level y) := by
  rw [SameNumber, beq_iff_level]
  cases x.isNaN <;> cases y.isNaN <;> simp

theorem SameNumber.refl (x : Float) : SameNumber x x :=
  sameNumber_iff.mpr ⟨rfl, fun _ => rfl⟩

theorem SameNumber.symm (h : SameNumber x y) : SameNumber y x := by
  rw [sameNumber_iff] at h ⊢
  exact ⟨h.1.symm, fun number => (h.2 (h.1.trans number)).symm⟩

theorem SameNumber.trans (h : SameNumber x y) (k : SameNumber y z) : SameNumber x z := by
  rw [sameNumber_iff] at h k ⊢
  exact ⟨h.1.trans k.1, fun number => (h.2 number).trans (k.2 (h.1.symm.trans number))⟩

theorem SameNumber.isNaN (h : SameNumber x y) : x.isNaN = y.isNaN :=
  (sameNumber_iff.mp h).1

theorem SameNumber.of_le_le (first : x ≤ y) (second : y ≤ x) : SameNumber x y := by
  rw [le_iff_level] at first second
  exact .inl (beq_iff_level.mpr ⟨first.1, first.2.1, Int.le_antisymm first.2.2 second.2.2⟩)

theorem SameNumber.le (h : SameNumber x y) (number : x.isNaN = false) : x ≤ y := by
  obtain ⟨nan, levels⟩ := sameNumber_iff.mp h
  exact le_iff_level.mpr ⟨number, nan.symm.trans number, Int.le_of_eq (levels number)⟩

theorem SameNumber.beq (h : SameNumber x y) (number : x.isNaN = false) : (y == x) = true := by
  obtain ⟨nan, levels⟩ := sameNumber_iff.mp h
  exact beq_iff_level.mpr ⟨nan.symm.trans number, number, (levels number).symm⟩

theorem sameNumber_add_zero (x : Float) : SameNumber (x + 0.0) x := by
  rw [add_zero]
  split
  · next negative =>
    rw [negative]
    decide
  · exact .refl x

end PartProgram.Number
