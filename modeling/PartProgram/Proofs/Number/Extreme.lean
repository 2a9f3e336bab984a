import PartProgram.Proofs.Number.Level

namespace PartProgram.Number

/-- One of several values, beyond which there is no number among them. -/
structure IsExtreme (before : Float → Float → Prop) (values : List Float) (e : Float) : Prop where
  mem : e ∈ values
  first : ∀ v ∈ values, v.isNaN = false → before e v

/-- The choice between two values goes by an order of the numbers, and falls on NaN only if neither
is a number. -/
structure Prefers (before : Float → Float → Prop) (choice : Float → Float → Float) : Prop where
  trans : ∀ {x y z}, before x y → before y z → before x z
  same : ∀ {x y}, before x y → before y x → SameNumber x y
  refl : ∀ {x}, x.isNaN = false → before x x
  isNaN : ∀ {x y}, before x y → x.isNaN = false
  mem : ∀ x y, choice x y = x ∨ choice x y = y
  left : ∀ {x} y, x.isNaN = false → before (choice x y) x
  right : ∀ x {y}, y.isNaN = false → before (choice x y) y

theorem prefers_least : Prefers (· ≤ ·) least where
  trans := le_trans
  same := .of_le_le
  refl := le_refl_of_number
  isNaN h := (le_iff_level.mp h).1
  mem x y := by
    rw [least]
    split
    · exact .inr rfl
    · split
      · exact .inr rfl
      · exact .inl rfl
  left {x} y number := by
    rw [least, number]
    split
    · contradiction
    · split
      · next below => exact le_of_lt below
      · exact le_refl_of_number number
  right x {y} number := by
    rw [least]
    split
    · exact le_refl_of_number number
    · next left =>
      split
      · exact le_refl_of_number number
      · next above => exact le_of_not_lt (Bool.eq_false_iff.mpr left) number above

theorem prefers_greatest : Prefers (fun x y => y ≤ x) greatest where
  trans first second := le_trans second first
  same first second := .of_le_le second first
  refl := le_refl_of_number
  isNaN h := (le_iff_level.mp h).2.1
  mem x y := by
    rw [greatest]
    split
    · exact .inr rfl
    · split
      · exact .inr rfl
      · exact .inl rfl
  left {x} y number := by
    rw [greatest, number]
    split
    · contradiction
    · split
      · next above => exact le_of_lt above
      · exact le_refl_of_number number
  right x {y} number := by
    rw [greatest]
    split
    · exact le_refl_of_number number
    · next left =>
      split
      · exact le_refl_of_number number
      · next below => exact le_of_not_lt number (Bool.eq_false_iff.mpr left) below

namespace Prefers

variable {before : Float → Float → Prop} {choice : Float → Float → Float} {values : List Float}
  {e v : Float}

/-- One more value is taken. -/
theorem snoc (h : Prefers before choice) (extreme : IsExtreme before values e) (v : Float) :
    IsExtreme before (values ++ [v]) (choice e v) where
  mem := by
    rcases h.mem e v with old | new
    · rw [old]
      exact List.mem_append_left _ extreme.mem
    · rw [new]
      simp
  first u mem number := by
    rcases List.mem_append.mp mem with earlier | last
    · have beyond := extreme.first u earlier number
      exact h.trans (h.left v (h.isNaN beyond)) beyond
    · obtain rfl := List.mem_singleton.mp last
      exact h.right e number

theorem singleton (h : Prefers before choice) (v : Float) : IsExtreme before [v] v where
  mem := List.mem_singleton.mpr rfl
  first u mem number := by
    obtain rfl := List.mem_singleton.mp mem
    exact h.refl number

/-- The extreme is NaN just if there is no number. -/
theorem isNaN_iff (h : Prefers before choice) (extreme : IsExtreme before values e) :
    e.isNaN = true ↔ ∀ v ∈ values, v.isNaN = true := by
  constructor
  · intro nan v mem
    cases number : v.isNaN with
    | true => rfl
    | false =>
      have first := h.isNaN (extreme.first v mem number)
      rw [nan] at first
      cases first
  · intro all
    exact all e extreme.mem

/-- As a number the extreme depends on the members alone. -/
theorem unique (h : Prefers before choice) {others : List Float} {f : Float}
    (members : ∀ v, v ∈ values ↔ v ∈ others) (left : IsExtreme before values e)
    (right : IsExtreme before others f) : SameNumber e f := by
  have here := (members f).mpr right.mem
  have there := (members e).mp left.mem
  cases number : e.isNaN with
  | true =>
    have nan := (h.isNaN_iff left).mp number
    exact .inr ⟨number, nan f here⟩
  | false =>
    have back := right.first e there number
    exact h.same (left.first f here (h.isNaN back)) back

end Prefers

end PartProgram.Number
