import Mathlib.Data.List.Induction
import PartProgram.Proofs.Controller.LineStep
import PartProgram.Proofs.Machine.Axis
import PartProgram.Proofs.Number.Extreme

namespace PartProgram

/-- The axes that a box spans. -/
def Axis.isLinear : Axis → Bool
  | x | y | z => true
  | a | b | c => false

/-- On the linear axes the positions are the same as numbers. -/
def Position.SameLinear (p q : Position) : Prop :=
  ∀ axis : Axis, axis.isLinear = true → Number.SameNumber (p.get axis) (q.get axis)

theorem Position.SameLinear.refl (p : Position) : p.SameLinear p :=
  fun _ _ => .refl _

theorem Position.SameLinear.trans {p q r : Position} (h : p.SameLinear q) (k : q.SameLinear r) :
    p.SameLinear r :=
  fun axis straight => (h axis straight).trans (k axis straight)

namespace Box

/-- The box of positions in the order in which they are taken. -/
def ofPositions? : List Position → Option Box
  | [] => none
  | p :: ps => some (ps.foldl extend (.ofPosition p))

variable (b : Box) (p : Position) (axis : Axis)

theorem extend_low_get : (b.extend p).low.get axis =
    if axis.isLinear then Number.least (b.low.get axis) (p.get axis) else b.low.get axis := by
  cases axis <;> rfl

theorem extend_high_get : (b.extend p).high.get axis =
    if axis.isLinear then Number.greatest (b.high.get axis) (p.get axis) else b.high.get axis := by
  cases axis <;> rfl

/-- On a linear axis the corners of the box have the extremes of the positions. -/
structure SpansAlong (positions : List Position) : Prop where
  low : Number.IsExtreme (· ≤ ·) (positions.map (·.get axis)) (b.low.get axis)
  high : Number.IsExtreme (fun x y => y ≤ x) (positions.map (·.get axis)) (b.high.get axis)

/-- A corner is NaN on an axis just if all positions are. -/
theorem SpansAlong.isNaN {b : Box} {axis : Axis} {positions : List Position}
    (h : b.SpansAlong axis positions) :
    ((b.low.get axis).isNaN = true ↔ ∀ p ∈ positions, (p.get axis).isNaN = true) ∧
      ((b.high.get axis).isNaN = true ↔ ∀ p ∈ positions, (p.get axis).isNaN = true) := by
  have low := Number.prefers_least.isNaN_iff h.low
  have high := Number.prefers_greatest.isNaN_iff h.high
  rw [List.forall_mem_map] at low high
  exact ⟨low, high⟩

/-- The box is tight around the positions on the linear axes, and has no extent on the others. -/
structure IsTight (positions : List Position) : Prop where
  linear : ∀ axis, axis.isLinear = true → b.SpansAlong axis positions
  rotary : ∀ axis, axis.isLinear = false → ∀ first, positions.head? = some first →
    b.low.get axis = first.get axis ∧ b.high.get axis = first.get axis

/-- The numbers among the linear coordinates of the position lie between the corners. -/
def Covers : Prop :=
  ∀ axis : Axis, axis.isLinear = true → (p.get axis).isNaN = false →
    b.low.get axis ≤ p.get axis ∧ p.get axis ≤ b.high.get axis

variable {b p axis} {positions : List Position}

theorem isTight_ofPosition (p : Position) : (ofPosition p).IsTight [p] where
  linear axis _ :=
    ⟨Number.prefers_least.singleton _, Number.prefers_greatest.singleton _⟩
  rotary axis _ first head := by
    obtain rfl := Option.some.inj head
    exact ⟨rfl, rfl⟩

theorem IsTight.extend (h : b.IsTight positions) (filled : positions ≠ []) (p : Position) :
    (b.extend p).IsTight (positions ++ [p]) where
  linear axis straight := by
    obtain ⟨low, high⟩ := h.linear axis straight
    constructor
    · rw [extend_low_get, if_pos straight, List.map_append]
      exact Number.prefers_least.snoc low _
    · rw [extend_high_get, if_pos straight, List.map_append]
      exact Number.prefers_greatest.snoc high _
  rotary axis turning first head := by
    rw [extend_low_get, extend_high_get, turning]
    cases positions with
    | nil => exact absurd rfl filled
    | cons q rest => exact h.rotary axis turning first head

theorem ofPositions?_snoc (positions : List Position) (p : Position) :
    ofPositions? (positions ++ [p]) =
      some (((ofPositions? positions).map (·.extend p)).getD (.ofPosition p)) := by
  cases positions with
  | nil => rfl
  | cons first rest =>
    rw [List.cons_append, ofPositions?, ofPositions?, List.foldl_append]
    rfl

/-- Positions have a tight box, unless there are none. -/
theorem isTight_of_ofPositions? (found : ofPositions? positions = some b) :
    b.IsTight positions := by
  induction positions using List.reverseRecOn generalizing b with
  | nil => cases found
  | append_singleton earlier p ih =>
    rw [ofPositions?_snoc] at found
    obtain rfl := Option.some.inj found
    cases earlier with
    | nil => exact isTight_ofPosition p
    | cons first rest => exact (ih rfl).extend (List.cons_ne_nil _ _) p

theorem ofPositions?_eq_none : ofPositions? positions = none ↔ positions = [] := by
  cases positions <;> simp [ofPositions?]

theorem ofPositions?_isSome : (ofPositions? positions).isSome = true ↔ positions ≠ [] := by
  rw [Option.isSome_iff_ne_none, ne_eq, ofPositions?_eq_none]

/-- A tight box covers what is, on the linear axes, the same as one of its positions. -/
theorem IsTight.covers (h : b.IsTight positions) {q : Position} (mem : q ∈ positions)
    (same : p.SameLinear q) : b.Covers p := by
  intro axis straight number
  obtain ⟨low, high⟩ := h.linear axis straight
  have there : q.get axis ∈ positions.map (·.get axis) := List.mem_map_of_mem mem
  have alike := same axis straight
  have number' : (q.get axis).isNaN = false := alike.isNaN.symm.trans number
  exact ⟨Number.le_trans (low.first _ there number') (alike.symm.le number'),
    Number.le_trans (alike.le number) (high.first _ there number')⟩

/-- The order of the positions tells in the rotary axes only. -/
theorem IsTight.perm (h : b.IsTight positions) {c : Box} {others : List Position}
    (k : c.IsTight others) (perm : others.Perm positions) {axis : Axis}
    (straight : axis.isLinear = true) : Number.SameNumber (b.low.get axis) (c.low.get axis) ∧
      Number.SameNumber (b.high.get axis) (c.high.get axis) := by
  have members (v : Float) :
      v ∈ positions.map (·.get axis) ↔ v ∈ others.map (·.get axis) :=
    (perm.map _).symm.mem_iff
  have left := h.linear axis straight
  have right := k.linear axis straight
  exact ⟨Number.prefers_least.unique members left.low right.low,
    Number.prefers_greatest.unique members left.high right.high⟩

end Box

namespace Summary

variable (s : Summary)

theorem visit_box {positions : List Position} (box : s.box = Box.ofPositions? positions)
    (p : Position) : (s.visit p).box = Box.ofPositions? (positions ++ [p]) := by
  rw [Box.ofPositions?_snoc, visit, box]
  cases Box.ofPositions? positions <;> rfl

theorem foldl_visit_box (fresh : s.box = none) (positions : List Position) :
    (positions.foldl visit s).box = Box.ofPositions? positions := by
  induction positions using List.reverseRecOn with
  | nil => exact fresh
  | append_singleton earlier p ih =>
    rw [List.foldl_append]
    exact visit_box _ ih p

/-- Positions that a fresh summary takes in turn have a tight box. -/
theorem exists_isTight_visited {positions : List Position} (filled : positions ≠ []) :
    ∃ b, (positions.foldl visit {}).box = some b ∧ b.IsTight positions := by
  obtain ⟨b, found⟩ := Option.isSome_iff_exists.mp (Box.ofPositions?_isSome.mpr filled)
  exact ⟨b, (foldl_visit_box {} rfl positions).trans found, Box.isTight_of_ofPositions? found⟩

theorem countOperation_box (i : Instruction) : (s.countOperation i).box = s.box := by
  rw [countOperation]
  split <;> rfl

theorem listFeed_box (word : Option Float) : (s.listFeed word).box = s.box := by
  rw [listFeed]
  split <;> rfl

theorem addSegment_box (g : Segment) : (s.addSegment g).box = s.box := by
  unfold addSegment
  dsimp only
  split <;> rfl

/-- Only an instruction with a word for a linear axis has a position recorded. -/
theorem record_box (i : Instruction) (m : Machine) (segment : Option Segment) :
    (s.record i m segment).box = if i.axes.anyLinear then (s.visit m.position).box else s.box := by
  rw [record_view Summary.box listFeed_box addSegment_box]
  split
  · rw [visit, visit, countOperation_box]
  · exact countOperation_box s i

end Summary

end PartProgram
