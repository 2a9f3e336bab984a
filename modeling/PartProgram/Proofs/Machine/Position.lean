import PartProgram.Proofs.Machine.Step

namespace PartProgram

namespace Machine

variable (m : Machine) (i : Instruction)

@[simp] theorem select_position : (m.select i).position = m.position := by
  unfold select
  split <;> rfl

theorem apply_position : (m.apply i).position =
    if i.operation.isMotion || i.axes.any then (m.select i).target i.axes else m.position := by
  have target : ((m.select i).adopt i).target i.axes = (m.select i).target i.axes := rfl
  have position : ((m.select i).adopt i).position = m.position := by
    rw [← m.select_position i]
    rfl
  unfold apply travel
  split
  · exact target
  · exact position

theorem target_select {i : Instruction} (h : ∀ mode, i.operation ≠ .distanceMode mode)
    (words : AxisWords) : (m.select i).target words = m.target words := by
  have mode : (m.select i).distanceMode = m.distanceMode := by
    unfold select
    cases operation : i.operation with
    | distanceMode mode => exact absurd operation (h mode)
    | _ => rfl
  unfold target
  rw [mode, select_position]

theorem apply_position_of_move {i : Instruction} {motion : Motion}
    (h : i.operation = .move motion) : (m.apply i).position = m.target i.axes := by
  have moves : i.operation.isMotion = true := by rw [h]; rfl
  have other : ∀ mode, i.operation ≠ .distanceMode mode := by simp [h]
  rw [apply_position, moves, Bool.true_or, if_pos rfl, m.target_select other]

end Machine

/-- The instruction moves the machine off the toolpath: it is a canned cycle, or it carries an axis
word and is no move. -/
def Instruction.Strays (i : Instruction) : Prop :=
  (∃ kind, i.operation = .cycle kind) ∨
    ((∀ motion, i.operation ≠ .move motion) ∧ i.axes.any = true)

namespace Step

theorem segment?_ends {s : Step} {g : Segment} (h : s.segment? = some g) :
    g.start = s.before.position ∧ g.stop = s.after.position := by
  have move := exists_move_of_segment? h
  have start : g.start = s.before.position := congrArg Segment.start (segment?_eq h)
  have stop : g.stop = s.before.target s.instruction.axes := congrArg Segment.stop (segment?_eq h)
  have after : s.after.position = s.before.target s.instruction.axes :=
    s.before.apply_position_of_move move
  exact ⟨start, stop.trans after.symm⟩

/-- A step without a segment that does not stray stays where it is. -/
theorem after_position_of_still {s : Step} (none : s.segment? = none)
    (h : ¬s.instruction.Strays) : s.after.position = s.before.position := by
  have no_move (motion : Motion) : s.instruction.operation ≠ .move motion := by
    intro move
    obtain ⟨g, hg⟩ := segment?_of_move move
    rw [none] at hg
    cases hg
  have no_cycle (kind : CannedCycle) : s.instruction.operation ≠ .cycle kind :=
    fun cycle => h (.inl ⟨kind, cycle⟩)
  have axes : s.instruction.axes.any = false := by
    cases ha : s.instruction.axes.any with
    | false => rfl
    | true => exact absurd (.inr ⟨no_move, ha⟩) h
  have motion : s.instruction.operation.isMotion = false := by
    unfold Operation.isMotion
    split
    · rename_i motion hm
      exact absurd hm (no_move motion)
    · rename_i kind hk
      exact absurd hk (no_cycle kind)
    · rfl
  unfold after
  rw [Machine.apply_position, motion, axes]
  rfl

end Step

/-- A run of steps without segments in which nothing strays leaves the position alone. -/
theorem Machine.Linked.position_of_still {m n : Machine} {steps : List Step}
    (linked : Linked m steps n) (none : ∀ s ∈ steps, s.segment? = none)
    (still : ∀ s ∈ steps, ¬s.instruction.Strays) : n.position = m.position := by
  induction steps generalizing m with
  | nil => exact Renumbered.position linked
  | cons s rest ih =>
    have tail := ih linked.2 (fun t ht => none t (by simp [ht])) fun t ht => still t (by simp [ht])
    have here := s.after_position_of_still (none s (by simp)) (still s (by simp))
    rw [tail, here]
    exact linked.1.position

end PartProgram
