import PartProgram.Proofs.Summary.Box

namespace PartProgram

theorem AxisWords.get_of_anyLinear {w : AxisWords} (silent : w.anyLinear = false) {axis : Axis}
    (straight : axis.isLinear = true) : w.get axis = .none := by
  obtain ⟨x, y, z⟩ : w.x = .none ∧ w.y = .none ∧ w.z = .none := by
    simpa [anyLinear, and_assoc] using silent
  cases axis with
  | x => exact x
  | y => exact y
  | z => exact z
  | _ => cases straight

/-- An instruction without a word for a linear axis does not move the machine on these, in either
mode and whatever else it does. -/
theorem Machine.apply_sameLinear (m : Machine) {i : Instruction}
    (silent : i.axes.anyLinear = false) : (m.apply i).position.SameLinear m.position := by
  intro axis straight
  have none : i.axes.get axis = .none := AxisWords.get_of_anyLinear silent straight
  cases moves : i.operation.isMotion || i.axes.any with
  | true =>
    rw [Machine.apply_position_get moves, none]
    cases (m.apply i).distanceMode with
    | absolute => exact .refl _
    | incremental => exact Number.sameNumber_add_zero _
  | false =>
    rw [Machine.apply_position, moves]
    exact .refl _

theorem Position.SameLinear.eq_zero {p : Position} (h : p.SameLinear .origin) (axis : Axis)
    (straight : axis.isLinear = true) : (p.get axis == 0.0) = true := by
  have same := h axis straight
  rw [Position.get_origin] at same
  exact same.symm.beq rfl

/-- The positions recorded along a trace: those that steps with a word for a linear axis lead to. -/
def recorded (trace : List Step) : List Position :=
  (trace.filter (·.instruction.axes.anyLinear)).map (·.after.position)

theorem recorded_append (front rest : List Step) :
    recorded (front ++ rest) = recorded front ++ recorded rest := by
  rw [recorded, List.filter_append, List.map_append, recorded, recorded]

theorem recorded_snoc (trace : List Step) (s : Step) : recorded (trace ++ [s]) =
    recorded trace ++ if s.instruction.axes.anyLinear then [s.after.position] else [] := by
  rw [recorded_append]
  cases words : s.instruction.axes.anyLinear <;> simp [recorded, words]

theorem recorded_eq_nil {trace : List Step} :
    recorded trace = [] ↔ ∀ s ∈ trace, s.instruction.axes.anyLinear = false := by
  simp [recorded, List.filter_eq_nil_iff]

theorem recorded_ne_nil {trace : List Step} :
    recorded trace ≠ [] ↔ ∃ s ∈ trace, s.instruction.axes.anyLinear = true := by
  simp [recorded_eq_nil]

/-- On the linear axes the machine is at a position recorded, or at the origin still. -/
theorem Machine.Linked.recorded {m : Machine} {trace : List Step} (linked : Linked {} trace m) :
    (∃ p ∈ recorded trace, m.position.SameLinear p) ∨
      recorded trace = [] ∧ m.position.SameLinear .origin := by
  induction trace using List.reverseRecOn generalizing m with
  | nil =>
    rw [Renumbered.position linked]
    exact .inr ⟨rfl, .refl _⟩
  | append_singleton trace s ih =>
    obtain ⟨before, last⟩ := linked.around
    have here : m.position = s.after.position := Renumbered.position last
    rw [recorded_snoc, here]
    cases words : s.instruction.axes.anyLinear with
    | true => exact .inl ⟨s.after.position, by simp, .refl _⟩
    | false =>
      -- the step stays where the machine was before it
      have stays : s.after.position.SameLinear s.before.position :=
        s.before.apply_sameLinear words
      rw [if_neg Bool.false_ne_true, List.append_nil]
      rcases ih before with ⟨p, mem, same⟩ | ⟨none, same⟩
      · exact .inl ⟨p, mem, stays.trans same⟩
      · exact .inr ⟨none, stays.trans same⟩

/-- What a box tells of a position: it covers it, and while there is no box the position is zero on
the linear axes. -/
structure Box.Encloses (box : Option Box) (p : Position) : Prop where
  covers : ∀ b, box = some b → b.Covers p
  zero : box = none → ∀ axis : Axis, axis.isLinear = true → (p.get axis == 0.0) = true

theorem Machine.Linked.encloses {m : Machine} {trace : List Step} (linked : Linked {} trace m) :
    Box.Encloses (Box.ofPositions? (PartProgram.recorded trace)) m.position := by
  rcases linked.recorded with ⟨p, mem, same⟩ | ⟨none, same⟩
  · constructor
    · intro b found
      exact (Box.isTight_of_ofPositions? found).covers mem same
    · intro absent
      rw [Box.ofPositions?_eq_none.mp absent] at mem
      cases mem
  · constructor
    · intro b found
      rw [none] at found
      cases found
    · intro _
      exact same.eq_zero

/-- A segment ends inside the box, unless no word for a linear axis has come up with its step. -/
theorem Machine.Linked.encloses_stop {m : Machine} {front rest : List Step} {s : Step} {g : Segment}
    (linked : Linked {} (front ++ s :: rest) m) (segment : s.segment? = some g) :
    (∃ b, Box.ofPositions? (PartProgram.recorded (front ++ s :: rest)) = some b ∧
        b.Covers g.stop) ∨
      (∀ t ∈ front ++ [s], t.instruction.axes.anyLinear = false) ∧
        ∀ axis : Axis, axis.isLinear = true → (g.stop.get axis == 0.0) = true := by
  have upTo : Linked {} (front ++ [s]) s.after := linked.around.1.snoc s.instruction
  rw [(Step.segment?_ends segment).2]
  rcases upTo.recorded with ⟨p, mem, same⟩ | ⟨none, same⟩
  · left
    have later : p ∈ PartProgram.recorded (front ++ s :: rest) := by
      rw [List.append_cons, recorded_append]
      exact List.mem_append_left _ mem
    obtain ⟨b, found⟩ :=
      Option.isSome_iff_exists.mp (Box.ofPositions?_isSome.mpr (List.ne_nil_of_mem later))
    exact ⟨b, found, (Box.isTight_of_ofPositions? found).covers later same⟩
  · right
    exact ⟨recorded_eq_nil.mp none, same.eq_zero⟩

namespace Controller

/-- The box is that of the positions recorded, if the run is summarised. -/
theorem afterLines_box {c : Controller} (collects : c.settings.statistics = true)
    (text : List Char) {n : Nat} (bound : n ≤ (Text.lines text).length) :
    (c.afterLines text n).summary.box =
      Box.ofPositions? (recorded ((c.lineSteps text n).flatMap (·.steps))) := by
  refine afterLines_steps_induction (c := c)
    (P := fun d trace => d.summary.box = Box.ofPositions? (recorded trace)) ?_ ?_ ?_ text bound
  · intro d trace text n total box
    rw [openLine_summary, Summary.countLine_eq]
    exact box
  · intro d trace i settings box
    rw [execute_summary, settings, if_pos collects, Summary.record_box, recorded_snoc]
    have words : (d.step i).instruction.axes = i.axes := rfl
    rw [words]
    cases i.axes.anyLinear with
    | true => exact Summary.visit_box _ box _
    | false => simpa using box
  · rfl

end Controller

/-- The box of a summary is the tight box of the positions recorded. Of any positions, taken in turn
by a fresh summary, the corners have the least and the greatest number on each linear axis, NaN only
if there is no number, and so in any order the same; on the rotary axes they have the first
position. In a run there is a box as soon as an instruction with a word for a linear axis has been
carried out. It covers the machine, which before is at zero, and so the end of each segment, but for
those which come out before, at zero. -/
theorem box_encloses_run (c : Controller) (collects : c.settings.statistics = true)
    (text : List Char) :
    (∀ (first : Position) (rest : List Position),
      ∃ b, ((first :: rest).foldl Summary.visit {}).box = some b ∧
        (∀ axis : Axis, axis.isLinear = true → b.SpansAlong axis (first :: rest) ∧
          ((b.low.get axis).isNaN = true ↔ ∀ p ∈ first :: rest, (p.get axis).isNaN = true) ∧
          ((b.high.get axis).isNaN = true ↔ ∀ p ∈ first :: rest, (p.get axis).isNaN = true)) ∧
        (∀ axis : Axis, axis.isLinear = false →
          b.low.get axis = first.get axis ∧ b.high.get axis = first.get axis) ∧
        ∀ others : List Position, others.Perm (first :: rest) →
          ∃ b', (others.foldl Summary.visit {}).box = some b' ∧
            ∀ axis : Axis, axis.isLinear = true →
              Number.SameNumber (b.low.get axis) (b'.low.get axis) ∧
              Number.SameNumber (b.high.get axis) (b'.high.get axis)) ∧
    ∃ last, c.HaltsAfter text last ∧ c.runText text = c.afterLines text last ∧
      (∀ n ≤ last,
        (c.afterLines text n).summary.box =
          Box.ofPositions? (recorded ((c.lineSteps text n).flatMap (·.steps))) ∧
        ((c.afterLines text n).summary.box.isSome = true ↔
          ∃ s ∈ (c.lineSteps text n).flatMap (·.steps), s.instruction.axes.anyLinear = true) ∧
        Box.Encloses (c.afterLines text n).summary.box (c.afterLines text n).machine.position) ∧
      ∀ gs g hs, (c.runText text).toolpath.toList = gs ++ g :: hs →
        (∃ b, (c.runText text).summary.box = some b ∧ b.Covers g.stop) ∨
        ∃ front s rest, c.stepsOfText text = front ++ s :: rest ∧
          front.filterMap (·.segment?) = gs ∧ s.segment? = some g ∧
          (∀ t ∈ front ++ [s], t.instruction.axes.anyLinear = false) ∧
          ∀ axis : Axis, axis.isLinear = true → (g.stop.get axis == 0.0) = true := by
  constructor
  · intro first rest
    obtain ⟨b, box, tight⟩ := Summary.exists_isTight_visited (List.cons_ne_nil first rest)
    refine ⟨b, box, ?_, ?_, ?_⟩
    · intro axis straight
      exact ⟨tight.linear axis straight, (tight.linear axis straight).isNaN⟩
    · intro axis turning
      exact tight.rotary axis turning first rfl
    · intro others perm
      have filled : others ≠ [] := fun none => by simp [none] at perm
      obtain ⟨b', box', tight'⟩ := Summary.exists_isTight_visited filled
      exact ⟨b', box', fun axis straight => tight.perm tight' perm straight⟩
  · obtain ⟨last, halts, run⟩ := c.exists_haltsAfter text
    refine ⟨last, halts, run, ?_, ?_⟩
    · intro n le
      have bound := Nat.le_trans le halts.bound
      have linked := c.linked_afterLines text bound
      rw [Controller.afterLines_box collects text bound]
      refine ⟨rfl, ?_, linked.encloses⟩
      rw [Box.ofPositions?_isSome, recorded_ne_nil]
    · intro gs g hs whole
      have linked := c.linked_stepsOfText text
      rw [c.runText_toolpath text] at whole
      split at whole
      · obtain ⟨front, s, rest, cut, before, segment, -⟩ := Step.split_of_segments gs whole
        have box := Controller.afterLines_box collects text halts.bound
        rw [← run, ← halts.stepsOfText, cut] at box
        rw [cut] at linked
        rw [box]
        rcases linked.encloses_stop segment with covered | ⟨silent, zero⟩
        · exact .inl covered
        · exact .inr ⟨front, s, rest, cut, before, segment, silent, zero⟩
      · simp at whole

/-- The first move has no word for an axis, and the last one only a rotary one. -/
def tiltedProgram : List Char :=
  "G1 F2\nG91 X-3 Y2\nG92 Z1\nG1 X5\nA4".toList

theorem box_encloses_tiltedProgram :
    (({} : Controller).runText tiltedProgram).toolpath.size = 3 ∧
    (({} : Controller).runText tiltedProgram).summary.box.isSome = true ∧
    Box.Encloses (({} : Controller).runText tiltedProgram).summary.box
      (({} : Controller).runText tiltedProgram).machine.position := by
  obtain ⟨-, last, -, run, boxes, -⟩ := box_encloses_run {} rfl tiltedProgram
  obtain ⟨-, -, encloses⟩ := boxes last (Nat.le_refl last)
  rw [← run] at encloses
  exact ⟨by decide +kernel, by decide +kernel, encloses⟩

end PartProgram
