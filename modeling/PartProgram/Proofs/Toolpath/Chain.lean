import PartProgram.Proofs.Controller.Trace
import PartProgram.Proofs.Machine.Position

namespace PartProgram

/-- A toolpath chains along the steps of a run that ends at `last`. Consecutive segments come from
steps between which there is no other segment, and meet if nothing strays there; the first and the
last meet the origin and the end of the run in the same way. -/
structure ChainsAlong (toolpath : List Segment) (trace : List Step) (last : Position) : Prop where
  segments : toolpath = trace.filterMap (·.segment?)
  ends : ∀ s ∈ trace, ∀ g, s.segment? = some g →
    g.start = s.before.position ∧ g.stop = s.after.position
  consecutive : ∀ gs g h hs, toolpath = gs ++ g :: h :: hs →
    ∃ front s between t rest, trace = front ++ s :: (between ++ t :: rest) ∧
      s.segment? = some g ∧ t.segment? = some h ∧ (∀ u ∈ between, u.segment? = none) ∧
      ((∀ u ∈ between, ¬u.instruction.Strays) → g.stop = h.start)
  final : ∀ gs g, toolpath = gs ++ [g] →
    ∃ front s rest, trace = front ++ s :: rest ∧
      s.segment? = some g ∧ (∀ u ∈ rest, u.segment? = none) ∧
      ((∀ u ∈ rest, ¬u.instruction.Strays) → g.stop = last)
  initial : ∀ g gs, toolpath = g :: gs →
    ∃ front s rest, trace = front ++ s :: rest ∧
      s.segment? = some g ∧ (∀ u ∈ front, u.segment? = none) ∧
      ((∀ u ∈ front, ¬u.instruction.Strays) → g.start = .origin)

/-- Whatever steps a machine goes through, their segments chain. -/
theorem Machine.Linked.chainsAlong {trace : List Step} {m : Machine}
    (linked : Linked {} trace m) :
    ChainsAlong (trace.filterMap (·.segment?)) trace m.position where
  segments := rfl
  ends s _ g hg := Step.segment?_ends hg
  consecutive gs g h hs whole := by
    obtain ⟨front, s, rest, cut, -, segment, follow⟩ := Step.split_of_segments gs whole
    obtain ⟨between, t, rest, next, none, segment', -⟩ := Step.split_of_segments [] follow
    have none := List.filterMap_eq_nil_iff.mp none
    rw [next] at cut
    refine ⟨front, s, between, t, rest, cut, segment, segment', none, ?_⟩
    intro still
    rw [cut] at linked
    -- the run from the one step to the other
    have stretch := linked.around.2.around.1
    have stays := stretch.position_of_still none still
    rw [(Step.segment?_ends segment).2, (Step.segment?_ends segment').1, stays]
  final gs g whole := by
    obtain ⟨front, s, rest, cut, -, segment, none⟩ := Step.split_of_segments gs whole
    have none := List.filterMap_eq_nil_iff.mp none
    refine ⟨front, s, rest, cut, segment, none, ?_⟩
    intro still
    rw [cut] at linked
    have stays := linked.around.2.position_of_still none still
    rw [(Step.segment?_ends segment).2, stays]
  initial g gs whole := by
    obtain ⟨front, s, rest, cut, none, segment, -⟩ := Step.split_of_segments [] whole
    have none := List.filterMap_eq_nil_iff.mp none
    refine ⟨front, s, rest, cut, segment, none, ?_⟩
    intro still
    rw [cut] at linked
    have stays := linked.around.1.position_of_still none still
    rw [(Step.segment?_ends segment).1, stays]

/-- The toolpath of a text chains along the steps in which the machine carries it out. -/
theorem toolpath_chains (c : Controller) (builds : c.settings.toolpath = true)
    (keeps : c.keepsToolpath = true) (text : List Char) :
    Machine.Linked {} (c.stepsOfText text) (c.runText text).machine ∧
      ChainsAlong (c.runText text).toolpath.toList (c.stepsOfText text)
        (c.runText text).machine.position := by
  have linked := c.linked_stepsOfText text
  rw [c.runText_toolpath text, builds, keeps]
  exact ⟨linked, linked.chainsAlong⟩

/-- The drill cycle between the two moves leaves a gap in the toolpath. -/
def drilledProgram : List Char :=
  "G1 X1 F2\nG91\nG81 X3\nX1 Y2".toList

theorem toolpath_chains_drilledProgram :
    (({} : Controller).runText drilledProgram).toolpath.size = 2 ∧
    Machine.Linked {} (({} : Controller).stepsOfText drilledProgram)
      (({} : Controller).runText drilledProgram).machine ∧
    ChainsAlong (({} : Controller).runText drilledProgram).toolpath.toList
      (({} : Controller).stepsOfText drilledProgram)
      (({} : Controller).runText drilledProgram).machine.position := by
  constructor
  · decide +kernel
  · exact toolpath_chains {} rfl rfl drilledProgram

end PartProgram
