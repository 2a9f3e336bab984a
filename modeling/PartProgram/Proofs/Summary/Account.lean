import PartProgram.Proofs.Controller.Trace
import PartProgram.Proofs.Summary.Tally

namespace PartProgram

/-- The segment cuts: its motion is not rapid. -/
def Segment.cuts (g : Segment) : Bool :=
  g.motion ≠ .rapid

namespace Summary

/-- The moves are counted. -/
structure Counts (s : Summary) (toolpath : List Segment) : Prop where
  rapidMoves : s.rapidMoves = toolpath.countP (·.motion = .rapid)
  linearMoves : s.linearMoves = toolpath.countP (·.motion = .linear)
  arcMoves : s.arcMoves = toolpath.countP (·.motion = .clockwise) +
    toolpath.countP (·.motion = .counterclockwise)

/-- Distances and times are summed up, and tallied by the rates at which the toolpath cuts. The
feed words of a history that are not negative are listed as well. -/
structure Measures (s : Summary) (toolpath : List Segment) (history : List Instruction) :
    Prop where
  distance : s.distance = total (·.length) toolpath
  time : s.time = total (·.time) toolpath
  rapidDistance : s.rapidDistance = total (·.length) (toolpath.filter (!·.cuts))
  cuttingDistance : s.cuttingDistance = total (·.length) (toolpath.filter (·.cuts))
  feeds : s.feeds.Tallies (·.feed) (·.length)
    (history.filterMap fun i => i.feed.filter (0.0 ≤ ·)) (toolpath.filter (·.cuts))
  speeds : s.speeds.Tallies (·.speed) (·.time) [] (toolpath.filter fun g => g.cuts && g.spindleOn)

structure AccountsFor (s : Summary) (toolpath : List Segment) (history : List Instruction) : Prop
    extends s.Counts toolpath, s.Measures toolpath history

theorem accountsFor_empty : AccountsFor {} [] [] where
  rapidMoves := rfl
  linearMoves := rfl
  arcMoves := rfl
  distance := rfl
  time := rfl
  rapidDistance := rfl
  cuttingDistance := rfl
  feeds := .empty
  speeds := .empty

variable {s : Summary} {toolpath : List Segment} {history : List Instruction}

theorem AccountsFor.countLine (h : s.AccountsFor toolpath history) (b : Block) :
    (s.countLine b).AccountsFor toolpath history := by
  rw [Summary.countLine_eq]
  exact { h with }

/-- A move is counted under the motion of its segment, and nothing else is counted as a move. -/
theorem Counts.countOperation (h : s.Counts toolpath) (step : Step) :
    (s.countOperation step.instruction).Counts (toolpath ++ step.segment?.toList) := by
  cases segment : step.segment? with
  | none =>
    have other (motion : Motion) : step.instruction.operation ≠ .move motion := by
      intro move
      obtain ⟨g, found⟩ := Step.segment?_of_move move
      rw [segment] at found
      cases found
    rw [Option.toList_none, List.append_nil]
    unfold Summary.countOperation
    cases operation : step.instruction.operation with
    | move motion => exact absurd operation (other motion)
    | toolChange => exact { h with }
    | _ => exact h
  | some g =>
    have move := Step.exists_move_of_segment? segment
    unfold Summary.countOperation
    rw [move]
    cases motion : g.motion with
    | rapid => constructor <;> simp [h.rapidMoves, h.linearMoves, h.arcMoves, motion]
    | linear => constructor <;> simp [h.rapidMoves, h.linearMoves, h.arcMoves, motion]
    | clockwise => constructor <;> simp +arith [h.rapidMoves, h.linearMoves, h.arcMoves, motion]
    | counterclockwise =>
      constructor <;> simp +arith [h.rapidMoves, h.linearMoves, h.arcMoves, motion]

theorem Counts.listFeed (h : s.Counts toolpath) (word : Option Float) :
    (s.listFeed word).Counts toolpath := by
  unfold Summary.listFeed
  split
  · exact { h with }
  · exact h

theorem Counts.addSegment (h : s.Counts toolpath) (g : Segment) :
    (s.addSegment g).Counts toolpath := by
  unfold Summary.addSegment
  dsimp only
  split
  · exact { h with }
  · exact { h with }

theorem Measures.countOperation (h : s.Measures toolpath history) (i : Instruction) :
    (s.countOperation i).Measures toolpath history := by
  unfold Summary.countOperation
  split
  · exact { h with }
  · exact { h with }
  · exact { h with }
  · exact { h with }
  · exact { h with }
  · exact h

theorem Measures.listFeed (h : s.Measures toolpath history) (i : Instruction) :
    (s.listFeed i.feed).Measures toolpath (history ++ [i]) := by
  have listed : (history ++ [i]).filterMap (fun i => i.feed.filter (0.0 ≤ ·)) =
      history.filterMap (fun i => i.feed.filter (0.0 ≤ ·)) ++
        (i.feed.filter (0.0 ≤ ·)).toList := by
    rw [List.filterMap_append, List.filterMap_cons]
    cases i.feed.filter (0.0 ≤ ·) <;> rfl
  unfold Summary.listFeed nonNegative
  cases word : i.feed.filter (0.0 ≤ ·) with
  | none =>
    rw [word, Option.toList_none, List.append_nil] at listed
    exact { h with feeds := listed ▸ h.feeds }
  | some feed =>
    rw [word, Option.toList_some] at listed
    exact { h with feeds := listed ▸ h.feeds.list feed }

theorem Measures.addSegment (h : s.Measures toolpath history) (g : Segment) :
    (s.addSegment g).Measures (toolpath ++ [g]) history := by
  have distance : s.distance + g.length = total (·.length) (toolpath ++ [g]) := by
    rw [total_append, h.distance]
    rfl
  have time : s.time + g.time = total (·.time) (toolpath ++ [g]) := by
    rw [total_append, h.time]
    rfl
  unfold Summary.addSegment
  dsimp only
  split
  · rename_i rapid
    have cuts : g.cuts = false := by simp [Segment.cuts, rapid]
    constructor
    · exact distance
    · exact time
    · simp [List.filter_append, cuts, total_append, h.rapidDistance]
    · simpa [cuts] using h.cuttingDistance
    · simpa [cuts] using h.feeds
    · simpa [cuts] using h.speeds
  · rename_i other
    have cuts : g.cuts = true := by simp [Segment.cuts, other]
    constructor
    · exact distance
    · exact time
    · simpa [cuts] using h.rapidDistance
    · simp [List.filter_append, cuts, total_append, h.cuttingDistance]
    · simpa [cuts] using h.feeds.spend g
    · cases on : g.spindleOn with
      | true => simpa [cuts, on] using h.speeds.spend g
      | false => simpa [cuts, on] using h.speeds

/-- Recording a step accounts for its instruction and its segment. -/
theorem AccountsFor.record (h : s.AccountsFor toolpath history) (step : Step) :
    (s.record step.instruction step.after step.segment?).AccountsFor
      (toolpath ++ step.segment?.toList) (history ++ [step.instruction]) := by
  have counts := h.toCounts.countOperation step
  have measures := h.toMeasures.countOperation step.instruction
  unfold Summary.record
  generalize s.countOperation step.instruction = counted at counts measures
  have visited : ((if step.instruction.axes.anyLinear then counted.visit step.after.position
      else counted).Counts (toolpath ++ step.segment?.toList)) ∧
      (if step.instruction.axes.anyLinear then counted.visit step.after.position
        else counted).Measures toolpath history := by
    -- the box is neither counted nor measured
    split
    · exact ⟨{ counts with }, { measures with }⟩
    · exact ⟨counts, measures⟩
  have counts := visited.1.listFeed step.instruction.feed
  have measures := visited.2.listFeed step.instruction
  cases segment : step.segment? with
  | none =>
    rw [segment] at counts
    rw [Option.toList_none, List.append_nil] at counts ⊢
    exact ⟨counts, measures⟩
  | some g =>
    rw [segment] at counts
    exact ⟨counts.addSegment g, measures.addSegment g⟩

end Summary

/-- The summary of a text accounts for its toolpath, if both are kept. -/
theorem summary_accounts_for_toolpath (c : Controller) (builds : c.settings.toolpath = true)
    (keeps : c.keepsToolpath = true) (collects : c.settings.statistics = true)
    (text : List Char) : (c.runText text).summary.AccountsFor
      (c.runText text).toolpath.toList (c.history text) := by
  rw [c.runText_toolpath text, builds, keeps]
  apply Controller.runText_induction (c := c) (P := fun d trace =>
    d.summary.AccountsFor (trace.filterMap (·.segment?)) (trace.map (·.instruction)))
  · intro d trace text n total accounts
    rw [Controller.openLine_summary]
    exact accounts.countLine _
  · intro d trace i settings _ accounts
    rw [Controller.execute_summary, settings, if_pos collects, Step.segments_snoc, List.map_append]
    exact accounts.record (d.step i)
  · exact Summary.accountsFor_empty

/-- A strict controller stops at the arc without a center, so the last line is never read. Nothing
is cut at the first feed rate, and the second is refused. -/
def haltedProgram : List Char :=
  "G0 X3 F7\nM3 S9 F-1\nG1 Y4 F2\nG2 X1\nG1 X9".toList

def strictController : Controller :=
  { settings := { strict := true } }

theorem summary_accounts_for_haltedProgram :
    (strictController.runText haltedProgram).toolpath.toList.map (·.length) = [3.0, 4.0, 0.0] ∧
    (strictController.runText haltedProgram).summary.AccountsFor
      (strictController.runText haltedProgram).toolpath.toList
      (strictController.history haltedProgram) ∧
    (strictController.runText haltedProgram).summary.arcMoves = 1 ∧
    (strictController.runText haltedProgram).summary.distance = 7.0 ∧
    (strictController.runText haltedProgram).summary.cuttingDistance = 4.0 ∧
    (strictController.runText haltedProgram).summary.feeds.entries = [(2.0, 4.0), (7.0, 0.0)] ∧
    (strictController.runText haltedProgram).summary.speeds.entries = [(9.0, 120.0)] :=
  ⟨by decide +kernel, summary_accounts_for_toolpath strictController rfl rfl rfl haltedProgram,
    by decide +kernel, by decide +kernel, by decide +kernel, by decide +kernel, by decide +kernel⟩

end PartProgram
