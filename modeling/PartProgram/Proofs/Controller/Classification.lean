import PartProgram.Proofs.Controller.Coverage
import PartProgram.Proofs.Controller.LineStep
import PartProgram.Proofs.Line.Flaws

namespace PartProgram

/-- The instruction cannot be carried out: an arc without an offset or a radius, or with both, or a
dwell without a time. -/
def Instruction.IsFaulty (i : Instruction) : Prop :=
  (i.operation.isArc = true ∧ (i.arc.hasOffset = true ↔ i.arc.hasRadius = true)) ∨
    (i.operation = .dwell ∧ ¬∃ p, i.dwell = some p ∧ 0.0 ≤ p)

theorem Instruction.fault?_eq_none_iff (i : Instruction) : i.fault? = none ↔ ¬i.IsFaulty := by
  rw [fault?, IsFaulty]
  cases arc : i.operation.isArc with
  | true =>
    have noDwell : i.operation ≠ .dwell := by
      intro dwell
      rw [dwell] at arc
      cases arc
    cases offset : i.arc.hasOffset <;> cases radius : i.arc.hasRadius <;> simp [noDwell]
  | false =>
    by_cases dwell : i.operation = .dwell
    · cases time : i.dwell <;> simp [dwell]
    · simp [dwell]

theorem Block.entries_eq_nil_iff (b : Block) : b.entries = [] ↔
    b.faults = [] ∧ ∀ i ∈ b.instructions, ¬i.IsFaulty := by
  have silent (i : Instruction) : i.logged? = none ↔ ¬i.IsFaulty := by
    rw [Instruction.logged?, Option.map_eq_none_iff, i.fault?_eq_none_iff]
  rw [Block.entries, List.append_eq_nil_iff, List.map_eq_nil_iff, List.filterMap_eq_nil_iff]
  simp only [silent]

namespace LineStep

/-- The line has instructions and no flawed word. -/
def isCommandLine (s : LineStep) : Bool :=
  !Line.isFlawed s.text && !s.block.instructions.isEmpty

/-- The line has a comment, but no instructions and no flawed word. -/
def isCommentLine (s : LineStep) : Bool :=
  !Line.isFlawed s.text && s.block.instructions.isEmpty && !(Line.comment s.text.toList).isEmpty

theorem block_isErrorLine (s : LineStep) : s.block.isErrorLine = Line.isFlawed s.text :=
  Block.parse_isErrorLine _ _ _ _

theorem block_comment (s : LineStep) :
    s.block.comment.isEmpty = (Line.comment s.text.toList).isEmpty := by
  have comment : s.block.comment = String.ofList (Line.comment s.text.toList) := by
    rw [block, Controller.read, Block.parse]
    split <;> rfl
  rw [comment, Bool.eq_iff_iff]
  simp

theorem countLine_lineCounts (s : LineStep) (summary : Summary) :
    (summary.countLine s.block).lineCounts =
      (summary.totalLines + 1, summary.commandLines + (if s.isCommandLine then 1 else 0),
        summary.commentLines + (if s.isCommentLine then 1 else 0),
        summary.errorLines + if Line.isFlawed s.text then 1 else 0) := by
  have command : s.block.isCommandLine = s.isCommandLine := by
    rw [Block.isCommandLine, isCommandLine, s.block_isErrorLine]
  have comment : s.block.isCommentLine = s.isCommentLine := by
    rw [Block.isCommentLine, isCommentLine, s.block_isErrorLine, s.block_comment]
  rw [Summary.countLine_eq, command, comment, s.block_isErrorLine]
  rfl

/-- No line is counted under two headings. -/
theorem countP_le_length (steps : List LineStep) :
    steps.countP (fun s => Line.isFlawed s.text) + steps.countP (·.isCommandLine) +
      steps.countP (·.isCommentLine) ≤ steps.length := by
  induction steps with
  | nil => exact Nat.le_refl 0
  | cons s steps ih =>
    have once : (if Line.isFlawed s.text then 1 else 0) + (if s.isCommandLine then 1 else 0) +
        (if s.isCommentLine then 1 else 0) ≤ 1 := by
      rw [isCommandLine, isCommentLine]
      cases Line.isFlawed s.text <;> cases s.block.instructions.isEmpty <;>
        cases (Line.comment s.text.toList).isEmpty <;> decide
    simp only [List.countP_cons, List.length_cons]
    omega

end LineStep

namespace Controller

variable (c : Controller) (text : List Char)

/-- After the first lines, the summary has counted them under their headings. -/
theorem afterLines_lineCounts {n : Nat} (bound : n ≤ (Text.lines text).length) :
    (c.afterLines text n).summary.lineCounts =
      (n, (c.lineSteps text n).countP (·.isCommandLine),
        (c.lineSteps text n).countP (·.isCommentLine),
        (c.lineSteps text n).countP fun s => Line.isFlawed s.text) := by
  induction n with
  | zero => rfl
  | succ n ih =>
    let s : LineStep := ⟨c.afterLines text n, (Text.lines text)[n], n + 1⟩
    have earlier := ih (Nat.le_of_succ_le bound)
    have counted := s.countLine_lineCounts (c.afterLines text n).summary
    simp only [Summary.lineCounts, Prod.mk.injEq] at earlier
    obtain ⟨total, commands, comments, errors⟩ := earlier
    have run : (c.afterLines text (n + 1)).summary.lineCounts =
        ((c.afterLines text n).summary.countLine s.block).lineCounts := by
      rw [afterLines_succ c text bound, runLine_lineCounts]
      rfl
    rw [run, counted, lineSteps_succ c text bound]
    simp only [List.countP_append, List.countP_singleton, total, commands, comments, errors]
    rfl

theorem countP_isFlawed (n : Nat) : (c.lineSteps text n).countP (fun s => Line.isFlawed s.text) =
    ((Text.lines text).take n).countP Line.isFlawed := by
  rw [← c.lineSteps_text, List.countP_map]
  rfl

/-- The log is empty just if no line has a flawed word or an unlisted code and no instruction is
faulty. -/
theorem HaltsAfter.log_eq_nil_iff {c : Controller} {text : List Char} {n : Nat}
    (h : c.HaltsAfter text n) : (c.runText text).log = #[] ↔
      (∀ t ∈ (Text.lines text).take n, Line.isFlawed t = false) ∧
      (∀ t ∈ (Text.lines text).take n, Line.namesUnlisted t = false) ∧
      ∀ i ∈ c.history text, ¬i.IsFaulty := by
  have silent (s : LineStep) : s.block.entries = [] ↔ (Line.isFlawed s.text = false ∧
      Line.namesUnlisted s.text = false) ∧ ∀ i ∈ s.block.instructions, ¬i.IsFaulty := by
    rw [s.block.entries_eq_nil_iff, LineStep.block, Controller.read, Block.parse_faults_eq_nil]
  rw [h.runText, ← Array.toList_eq_nil_iff, afterLines_log c text h.bound, h.history,
    ← c.lineSteps_text, List.flatMap_eq_nil_iff]
  simp only [silent, List.mem_map, List.mem_flatMap, forall_exists_index, and_imp,
    forall_apply_eq_imp_iff₂]
  constructor
  · intro all
    refine ⟨fun s mem => (all s mem).1.1, fun s mem => (all s mem).1.2, ?_⟩
    intro i s mem here
    exact (all s mem).2 i here
  · rintro ⟨flawless, listed, sound⟩ s mem
    exact ⟨⟨flawless s mem, listed s mem⟩, fun i here => sound i s mem here⟩

end Controller

open Controller

/-- How lines are counted and when a run succeeds. Of the lines that a run carries out, the error
lines are those with a flawed word among the words that are read, the command lines are the others
with instructions, and the comment lines are those of the rest that have a comment; so no line is
counted twice. The run is a success just if no line has a flawed word and, where it is strict, no
line has an unlisted code and no instruction that was carried out is faulty. -/
theorem runText_classifies (c : Controller) (text : List Char) :
    ∃ n, c.HaltsAfter text n ∧ (c.runText text).summary.totalLines = n ∧
      (c.runText text).summary.errorLines = ((Text.lines text).take n).countP Line.isFlawed ∧
      (c.runText text).summary.commandLines = (c.lineSteps text n).countP (·.isCommandLine) ∧
      (c.runText text).summary.commentLines = (c.lineSteps text n).countP (·.isCommentLine) ∧
      (c.runText text).summary.errorLines + (c.runText text).summary.commandLines +
        (c.runText text).summary.commentLines ≤ n ∧
      ((c.runText text).succeeded = true ↔
        (∀ t ∈ (Text.lines text).take n, Line.isFlawed t = false) ∧
        (c.settings.strict = true →
          (∀ t ∈ (Text.lines text).take n, Line.namesUnlisted t = false) ∧
          ∀ i ∈ c.history text, ¬i.IsFaulty)) := by
  obtain ⟨n, halts, run⟩ := c.exists_haltsAfter text
  have counts := c.afterLines_lineCounts text halts.bound
  rw [← run] at counts
  simp only [Summary.lineCounts, Prod.mk.injEq] at counts
  obtain ⟨total, commands, comments, errors⟩ := counts
  rw [c.countP_isFlawed] at errors
  refine ⟨n, halts, total, errors, commands, comments, ?_, ?_⟩
  · have once := LineStep.countP_le_length (c.lineSteps text n)
    have length : (c.lineSteps text n).length ≤ n := by
      rw [← List.length_map (·.text), c.lineSteps_text]
      exact List.length_take_le _ _
    rw [c.countP_isFlawed] at once
    omega
  · have flawless : (c.runText text).summary.errorLines = 0 ↔
        ∀ t ∈ (Text.lines text).take n, Line.isFlawed t = false := by
      rw [errors, List.countP_eq_zero]
      simp
    -- a run that logs nothing has no flawed line either, so all runs ask for that
    rw [succeeded_iff, halts.log_eq_nil_iff, runText_settings, flawless]
    cases c.settings.strict with
    | true => simp
    | false =>
      constructor
      · rintro (⟨flawless, -⟩ | ⟨-, flawless⟩)
        · exact ⟨flawless, nofun⟩
        · exact ⟨flawless, nofun⟩
      · rintro ⟨flawless, -⟩
        exact .inr ⟨rfl, flawless⟩

/-- The unlisted code makes a strict run fail, but not a tolerant one. -/
theorem unlistedProgram_classified :
    let tolerant : Controller := {}
    let strict : Controller := { settings := { strict := true } }
    (tolerant.runText unlistedProgram).summary.errorLines = 0 ∧
    (tolerant.runText unlistedProgram).succeeded = true ∧
    (strict.runText unlistedProgram).succeeded = false := by
  intro tolerant strict
  obtain ⟨n, -, -, errors, -, -, -, success⟩ := runText_classifies tolerant unlistedProgram
  obtain ⟨m, -, total, -, -, -, -, failure⟩ := runText_classifies strict unlistedProgram
  have flawless : ∀ t ∈ (Text.lines unlistedProgram).take n, Line.isFlawed t = false := by
    have all : ∀ t ∈ Text.lines unlistedProgram, Line.isFlawed t = false := by decide +kernel
    exact fun t mem => all t (List.mem_of_mem_take mem)
  have unlisted : "G99" ∈ (Text.lines unlistedProgram).take 1 ∧
      Line.namesUnlisted "G99" = true := by
    decide +kernel
  have one : m = 1 := total.symm.trans (by decide +kernel)
  refine ⟨?_, success.mpr ⟨flawless, nofun⟩, ?_⟩
  · rw [errors, List.countP_eq_zero]
    exact fun t mem => Bool.eq_false_iff.mp (flawless t mem)
  · rw [one] at failure
    rw [Bool.eq_false_iff]
    intro succeeded
    have listed := ((failure.mp succeeded).2 rfl).1 _ unlisted.1
    rw [unlisted.2] at listed
    cases listed

end PartProgram
