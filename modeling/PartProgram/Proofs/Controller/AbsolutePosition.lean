import PartProgram.Proofs.Controller.Halting
import PartProgram.Proofs.Line.AxisWords

namespace PartProgram

namespace Controller

/-- A line leaves an axis at its last word for it, or where it was. -/
theorem runLine_position_of_absolute {c : Controller} (text : String) (line total : Nat)
    (tolerant : c.settings.strict = false) (absolute : c.machine.distanceMode = .absolute)
    (never : ∀ i ∈ (c.read text line).instructions, i.operation ≠ .distanceMode .incremental) :
    (c.runLine text line total).1.machine.distanceMode = .absolute ∧
      ∀ axis, (c.runLine text line total).1.machine.position.get axis =
        (Line.values axis.letter text).getLast?.getD (c.machine.position.get axis) := by
  have started : ({ c.machine with line } : Machine).distanceMode = .absolute := absolute
  have moved (axis : Axis) := Machine.foldl_apply_position_of_absolute axis
    (c.read text line).instructions started never
  rw [runLine_machine]
  refine ⟨(moved .x).1, ?_⟩
  intro axis
  have words : latest (·.axes.get axis) (c.read text line).instructions =
      (Line.values axis.letter text).getLast? := by
    unfold Controller.read
    rw [tolerant]
    exact Block.latest_parse axis
  rw [(moved axis).2, words]

/-- The instructions of the first line are among the steps of a run that begins with it. -/
theorem mem_steps_of_read {c : Controller} {total : Nat} {l : String × Nat}
    {lines : List (String × Nat)} (running : c.isHalted = false) {i : Instruction}
    (mem : i ∈ (c.read l.1 l.2).instructions) :
    ∃ s ∈ c.steps total (l :: lines), s.instruction = i := by
  rw [← Machine.steps_instructions (c.openLine l.1 l.2 total).machine
    (c.read l.1 l.2).instructions] at mem
  obtain ⟨s, here, same⟩ := List.mem_map.mp mem
  refine ⟨s, ?_, same⟩
  rw [steps, running]
  exact List.mem_append_left _ here

/-- Numbered lines leave each axis at the last word for it on those that are run, which the summary
counts. -/
theorem runLines_position_of_absolute {c : Controller} (total : Nat) (lines : List (String × Nat))
    (tolerant : c.settings.strict = false) (absolute : c.machine.distanceMode = .absolute)
    (never : ∀ s ∈ c.steps total lines, s.instruction.operation ≠ .distanceMode .incremental) :
    ∃ n, (c.runLines total lines).summary.totalLines = c.summary.totalLines + n ∧
      ∀ axis, (c.runLines total lines).machine.position.get axis =
        ((lines.take n).flatMap fun l => Line.values axis.letter l.1).getLast?.getD
          (c.machine.position.get axis) := by
  induction lines generalizing c with
  | nil => exact ⟨0, rfl, fun _ => rfl⟩
  | cons l lines ih =>
    cases running : c.isHalted with
    | true =>
      rw [runLines_of_isHalted _ _ running]
      exact ⟨0, rfl, fun _ => rfl⟩
    | false =>
      have first : ∀ i ∈ (c.read l.1 l.2).instructions,
          i.operation ≠ .distanceMode .incremental := by
        intro i mem
        obtain ⟨s, here, rfl⟩ := mem_steps_of_read running mem
        exact never s here
      have later : ∀ s ∈ (c.runLine l.1 l.2 total).1.steps total lines,
          s.instruction.operation ≠ .distanceMode .incremental := by
        intro s mem
        apply never
        rw [steps, running]
        exact List.mem_append_right _ mem
      obtain ⟨mode, here⟩ := runLine_position_of_absolute l.1 l.2 total tolerant absolute first
      have tolerant : (c.runLine l.1 l.2 total).1.settings.strict = false := by
        rw [runLine_settings, tolerant]
      obtain ⟨n, count, rest⟩ := ih tolerant mode later
      rw [runLines_cons _ _ running]
      refine ⟨n + 1, ?_, ?_⟩
      · rw [count, runLine_totalLines]
        omega
      · intro axis
        rw [rest, here, List.take_succ_cons, List.flatMap_cons, List.getLast?_append,
          Option.getD_or]

end Controller

/-- In absolute coordinates the position can be read off the text: where faults are tolerated and
no instruction selects incremental coordinates, a run ends with each axis at the last word for it
on the lines that were run and can be read, or at zero if there is none. -/
theorem position_read_off_text (c : Controller) (text : List Char)
    (tolerant : c.settings.strict = false)
    (absolute : ∀ i ∈ c.history text, i.operation ≠ .distanceMode .incremental) (axis : Axis) :
    (c.runText text).machine.position.get axis =
      (((Text.lines text).take (c.runText text).summary.totalLines).flatMap
        (Line.values axis.letter)).getLast?.getD 0.0 := by
  have never : ∀ s ∈ c.stepsOfText text,
      s.instruction.operation ≠ .distanceMode .incremental := by
    intro s mem
    exact absolute s.instruction (List.mem_map_of_mem mem)
  obtain ⟨n, count, position⟩ :=
    Controller.runLines_position_of_absolute (c := c.reset) _ _ tolerant rfl never
  have run : (c.runText text).summary.totalLines = n := by
    have fresh : c.reset.summary.totalLines = 0 := rfl
    rw [Controller.runText, count, fresh, Nat.zero_add]
  have texts : (((Text.lines text).zipIdx 1).take n).map (·.1) = (Text.lines text).take n := by
    rw [List.map_take, List.zipIdx_map_fst]
  have origin : c.reset.machine.position.get axis = 0.0 := Position.get_origin axis
  rw [run, Controller.runText, position axis, origin, ← texts, List.flatMap_map]

/-- Axis words on a move, with codes that take none, with an unknown code, on a line that cannot be
read, with an offset and with no code at all. -/
def scatteredProgram : List Char :=
  "G1 X1 Y2 F5\nM3 M8 X-5 X4\nG99 A3\nG1 Y. X9\nG92 Z7\nY8".toList

theorem scatteredProgram_position :
    (({} : Controller).runText scatteredProgram).machine.position.get .x = 4.0 ∧
    (({} : Controller).runText scatteredProgram).machine.position.get .y = 8.0 ∧
    (({} : Controller).runText scatteredProgram).machine.position.get .a = 3.0 ∧
    (({} : Controller).runText scatteredProgram).machine.position.get .b = 0.0 := by
  have absolute : ∀ i ∈ ({} : Controller).history scatteredProgram,
      i.operation ≠ .distanceMode .incremental := by
    decide +kernel
  have count : (({} : Controller).runText scatteredProgram).summary.totalLines = 6 := by
    decide +kernel
  have position := position_read_off_text {} scatteredProgram rfl absolute
  rw [count] at position
  rw [position, position, position, position]
  decide +kernel

end PartProgram
