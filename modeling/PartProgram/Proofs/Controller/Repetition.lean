import PartProgram.Proofs.Controller.Halting
import PartProgram.Proofs.Line.AxisWords
import PartProgram.Proofs.Machine.Repetition

namespace PartProgram

theorem Machine.apply_motion_of_move {i : Instruction} {motion : Motion} (m : Machine)
    (move : i.operation = .move motion) : (m.apply i).motion = motion := by
  rw [apply_eq, Instruction.motion?, move]
  rfl

namespace Block

/-- A line asks either for the motion in force alone, or for the same whatever it is. -/
theorem requested_cases (words : Line.Words) (strict : Bool) :
    (∀ implied, requested words implied strict = [implied]) ∨
      ∀ implied other, requested words implied strict = requested words other strict := by
  unfold requested
  cases words.gcodes.isEmpty && words.mcodes.isEmpty with
  | true =>
    cases words.hasAxes with
    | true => exact .inl fun _ => rfl
    | false => exact .inr fun _ _ => rfl
  | false => exact .inr fun _ _ => rfl

end Block

namespace Controller

variable (c : Controller) (text : String) (line total again : Nat)

/-- A line that was run and comes again asks for the same instructions, under its new number. -/
theorem read_again : ((c.runLine text line total).1.read text again).instructions =
    (c.read text line).instructions.map ({ · with line := again }) := by
  unfold Controller.read
  rw [runLine_settings]
  rcases Line.read_cases text with ⟨bad, read, -⟩ | ⟨words, read, -⟩
  · rw [Block.parse_of_error read, Block.parse_of_error read]
    rfl
  · have same : Block.requested words (.move (c.runLine text line total).1.machine.motion)
          c.settings.strict =
        Block.requested words (.move c.machine.motion) c.settings.strict := by
      rcases Block.requested_cases words c.settings.strict with alone | same
      · -- the line is carried out as the motion in force, which it selects
        have instructions : (c.read text line).instructions =
            Block.labelled text line words [.move c.machine.motion] := by
          rw [← alone]
          exact Block.parse_of_ok read
        have motion : (c.runLine text line total).1.machine.motion = c.machine.motion := by
          rw [runLine_machine, instructions, Block.labelled, List.map_singleton, List.foldl_cons,
            List.foldl_nil]
          exact Machine.apply_motion_of_move _ rfl
        rw [motion]
      · exact same _ _
    rw [Block.parse_of_ok read, Block.parse_of_ok read, same, Block.labelled, Block.labelled,
      List.map_map]
    rfl

end Controller

/-- In absolute coordinates it is harmless to repeat things. An instruction that is no offset, and
after which absolute coordinates are in force, changes nothing when it is applied again. A line
without offsets and without incremental coordinates that finds absolute ones in force changes
nothing but the number of the line when it is run again. -/
theorem repetition_changes_nothing :
    (∀ (m : Machine) (i : Instruction), i.operation ≠ .offset →
      (m.apply i).distanceMode = .absolute → (m.apply i).apply i = m.apply i) ∧
    ∀ (c : Controller) (text : String) (line total again totalAgain : Nat),
      c.machine.distanceMode = .absolute →
      (∀ i ∈ (c.read text line).instructions,
        i.operation ≠ .offset ∧ i.operation ≠ .distanceMode .incremental) →
      ((c.runLine text line total).1.runLine text again totalAgain).1.machine =
        { (c.runLine text line total).1.machine with line := again } := by
  constructor
  · intro m i noOffset absolute
    have noIncrement : i.operation ≠ .distanceMode .incremental := by
      intro selects
      rw [Machine.apply_eq, Instruction.distanceMode?, selects] at absolute
      cases absolute
    have twice := Machine.apply_absolute_of_ne absolute noIncrement
    rw [Machine.apply_eq_overwrite noOffset twice, Machine.apply_eq_overwrite noOffset absolute,
      Machine.overwrite_overwrite]
  · intro c text line total again totalAgain absolute plain
    have numbered : ({ c.machine with line } : Machine).distanceMode = .absolute := absolute
    obtain ⟨first, mode⟩ := Machine.foldl_apply_eq_overwrite numbered plain
    rw [← c.runLine_machine text line total] at first mode
    have plainAgain : ∀ i ∈ (c.read text line).instructions.map ({ · with line := again }),
        i.operation ≠ .offset ∧ i.operation ≠ .distanceMode .incremental :=
      List.forall_mem_map.mpr plain
    have renumbered : ({ (c.runLine text line total).1.machine with line := again } :
        Machine).distanceMode = .absolute := mode
    have second := (Machine.foldl_apply_eq_overwrite renumbered plainAgain).1
    have label (m : Machine) (i : Instruction) :
        m.overwrite { i with line := again } = m.overwrite i := rfl
    rw [Controller.runLine_machine, Controller.read_again, second, List.foldl_map]
    simp only [label]
    rw [Machine.foldl_overwrite_line, first, Machine.foldl_overwrite_foldl_overwrite]

/-- A machine in incremental coordinates, away from the origin. -/
def strayedMachine : Machine :=
  { distanceMode := .incremental, position := .linear 5.0 2.0 0.0 }

/-- Absolute coordinates are selected by an instruction that moves, too. -/
def absoluteMove : Instruction :=
  { operation := .distanceMode .absolute, axes := { AxisWords.none with x := some 1.0 },
    feed := some 7.0 }

/-- Coolant goes on, off and on again, beside a tool, a plane, words for all instructions and a
code that stands for nothing. -/
def busyLine : String :=
  "M8 G90 M6 T3 X4 F9 M9 M7 G18 R-1 G99"

theorem busyLine_repeated :
    strayedMachine.apply absoluteMove ≠ strayedMachine ∧
    (strayedMachine.apply absoluteMove).apply absoluteMove = strayedMachine.apply absoluteMove ∧
    (({} : Controller).runLine busyLine 1 2).1.machine.position.get .x = 4.0 ∧
    ((({} : Controller).runLine busyLine 1 2).1.runLine busyLine 2 2).1.machine =
      { (({} : Controller).runLine busyLine 1 2).1.machine with line := 2 } := by
  obtain ⟨instruction, line⟩ := repetition_changes_nothing
  refine ⟨by decide +kernel, ?_, by decide +kernel, ?_⟩
  · exact instruction strayedMachine absoluteMove (by decide) (by decide +kernel)
  · exact line {} busyLine 1 2 2 2 rfl (by decide +kernel)

end PartProgram
