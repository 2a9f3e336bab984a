import PartProgram.Proofs.Controller.Halting
import PartProgram.Proofs.Line.AxisWords

namespace PartProgram

theorem Operation.eq_of_ofG?_absolute {code : Int}
    (h : ofG? code = some (.distanceMode .absolute)) : code = 90 := by
  unfold ofG? at h
  split at h <;> first | rfl | simp at h

theorem Operation.ofM?_ne_distanceMode (code : Int) (mode : DistanceMode) :
    ofM? code ≠ some (.distanceMode mode) := by
  unfold ofM?
  split <;> simp

/-- Only the code 90 asks for absolute coordinates. -/
theorem Block.ne_absolute_of_requested {words : Line.Words} {motion : Motion} {strict : Bool}
    (stays : 90 ∉ words.gcodes) :
    ∀ o ∈ requested words (.move motion) strict, o ≠ .distanceMode .absolute := by
  intro o mem absolute
  subst absolute
  rcases mem_requested mem with implied | unknown | ⟨code, here, found⟩ | ⟨code, -, found⟩
  · cases implied
  · cases unknown
  · rw [Operation.eq_of_ofG?_absolute found] at here
    exact stays here
  · exact Operation.ofM?_ne_distanceMode code _ found

namespace Controller

variable {c : Controller} {text : String} {axis : Axis} {v : Float}

/-- A line moves an axis by its word as often as an instruction carries it. -/
theorem runLine_position_of_incremental (line total : Nat)
    (incremental : c.machine.distanceMode = .incremental)
    (stays : 90 ∉ (Line.values 'G' text).map Number.toCode)
    (given : (Line.values axis.letter text).getLast? = some v) :
    (c.runLine text line total).1.machine.position.get axis =
      (· + v)^[(c.read text line).carriers] (c.machine.position.get axis) := by
  rcases Line.read_cases text with ⟨bad, -, silent⟩ | ⟨words, read, reads⟩
  · rw [silent] at given
    cases given
  · have instructions : (c.read text line).instructions =
        Block.labelled text line words
          (Block.requested words (.move c.machine.motion) c.settings.strict) :=
      Block.parse_of_ok read
    have word : words.parameters.get? axis.letter = some v := by rw [reads.axis, given]
    have never : ∀ i ∈ (c.read text line).instructions,
        i.operation ≠ .distanceMode .absolute := by
      intro i mem
      rw [instructions] at mem
      obtain ⟨operation, here, rfl⟩ := List.mem_map.mp mem
      rw [← reads.gcodes] at stays
      exact Block.ne_absolute_of_requested stays operation here
    have carried : ∀ i ∈ (c.read text line).instructions,
        i.axes.get axis = some v ∨ (i.operation.isMotion = false ∧ i.axes = .none) := by
      intro i mem
      rw [instructions] at mem
      rcases Block.labelled_axes text line words mem with own | still
      · exact .inl ((own axis).trans word)
      · exact .inr still
    have count : (c.read text line).instructions.countP (·.axes.any) =
        (c.read text line).carriers := by
      rw [Block.carriers_of_labelled text line words instructions, instructions,
        Block.countP_labelled text line words word]
    rw [runLine_machine, ← count]
    exact Machine.foldl_apply_position_of_incremental _ incremental never carried

end Controller

/-- A line has a single carrier if at most one of its instructions takes axis words and, where none
does, it has only one instruction. -/
theorem Block.carriers_eq_one {b : Block}
    (owners : b.instructions.countP (·.operation.takesAxes) ≤ 1)
    (alone : b.instructions.countP (·.operation.takesAxes) = 0 → b.instructions.length = 1) :
    b.carriers = 1 := by
  unfold carriers
  cases owned : b.instructions.any (·.operation.takesAxes) with
  | true =>
    obtain ⟨i, mem, takes⟩ := List.any_eq_true.mp owned
    have positive : 0 < b.instructions.countP (·.operation.takesAxes) :=
      List.countP_pos_iff.mpr ⟨i, mem, takes⟩
    rw [if_pos rfl]
    omega
  | false =>
    have none : b.instructions.countP (·.operation.takesAxes) = 0 := by
      rw [List.countP_eq_zero]
      intro i mem takes
      rw [List.any_eq_true.mpr ⟨i, mem, takes⟩] at owned
      cases owned
    rw [if_neg Bool.false_ne_true]
    exact alone none

/-- In incremental mode a line without G90 moves each axis by its word once for each carrier: so
once, if at most one of its instructions takes axis words and, where none does, it has only one
instruction. -/
theorem increments_apply_per_carrier (c : Controller) (text : String) (line total : Nat)
    (incremental : c.machine.distanceMode = .incremental)
    (stays : 90 ∉ (Line.values 'G' text).map Number.toCode) (axis : Axis) (v : Float)
    (given : (Line.values axis.letter text).getLast? = some v) :
    (c.runLine text line total).1.machine.position.get axis =
      (· + v)^[(c.read text line).carriers] (c.machine.position.get axis) ∧
    ((c.read text line).instructions.countP (·.operation.takesAxes) ≤ 1 →
      ((c.read text line).instructions.countP (·.operation.takesAxes) = 0 →
        (c.read text line).instructions.length = 1) →
      (c.runLine text line total).1.machine.position.get axis =
        c.machine.position.get axis + v) := by
  have moved := Controller.runLine_position_of_incremental line total incremental stays given
  refine ⟨moved, ?_⟩
  intro owners alone
  rw [moved, Block.carriers_eq_one owners alone]
  rfl

/-- A controller in incremental mode. -/
def incrementalController : Controller :=
  { machine := { distanceMode := .incremental } }

/-- A spindle and a coolant code share a line with a word for an axis that neither takes. -/
theorem increment_applied_twice :
    ¬∀ (c : Controller) (text : String) (line total : Nat),
      c.machine.distanceMode = .incremental →
      (∃ words, Line.Words.read (Line.bare text.toList) = .ok words) →
      (c.read text line).instructions ≠ [] →
      90 ∉ (Line.values 'G' text).map Number.toCode →
      92 ∉ (Line.values 'G' text).map Number.toCode →
      (c.read text line).instructions.countP (·.operation.takesAxes) ≤ 1 →
      ∀ axis v, (Line.values axis.letter text).getLast? = some v →
        (c.runLine text line total).1.machine.position.get axis =
          c.machine.position.get axis + v := by
  intro once
  have readable : ∃ words, Line.Words.read (Line.bare "M3 M8 X5".toList) = .ok words := ⟨_, rfl⟩
  have moved := once incrementalController "M3 M8 X5" 1 1 rfl readable (by decide +kernel)
    (by decide +kernel) (by decide +kernel) (by decide +kernel) .x 5.0 (by decide +kernel)
  have twice : (incrementalController.runLine "M3 M8 X5" 1 1).1.machine.position.get .x ≠
      incrementalController.machine.position.get .x + 5.0 := by
    decide +kernel
  exact twice moved

/-- A move keeps the words from the codes around it, and a code alone carries them itself. -/
theorem increment_applied_once :
    (incrementalController.runLine "M3 G1 M8 X5" 1 1).1.machine.position.get .x = 0.0 + 5.0 ∧
    (incrementalController.runLine "M3 X5" 1 1).1.machine.position.get .x = 0.0 + 5.0 ∧
    (incrementalController.runLine "M3 M8 X5" 1 1).1.machine.position.get .x =
      (· + 5.0)^[2] 0.0 := by
  refine ⟨?_, ?_, ?_⟩
  · exact (increments_apply_per_carrier incrementalController "M3 G1 M8 X5" 1 1 rfl
      (by decide +kernel) .x 5.0 (by decide +kernel)).2 (by decide +kernel)
      (by decide +kernel)
  · exact (increments_apply_per_carrier incrementalController "M3 X5" 1 1 rfl
      (by decide +kernel) .x 5.0 (by decide +kernel)).2 (by decide +kernel)
      (by decide +kernel)
  · have carriers : (incrementalController.read "M3 M8 X5" 1).carriers = 2 := by decide +kernel
    have moved := (increments_apply_per_carrier incrementalController "M3 M8 X5" 1 1 rfl
      (by decide +kernel) .x 5.0 (by decide +kernel)).1
    rw [carriers] at moved
    exact moved

end PartProgram
