import PartProgram.Proofs.Controller.LineLog

namespace PartProgram

/-- A controller that is about to run a line. -/
structure LineStep where
  before : Controller
  text : String
  line : Nat

namespace LineStep

/-- What the line says to the machine as it stands. -/
def block (s : LineStep) : Block :=
  s.before.read s.text s.line

/-- The steps in which the instructions of the line are carried out. -/
def steps (s : LineStep) : List Step :=
  ({ s.before.machine with line := s.line } : Machine).steps s.block.instructions

@[simp] theorem block_line (s : LineStep) : s.block.line = s.line := by
  rw [block, Controller.read, Block.parse_line]

@[simp] theorem block_text (s : LineStep) : s.block.text = s.text := by
  rw [block, Controller.read, Block.parse_text]

/-- All that the line logs bears its number and its text, and lets the program go on. -/
theorem of_mem_entries {s : LineStep} {e : Entry} (mem : e ∈ s.block.entries) :
    e.line = s.line ∧ e.text = s.text ∧ e.fault.severity = .parseError :=
  Block.of_mem_entries s.text s.line (.move s.before.machine.motion) s.before.settings.strict mem

theorem steps_instructions (s : LineStep) :
    s.steps.map (·.instruction) = s.block.instructions :=
  Machine.steps_instructions _ _

end LineStep

namespace Controller

/-- The first lines of a text, each as a run comes to it. -/
def lineSteps (c : Controller) (text : List Char) (n : Nat) : List LineStep :=
  ((Text.lines text).take n).zipIdx.map fun l => ⟨c.afterLines text l.2, l.1, l.2 + 1⟩

variable (c : Controller) (text : List Char)

theorem lineSteps_succ {n : Nat} (h : n < (Text.lines text).length) :
    c.lineSteps text (n + 1) =
      c.lineSteps text n ++ [⟨c.afterLines text n, (Text.lines text)[n], n + 1⟩] := by
  have before : ((Text.lines text).take n).length = n := List.length_take_of_le (Nat.le_of_lt h)
  rw [lineSteps, List.take_succ_eq_append_getElem h, List.zipIdx_append, List.map_append, before,
    Nat.zero_add]
  rfl

theorem lineSteps_text (n : Nat) :
    (c.lineSteps text n).map (·.text) = (Text.lines text).take n := by
  simp [lineSteps, Function.comp_def, List.zipIdx_map_fst]

/-- Each line step bears the number of its line. -/
theorem of_mem_lineSteps {n : Nat} {s : LineStep} (mem : s ∈ c.lineSteps text n) :
    1 ≤ s.line ∧ (Text.lines text)[s.line - 1]? = some s.text := by
  obtain ⟨⟨t, k⟩, here, rfl⟩ := List.mem_map.mp mem
  have found := List.mem_zipIdx_iff_getElem?.mp here
  rw [List.getElem?_take] at found
  refine ⟨Nat.succ_pos k, ?_⟩
  split at found
  · exact found
  · cases found

theorem settings_of_mem_lineSteps {n : Nat} {s : LineStep} (mem : s ∈ c.lineSteps text n) :
    s.before.settings = c.settings := by
  obtain ⟨l, -, rfl⟩ := List.mem_map.mp mem
  exact c.afterLines_settings text l.2

theorem afterLines_log {n : Nat} (bound : n ≤ (Text.lines text).length) :
    (c.afterLines text n).log.toList = (c.lineSteps text n).flatMap (·.block.entries) := by
  induction n with
  | zero => rfl
  | succ n ih =>
    have earlier := ih (Nat.le_of_succ_le bound)
    rw [afterLines_succ c text bound, runLine_log, earlier, lineSteps_succ c text bound,
      List.flatMap_append, List.flatMap_singleton]
    rfl

/-- What a fresh controller satisfies with no steps, and each line and each step keeps, is satisfied
after any number of lines with the steps of these lines. -/
theorem afterLines_steps_induction {P : Controller → List Step → Prop} {c : Controller}
    (line : ∀ d trace text n total, P d trace → P (d.openLine text n total) trace)
    (step : ∀ d trace i, d.settings = c.settings → P d trace →
      P (d.execute i).1 (trace ++ [d.step i]))
    (start : P c.reset []) (text : List Char) {n : Nat} (bound : n ≤ (Text.lines text).length) :
    P (c.afterLines text n) ((c.lineSteps text n).flatMap (·.steps)) := by
  induction n with
  | zero => exact start
  | succ n ih =>
    have earlier := line _ _ (Text.lines text)[n] (n + 1) (Text.lines text).length
      (ih (Nat.le_of_succ_le bound))
    -- the settings are carried along with the property, since a step may read them
    have ran := executeAll_induction
      (P := fun d trace => d.settings = c.settings ∧ P d trace)
      (fun d trace i ⟨settings, h⟩ =>
        ⟨by rw [execute_settings, settings], step d trace i settings h⟩)
      ⟨by rw [openLine_settings, afterLines_settings], earlier⟩
      ((c.afterLines text n).read (Text.lines text)[n] (n + 1)).instructions
    rw [← runLine_eq, ← afterLines_succ c text bound, openLine_machine] at ran
    rw [lineSteps_succ c text bound, List.flatMap_append, List.flatMap_singleton]
    exact ran.2

/-- The machine comes to each line through the steps of the lines before it. -/
theorem linked_afterLines {n : Nat} (bound : n ≤ (Text.lines text).length) :
    Machine.Linked {} ((c.lineSteps text n).flatMap (·.steps)) (c.afterLines text n).machine := by
  refine afterLines_steps_induction (c := c) (P := fun d trace => Machine.Linked {} trace d.machine)
    ?_ ?_ ?_ text bound
  · intro d trace text n total linked
    exact linked_openLine linked text n total
  · intro d trace i _ linked
    exact linked_execute linked i
  · exact Machine.Renumbered.refl _

theorem lineSteps_instructions (n : Nat) :
    ((c.lineSteps text n).flatMap (·.steps)).map (·.instruction) =
      (c.lineSteps text n).flatMap (·.block.instructions) := by
  simp [List.map_flatMap, LineStep.steps_instructions]

section steps

theorem steps_of_isHalted {c : Controller} (total : Nat) (halted : c.isHalted = true)
    (lines : List (String × Nat)) : c.steps total lines = [] := by
  cases lines with
  | nil => rfl
  | cons l lines => rw [steps, if_pos halted]

theorem steps_append (c : Controller) (total : Nat) (front rest : List (String × Nat)) :
    c.steps total (front ++ rest) =
      c.steps total front ++ (c.runLines total front).steps total rest := by
  induction front generalizing c with
  | nil => rfl
  | cons l front ih =>
    cases halted : c.isHalted with
    | true =>
      rw [steps_of_isHalted _ halted, steps_of_isHalted _ halted, runLines_of_isHalted _ _ halted,
        steps_of_isHalted _ halted, List.nil_append]
    | false =>
      rw [List.cons_append, steps, steps, halted, runLines_cons _ _ halted]
      simp [ih]

/-- As long as a run is not to halt, its steps are those of its lines. -/
theorem steps_take {n : Nat} (bound : n ≤ (Text.lines text).length)
    (early : ∀ k < n, ¬(c.afterLines text k).MustHalt) :
    let front := ((Text.lines text).zipIdx 1).take n
    c.reset.runLines (Text.lines text).length front = c.afterLines text n ∧
      c.reset.steps (Text.lines text).length front = (c.lineSteps text n).flatMap (·.steps) := by
  induction n with
  | zero => exact ⟨rfl, rfl⟩
  | succ n ih =>
    obtain ⟨run, steps⟩ := ih (Nat.le_of_succ_le bound) fun k before => early k (by omega)
    have running : (c.afterLines text n).isHalted = false := by
      rw [Bool.eq_false_iff, ne_eq, isHalted_iff]
      exact early n (Nat.lt_succ_self n)
    have numbered : n < ((Text.lines text).zipIdx 1).length := by
      rw [List.length_zipIdx]
      exact bound
    have last : ((Text.lines text).zipIdx 1)[n] = ((Text.lines text)[n], n + 1) := by
      rw [List.getElem_zipIdx, Nat.add_comm 1 n]
    intro front
    have split :
        front = ((Text.lines text).zipIdx 1).take n ++ [((Text.lines text)[n], n + 1)] := by
      rw [← last]
      exact List.take_succ_eq_append_getElem numbered
    rw [split, runLines_append, steps_append, run, steps, lineSteps_succ c text bound,
      afterLines_succ c text bound, runLines_cons _ _ running, Controller.steps, running]
    constructor
    · rfl
    · simp [Controller.steps, LineStep.steps, LineStep.block]

/-- The steps of a run are those of the lines that it carries out. -/
theorem HaltsAfter.stepsOfText {c : Controller} {text : List Char} {n : Nat}
    (h : c.HaltsAfter text n) : c.stepsOfText text = (c.lineSteps text n).flatMap (·.steps) := by
  obtain ⟨run, steps⟩ := c.steps_take text h.bound h.early
  have none : (c.afterLines text n).steps (Text.lines text).length
      (((Text.lines text).zipIdx 1).drop n) = [] := by
    rcases Nat.lt_or_eq_of_le h.bound with left | all
    · exact steps_of_isHalted _ (isHalted_iff.mpr (h.due left)) _
    · have rest : ((Text.lines text).zipIdx 1).drop n = [] := by simp [all]
      rw [rest]
      rfl
  have whole := c.reset.steps_append (Text.lines text).length
    (((Text.lines text).zipIdx 1).take n) (((Text.lines text).zipIdx 1).drop n)
  rw [List.take_append_drop, run, steps, none, List.append_nil] at whole
  exact whole

/-- The instructions of a run are those of the lines that it carries out. -/
theorem HaltsAfter.history {c : Controller} {text : List Char} {n : Nat}
    (h : c.HaltsAfter text n) :
    c.history text = (c.lineSteps text n).flatMap (·.block.instructions) := by
  simp [Controller.history, h.stepsOfText, List.map_flatMap, LineStep.steps_instructions]

end steps

end Controller

end PartProgram
