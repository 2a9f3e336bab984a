import PartProgram.Proofs.Controller.LineLog

namespace PartProgram

theorem Instruction.marksLine_of_fault? {i : Instruction} {fault : Fault}
    (found : i.fault? = some fault) : fault.marksLine = false := by
  obtain rfl | rfl | rfl := fault?_cases found <;> rfl

namespace Summary

theorem errorLines_congr {s t : Summary} (h : s.lineCounts = t.lineCounts) :
    s.errorLines = t.errorLines :=
  congrArg (·.2.2.2) h

theorem errorLines_countLine (s : Summary) (b : Block) :
    (s.countLine b).errorLines = s.errorLines + if b.isErrorLine then 1 else 0 := by
  rw [countLine_eq]

end Summary

namespace Controller

/-- No entry of the log makes its line an error line. -/
def Unmarked (c : Controller) : Prop :=
  ∀ e ∈ c.log.toList, e.fault.marksLine = false

instance (c : Controller) : Decidable c.Unmarked :=
  inferInstanceAs (Decidable (∀ e ∈ c.log.toList, e.fault.marksLine = false))

section effects

variable (c : Controller) (text : String) (line total : Nat)

theorem unmarked_openLine : (c.openLine text line total).Unmarked ↔
    c.Unmarked ∧ (c.read text line).isErrorLine = false := by
  have clean : (c.read text line).isErrorLine = false ↔
      ∀ fault ∈ (c.read text line).faults, fault.marksLine = false := by
    unfold Block.isErrorLine
    simp
  unfold Unmarked
  rw [openLine_log, Array.toList_appendList, clean]
  simp only [List.mem_append, List.mem_map, or_imp, forall_and, forall_exists_index, and_imp,
    forall_apply_eq_imp_iff₂]

theorem unmarked_execute (i : Instruction) : (c.execute i).1.Unmarked ↔ c.Unmarked := by
  have own : ∀ fault ∈ i.fault?.toList, fault.marksLine = false := by
    intro fault mem
    exact Instruction.marksLine_of_fault? (by simpa using mem)
  unfold Unmarked
  rw [execute_log, Array.toList_appendList]
  constructor
  · intro unmarked e mem
    exact unmarked e (List.mem_append_left _ mem)
  · intro unmarked e mem
    rcases List.mem_append.mp mem with old | new
    · exact unmarked e old
    · obtain ⟨fault, found, rfl⟩ := List.mem_map.mp new
      exact own fault found

theorem errorLines_openLine : (c.openLine text line total).summary.errorLines =
    c.summary.errorLines + if (c.read text line).isErrorLine then 1 else 0 := by
  rw [openLine_summary, Summary.errorLines_countLine]

theorem errorLines_execute (i : Instruction) :
    (c.execute i).1.summary.errorLines = c.summary.errorLines :=
  Summary.errorLines_congr (c.execute_lineCounts i)

end effects

/-- A run has counted no error line just if no entry of its log marks its line. -/
theorem runText_errorLines (c : Controller) (text : List Char) :
    (c.runText text).summary.errorLines = 0 ↔ (c.runText text).Unmarked := by
  apply runLines_invariant (P := fun d => d.summary.errorLines = 0 ↔ d.Unmarked)
  · intro d text n total same
    rw [errorLines_openLine, unmarked_openLine, ← same]
    cases (d.read text n).isErrorLine <;> simp
  · intro d i same
    rw [errorLines_execute, unmarked_execute, same]
  · simp [reset, Unmarked]

theorem succeeded_iff {c : Controller} : c.succeeded = true ↔
    c.log = #[] ∨ (c.settings.strict = false ∧ c.summary.errorLines = 0) := by
  simp [succeeded]

/-- A run never counts more lines than its text has; if it leaves lines out, it was to halt. -/
theorem runText_coverage (c : Controller) (text : List Char) :
    (c.runText text).summary.totalLines ≤ (Text.lines text).length ∧
      ((c.runText text).summary.totalLines < (Text.lines text).length →
        (c.runText text).MustHalt) := by
  obtain ⟨n, halts, run⟩ := c.exists_haltsAfter text
  have total : (c.runText text).summary.totalLines = n := by
    rw [run]
    exact (c.afterLines_line text halts.bound).2
  rw [total]
  refine ⟨halts.bound, fun left => ?_⟩
  rw [run]
  exact halts.due left

/-- At a limit of zero nothing is read, so nothing is logged. -/
theorem runText_log_of_limit_zero (c : Controller) (text : List Char)
    (zero : c.settings.errorLimit = 0) : (c.runText text).log = #[] := by
  have halted : c.reset.isHalted = true := by
    rw [isHalted_iff]
    left
    simp [reset, zero]
  rw [runText, runLines_of_isHalted _ _ halted]
  rfl

/-- Among the runs that leave lines out, the successful ones are those that the error limit stopped
with nothing logged that marks its line. -/
theorem succeeded_of_lines_left (c : Controller) (text : List Char)
    (left : (c.runText text).summary.totalLines < (Text.lines text).length) :
    (c.runText text).succeeded = true ↔
      c.settings.errorLimit ≤ (c.runText text).log.size ∧
      (c.settings.strict = true → c.settings.errorLimit = 0) ∧ (c.runText text).Unmarked := by
  have halt := (c.runText_coverage text).2 left
  unfold MustHalt at halt
  rw [runText_settings] at halt
  rw [succeeded_iff, runText_settings, runText_errorLines]
  constructor
  · rintro (silent | ⟨tolerant, unmarked⟩)
    · rw [silent] at halt
      have zero : c.settings.errorLimit = 0 := by simpa using halt
      refine ⟨by omega, fun _ => zero, ?_⟩
      unfold Unmarked
      rw [silent]
      simp
    · have full : c.settings.errorLimit ≤ (c.runText text).log.size := by
        simpa [tolerant] using halt
      exact ⟨full, by simp [tolerant], unmarked⟩
  · rintro ⟨-, strict, unmarked⟩
    cases rule : c.settings.strict with
    | true => exact .inl (c.runText_log_of_limit_zero text (strict rule))
    | false => exact .inr ⟨rfl, unmarked⟩

end Controller

/-- Below the error limit success means that the whole program was read: a successful run has read
all lines if its log has not reached the limit, and so has a strict one unless the limit is zero.
Where lines are left, a run is a success just if the limit stopped it, it tolerates faults or the
limit is zero, and no entry of its log marks its line. -/
theorem success_covers_below_limit (c : Controller) (text : List Char) :
    ((c.runText text).succeeded = true →
      (c.runText text).log.size < c.settings.errorLimit ∨
        (c.settings.strict = true ∧ 0 < c.settings.errorLimit) →
      (c.runText text).summary.totalLines = (Text.lines text).length) ∧
    ((c.runText text).summary.totalLines < (Text.lines text).length →
      ((c.runText text).succeeded = true ↔
        c.settings.errorLimit ≤ (c.runText text).log.size ∧
        (c.settings.strict = true → c.settings.errorLimit = 0) ∧ (c.runText text).Unmarked)) := by
  have bound := (c.runText_coverage text).1
  constructor
  · intro success below
    by_cases left : (c.runText text).summary.totalLines < (Text.lines text).length
    · obtain ⟨full, strict, -⟩ := (c.succeeded_of_lines_left text left).mp success
      rcases below with room | ⟨rule, positive⟩
      · omega
      · have zero := strict rule
        omega
    · omega
  · intro left
    exact c.succeeded_of_lines_left text left

/-- An unknown code is logged and marks no line. -/
def unlistedProgram : List Char :=
  "G99\nG1 X1".toList

/-- At a limit of one the unknown code stops the run before its second line, which still counts as
a success. -/
theorem unlistedProgram_succeeds_unread :
    ¬∀ (c : Controller) (text : List Char), (c.runText text).succeeded = true →
      (c.runText text).summary.totalLines = (Text.lines text).length := by
  intro covers
  have success : ((({} : Controller).withLimit 1).runText unlistedProgram).succeeded = true := by
    decide +kernel
  have unread : ((({} : Controller).withLimit 1).runText unlistedProgram).summary.totalLines ≠
      (Text.lines unlistedProgram).length := by
    decide +kernel
  exact unread (covers _ _ success)

/-- At a limit of two the whole program is read. -/
theorem unlistedProgram_covered :
    ((({} : Controller).withLimit 2).runText unlistedProgram).succeeded = true ∧
    ((({} : Controller).withLimit 2).runText unlistedProgram).summary.totalLines =
      (Text.lines unlistedProgram).length ∧
    ((({} : Controller).withLimit 1).runText unlistedProgram).summary.totalLines <
      (Text.lines unlistedProgram).length ∧
    ((({} : Controller).withLimit 1).runText unlistedProgram).Unmarked := by
  have success : ((({} : Controller).withLimit 2).runText unlistedProgram).succeeded = true := by
    decide +kernel
  have room : ((({} : Controller).withLimit 2).runText unlistedProgram).log.size < 2 := by
    decide +kernel
  have left : ((({} : Controller).withLimit 1).runText unlistedProgram).summary.totalLines <
      (Text.lines unlistedProgram).length := by
    decide +kernel
  have early : ((({} : Controller).withLimit 1).runText unlistedProgram).succeeded = true := by
    decide +kernel
  obtain ⟨covers, -⟩ := success_covers_below_limit (({} : Controller).withLimit 2) unlistedProgram
  obtain ⟨-, limited⟩ := success_covers_below_limit (({} : Controller).withLimit 1) unlistedProgram
  exact ⟨success, covers success (.inl room), left, ((limited left).mp early).2.2⟩

end PartProgram
