import PartProgram.Proofs.Controller.LineLog
import PartProgram.Proofs.Stream.Draining

namespace PartProgram

namespace Controller

/-- The log holds a fault after which nothing more could be read. -/
def BrokenOff (c : Controller) : Prop :=
  ∃ e ∈ c.log.toList, e.fault.severity = .fatal

instance (c : Controller) : Decidable c.BrokenOff :=
  inferInstanceAs (Decidable (∃ e ∈ c.log.toList, e.fault.severity = .fatal))

theorem not_brokenOff_of_log {c : Controller} (silent : c.log = #[]) : ¬c.BrokenOff := by
  rintro ⟨e, mem, -⟩
  rw [silent] at mem
  cases mem

section lines

variable {c : Controller} (whole : ¬c.BrokenOff)

include whole

theorem not_brokenOff_openLine (text : String) (line total : Nat) :
    ¬(c.openLine text line total).BrokenOff := by
  rintro ⟨e, mem, fatal⟩
  rw [openLine_log, Array.toList_appendList] at mem
  rcases List.mem_append.mp mem with old | new
  · exact whole ⟨e, old, fatal⟩
  · obtain ⟨fault, found, rfl⟩ := List.mem_map.mp new
    cases (Block.severity_of_mem_faults found).symm.trans fatal

theorem not_brokenOff_execute (i : Instruction) : ¬(c.execute i).1.BrokenOff := by
  rintro ⟨e, mem, fatal⟩
  rw [execute_log, Array.toList_appendList] at mem
  rcases List.mem_append.mp mem with old | new
  · exact whole ⟨e, old, fatal⟩
  · obtain ⟨fault, found, rfl⟩ := List.mem_map.mp new
    cases (Instruction.severity_of_fault? (by simpa using found)).symm.trans fatal

/-- No line breaks a run off. -/
theorem not_brokenOff_runLines (total : Nat) (lines : List (String × Nat)) :
    ¬(c.runLines total lines).BrokenOff :=
  runLines_invariant (P := fun d => ¬d.BrokenOff)
    (fun _ text n total whole => not_brokenOff_openLine whole text n total)
    (fun _ i whole => not_brokenOff_execute whole i) whole total lines

end lines

theorem brokenOff_report {c : Controller} (whole : ¬c.BrokenOff) (entry : Entry) :
    (c.report entry).BrokenOff ↔ entry.fault.severity = .fatal := by
  have log : (c.report entry).log.toList = c.log.toList ++ [entry] := Array.toList_push ..
  unfold BrokenOff
  rw [log]
  constructor
  · rintro ⟨e, mem, fatal⟩
    rcases List.mem_append.mp mem with old | new
    · exact absurd ⟨e, old, fatal⟩ whole
    · rw [← List.mem_singleton.mp new]
      exact fatal
  · intro fatal
    exact ⟨entry, by simp, fatal⟩

/-- A run that was broken off is no success just if it was strict or an error line came before. -/
theorem BrokenOff.succeeded {c : Controller} (h : c.BrokenOff) :
    c.succeeded = false ↔ c.settings.strict = true ∨ 0 < c.summary.errorLines := by
  obtain ⟨e, mem, -⟩ := h
  have logged : c.log.isEmpty = false := by
    rw [Bool.eq_false_iff]
    intro empty
    rw [Array.isEmpty_iff.mp empty] at mem
    cases mem
  unfold Controller.succeeded
  rw [logged, Bool.false_or]
  cases c.settings.strict <;> simp [Nat.pos_iff_ne_zero]

theorem runFile_brokenOff (c : Controller) (path : String) (content : Option (List UInt8)) :
    (c.runFile path content).1.BrokenOff ↔ content = none := by
  have fresh : ¬c.reset.BrokenOff := not_brokenOff_of_log rfl
  cases content with
  | some bytes =>
    have whole : ¬(c.runText (Text.decodeLossy bytes)).BrokenOff :=
      not_brokenOff_runLines fresh _ _
    exact ⟨fun broken => absurd broken whole, nofun⟩
  | none =>
    have broken := (brokenOff_report fresh ⟨0, "", .unreadableFile path⟩).mpr rfl
    exact ⟨fun _ => rfl, fun _ => broken⟩

theorem runFile_verdict (c : Controller) (path : String) (content : Option (List UInt8)) :
    (c.runFile path content).1.succeeded = (c.runFile path content).2 ↔
      content ≠ none ∨ c.settings.strict = true := by
  cases content with
  | some bytes => simp [runFile]
  | none =>
    have broken := (c.runFile_brokenOff path none).mpr rfl
    have settings : (c.runFile path none).1.settings = c.settings := rfl
    have clean : (c.runFile path none).1.summary.errorLines = 0 := rfl
    have verdict : (c.runFile path none).2 = false := rfl
    rw [verdict, broken.succeeded, settings, clean]
    simp

end Controller

namespace Stream

theorem closing_brokenOff (s : Stream) {c : Controller} (whole : ¬c.BrokenOff) :
    (s.closing c).BrokenOff ↔ s.source.failure ≠ none ∧ c.isHalted = false := by
  cases halted : c.isHalted with
  | true =>
    rw [s.closing_of_isHalted halted]
    simpa using whole
  | false =>
    cases failure : s.source.failure with
    | none =>
      rw [closing_of_failure_none failure]
      simpa using whole
    | some reason =>
      rw [closing_of_failure_some failure halted, Controller.brokenOff_report whole]
      simp [Fault.severity]

end Stream

open Controller

/-- When success means that all was read. The controller counts the run of a file as a success just
if it was one, except that a file that cannot be read counts as a success where faults are
tolerated. What breaks a run off is such a file, or the failure of a stream that was not halted
before. A run that was broken off counts as no success just if it was strict or an error line came
before. -/
theorem succeeded_after_reading (c : Controller) (path : String) (content : Option (List UInt8))
    (source : Source) (settings : Settings) :
    ((c.runFile path content).1.succeeded = (c.runFile path content).2 ↔
      content ≠ none ∨ c.settings.strict = true) ∧
    ((c.runFile path content).1.BrokenOff ↔ content = none) ∧
    (let first := Stream.start source settings
      let run := first.controller.runLines 0 first.numbered
      ∃ last, (∀ segments s, Stream.Drains first segments s ↔
          segments = first.controller.deliveredAll 0 first.numbered ∧ s = last) ∧
        (last.controller.BrokenOff ↔ source.failure ≠ none ∧ run.isHalted = false) ∧
        (last.controller.BrokenOff → (last.controller.succeeded = false ↔
          settings.strict = true ∨ 0 < run.summary.errorLines))) ∧
    (c.BrokenOff →
      (c.succeeded = false ↔ c.settings.strict = true ∨ 0 < c.summary.errorLines)) := by
  refine ⟨c.runFile_verdict path content, c.runFile_brokenOff path content, ?_,
    fun broken => broken.succeeded⟩
  intro first run
  obtain ⟨last, drained, final⟩ := Stream.exists_drains_closing (s := first) rfl rfl
  have whole : ¬run.BrokenOff := not_brokenOff_runLines (not_brokenOff_of_log rfl) _ _
  have strict : run.settings.strict = settings.strict := by
    rw [runLines_settings]
    rfl
  refine ⟨last, fun segments s => ⟨fun h => h.unique drained, ?_⟩, ?_, fun broken => ?_⟩
  · rintro ⟨rfl, rfl⟩
    exact drained
  · rw [final]
    exact Stream.closing_brokenOff first whole
  · rw [broken.succeeded, final, Stream.closing_settings, Stream.closing_summary, strict]

/-- A file that cannot be read has failed, but the controller counts it as a success. -/
theorem missingFile_succeeds :
    let after := ({} : Controller).runFile "missing.nc" none
    after.2 = false ∧ after.1.succeeded = true ∧ after.1.BrokenOff := by
  decide +kernel

/-- A stream that fails on its second line is no success where the first one was an error line, and
neither is a missing file where no fault is tolerated. -/
theorem brokenOff_unsuccessful :
    let source : Source := .ofBytes "G1 X\nG1 X2".toUTF8.toList (some "connection reset")
    let strict : Controller := { settings := { strict := true } }
    (∃ segments last, Stream.Drains (.start source {}) segments last ∧
      last.controller.BrokenOff ∧ last.controller.succeeded = false) ∧
    (strict.runFile "missing.nc" none).1.succeeded = false := by
  intro source strict
  let after := (strict.runFile "missing.nc" none).1
  obtain ⟨-, -, ⟨last, drains, failed, success⟩, verdict⟩ :=
    succeeded_after_reading after "missing.nc" none source {}
  have failed := failed.mpr ⟨by decide, by decide +kernel⟩
  refine ⟨⟨_, last, (drains _ last).mpr ⟨rfl, rfl⟩, failed, ?_⟩, ?_⟩
  · exact (success failed).mpr (.inr (by decide +kernel))
  · exact (verdict (by decide +kernel)).mpr (.inl rfl)

end PartProgram
