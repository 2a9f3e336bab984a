import PartProgram.Proofs.Controller.Halting

namespace PartProgram

namespace Summary

theorem lineCounts_countLine {s t : Summary} (h : s.lineCounts = t.lineCounts) (b : Block) :
    (s.countLine b).lineCounts = (t.countLine b).lineCounts := by
  have total : s.totalLines = t.totalLines := totalLines_congr h
  have command : s.commandLines = t.commandLines := congrArg (·.2.1) h
  have comment : s.commentLines = t.commentLines := congrArg (·.2.2.1) h
  have error : s.errorLines = t.errorLines := congrArg (·.2.2.2) h
  simp [countLine_eq, lineCounts, total, command, comment, error]

/-- A summary in which lines are counted and nothing else is recorded. -/
def countsOnly (s : Summary) : Summary where
  totalLines := s.totalLines
  commandLines := s.commandLines
  commentLines := s.commentLines
  errorLines := s.errorLines

theorem countLine_countsOnly {s : Summary} (h : s = s.countsOnly) (b : Block) :
    s.countLine b = (s.countLine b).countsOnly := by
  rw [h, countLine_eq]
  rfl

end Summary

namespace Controller

/-- The controllers go on alike. Their toolpaths may differ if one is not built or not kept, and
their summaries if one is not collected. -/
structure SameCourse (a b : Controller) : Prop where
  machine : a.machine = b.machine
  log : a.log = b.log
  counts : a.summary.lineCounts = b.summary.lineCounts
  strict : a.settings.strict = b.settings.strict
  limit : a.settings.errorLimit = b.settings.errorLimit
  toolpath : a.keepsToolpath = b.keepsToolpath → a.settings.toolpath = b.settings.toolpath →
    a.toolpath = b.toolpath
  summary : a.settings.statistics = b.settings.statistics → a.summary = b.summary

/-- After a reset the rule for halting is all that matters. -/
theorem sameCourse_reset {a b : Controller} (strict : a.settings.strict = b.settings.strict)
    (limit : a.settings.errorLimit = b.settings.errorLimit) : a.reset.SameCourse b.reset :=
  ⟨rfl, rfl, rfl, strict, limit, fun _ _ => rfl, fun _ => rfl⟩

namespace SameCourse

variable {a b : Controller} (h : a.SameCourse b)

include h

theorem read (text : String) (line : Nat) : a.read text line = b.read text line := by
  simp [Controller.read, h.machine, h.strict]

theorem step (i : Instruction) : a.step i = b.step i := by
  simp [Controller.step, h.machine]

theorem mustHalt : a.MustHalt ↔ b.MustHalt := by
  simp [MustHalt, h.log, h.strict, h.limit]

theorem succeeded : a.succeeded = b.succeeded := by
  have error : a.summary.errorLines = b.summary.errorLines := congrArg (·.2.2.2) h.counts
  simp [Controller.succeeded, h.log, h.strict, error]

theorem openLine (text : String) (line total : Nat) :
    (a.openLine text line total).SameCourse (b.openLine text line total) where
  machine := by simp [h.machine]
  log := by simp [h.log, h.read]
  counts := by simpa [h.read] using Summary.lineCounts_countLine h.counts _
  strict := by simp [h.strict]
  limit := by simp [h.limit]
  toolpath := by simpa using h.toolpath
  summary collects := by
    have same : a.summary = b.summary := h.summary (by simpa using collects)
    simp [same, h.read]

theorem execute (i : Instruction) : (a.execute i).1.SameCourse (b.execute i).1 where
  machine := by simp [h.machine]
  log := by simp [h.log]
  counts := by rw [execute_lineCounts, execute_lineCounts, h.counts]
  strict := by simp [h.strict]
  limit := by simp [h.limit]
  toolpath keeps builds := by
    have keeps : a.keepsToolpath = b.keepsToolpath := by simpa using keeps
    have builds : a.settings.toolpath = b.settings.toolpath := by simpa using builds
    simp [delivered, keeps, builds, h.toolpath keeps builds, h.step]
  summary collects := by
    have collects : a.settings.statistics = b.settings.statistics := by simpa using collects
    simp [collects, h.summary collects, h.machine, h.step]

theorem executeAll (instructions : List Instruction) :
    (a.executeAll instructions).1.SameCourse (b.executeAll instructions).1 :=
  executeAll_relation (fun _ _ i same => same.execute i) h instructions

theorem runLine (text : String) (line total : Nat) :
    (a.runLine text line total).1.SameCourse (b.runLine text line total).1 := by
  rw [runLine_eq, runLine_eq, h.read]
  exact (h.openLine text line total).executeAll _

theorem runAll (total : Nat) (lines : List (String × Nat)) :
    (a.runAll total lines).SameCourse (b.runAll total lines) := by
  induction lines generalizing a b with
  | nil => exact h
  | cons l lines ih =>
    rw [runAll_cons, runAll_cons]
    exact ih (h.runLine l.1 l.2 total)

theorem isHalted : a.isHalted = b.isHalted := by
  unfold Controller.isHalted
  rw [h.log, h.strict, h.limit]

theorem runLines (total : Nat) (lines : List (String × Nat)) :
    (a.runLines total lines).SameCourse (b.runLines total lines) :=
  runLines_relation (fun same => same.isHalted) (fun same text line => same.runLine text line total)
    h lines

section segments

variable (builds : a.settings.toolpath = b.settings.toolpath)

include builds

/-- What is handed out does not depend on whether it is kept. -/
theorem executeAll_segments (instructions : List Instruction) :
    (a.executeAll instructions).2 = (b.executeAll instructions).2 := by
  induction instructions generalizing a b with
  | nil => rfl
  | cons i rest ih =>
    have own : a.delivered i = b.delivered i := by simp [delivered, builds, h.step]
    have later := ih (h.execute i) (by rw [execute_settings, execute_settings, builds])
    rw [executeAll_cons, executeAll_cons, own, later]

theorem runLine_segments (text : String) (line total : Nat) :
    (a.runLine text line total).2 = (b.runLine text line total).2 := by
  rw [runLine_eq, runLine_eq, h.read]
  exact (h.openLine text line total).executeAll_segments
    (by rw [openLine_settings, openLine_settings, builds]) _

theorem deliveredAll (total : Nat) (lines : List (String × Nat)) :
    a.deliveredAll total lines = b.deliveredAll total lines := by
  induction lines generalizing a b with
  | nil => rfl
  | cons l lines ih =>
    have halt := h.isHalted
    cases halted : b.isHalted with
    | true =>
      rw [halted] at halt
      rw [deliveredAll_of_isHalted _ _ halt, deliveredAll_of_isHalted _ _ halted]
    | false =>
      rw [halted] at halt
      have own := h.runLine_segments builds l.1 l.2 total
      have later := ih (h.runLine l.1 l.2 total)
        (by rw [runLine_settings, runLine_settings, builds])
      rw [deliveredAll_cons _ _ halt, deliveredAll_cons _ _ halted, own, later]

end segments

end SameCourse

section texts

variable {a b : Controller} (strict : a.settings.strict = b.settings.strict)
  (limit : a.settings.errorLimit = b.settings.errorLimit) (text : List Char)

include strict limit

theorem sameCourse_afterLines (n : Nat) :
    (a.afterLines text n).SameCourse (b.afterLines text n) :=
  (sameCourse_reset strict limit).runAll _ _

theorem haltsAfter_iff (n : Nat) : a.HaltsAfter text n ↔ b.HaltsAfter text n := by
  have halt (k : Nat) := (sameCourse_afterLines strict limit text k).mustHalt
  constructor
  · intro h
    exact ⟨h.bound, fun left => (halt n).mp (h.due left),
      fun k before => mt (halt k).mpr (h.early k before)⟩
  · intro h
    exact ⟨h.bound, fun left => (halt n).mpr (h.due left),
      fun k before => mt (halt k).mp (h.early k before)⟩

/-- Runs of one text under the same rule for halting take the same course. -/
theorem sameCourse_runText : (a.runText text).SameCourse (b.runText text) := by
  obtain ⟨n, halts, run⟩ := a.exists_haltsAfter text
  have run' := ((haltsAfter_iff strict limit text n).mp halts).runText
  rw [run, run']
  exact sameCourse_afterLines strict limit text n

end texts

/-- What a run leaves behind but for the toolpath: its outcome, machine, summary and log. -/
def results (c : Controller) : Bool × Machine × Summary × Array Entry :=
  (c.succeeded, c.machine, c.summary, c.log)

theorem SameCourse.results {a b : Controller} (h : a.SameCourse b)
    (collects : a.settings.statistics = b.settings.statistics) : a.results = b.results := by
  simp [Controller.results, h.succeeded, h.machine, h.log, h.summary collects]

section sameSettings

variable {a b : Controller} (settings : a.settings = b.settings) (text : List Char)

include settings

theorem sameCourse_of_settings : (a.runText text).SameCourse (b.runText text) := by
  apply sameCourse_runText <;> rw [settings]

/-- Under the same settings runs of one text come to the same. -/
theorem runText_results : (a.runText text).results = (b.runText text).results := by
  apply (sameCourse_of_settings settings text).results
  rw [runText_settings, runText_settings, settings]

theorem runText_toolpath_congr (keeps : a.keepsToolpath = b.keepsToolpath) :
    (a.runText text).toolpath = (b.runText text).toolpath := by
  apply (sameCourse_of_settings settings text).toolpath
  · rw [runText_keepsToolpath, runText_keepsToolpath, keeps]
  · rw [runText_settings, runText_settings, settings]

end sameSettings

/-- The controller with its outputs switched on or off. -/
def withOutputs (c : Controller) (toolpath statistics : Bool) : Controller :=
  { c with settings := { c.settings with toolpath, statistics } }

theorem runText_summary_of_uncollected (c : Controller) (text : List Char)
    (off : c.settings.statistics = false) :
    (c.runText text).summary = (c.runText text).summary.countsOnly := by
  apply runText_induction (c := c) (P := fun d _ => d.summary = d.summary.countsOnly)
  · intro d trace text n total counts
    rw [openLine_summary]
    exact Summary.countLine_countsOnly counts _
  · intro d trace i settings _ counts
    simpa [settings, off] using counts
  · rfl

end Controller

/-- Output switches do not change the interpretation. Whatever is built and collected, a run has
the same outcome, machine, log and counts of lines and halts after the same line. The toolpath is
the same wherever it is built and empty elsewhere; the summary is the same wherever it is collected,
even if no toolpath is built, and counts nothing but lines elsewhere. -/
theorem outputs_leave_course (c : Controller) (text : List Char)
    (built built' collected collected' : Bool) :
    let a := c.withOutputs built collected
    let b := c.withOutputs built' collected'
    (a.runText text).succeeded = (b.runText text).succeeded ∧
    (a.runText text).machine = (b.runText text).machine ∧
    (a.runText text).log = (b.runText text).log ∧
    (a.runText text).summary.lineCounts = (b.runText text).summary.lineCounts ∧
    (∀ n, a.HaltsAfter text n ↔ b.HaltsAfter text n) ∧
    ((c.withOutputs true collected).runText text).toolpath =
      ((c.withOutputs true collected').runText text).toolpath ∧
    ((c.withOutputs false collected).runText text).toolpath = #[] ∧
    ((c.withOutputs built true).runText text).summary =
      ((c.withOutputs built' true).runText text).summary ∧
    ((c.withOutputs built false).runText text).summary =
      ((c.withOutputs built false).runText text).summary.countsOnly := by
  intro a b
  have course (built built' collected collected' : Bool) :
      ((c.withOutputs built collected).runText text).SameCourse
        ((c.withOutputs built' collected').runText text) := by
    apply Controller.sameCourse_runText <;> rfl
  have settings (built collected : Bool) : ((c.withOutputs built collected).runText text).settings =
      { c.settings with toolpath := built, statistics := collected } :=
    Controller.runText_settings _ text
  have keeps (built collected : Bool) :
      ((c.withOutputs built collected).runText text).keepsToolpath = c.keepsToolpath :=
    Controller.runText_keepsToolpath _ text
  have same := course built built' collected collected'
  refine ⟨same.succeeded, same.machine, same.log, same.counts, ?_, ?_, ?_, ?_, ?_⟩
  · intro n
    apply Controller.haltsAfter_iff <;> rfl
  · apply (course true true collected collected').toolpath
    · rw [keeps, keeps]
    · rw [settings, settings]
  · apply Array.toList_inj.mp
    rw [Controller.runText_toolpath]
    rfl
  · apply (course built built' true true).summary
    rw [settings, settings]
  · exact Controller.runText_summary_of_uncollected _ text rfl

end PartProgram
