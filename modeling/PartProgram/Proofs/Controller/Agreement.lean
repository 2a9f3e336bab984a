import PartProgram.Proofs.Controller.Effects

namespace PartProgram

open Line

namespace Instruction

/-- The instruction without the text and the comment of its line. -/
def unlabelled (i : Instruction) : Instruction :=
  { i with text := "", comment := "" }

theorem fault?_unlabelled (i : Instruction) : i.unlabelled.fault? = i.fault? := rfl

theorem apply_unlabelled (m : Machine) (i : Instruction) : m.apply i.unlabelled = m.apply i := rfl

theorem segment?_unlabelled (m : Machine) (i : Instruction) :
    Step.segment? ⟨m, i.unlabelled⟩ = Step.segment? ⟨m, i⟩ := rfl

end Instruction

namespace Block

/-- The blocks differ in labels only. -/
def Alike (p q : Block) : Prop :=
  p.instructions.map (·.unlabelled) = q.instructions.map (·.unlabelled) ∧ p.faults = q.faults

theorem parse_alike {t u : String} (same : bare t.toList = bare u.toList) (line : Nat)
    (implied : Operation) (strict : Bool) :
    (parse t line implied strict).Alike (parse u line implied strict) := by
  unfold parse Alike
  rw [same]
  cases Words.read (bare u.toList) with
  | error bad => exact ⟨rfl, rfl⟩
  | ok words =>
    refine ⟨?_, rfl⟩
    simp only [List.map_map]
    rfl

theorem Alike.isErrorLine {p q : Block} (h : p.Alike q) : p.isErrorLine = q.isErrorLine := by
  unfold Block.isErrorLine
  rw [h.2]

theorem Alike.isEmpty {p q : Block} (h : p.Alike q) :
    p.instructions.isEmpty = q.instructions.isEmpty := by
  have sizes := congrArg List.isEmpty h.1
  simpa using sizes

theorem Alike.isCommandLine {p q : Block} (h : p.Alike q) :
    p.isCommandLine = q.isCommandLine := by
  rw [Block.isCommandLine, Block.isCommandLine, h.isErrorLine, h.isEmpty]

end Block

/-- The fault of an entry and the number of its line. -/
def Entry.finding (e : Entry) : Nat × Fault :=
  (e.line, e.fault)

namespace Summary

def withoutComments (s : Summary) : Summary :=
  { s with commentLines := 0 }

/-- Counting a line reads of its block only what alike blocks share. -/
theorem withoutComments_countLine (s : Summary) (b : Block) :
    (s.countLine b).withoutComments = { s.withoutComments with
      totalLines := s.withoutComments.totalLines + 1
      commandLines := s.withoutComments.commandLines + if b.isCommandLine then 1 else 0
      errorLines := s.withoutComments.errorLines + if b.isErrorLine then 1 else 0 } := by
  rw [countLine_eq]
  rfl

theorem countLine_alike {s t : Summary} (h : s.withoutComments = t.withoutComments)
    {p q : Block} (alike : p.Alike q) :
    (s.countLine p).withoutComments = (t.countLine q).withoutComments := by
  rw [withoutComments_countLine, withoutComments_countLine, alike.isErrorLine,
    alike.isCommandLine, h]

theorem withoutComments_countOperation (s : Summary) (i : Instruction) :
    (s.countOperation i).withoutComments = s.withoutComments.countOperation i := by
  unfold countOperation
  split <;> rfl

theorem withoutComments_listFeed (s : Summary) (word : Option Float) :
    (s.listFeed word).withoutComments = s.withoutComments.listFeed word := by
  unfold listFeed
  split <;> rfl

theorem withoutComments_addSegment (s : Summary) (g : Segment) :
    (s.addSegment g).withoutComments = s.withoutComments.addSegment g := by
  unfold addSegment
  dsimp only
  split <;> rfl

/-- The account of an instruction reads neither its labels nor the number of comment lines. -/
theorem withoutComments_record (s : Summary) (i : Instruction) (m : Machine)
    (segment : Option Segment) : (s.record i m segment).withoutComments =
      s.withoutComments.record i.unlabelled m segment := by
  have counted : s.withoutComments.countOperation i.unlabelled =
      (s.countOperation i).withoutComments := (withoutComments_countOperation s i).symm
  have axes : i.unlabelled.axes = i.axes := rfl
  have feed : i.unlabelled.feed = i.feed := rfl
  unfold record
  rw [counted, axes, feed]
  cases i.axes.anyLinear <;> cases segment <;>
    simp only [if_true, if_false, Bool.false_eq_true, withoutComments_listFeed,
      withoutComments_addSegment] <;> rfl

end Summary

namespace Controller

/-- What the two controllers have done is the same but for comments and the wording of lines. -/
structure Agree (a b : Controller) : Prop where
  machine : a.machine = b.machine
  settings : a.settings = b.settings
  summary : a.summary.withoutComments = b.summary.withoutComments
  log : a.log.toList.map (·.finding) = b.log.toList.map (·.finding)

variable {a b : Controller}

theorem Agree.isHalted (h : a.Agree b) : a.isHalted = b.isHalted := by
  have size : a.log.size = b.log.size := by simpa using congrArg List.length h.log
  have empty : a.log.isEmpty = b.log.isEmpty := by simp only [Array.isEmpty, size]
  unfold Controller.isHalted
  rw [h.settings, size, empty]

theorem Agree.succeeded (h : a.Agree b) : a.succeeded = b.succeeded := by
  have size : a.log.size = b.log.size := by simpa using congrArg List.length h.log
  have empty : a.log.isEmpty = b.log.isEmpty := by simp only [Array.isEmpty, size]
  have errors : a.summary.withoutComments.errorLines = b.summary.withoutComments.errorLines := by
    rw [h.summary]
  have errors : a.summary.errorLines = b.summary.errorLines := errors
  unfold Controller.succeeded
  rw [h.settings, empty, errors]

theorem Agree.read (h : a.Agree b) {t u : String} (same : bare t.toList = bare u.toList)
    (line : Nat) : (a.read t line).Alike (b.read u line) := by
  unfold Controller.read
  rw [h.machine, h.settings]
  exact Block.parse_alike same line _ _

theorem Agree.openLine (h : a.Agree b) {t u : String} (same : bare t.toList = bare u.toList)
    (line k l : Nat) : (a.openLine t line k).Agree (b.openLine u line l) where
  machine := by rw [openLine_machine, openLine_machine, h.machine]
  settings := by rw [openLine_settings, openLine_settings, h.settings]
  summary := by
    rw [openLine_summary, openLine_summary]
    exact Summary.countLine_alike h.summary (h.read same line)
  log := by
    have faults : (a.read t line).faults = (b.read u line).faults := (h.read same line).2
    simp only [openLine_log, Array.toList_appendList, List.map_append, List.map_map, h.log, faults]
    rfl

/-- Instructions that differ in labels only are carried out alike. -/
theorem Agree.execute (h : a.Agree b) {i j : Instruction} (same : i.unlabelled = j.unlabelled) :
    (a.execute i).1.Agree (b.execute j).1 where
  machine := by
    rw [execute_machine, execute_machine, ← i.apply_unlabelled, ← j.apply_unlabelled, same,
      h.machine]
  settings := by rw [execute_settings, execute_settings, h.settings]
  summary := by
    have moved : a.machine.apply i = b.machine.apply j := by
      rw [← i.apply_unlabelled, ← j.apply_unlabelled, same, h.machine]
    have segment : (a.step i).segment? = (b.step j).segment? := by
      rw [step, step, ← i.segment?_unlabelled, ← j.segment?_unlabelled, same, h.machine]
    rw [execute_summary, execute_summary, h.settings]
    split
    · rw [Summary.withoutComments_record, Summary.withoutComments_record, same, moved, segment,
        h.summary]
    · exact h.summary
  log := by
    have fault : i.fault? = j.fault? := by
      rw [← i.fault?_unlabelled, ← j.fault?_unlabelled, same]
    have line : i.unlabelled.line = j.unlabelled.line := by rw [same]
    have line : i.line = j.line := line
    simp only [execute_log, Array.toList_appendList, List.map_append, List.map_map, h.log, fault,
      line]
    rfl

theorem Agree.delivered (h : a.Agree b) {i j : Instruction} (same : i.unlabelled = j.unlabelled) :
    a.delivered i = b.delivered j := by
  unfold Controller.delivered step
  rw [← i.segment?_unlabelled, ← j.segment?_unlabelled, same, h.machine, h.settings]

theorem Agree.executeAll (h : a.Agree b) {is js : List Instruction}
    (same : is.map (·.unlabelled) = js.map (·.unlabelled)) :
    (a.executeAll is).1.Agree (b.executeAll js).1 ∧
      (a.executeAll is).2 = (b.executeAll js).2 := by
  induction is generalizing a b js with
  | nil =>
    have none : js = [] := by simpa using same.symm
    rw [none]
    exact ⟨h, rfl⟩
  | cons i is ih =>
    cases js with
    | nil => cases same
    | cons j js =>
      obtain ⟨first, rest⟩ := List.cons.inj same
      have tail := ih (h.execute first) rest
      rw [executeAll_cons, executeAll_cons, h.delivered first]
      exact ⟨tail.1, congrArg ((b.delivered j).toList ++ ·) tail.2⟩

theorem Agree.runLine (h : a.Agree b) {t u : String} (same : bare t.toList = bare u.toList)
    (line k l : Nat) : (a.runLine t line k).1.Agree (b.runLine u line l).1 ∧
      (a.runLine t line k).2 = (b.runLine u line l).2 := by
  rw [runLine_eq, runLine_eq]
  exact (h.openLine same line k l).executeAll (h.read same line).1

/-- Numbered lines that are the same when bare are run alike, up to the same halt. -/
theorem Agree.runLines (h : a.Agree b) {ls ms : List (String × Nat)}
    (same : ls.map (fun l => (bare l.1.toList, l.2)) = ms.map (fun l => (bare l.1.toList, l.2)))
    (k l : Nat) : (a.runLines k ls).Agree (b.runLines l ms) ∧
      a.deliveredAll k ls = b.deliveredAll l ms := by
  induction ls generalizing a b ms with
  | nil =>
    have none : ms = [] := by simpa using same.symm
    rw [none]
    exact ⟨h, rfl⟩
  | cons x ls ih =>
    cases ms with
    | nil => cases same
    | cons y ms =>
      obtain ⟨first, rest⟩ := List.cons.inj same
      obtain ⟨text, line⟩ := Prod.mk.inj first
      cases halted : a.isHalted with
      | true =>
        have halted' : b.isHalted = true := by rw [← h.isHalted, halted]
        rw [runLines_of_isHalted _ _ halted, runLines_of_isHalted _ _ halted',
          deliveredAll_of_isHalted _ _ halted, deliveredAll_of_isHalted _ _ halted']
        exact ⟨h, rfl⟩
      | false =>
        have running : b.isHalted = false := by rw [← h.isHalted, halted]
        have step := h.runLine text x.2 k l
        rw [line] at step
        have tail := ih step.1 rest
        rw [runLines_cons _ _ halted, runLines_cons _ _ running, deliveredAll_cons _ _ halted,
          deliveredAll_cons _ _ running, line, step.2]
        exact ⟨tail.1, congrArg ((b.runLine y.1 y.2 l).2 ++ ·) tail.2⟩

end Controller

end PartProgram
