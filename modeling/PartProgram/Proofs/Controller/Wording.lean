import PartProgram.Proofs.Controller.Agreement
import PartProgram.Proofs.Controller.Trace

namespace PartProgram

/-- The lines of a text, each without comments and white space and in upper case. -/
def Text.bareLines (text : List Char) : List (List Char) :=
  (Text.lines text).map fun line => Line.bare line.toList

theorem Text.numbered_bareLines (text : List Char) :
    ((lines text).zipIdx 1).map (fun l => (Line.bare l.1.toList, l.2)) =
      (bareLines text).zipIdx 1 := by
  rw [bareLines, List.zipIdx_map]
  rfl

/-- What a log says but for the texts it quotes. -/
def Entry.shown (e : Entry) : Nat × String × Severity :=
  (e.line, e.fault.message, e.fault.severity)

namespace Controller

theorem Agree.shown {a b : Controller} (h : a.Agree b) :
    a.log.toList.map (·.shown) = b.log.toList.map (·.shown) := by
  have shown := congrArg
    (List.map fun f : Nat × Fault => (f.1, f.2.message, f.2.severity)) h.log
  simp only [List.map_map] at shown
  exact shown

variable {t u : List Char}

theorem agree_runText (c : Controller) (same : Text.bareLines t = Text.bareLines u) :
    (c.runText t).Agree (c.runText u) ∧ (c.runText t).toolpath = (c.runText u).toolpath := by
  have lines : ((Text.lines t).zipIdx 1).map (fun l => (Line.bare l.1.toList, l.2)) =
      ((Text.lines u).zipIdx 1).map (fun l => (Line.bare l.1.toList, l.2)) := by
    rw [Text.numbered_bareLines, Text.numbered_bareLines, same]
  have start : c.reset.Agree c.reset := ⟨rfl, rfl, rfl, rfl⟩
  obtain ⟨agree, delivered⟩ := start.runLines lines (Text.lines t).length (Text.lines u).length
  refine ⟨agree, ?_⟩
  cases keeps : c.keepsToolpath with
  | true =>
    have keeps : c.reset.keepsToolpath = true := keeps
    rw [runText, runText, runLines_toolpath _ _ keeps, runLines_toolpath _ _ keeps, delivered]
  | false =>
    apply Array.toList_inj.mp
    rw [runText_toolpath, runText_toolpath, keeps, Bool.and_false]
    rfl

end Controller

/-- Comments and formatting never influence motion. Two texts whose lines are the same when bare
are run to the same end: the same outcome, machine and toolpath, the same summary but for the
number of comment lines, and the same findings in the log. -/
theorem runText_ignores_wording (c : Controller) (t u : List Char)
    (same : Text.bareLines t = Text.bareLines u) :
    (c.runText t).succeeded = (c.runText u).succeeded ∧
    (c.runText t).machine = (c.runText u).machine ∧
    (c.runText t).toolpath = (c.runText u).toolpath ∧
    (c.runText t).summary.withoutComments = (c.runText u).summary.withoutComments ∧
    (c.runText t).log.toList.map (·.shown) = (c.runText u).log.toList.map (·.shown) := by
  obtain ⟨agree, toolpath⟩ := c.agree_runText same
  exact ⟨agree.succeeded, agree.machine, toolpath, agree.summary, agree.shown⟩

def plainProgram : List Char :=
  "\nG1X2F3\nG97\nG2X4\n".toList

/-- The same with comments, blanks, small letters and other line ends. -/
def commentedProgram : List Char :=
  "(facing)\r\n g1 X2\tf3 ; first cut\r\n g97 (no such code)\r\nG2 (arc) x4".toList

theorem commentedProgram_runs_as_plainProgram :
    Text.bareLines commentedProgram = Text.bareLines plainProgram ∧
    (({} : Controller).runText commentedProgram).toolpath =
      (({} : Controller).runText plainProgram).toolpath ∧
    (({} : Controller).runText commentedProgram).log.toList.map (·.shown) =
      (({} : Controller).runText plainProgram).log.toList.map (·.shown) ∧
    (({} : Controller).runText commentedProgram).summary.commentLines = 1 ∧
    (({} : Controller).runText plainProgram).summary.commentLines = 0 := by
  have same : Text.bareLines commentedProgram = Text.bareLines plainProgram := by decide +kernel
  obtain ⟨-, -, toolpath, -, log⟩ := runText_ignores_wording {} _ _ same
  exact ⟨same, toolpath, log, by decide +kernel, by decide +kernel⟩

end PartProgram
