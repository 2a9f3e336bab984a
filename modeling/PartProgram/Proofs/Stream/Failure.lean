import Mathlib.Data.List.DropRight
import PartProgram.Proofs.Stream.Laziness
import PartProgram.Proofs.Stream.Verdict

namespace PartProgram

namespace Source

variable (bytes : List UInt8)

/-- The bytes up to the last line feed. -/
def wholeLines : List UInt8 :=
  bytes.rdropWhile (· != 10)

theorem wholeLines_closed :
    wholeLines bytes = [] ∨ ∃ b ∈ (wholeLines bytes).getLast?, (b == 10) = true := by
  by_cases empty : wholeLines bytes = []
  · exact .inl empty
  · have last := List.rdropWhile_last_not (· != 10) bytes empty
    exact .inr ⟨_, List.getLast?_eq_getLast_of_ne_nil empty, by simpa [wholeLines] using last⟩

theorem exists_wholeLines_append :
    ∃ rest, wholeLines bytes ++ rest = bytes ∧ ∀ b ∈ rest, (b == 10) = false := by
  refine ⟨bytes.rtakeWhile (· != 10), List.rdropWhile_append_rtakeWhile .., ?_⟩
  intro b mem
  simpa using List.mem_rtakeWhile_imp mem

/-- There is a line for each line feed. -/
theorem length_cutAfter_wholeLines :
    (Text.cutAfter (· == 10) (wholeLines bytes)).length = bytes.count 10 := by
  obtain ⟨rest, joined, endless⟩ := exists_wholeLines_append bytes
  have none : rest.countP (· == 10) = 0 :=
    List.countP_eq_zero.mpr fun b mem => by simp [endless b mem]
  calc
    _ = (wholeLines bytes).countP (· == 10) := Text.length_cutAfter _ (wholeLines_closed bytes)
    _ = (wholeLines bytes ++ rest).countP (· == 10) := by
      rw [List.countP_append, none, Nat.add_zero]
    _ = bytes.count 10 := by rw [joined, List.count]

/-- A failure leaves the lines that were whole before it. -/
theorem ofBytes_failure (reason : String) : ofBytes bytes (some reason) =
    { lines := Text.cutAfter (· == 10) (wholeLines bytes), failure := some reason } := by
  obtain ⟨rest, joined, endless⟩ := exists_wholeLines_append bytes
  let isWhole (line : List UInt8) : Bool := line.getLast? == some 10
  have kept : ∀ line ∈ Text.cutAfter (· == 10) (wholeLines bytes), isWhole line = true := by
    intro line mem
    obtain ⟨b, last, feed⟩ := Text.getLast?_of_mem_cutAfter _ (wholeLines_closed bytes) line mem
    have feed : b = 10 := by simpa using feed
    have last : line.getLast? = some b := last
    simp [isWhole, last, feed]
  have dropped : ∀ line ∈ Text.cutAfter (· == 10) rest, ¬isWhole line = true := by
    intro line mem whole
    have last : line.getLast? = some 10 := by simpa [isWhole] using whole
    have read : 10 ∈ rest := by
      rw [← Text.flatten_cutAfter (· == 10) rest]
      exact List.mem_flatten_of_mem mem (List.mem_of_getLast? last)
    cases endless 10 read
  have lines : (Text.cutAfter (· == 10) bytes).filter isWhole =
      Text.cutAfter (· == 10) (wholeLines bytes) := by
    conv_lhs => rw [← joined]
    rw [Text.cutAfter_append _ (wholeLines_closed bytes), List.filter_append,
      List.filter_eq_self.mpr kept, List.filter_eq_nil_iff.mpr dropped, List.append_nil]
  exact congrArg (fun lines => Source.mk lines (some reason)) lines

-- what is left of a line is dropped though it could be read
example : (ofBytes "G0 X1\nG0 X2".toUTF8.toList (some "reset")).lines =
    ["G0 X1\n".toUTF8.toList] := by decide +kernel

end Source

namespace Controller

/-- A run that is not halted has counted all its lines. -/
theorem runLines_counts {c : Controller} {total n : Nat} {texts : List String}
    (line : c.machine.line = n) (count : c.summary.totalLines = n)
    (running : (c.runLines total (texts.zipIdx (n + 1))).isHalted = false) :
    (c.runLines total (texts.zipIdx (n + 1))).machine.line = n + texts.length ∧
    (c.runLines total (texts.zipIdx (n + 1))).summary.totalLines = n + texts.length := by
  induction texts generalizing c n with
  | nil => exact ⟨line, count⟩
  | cons text texts ih =>
    rw [List.zipIdx_cons] at running ⊢
    have going : c.isHalted = false := by
      cases halted : c.isHalted with
      | true =>
        rw [runLines_of_isHalted _ _ halted, halted] at running
        cases running
      | false => rfl
    rw [runLines_cons _ _ going] at running ⊢
    have rest := ih (c.runLine_line text (n + 1) total)
      (by rw [runLine_totalLines, count]) running
    have length : n + 1 + texts.length = n + (text :: texts).length := by
      rw [List.length_cons]
      omega
    rw [length] at rest
    exact rest

end Controller

/-- The failure of a source is logged once unless the run was halted before. -/
theorem Stream.closing_log {s : Stream} {reason : String}
    (failed : s.source.failure = some reason) (c : Controller) :
    (s.closing c).log.toList = c.log.toList ++
      if c.isHalted then []
      else [⟨s.line + s.source.lines.length + 1, "", .failedRead reason⟩] := by
  cases halted : c.isHalted with
  | true => rw [closing_of_isHalted _ halted, if_pos rfl, List.append_nil]
  | false =>
    rw [closing_of_failure_some failed halted, if_neg Bool.false_ne_true]
    simp [Controller.report, Controller.tell]

open Controller

/-- A failure to read ends a stream in order. Let a controller run the lines that were whole before
the failure in one go; what came after the last line feed makes no difference. The stream hands out
the segments of its toolpath one by one. The first time that no segment comes, the machine and the
summary are as this run leaves them, and its log is followed by the one fatal fault of the failure,
at the line after the last, unless the run was halted. From then on no segment comes and nothing
changes. -/
theorem failed_read_ends_stream (bytes : List UInt8) (reason : String) (settings : Settings) :
    let whole := bytes.rdropWhile (· != 10)
    let lines := ((Text.cutAfter (· == 10) whole).map Stream.lineText).zipIdx 1
    let run := (Stream.batch settings).runLines 0 lines
    let logged : List Entry :=
      if run.isHalted then [] else [⟨bytes.count 10 + 1, "", .failedRead reason⟩]
    let first := Stream.start (.ofBytes bytes (some reason)) settings
    first = Stream.start (.ofBytes whole (some reason)) settings ∧
    lines.length = bytes.count 10 ∧
    (run.isHalted = false →
      run.machine.line = bytes.count 10 ∧ run.summary.totalLines = bytes.count 10) ∧
    (∀ n, (first.afterNext n).next.1 = run.toolpath.toList[n]?) ∧
    (∀ n, run.toolpath.toList[n]? = none →
      let last := first.afterNext (n + 1)
      last.controller.machine = run.machine ∧
      last.controller.summary = run.summary ∧
      last.controller.log.toList = run.log.toList ++ logged ∧
      last.controller.log.toList.filter (·.fault.severity = .fatal) = logged ∧
      ∀ k, n < k →
        first.afterNext k = last ∧ (first.afterNext k).next = (none, first.afterNext k)) := by
  intro whole lines run logged first
  have source : Source.ofBytes bytes (some reason) =
      ⟨Text.cutAfter (· == 10) whole, some reason⟩ := Source.ofBytes_failure bytes reason
  have settled : Source.ofBytes whole (some reason) = Source.ofBytes bytes (some reason) := by
    have again : Source.wholeLines whole = whole := List.rdropWhile_idempotent ..
    rw [source, Source.ofBytes_failure, again]
  have numbered : first.numbered = lines := by
    rw [Stream.start_numbered, source]
  have count : (Text.cutAfter (· == 10) whole).length = bytes.count 10 :=
    Source.length_cutAfter_wholeLines bytes
  have length : lines.length = bytes.count 10 := by
    rw [List.length_zipIdx, List.length_map, count]
  have toCome : first.toCome = run.toolpath.toList := by
    rw [Stream.start_toCome, numbered]
  let ran := first.controller.runLines 0 lines
  have same : ran.SameCourse run :=
    (Stream.start_sameCourse _ settings).runLines 0 lines
  have outcome : first.outcome = first.closing ran := by
    have going : first.ended = false := rfl
    rw [Stream.outcome, going, if_neg Bool.false_ne_true, numbered]
  have log : (first.closing ran).log.toList = run.log.toList ++ logged := by
    have failed : first.source.failure = some reason := congrArg Source.failure source
    have left : first.source.lines = Text.cutAfter (· == 10) whole := congrArg Source.lines source
    have fresh : first.line = 0 := rfl
    rw [Stream.closing_log failed, same.log, same.isHalted, left, count, fresh, Nat.zero_add]
  have silent : run.log.toList.filter (·.fault.severity = .fatal) = [] := by
    have unbroken : ¬run.BrokenOff := not_brokenOff_runLines (not_brokenOff_of_log rfl) _ _
    rw [List.filter_eq_nil_iff]
    exact fun e mem fatal => unbroken ⟨e, mem, of_decide_eq_true fatal⟩
  have fatal : logged.filter (·.fault.severity = .fatal) = logged := by
    cases halted : run.isHalted <;> simp [logged, halted, Fault.severity]
  refine ⟨?_, length, fun running => ?_, ?_, fun n none => ?_⟩
  · exact (congrArg (Stream.start · settings) settled).symm
  · have counts := runLines_counts (c := Stream.batch settings) (n := 0) rfl rfl running
    simpa only [List.length_map, count, Nat.zero_add] using counts
  · rw [← toCome]
    exact first.next_afterNext
  · rw [← toCome] at none
    obtain ⟨controller, stays⟩ := first.afterNext_last none
    rw [outcome] at controller
    refine ⟨?_, ?_, ?_, ?_, stays⟩
    · rw [controller, Stream.closing_machine, same.machine]
    · rw [controller, Stream.closing_summary]
      apply same.summary
      rw [runLines_settings, runLines_settings]
      rfl
    · rw [controller, log]
    · rw [controller, log, List.filter_append, silent, fatal, List.nil_append]

end PartProgram
