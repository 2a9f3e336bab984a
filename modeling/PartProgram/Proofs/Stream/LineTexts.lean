import PartProgram.Proofs.Controller.Classification
import PartProgram.Proofs.Controller.Course
import PartProgram.Proofs.Line.Returns
import PartProgram.Proofs.Stream.Draining

namespace PartProgram

open Text

theorem zipIdx_take {α : Type} (l : List α) (n k : Nat) :
    (l.zipIdx k).take n = (l.take n).zipIdx k := by
  induction l generalizing n k with
  | nil => simp
  | cons a l ih => cases n <;> simp [ih]

/-- The entry, quoting its line without any carriage returns at its end. -/
def Entry.withoutReturns (e : Entry) : Entry :=
  { e with text := Text.withoutReturns e.text }

theorem Entry.withoutReturns_eq_self {e : Entry} :
    e.withoutReturns = e ↔ ¬EndsInReturn e.text := by
  rw [← Text.withoutReturns_eq_self]
  obtain ⟨line, text, fault⟩ := e
  simp [Entry.withoutReturns]

namespace Block

theorem Alike.findings {p q : Block} (h : p.Alike q) (line : p.line = q.line) :
    p.entries.map (·.finding) = q.entries.map (·.finding) := by
  have own (b : Block) : b.entries.map (·.finding) = b.faults.map (b.line, ·) ++
      (b.instructions.map (·.unlabelled)).filterMap fun i => i.fault?.map (i.line, ·) := by
    rw [entries, List.map_append, List.map_map, List.map_filterMap, List.filterMap_map]
    congr 1
    apply List.filterMap_congr
    intro i _
    rw [Instruction.logged?, Option.map_map]
    rfl
  rw [own, own, h.1, h.2, line]

/-- Without the returns at its end a line logs the same, but quotes itself without them. -/
theorem parse_entries_withoutReturns (text : String) (line : Nat) (implied : Operation)
    (strict : Bool) : (parse (Text.withoutReturns text) line implied strict).entries =
      (parse text line implied strict).entries.map (·.withoutReturns) := by
  have alike := parse_alike (Line.bare_withoutReturns text) line implied strict
  have findings := alike.findings (by rw [parse_line, parse_line])
  -- a line quotes nothing but itself, so its findings make up its entries
  let quote (f : Nat × Fault) : Entry := ⟨f.1, Text.withoutReturns text, f.2⟩
  calc (parse (Text.withoutReturns text) line implied strict).entries
      = ((parse (Text.withoutReturns text) line implied strict).entries.map (·.finding)).map
          quote := by
        rw [List.map_map]
        refine (List.map_id _).symm.trans (List.map_congr_left fun e mem => ?_)
        have own := (of_mem_entries (Text.withoutReturns text) line implied strict mem).2.1
        show e = ⟨e.line, Text.withoutReturns text, e.fault⟩
        rw [← own]
    _ = ((parse text line implied strict).entries.map (·.finding)).map quote := by rw [findings]
    _ = (parse text line implied strict).entries.map (·.withoutReturns) := by
        rw [List.map_map]
        refine List.map_congr_left fun e mem => ?_
        have own := (of_mem_entries text line implied strict mem).2.1
        show (⟨e.line, Text.withoutReturns text, e.fault⟩ : Entry) = e.withoutReturns
        rw [← own]
        rfl

end Block

namespace LineStep

/-- The line counts as a comment line, but its comment is nothing without the returns at its
end. -/
def losesComment (s : LineStep) : Bool :=
  s.isCommentLine && (Line.comment (Text.withoutReturns s.text).toList).isEmpty

theorem isFlawed_withoutReturns (text : String) :
    Line.isFlawed (Text.withoutReturns text) = Line.isFlawed text := by
  unfold Line.isFlawed Line.wordsRead
  rw [Line.bare_withoutReturns]

/-- Where the returns are cut off, a comment line is lost just if it loses its comment. -/
theorem isCommentLine_withoutReturns {a b : Controller} (agree : a.Agree b) (text : String)
    (line : Nat) : let s : LineStep := ⟨b, text, line⟩
    (if s.isCommentLine then 1 else 0) =
      (if isCommentLine ⟨a, Text.withoutReturns text, line⟩ then 1 else 0) +
        if s.losesComment then 1 else 0 := by
  intro s
  have blocks := (agree.read (Line.bare_withoutReturns text) line).isEmpty
  have own : isCommentLine ⟨a, Text.withoutReturns text, line⟩ =
      (s.isCommentLine && !(Line.comment (Text.withoutReturns text).toList).isEmpty) := by
    simp only [isCommentLine, block, isFlawed_withoutReturns, blocks, s]
    cases kept : Line.comment text.toList with
    | nil => simp [Line.comment_withoutReturns kept]
    | cons c rest => simp
  rw [own, losesComment]
  cases s.isCommentLine <;>
    cases (Line.comment (Text.withoutReturns text).toList).isEmpty <;> rfl

end LineStep

namespace Controller

/-- The first controller has run the lines of the second without the returns at their ends, and
some of the comment lines are lost by that. -/
structure Trims (a b : Controller) (lost : Nat) : Prop where
  agree : a.Agree b
  log : a.log.toList = b.log.toList.map (·.withoutReturns)
  comments : b.summary.commentLines = a.summary.commentLines + lost

variable {a b : Controller} {lost : Nat}

theorem Trims.runLine (h : a.Trims b lost) (text : String) (line k l : Nat) :
    (a.runLine (Text.withoutReturns text) line k).1.Trims (b.runLine text line l).1
      (lost + if LineStep.losesComment ⟨b, text, line⟩ then 1 else 0) where
  agree := (h.agree.runLine (Line.bare_withoutReturns text) line k l).1
  log := by
    have entries := Block.parse_entries_withoutReturns text line (.move b.machine.motion)
      b.settings.strict
    rw [runLine_log, runLine_log, List.map_append, h.log, Controller.read, Controller.read,
      h.agree.machine, h.agree.settings, entries]
  comments := by
    have comments (c : Controller) (text : String) (total : Nat) :
        (c.runLine text line total).1.summary.commentLines = c.summary.commentLines +
          if LineStep.isCommentLine ⟨c, text, line⟩ then 1 else 0 := by
      have counts := c.runLine_lineCounts text line total
      have counted := LineStep.countLine_lineCounts ⟨c, text, line⟩ c.summary
      exact congrArg (·.2.2.1) (counts.trans counted)
    have here := LineStep.isCommentLine_withoutReturns h.agree text line
    rw [comments, comments, h.comments]
    omega

/-- A run of the first lines without the returns at their ends, next to the run of the text. -/
theorem trims_afterLines (c : Controller) (text : List Char) (h : a.Trims c.reset 0) {n : Nat}
    (bound : n ≤ (Text.lines text).length) :
    (a.runAll 0 ((((Text.lines text).take n).map Text.withoutReturns).zipIdx 1)).Trims
      (c.afterLines text n) ((c.lineSteps text n).countP (·.losesComment)) := by
  induction n with
  | zero => exact h
  | succ n ih =>
    have earlier := ih (Nat.le_of_succ_le bound)
    have before : ((Text.lines text).take n).length = n :=
      List.length_take_of_le (Nat.le_of_succ_le bound)
    rw [List.take_succ_eq_append_getElem bound, List.map_append, List.zipIdx_append, runAll_append,
      afterLines_succ c text bound, lineSteps_succ c text bound, List.countP_append,
      List.countP_singleton, List.length_map, before, Nat.add_comm 1 n]
    exact earlier.runLine (Text.lines text)[n] (n + 1) 0 (Text.lines text).length

/-- Which lines lose their comment does not depend on what is built and collected. -/
theorem countP_losesComment {a b : Controller} (strict : a.settings.strict = b.settings.strict)
    (limit : a.settings.errorLimit = b.settings.errorLimit) (text : List Char) (n : Nat) :
    (a.lineSteps text n).countP (·.losesComment) =
      (b.lineSteps text n).countP (·.losesComment) := by
  rw [lineSteps, lineSteps, List.countP_map, List.countP_map]
  apply List.countP_congr
  intro l _
  have read := (sameCourse_afterLines strict limit text l.2).read l.1 (l.2 + 1)
  simp only [Function.comp_apply, LineStep.losesComment, LineStep.isCommentLine, LineStep.block,
    read]

end Controller

namespace Stream

/-- The lines of a stream over bytes are those of the text, without the returns at their ends. -/
theorem lineTexts (bytes : List UInt8) : (Source.ofBytes bytes).lines.map lineText =
    (Text.lines (Text.decodeLossy bytes)).map Text.withoutReturns := by
  have pieces := Text.cutAfter_decodeLossy bytes
  have trimmed := Text.trimEnd_cutAfter (Text.decodeLossy bytes)
  have source : (Source.ofBytes bytes).lines = Text.cutAfter (· == Text.lineFeed) bytes := rfl
  have texts : (Source.ofBytes bytes).lines.map lineText =
      ((Text.cutAfter (· == '\n') (Text.decodeLossy bytes)).map Text.trimEnd).map
        String.ofList := by
    rw [pieces, source, List.map_map, List.map_map]
    rfl
  rw [texts, trimmed, Text.lines, List.map_map, List.map_map]
  simp [Function.comp_def, Text.withoutReturns]

/-- A stream is drained as the text is run, up to the same line, but each line is run without the
returns at its end. -/
theorem exists_drains_trimmed (bytes : List UInt8) (settings : Settings) :
    let text := Text.decodeLossy bytes
    let built : Controller := { settings := { settings with toolpath := true } }
    let first := start (.ofBytes bytes) settings
    ∃ n last, built.HaltsAfter text n ∧
      Drains first (first.controller.deliveredAll 0 first.numbered) last ∧
      last.controller = first.controller.runAll 0
        ((((Text.lines text).take n).map Text.withoutReturns).zipIdx 1) ∧
      last.controller.Trims (built.afterLines text n)
        ((built.lineSteps text n).countP (·.losesComment)) := by
  intro text built first
  have start : first.controller.Trims built.reset 0 := ⟨⟨rfl, rfl, rfl, rfl⟩, rfl, rfl⟩
  have numbered (k : Nat) : first.numbered.take k =
      (((Text.lines text).take k).map Text.withoutReturns).zipIdx 1 := by
    have texts : first.source.lines.map lineText = (Text.lines text).map Text.withoutReturns :=
      lineTexts bytes
    rw [Stream.numbered, texts, zipIdx_take, List.map_take]
    rfl
  have length : first.numbered.length = (Text.lines text).length := by
    simpa [first, text] using congrArg List.length (lineTexts bytes)
  have trims {k : Nat} (bound : k ≤ (Text.lines text).length) :
      (first.controller.runAll 0 (first.numbered.take k)).Trims (built.afterLines text k)
        ((built.lineSteps text k).countP (·.losesComment)) := by
    rw [numbered]
    exact Controller.trims_afterLines built text start bound
  have halt {k : Nat} (bound : k ≤ (Text.lines text).length) :
      (first.controller.runAll 0 (first.numbered.take k)).MustHalt ↔
        (built.afterLines text k).MustHalt := by
    rw [← Controller.isHalted_iff, ← Controller.isHalted_iff, (trims bound).agree.isHalted]
  obtain ⟨n, bound, run, due, early⟩ :=
    first.controller.runLines_eq_runAll_take 0 first.numbered
  rw [length] at bound due
  obtain ⟨last, drained, final⟩ := exists_drains (s := first) rfl rfl rfl
  rw [run] at final
  refine ⟨n, last, ⟨bound, ?_, ?_⟩, drained, ?_, ?_⟩
  · exact fun left => (halt bound).mp (due left)
  · exact fun k before => mt (halt (by omega)).mpr (early k before)
  · rw [final, numbered]
  · rw [final]
    exact trims bound

end Stream

open Controller

/-- How the texts of lines differ between a stream over bytes and the run of a file that holds them.
Both halt after the same line. Up to it the stream hands over each line of the text without the
returns at its end, so the texts are the same just if no line ends in one. It quotes the lines so in
the log, and it counts as comment lines those that have a comment then. The machine and the rest of
the summary are the same. -/
theorem stream_drops_returns (bytes : List UInt8) (settings : Settings) (path : String) :
    let text := Text.decodeLossy bytes
    let fresh : Controller := { settings }
    let batch := (fresh.runFile path (some bytes)).1
    let first := Stream.start (.ofBytes bytes) settings
    ∃ (n : Nat) (seen : List String) (segments : List Segment) (last : Stream),
      fresh.HaltsAfter text n ∧ seen = (Text.lines text).take n ∧
      batch = fresh.reset.runAll (Text.lines text).length (seen.zipIdx 1) ∧
      (∀ gs s, Stream.Drains first gs s ↔ gs = segments ∧ s = last) ∧
      (first.source.lines.take n).map Stream.lineText = seen.map Text.withoutReturns ∧
      last.controller =
        first.controller.runAll 0 (((first.source.lines.take n).map Stream.lineText).zipIdx 1) ∧
      (seen.map Text.withoutReturns = seen ↔ ∀ t ∈ seen, ¬Text.EndsInReturn t) ∧
      last.controller.log.toList = batch.log.toList.map (·.withoutReturns) ∧
      (last.controller.log = batch.log ↔ ∀ e ∈ batch.log.toList, ¬Text.EndsInReturn e.text) ∧
      batch.summary.commentLines = last.controller.summary.commentLines +
        (fresh.lineSteps text n).countP (·.losesComment) ∧
      last.controller.summary.withoutComments = batch.summary.withoutComments ∧
      last.controller.machine = batch.machine := by
  intro text fresh batch first
  let built : Controller := { settings := { settings with toolpath := true } }
  have strict : built.settings.strict = fresh.settings.strict := rfl
  have limit : built.settings.errorLimit = fresh.settings.errorLimit := rfl
  obtain ⟨n, last, halts, drained, final, trims⟩ := Stream.exists_drains_trimmed bytes settings
  have halts : fresh.HaltsAfter text n := (haltsAfter_iff strict limit text n).mp halts
  have ran : batch = fresh.afterLines text n := halts.runText
  -- whether the toolpath is built makes no difference to the log and the summary
  have course : (built.afterLines text n).SameCourse batch := by
    rw [ran]
    exact sameCourse_afterLines strict limit text n
  have summary : (built.afterLines text n).summary = batch.summary := course.summary (by
    rw [ran, afterLines_settings, afterLines_settings])
  have log : last.controller.log.toList = batch.log.toList.map (·.withoutReturns) := by
    rw [trims.log, course.log]
  have handed : (first.source.lines.take n).map Stream.lineText =
      ((Text.lines text).take n).map Text.withoutReturns := by
    have texts : first.source.lines.map Stream.lineText =
        (Text.lines text).map Text.withoutReturns := Stream.lineTexts bytes
    rw [List.map_take, texts, List.map_take]
  have fixed {α : Type} {f : α → α} {l : List α} : l.map f = l ↔ ∀ x ∈ l, f x = x :=
    calc l.map f = l ↔ l.map f = l.map id := by rw [List.map_id]
      _ ↔ ∀ x ∈ l, f x = x := List.map_inj_left
  refine ⟨n, _, _, last, halts, rfl, ?_, fun gs s => ⟨fun h => h.unique drained, ?_⟩, handed, ?_,
    ?_, log, ?_, ?_, ?_, trims.agree.machine.trans course.machine⟩
  · rw [ran, afterLines, zipIdx_take]
  · rintro ⟨rfl, rfl⟩
    exact drained
  · rw [final, handed]
  · simp only [fixed, Text.withoutReturns_eq_self]
  · rw [← Array.toList_inj, log, fixed]
    simp only [Entry.withoutReturns_eq_self]
  · rw [← summary, trims.comments, countP_losesComment strict limit text n]
  · rw [trims.agree.summary, summary]

/-- After the returns that the first line keeps there is nothing on the second but an empty
comment. -/
def returnedProgram : List UInt8 :=
  "G99\r\r\n;\r".toUTF8.toList

/-- The stream quotes the first line without its return and finds no comment on the second. -/
theorem returnedProgram_trimmed :
    let batch := (({} : Controller).runFile "returned.nc" (some returnedProgram)).1
    let first := Stream.start (.ofBytes returnedProgram) {}
    ∃ segments last, Stream.Drains first segments last ∧
      first.numbered.map (·.1) = ["G99", ";"] ∧
      Text.lines (Text.decodeLossy returnedProgram) = ["G99\r", ";\r"] ∧
      last.controller.log.toList.map (·.text) = ["G99"] ∧
      batch.log.toList.map (·.text) = ["G99\r"] ∧
      last.controller.summary.commentLines = 0 ∧ batch.summary.commentLines = 1 := by
  intro batch first
  obtain ⟨last, drained, final⟩ := Stream.exists_drains (s := first) rfl rfl rfl
  refine ⟨_, last, drained, ?_, ?_, ?_, ?_, ?_, ?_⟩
  · decide +kernel
  · decide +kernel
  · rw [final]
    decide +kernel
  · decide +kernel
  · rw [final]
    decide +kernel
  · decide +kernel

end PartProgram
