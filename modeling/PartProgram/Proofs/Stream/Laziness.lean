import Mathlib.Data.List.Nodup
import PartProgram.Proofs.Controller.LineLog
import PartProgram.Proofs.Controller.Reuse

namespace PartProgram

namespace Controller

variable (c : Controller)

theorem line_of_delivered {i : Instruction} {g : Segment} (found : c.delivered i = some g) :
    g.line = i.line := by
  unfold delivered at found
  split at found
  · exact Step.line_of_segment? found
  · cases found

theorem line_of_mem_executeAll {line : Nat} {instructions : List Instruction}
    (own : ∀ i ∈ instructions, i.line = line) :
    ∀ g ∈ (c.executeAll instructions).2, g.line = line := by
  induction instructions generalizing c with
  | nil => simp [executeAll]
  | cons i rest ih =>
    intro g mem
    rw [executeAll_cons] at mem
    rcases List.mem_append.mp mem with here | later
    · rw [c.line_of_delivered (by simpa using here), own i (List.mem_cons_self ..)]
    · exact ih (c.execute i).1 (fun j there => own j (List.mem_cons_of_mem _ there)) g later

/-- The segments that a line hands out bear its number. -/
theorem line_of_mem_runLine (text : String) (line total : Nat) :
    ∀ g ∈ (c.runLine text line total).2, g.line = line := by
  rw [runLine_eq]
  apply line_of_mem_executeAll
  intro i mem
  exact (Block.of_mem_parse text line _ _ mem).1

theorem deliveredAll_append (total : Nat) (front rest : List (String × Nat)) :
    c.deliveredAll total (front ++ rest) =
      c.deliveredAll total front ++ (c.runLines total front).deliveredAll total rest := by
  induction front generalizing c with
  | nil => rfl
  | cons l front ih =>
    rw [List.cons_append]
    cases halted : c.isHalted with
    | true => simp [deliveredAll_of_isHalted _ _ halted, runLines_of_isHalted _ _ halted]
    | false => simp [deliveredAll_cons _ _ halted, runLines_cons _ _ halted, ih]

theorem line_of_mem_deliveredAll {total : Nat} {lines : List (String × Nat)} {g : Segment}
    (mem : g ∈ c.deliveredAll total lines) : g.line ∈ lines.map (·.2) := by
  induction lines generalizing c with
  | nil => cases mem
  | cons l lines ih =>
    rw [List.map_cons]
    cases halted : c.isHalted with
    | true =>
      rw [deliveredAll_of_isHalted _ _ halted] at mem
      cases mem
    | false =>
      rw [deliveredAll_cons _ _ halted] at mem
      rcases List.mem_append.mp mem with own | later
      · rw [c.line_of_mem_runLine l.1 l.2 total g own]
        exact List.mem_cons_self ..
      · exact List.mem_cons_of_mem _ (ih _ later)

/-- Of a run of lines with different numbers, what bears the number of a line is all that the line
hands out. -/
theorem filter_deliveredAll {total : Nat} {front rest : List (String × Nat)} {l : String × Nat}
    (apart : ((front ++ l :: rest).map (·.2)).Nodup)
    (running : (c.runLines total front).isHalted = false) :
    (c.deliveredAll total (front ++ l :: rest)).filter (·.line = l.2) =
      ((c.runLines total front).runLine l.1 l.2 total).2 := by
  rw [List.map_append, List.map_cons, List.nodup_middle, List.nodup_cons, List.mem_append] at apart
  have elsewhere {d : Controller} {lines : List (String × Nat)} (apart : l.2 ∉ lines.map (·.2)) :
      (d.deliveredAll total lines).filter (·.line = l.2) = [] := by
    rw [List.filter_eq_nil_iff]
    intro g mem same
    have same : g.line = l.2 := of_decide_eq_true same
    exact apart (same ▸ d.line_of_mem_deliveredAll mem)
  have own : ((c.runLines total front).runLine l.1 l.2 total).2.filter (·.line = l.2) =
      ((c.runLines total front).runLine l.1 l.2 total).2 := by
    rw [List.filter_eq_self]
    intro g mem
    exact decide_eq_true (line_of_mem_runLine _ _ _ _ g mem)
  rw [deliveredAll_append, deliveredAll_cons _ _ running, List.filter_append, List.filter_append,
    elsewhere fun mem => apart.1 (.inl mem), elsewhere fun mem => apart.1 (.inr mem), own,
    List.nil_append, List.append_nil]

end Controller

namespace Stream

theorem next_of_ended {s : Stream} (empty : s.pending = []) (finished : s.ended = true) :
    s.next = (none, s) := by
  obtain ⟨controller, ⟨lines, failure⟩, line, pending, ended⟩ := s
  cases empty
  cases finished
  cases lines <;> simp [next, advance]

/-- How a segment is asked for: one may wait, or the stream may be over or come to its end, or a
line is taken and the stream is asked again. -/
theorem next_induction {P : Stream → Option Segment × Stream → Prop}
    (waiting : ∀ s g rest, s.pending = g :: rest → P s (some g, { s with pending := rest }))
    (finished : ∀ s, s.pending = [] → s.ended = true → P s (none, s))
    (halt : ∀ s, s.pending = [] → s.ended = false → s.controller.isHalted = true →
      P s (none, { s with ended := true }))
    (close : ∀ s, s.pending = [] → s.ended = false → s.controller.isHalted = false →
      s.source.lines = [] → P s (none, s.finish))
    (line : ∀ s bytes rest r, s.pending = [] → s.ended = false → s.controller.isHalted = false →
      s.source.lines = bytes :: rest → P (s.takeLine bytes rest) r → P s r)
    (s : Stream) : P s s.next := by
  -- without a look at the source
  have early (s : Stream) (answered : ¬(s.pending = [] ∧ s.ended = false ∧
      s.controller.isHalted = false)) : P s s.next := by
    cases pending : s.pending with
    | cons g rest =>
      have next : s.next = (some g, { s with pending := rest }) := by simp [next, pending]
      rw [next]
      exact waiting s g rest pending
    | nil =>
      cases ended : s.ended with
      | true =>
        rw [next_of_ended pending ended]
        exact finished s pending ended
      | false =>
        have halted : s.controller.isHalted = true := by simpa [pending, ended] using answered
        rw [next_of_isHalted pending halted]
        exact halt s pending ended halted
  generalize lines : s.source.lines = pieces
  induction pieces generalizing s with
  | nil =>
    by_cases going : s.pending = [] ∧ s.ended = false ∧ s.controller.isHalted = false
    · obtain ⟨pending, ended, running⟩ := going
      rw [next_of_lines_nil pending lines ended running]
      exact close s pending ended running lines
    · exact early s going
  | cons bytes rest ih =>
    by_cases going : s.pending = [] ∧ s.ended = false ∧ s.controller.isHalted = false
    · obtain ⟨pending, ended, running⟩ := going
      rw [next_takeLine pending lines ended running]
      exact line s bytes rest _ pending ended running lines (ih _ (s.takeLine_lines bytes rest))
    · exact early s going

/-- What has still to be handed out. -/
def toCome (s : Stream) : List Segment :=
  s.pending ++ if s.ended then [] else s.controller.deliveredAll 0 s.numbered

/-- The controller that is left at the end. -/
def outcome (s : Stream) : Controller :=
  if s.ended then s.controller else s.closing (s.controller.runLines 0 s.numbered)

/-- Taking a line brings its segments nearer and loses nothing. -/
theorem takeLine_toCome {s : Stream} {bytes : List UInt8} {rest : List (List UInt8)}
    (empty : s.pending = []) (lines : s.source.lines = bytes :: rest) (going : s.ended = false)
    (running : s.controller.isHalted = false) :
    (s.takeLine bytes rest).toCome = s.toCome ∧ (s.takeLine bytes rest).outcome = s.outcome := by
  constructor
  · simp [toCome, empty, going, takeLine_numbered lines, Controller.deliveredAll_cons _ _ running]
  · simp [outcome, going, takeLine_numbered lines, takeLine_closing lines,
      Controller.runLines_cons _ _ running]

/-- The answer is the first segment that has to come; the others and the outcome stay as they are.
No segment is the answer only at the end. -/
structure Answers (s : Stream) (answer : Option Segment × Stream) : Prop where
  first : answer.1 = s.toCome.head?
  others : answer.2.toCome = s.toCome.tail
  outcome : answer.2.outcome = s.outcome
  last : answer.1 = none → answer.2.pending = [] ∧ answer.2.ended = true

/-- At the end there is nothing to come. -/
theorem answers_none {s t : Stream} (nothing : s.toCome = []) (empty : t.pending = [])
    (finished : t.ended = true) (outcome : t.controller = s.outcome) : s.Answers (none, t) where
  first := by rw [nothing, List.head?_nil]
  others := by
    rw [nothing]
    simp [toCome, empty, finished]
  outcome := by rw [← outcome, Stream.outcome, finished, if_pos rfl]
  last _ := ⟨empty, finished⟩

theorem finish_eq {s : Stream} (lines : s.source.lines = [])
    (running : s.controller.isHalted = false) :
    s.finish = { s with controller := s.closing s.controller, ended := true } := by
  rw [← finish_controller lines running]
  unfold finish
  split <;> rfl

theorem answers_next (s : Stream) : s.Answers s.next := by
  -- however many lines are taken for one answer, none changes what has to come or the outcome
  apply next_induction
  case waiting =>
    intro s g rest pending
    have first : s.toCome = g :: { s with pending := rest }.toCome := by
      simp [toCome, pending, numbered]
    exact ⟨by rw [first]; rfl, by rw [first]; rfl, rfl,
      fun none => absurd none (Option.some_ne_none g)⟩
  case finished =>
    intro s pending finished
    have nothing : s.toCome = [] := by simp [toCome, pending, finished]
    exact answers_none nothing pending finished (by simp [outcome, finished])
  case halt =>
    intro s pending going halted
    have nothing : s.toCome = [] := by
      simp [toCome, pending, Controller.deliveredAll_of_isHalted _ _ halted]
    have outcome : s.controller = s.outcome := by
      rw [outcome, Controller.runLines_of_isHalted _ _ halted, closing_of_isHalted _ halted,
        ite_self]
    exact answers_none nothing pending rfl outcome
  case close =>
    intro s pending going running lines
    have none : s.numbered = [] := by simp [numbered, lines]
    have nothing : s.toCome = [] := by simp [toCome, pending, none, Controller.deliveredAll]
    have outcome : s.closing s.controller = s.outcome := by
      simp [outcome, going, none, Controller.runLines]
    rw [finish_eq lines running]
    exact answers_none nothing pending rfl outcome
  case line =>
    intro s bytes rest r pending going running lines answers
    obtain ⟨toCome, outcome⟩ := takeLine_toCome pending lines going running
    exact ⟨toCome ▸ answers.first, toCome ▸ answers.others, outcome ▸ answers.outcome, answers.last⟩

section afterNext

variable (s : Stream)

theorem afterNext_succ (n : Nat) : s.afterNext (n + 1) = (s.afterNext n).next.2 :=
  Function.iterate_succ_apply' _ n s

theorem afterNext_toCome (n : Nat) : (s.afterNext n).toCome = s.toCome.drop n := by
  induction n with
  | zero => rfl
  | succ n ih => rw [afterNext_succ, (answers_next _).others, ih, List.tail_drop]

theorem afterNext_outcome (n : Nat) : (s.afterNext n).outcome = s.outcome := by
  induction n with
  | zero => rfl
  | succ n ih => rw [afterNext_succ, (answers_next _).outcome, ih]

/-- The segments are handed out in order. -/
theorem next_afterNext (n : Nat) : (s.afterNext n).next.1 = s.toCome[n]? := by
  rw [(answers_next _).first, afterNext_toCome, List.head?_drop]

/-- After the last segment the stream stays as it is, and asking again gives no segment. -/
theorem afterNext_last {n : Nat} (last : s.toCome[n]? = none) :
    (s.afterNext (n + 1)).controller = s.outcome ∧
    ∀ k, n < k → s.afterNext k = s.afterNext (n + 1) ∧
      (s.afterNext k).next = (none, s.afterNext k) := by
  obtain ⟨empty, finished⟩ := (answers_next (s.afterNext n)).last (by rw [next_afterNext, last])
  rw [← afterNext_succ] at empty finished
  have stays := next_of_ended empty finished
  refine ⟨?_, fun k later => ?_⟩
  · rw [← s.afterNext_outcome (n + 1), outcome, if_pos finished]
  · have same : s.afterNext k = s.afterNext (n + 1) := by
      induction later with
      | refl => rfl
      | step _ ih => rw [afterNext_succ, ih, stays]
    exact ⟨same, by rw [same]; exact stays⟩

end afterNext

/-- The stream is one that was started as `first` and has run the lines it has read, but for what
its end has added. What is pending is of the last of these lines. -/
structure InStep (first s : Stream) : Prop where
  left : s.source.lines = first.source.lines.drop s.line
  machine : s.controller.machine.line = s.line
  count : s.controller.summary.totalLines = s.line
  pending : ∀ g ∈ s.pending, g.line = s.line
  finished : s.ended = true → s.pending = []
  run : s.ended = false → s.controller = first.controller.runLines 0 (first.numbered.take s.line)

theorem inStep_start (source : Source) (settings : Settings) :
    InStep (start source settings) (start source settings) where
  left := rfl
  machine := rfl
  count := rfl
  pending := List.forall_mem_nil _
  finished := nofun
  run _ := rfl

namespace InStep

variable {first s : Stream} (h : InStep first s)

include h

theorem takeLine {bytes : List UInt8} {rest : List (List UInt8)} (fresh : first.line = 0)
    (lines : s.source.lines = bytes :: rest) (going : s.ended = false)
    (running : s.controller.isHalted = false) : InStep first (s.takeLine bytes rest) := by
  have ahead : first.source.lines.drop s.line = bytes :: rest := h.left.symm.trans lines
  have next : first.numbered[s.line]? = some (lineText bytes, s.line + 1) := by
    have taken : first.source.lines[s.line]? = some bytes := by
      rw [← List.head?_drop, ahead, List.head?_cons]
    simp [numbered, List.getElem?_zipIdx, taken, fresh, Nat.add_comm]
  constructor
  · rw [takeLine_lines, takeLine_line, ← List.drop_drop, ahead, List.drop_succ_cons,
      List.drop_zero]
  · rw [takeLine_controller, takeLine_line, Controller.runLine_line]
  · rw [takeLine_controller, takeLine_line, Controller.runLine_totalLines, h.count]
  · rw [takeLine_pending, takeLine_line]
    exact s.controller.line_of_mem_runLine _ _ _
  · intro finished
    rw [takeLine_ended, going] at finished
    cases finished
  · intro _
    rw [takeLine_controller, takeLine_line, List.take_add_one, next, Controller.runLines_append,
      ← h.run going, Option.toList_some, Controller.runLines_cons _ _ running]
    rfl

end InStep

/-- A segment is handed out while its own line is the last that was read. -/
theorem inStep_next {first : Stream} (fresh : first.line = 0) (s : Stream) (h : InStep first s) :
    InStep first s.next.2 ∧
      ∀ g, s.next.1 = some g → s.next.2.line = g.line ∧ s.next.2.ended = false := by
  revert h
  apply next_induction (P := fun s r => InStep first s →
    InStep first r.2 ∧ ∀ g, r.1 = some g → r.2.line = g.line ∧ r.2.ended = false)
  case waiting =>
    intro s g rest pending h
    -- with a segment pending the end has not added anything to the run
    have going : s.ended = false := by
      rw [Bool.eq_false_iff]
      intro finished
      rw [h.finished finished] at pending
      cases pending
    refine ⟨{ h with pending := ?_, finished := ?_ }, ?_⟩
    · intro g' later
      exact h.pending g' (by rw [pending]; exact List.mem_cons_of_mem _ later)
    · intro finished
      rw [going] at finished
      cases finished
    · intro g' here
      obtain rfl : g = g' := Option.some.inj here
      exact ⟨(h.pending g (by rw [pending]; exact List.mem_cons_self ..)).symm, going⟩
  case finished =>
    intro s _ _ h
    exact ⟨h, fun _ found => nomatch found⟩
  case halt =>
    intro s pending _ _ h
    exact ⟨{ h with finished := fun _ => pending, run := nofun }, fun _ found => nomatch found⟩
  case close =>
    intro s pending _ running lines h
    rw [finish_eq lines running]
    refine ⟨{ h with machine := ?_, count := ?_, finished := fun _ => pending, run := nofun },
      fun _ found => nomatch found⟩
    · simp [h.machine]
    · simp [h.count]
  case line =>
    intro s bytes rest r _ going running lines ih h
    exact ih (h.takeLine fresh lines going running)

theorem InStep.afterNext {first : Stream} (fresh : first.line = 0) {s : Stream}
    (h : InStep first s) (n : Nat) : InStep first (s.afterNext n) := by
  induction n with
  | zero => exact h
  | succ n ih =>
    rw [afterNext_succ]
    exact (inStep_next fresh _ ih).1

/-- When a segment comes the lines up to its own have been run, and no more. -/
theorem afterNext_of_segment {source : Source} {settings : Settings} {n : Nat} {g : Segment}
    (found : (start source settings).toCome[n]? = some g) :
    let first := start source settings
    let now := first.afterNext (n + 1)
    now.controller = first.controller.runLines 0 (first.numbered.take g.line) ∧
    now.controller.machine.line = g.line ∧
    now.controller.summary.totalLines = g.line ∧
    now.source.lines = source.lines.drop g.line := by
  intro first now
  have before : InStep first (first.afterNext n) := (inStep_start source settings).afterNext rfl n
  obtain ⟨step, own⟩ := inStep_next rfl _ before
  obtain ⟨line, going⟩ := own g (by rw [next_afterNext, found])
  rw [← afterNext_succ] at step line going
  rw [← line]
  exact ⟨step.run going, step.machine, step.count, step.left⟩

/-- The controller that runs lines in one go under the settings of a stream. It keeps the
toolpath. -/
def batch (settings : Settings) : Controller :=
  { settings := { settings with toolpath := true } }

section start

variable (source : Source) (settings : Settings)

theorem start_sameCourse : (start source settings).controller.SameCourse (batch settings) :=
  ⟨rfl, rfl, rfl, rfl, rfl, (fun keeps => nomatch keeps), fun _ => rfl⟩

theorem start_results (lines : List (String × Nat)) :
    ((start source settings).controller.runLines 0 lines).results =
      ((batch settings).runLines 0 lines).results := by
  apply ((start_sameCourse source settings).runLines 0 lines).results
  rw [Controller.runLines_settings, Controller.runLines_settings]
  rfl

theorem batch_toolpath (lines : List (String × Nat)) :
    ((batch settings).runLines 0 lines).toolpath.toList =
      (batch settings).deliveredAll 0 lines := by
  rw [Controller.runLines_toolpath _ _ rfl]
  simp [batch]

/-- A stream hands out the toolpath of its lines. -/
theorem start_toCome : (start source settings).toCome =
    ((batch settings).runLines 0 (start source settings).numbered).toolpath.toList := by
  rw [batch_toolpath]
  exact (start_sameCourse source settings).deliveredAll rfl 0 _

end start

end Stream

/-- A stream is lazy, in order and fused. Let a controller run the lines of the bytes in one go.
Asked again and again, the stream hands out the segments of its toolpath one by one. When one comes,
the stream has run the lines up to that of the segment and has read no others: its controller is
left as the run is after these lines. A line that is run hands out all its segments, also if the
run halts on it. The first time that no segment comes, the controller is left as by the whole run;
from then on none comes and nothing changes. -/
theorem stream_reads_line_by_line (bytes : List UInt8) (settings : Settings) :
    let first := Stream.start (.ofBytes bytes) settings
    let pieces := Text.cutAfter (· == 10) bytes
    let lines := (pieces.map Stream.lineText).zipIdx 1
    let run (n : Nat) := (Stream.batch settings).runLines 0 (lines.take n)
    let whole := run lines.length
    (∀ n, (first.afterNext n).next.1 = whole.toolpath.toList[n]?) ∧
    (∀ n g, whole.toolpath.toList[n]? = some g →
      let now := first.afterNext (n + 1)
      now.controller.results = (run g.line).results ∧
      now.controller.machine.line = g.line ∧
      now.controller.summary.totalLines = g.line ∧
      now.source.lines = pieces.drop g.line) ∧
    (∀ n (here : n < lines.length), (run n).isHalted = false →
      whole.toolpath.toList.filter (·.line = n + 1) =
        ((run n).runLine lines[n].1 (n + 1) 0).2) ∧
    (∀ n, whole.toolpath.toList[n]? = none →
      let last := first.afterNext (n + 1)
      last.controller.results = whole.results ∧
      ∀ k, n < k →
        first.afterNext k = last ∧ (first.afterNext k).next = (none, first.afterNext k)) := by
  intro first pieces lines run whole
  have results (n : Nat) :
      (first.controller.runLines 0 (lines.take n)).results = (run n).results :=
    Stream.start_results _ settings _
  have all : lines.take lines.length = lines := List.take_length
  have toCome : first.toCome = whole.toolpath.toList := by
    have started := Stream.start_toCome (.ofBytes bytes) settings
    rw [Stream.start_numbered] at started
    rw [started]
    exact congrArg (fun l => ((Stream.batch settings).runLines 0 l).toolpath.toList) all.symm
  have outcome : first.outcome = first.controller.runLines 0 (lines.take lines.length) := by
    rw [all]
    exact Stream.closing_of_failure_none (s := first) rfl _
  rw [← toCome]
  refine ⟨first.next_afterNext, fun n g found => ?_, fun n here running => ?_, fun n none => ?_⟩
  · obtain ⟨controller, line, count, left⟩ := Stream.afterNext_of_segment found
    exact ⟨(congrArg Controller.results controller).trans (results g.line), line, count, left⟩
  · have split : lines = lines.take n ++ lines[n] :: lines.drop (n + 1) := by
      rw [← List.drop_eq_getElem_cons here, List.take_append_drop]
    have number : lines[n].2 = n + 1 := by simp [lines, Nat.add_comm]
    have apart : ((lines.take n ++ lines[n] :: lines.drop (n + 1)).map (·.2)).Nodup := by
      rw [← split, List.zipIdx_map_snd]
      exact List.nodup_range'
    have own := (Stream.batch settings).filter_deliveredAll apart running
    rw [← split, number, ← Stream.batch_toolpath] at own
    rw [toCome]
    simp only [whole, run, all]
    exact own
  · obtain ⟨controller, stays⟩ := first.afterNext_last none
    rw [outcome] at controller
    exact ⟨(congrArg Controller.results controller).trans (results lines.length), stays⟩

end PartProgram
