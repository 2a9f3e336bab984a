import PartProgram.Proofs.Controller.Agreement
import PartProgram.Proofs.Line.LineEnd
import PartProgram.Proofs.Text.LossyLines
import PartProgram.Stream

namespace PartProgram

namespace Stream

/-- Asking again and again until no segment is left. -/
inductive Drains : Stream → List Segment → Stream → Prop where
  | stop {s t : Stream} (h : s.next = (none, t)) : Drains s [] t
  | segment {s t u : Stream} {g : Segment} {gs : List Segment} (h : s.next = (some g, t))
      (rest : Drains t gs u) : Drains s (g :: gs) u

theorem Drains.unique {s t u : Stream} {gs hs : List Segment} (first : Drains s gs t)
    (second : Drains s hs u) : gs = hs ∧ t = u := by
  induction first generalizing hs u with
  | stop h =>
    cases second with
    | stop k => exact ⟨rfl, congrArg Prod.snd (h.symm.trans k)⟩
    | segment k _ => cases h.symm.trans k
  | segment h _ ih =>
    cases second with
    | stop k => cases h.symm.trans k
    | segment k rest =>
      obtain ⟨rfl, rfl⟩ : _ = _ ∧ _ = _ := by simpa using h.symm.trans k
      obtain ⟨rfl, rfl⟩ := ih rest
      exact ⟨rfl, rfl⟩

theorem Drains.of_next {s t u : Stream} {gs : List Segment} (h : s.next = t.next)
    (drained : Drains t gs u) : Drains s gs u := by
  cases drained with
  | stop k => exact .stop (h.trans k)
  | segment k rest => exact .segment (h.trans k) rest

/-- Segments that wait come first. -/
theorem Drains.pending {s t : Stream} {gs : List Segment}
    (h : Drains { s with pending := [] } gs t) (waiting : List Segment) :
    Drains { s with pending := waiting } (waiting ++ gs) t := by
  induction waiting with
  | nil => exact h
  | cons g waiting ih => exact .segment rfl ih

theorem next_of_isHalted {s : Stream} (empty : s.pending = [])
    (halted : s.controller.isHalted = true) : s.next = (none, { s with ended := true }) := by
  unfold next
  cases hl : s.source.lines <;> simp [advance, empty, halted]

theorem next_of_lines_nil {s : Stream} (empty : s.pending = []) (lines : s.source.lines = [])
    (going : s.ended = false) (running : s.controller.isHalted = false) :
    s.next = (none, s.finish) := by
  have left : s.finish.pending = [] := by
    unfold finish
    split <;> exact empty
  unfold next
  simp [advance, empty, lines, going, running, left]

theorem takeLine_eq (s : Stream) (bytes : List UInt8) (rest : List (List UInt8)) :
    s.takeLine bytes rest = { s with
      controller := (s.controller.runLine (lineText bytes) (s.line + 1) 0).1
      pending := (s.controller.runLine (lineText bytes) (s.line + 1) 0).2
      source := { s.source with lines := rest }
      line := s.line + 1 } := by
  unfold takeLine
  generalize s.controller.runLine (lineText bytes) (s.line + 1) 0 = run
  rfl

section takeLine

variable (s : Stream) (bytes : List UInt8) (rest : List (List UInt8))

@[simp] theorem takeLine_controller : (s.takeLine bytes rest).controller =
    (s.controller.runLine (lineText bytes) (s.line + 1) 0).1 := by
  rw [takeLine_eq]

@[simp] theorem takeLine_pending : (s.takeLine bytes rest).pending =
    (s.controller.runLine (lineText bytes) (s.line + 1) 0).2 := by
  rw [takeLine_eq]

@[simp] theorem takeLine_lines : (s.takeLine bytes rest).source.lines = rest := by
  rw [takeLine_eq]

@[simp] theorem takeLine_line : (s.takeLine bytes rest).line = s.line + 1 := by
  rw [takeLine_eq]

@[simp] theorem takeLine_ended : (s.takeLine bytes rest).ended = s.ended := by
  rw [takeLine_eq]

end takeLine

theorem next_takeLine {s : Stream} {bytes : List UInt8} {rest : List (List UInt8)}
    (empty : s.pending = []) (lines : s.source.lines = bytes :: rest) (going : s.ended = false)
    (running : s.controller.isHalted = false) : s.next = (s.takeLine bytes rest).next := by
  have after := s.takeLine_lines bytes rest
  unfold next
  cases fresh : (s.takeLine bytes rest).pending.isEmpty <;>
    simp only [advance, empty, lines, going, running, after, fresh, List.isEmpty_nil, if_true,
      Bool.or_self, Bool.false_eq_true, if_false]

/-- The lines to come, with their numbers. -/
def numbered (s : Stream) : List (String × Nat) :=
  (s.source.lines.map lineText).zipIdx (s.line + 1)

/-- What the end of the input adds to a run of the lines: the failure that struck, unless the run
was halted before it. -/
def closing (s : Stream) (c : Controller) : Controller :=
  if c.isHalted then c
  else match s.source.failure with
    | some reason => c.report ⟨s.line + s.source.lines.length + 1, "", .failedRead reason⟩
    | none => c

section closing

variable (s : Stream) (c : Controller)

@[simp] theorem closing_settings : (s.closing c).settings = c.settings := by
  unfold closing
  repeat' split
  all_goals rfl

@[simp] theorem closing_machine : (s.closing c).machine = c.machine := by
  unfold closing
  repeat' split
  all_goals rfl

@[simp] theorem closing_summary : (s.closing c).summary = c.summary := by
  unfold closing
  repeat' split
  all_goals rfl

end closing

theorem closing_of_isHalted (s : Stream) {c : Controller} (halted : c.isHalted = true) :
    s.closing c = c :=
  if_pos halted

theorem closing_of_failure_none {s : Stream} (whole : s.source.failure = none) (c : Controller) :
    s.closing c = c := by
  unfold closing
  split
  · rfl
  · rw [whole]

theorem closing_of_failure_some {s : Stream} {reason : String}
    (failed : s.source.failure = some reason) {c : Controller} (running : c.isHalted = false) :
    s.closing c = c.report ⟨s.line + s.source.lines.length + 1, "", .failedRead reason⟩ := by
  simp [closing, running, failed]

theorem finish_controller {s : Stream} (lines : s.source.lines = [])
    (running : s.controller.isHalted = false) :
    s.finish.controller = s.closing s.controller := by
  unfold finish closing
  cases s.source.failure <;> simp [lines, running]

theorem takeLine_numbered {s : Stream} {bytes : List UInt8} {rest : List (List UInt8)}
    (lines : s.source.lines = bytes :: rest) :
    s.numbered = (lineText bytes, s.line + 1) :: (s.takeLine bytes rest).numbered := by
  rw [takeLine_eq]
  simp [numbered, lines]

theorem takeLine_closing {s : Stream} {bytes : List UInt8} {rest : List (List UInt8)}
    (lines : s.source.lines = bytes :: rest) (c : Controller) :
    (s.takeLine bytes rest).closing c = s.closing c := by
  have struck : s.line + 1 + rest.length + 1 = s.line + (rest.length + 1) + 1 := by omega
  rw [takeLine_eq]
  simp only [closing, lines, List.length_cons, struck]

/-- A stream is drained as its lines are run in order, up to a failure. -/
theorem exists_drains_closing {s : Stream} (empty : s.pending = []) (going : s.ended = false) :
    ∃ t, Drains s (s.controller.deliveredAll 0 s.numbered) t ∧
      t.controller = s.closing (s.controller.runLines 0 s.numbered) := by
  generalize lines : s.source.lines = pieces
  induction pieces generalizing s with
  | nil =>
    have none : s.numbered = [] := by simp [numbered, lines]
    rw [none]
    cases halted : s.controller.isHalted with
    | true => exact ⟨_, .stop (next_of_isHalted empty halted), (s.closing_of_isHalted halted).symm⟩
    | false =>
      exact ⟨_, .stop (next_of_lines_nil empty lines going halted),
        finish_controller lines halted⟩
  | cons bytes rest ih =>
    cases halted : s.controller.isHalted with
    | true =>
      rw [Controller.deliveredAll_of_isHalted _ _ halted,
        Controller.runLines_of_isHalted _ _ halted, s.closing_of_isHalted halted]
      exact ⟨_, .stop (next_of_isHalted empty halted), rfl⟩
    | false =>
      have next := next_takeLine empty lines going halted
      have numbered := takeLine_numbered lines
      have closing := takeLine_closing lines
      have controller := s.takeLine_controller bytes rest
      have pending := s.takeLine_pending bytes rest
      have left := s.takeLine_lines bytes rest
      have open_ := (s.takeLine_ended bytes rest).trans going
      generalize s.takeLine bytes rest = taken at *
      -- the lines after this one are drained once its own segments are handed out
      obtain ⟨t, drained, last⟩ := ih (s := { taken with pending := [] }) rfl open_ left
      have drained := Drains.of_next next (drained.pending taken.pending)
      rw [numbered, Controller.deliveredAll_cons _ _ halted, Controller.runLines_cons _ _ halted,
        ← controller, ← pending, ← closing]
      exact ⟨t, drained, last⟩

theorem exists_drains {s : Stream} (empty : s.pending = []) (going : s.ended = false)
    (whole : s.source.failure = none) :
    ∃ t, Drains s (s.controller.deliveredAll 0 s.numbered) t ∧
      t.controller = s.controller.runLines 0 s.numbered := by
  obtain ⟨t, drained, last⟩ := exists_drains_closing empty going
  exact ⟨t, drained, by rw [last, closing_of_failure_none whole]⟩

@[simp] theorem start_numbered (source : Source) (settings : Settings) :
    (start source settings).numbered = (source.lines.map lineText).zipIdx 1 := rfl

/-- The bytes of a line and the line of the text they read as are the same when bare. -/
theorem bare_lineText (bytes : List UInt8) :
    Line.bare (lineText bytes).toList =
      Line.bare (String.ofList (Text.dropTerminator (Text.decodeLossy bytes))).toList := by
  simp only [lineText, String.toList_ofList, Line.bare_trimEnd, Line.bare_dropTerminator]

theorem numbered_ofBytes (bytes : List UInt8) (settings : Settings) :
    (start (.ofBytes bytes) settings).numbered.map (fun l => (Line.bare l.1.toList, l.2)) =
      ((Text.lines (Text.decodeLossy bytes)).zipIdx 1).map
        (fun l => (Line.bare l.1.toList, l.2)) := by
  have cut : (Source.ofBytes bytes).lines = Text.cutAfter (· == Text.lineFeed) bytes := rfl
  rw [start_numbered, cut, Text.lines_decodeLossy, List.zipIdx_map, List.zipIdx_map, List.map_map,
    List.map_map]
  apply List.map_congr_left
  intro piece _
  simp [bare_lineText]

/-- Draining a stream over bytes and running the text they read as come to the same: the segments
handed out are the toolpath, and the controllers agree in all but the comment lines and the
wording of lines in the log. -/
theorem drains_iff_runText (bytes : List UInt8) (settings : Settings) :
    let batch : Controller := ({ settings := { settings with toolpath := true } } :
      Controller).runText (Text.decodeLossy bytes)
    ∃ last : Stream,
      (∀ segments s, Drains (start (.ofBytes bytes) settings) segments s ↔
        segments = batch.toolpath.toList ∧ s = last) ∧
      last.controller.machine = batch.machine ∧
      last.controller.summary.withoutComments = batch.summary.withoutComments ∧
      last.controller.succeeded = batch.succeeded ∧
      last.controller.log.toList.map (fun e => (e.line, e.fault.message, e.fault.severity)) =
        batch.log.toList.map (fun e => (e.line, e.fault.message, e.fault.severity)) := by
  intro batch
  let first := start (.ofBytes bytes) settings
  let fresh : Controller := { settings := { settings with toolpath := true } }
  have start_ : first.controller.Agree fresh := ⟨rfl, rfl, rfl, rfl⟩
  obtain ⟨agree, same⟩ := start_.runLines (numbered_ofBytes bytes settings) 0
    (Text.lines (Text.decodeLossy bytes)).length
  obtain ⟨last, drained, final⟩ := exists_drains (s := first) rfl rfl rfl
  rw [← final] at agree
  have toolpath : batch.toolpath.toList = first.controller.deliveredAll 0 first.numbered := by
    have kept := fresh.runLines_toolpath (Text.lines (Text.decodeLossy bytes)).length rfl
      ((Text.lines (Text.decodeLossy bytes)).zipIdx 1)
    have run : batch = fresh.runLines (Text.lines (Text.decodeLossy bytes)).length
      ((Text.lines (Text.decodeLossy bytes)).zipIdx 1) := rfl
    rw [run, kept, same]
    simp [fresh]
  rw [← toolpath] at drained
  have log : last.controller.log.toList.map (·.finding) = batch.log.toList.map (·.finding) :=
    agree.log
  have shown := congrArg (List.map fun f : Nat × Fault => (f.1, f.2.message, f.2.severity)) log
  simp only [List.map_map] at shown
  refine ⟨last, ?_, agree.machine, agree.summary, agree.succeeded, shown⟩
  intro segments s
  constructor
  · intro h
    exact h.unique drained
  · rintro ⟨rfl, rfl⟩
    exact drained

end Stream

end PartProgram
