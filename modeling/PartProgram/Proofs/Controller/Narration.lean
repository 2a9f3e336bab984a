import Mathlib.Data.List.Basic
import PartProgram.Proofs.Controller.Course
import PartProgram.Proofs.Controller.LineStep

namespace PartProgram

namespace Event

def entry? : Event → Option Entry
  | progress _ _ => none
  | fault entry => some entry
  | segment _ => none

def segment? : Event → Option Segment
  | progress _ _ => none
  | fault _ => none
  | segment g => some g

theorem entries_faults (entries : List Entry) :
    (entries.map fault).filterMap entry? = entries := by
  rw [List.filterMap_map]
  exact List.filterMap_some

theorem segments_faults (entries : List Entry) :
    (entries.map fault).filterMap segment? = [] := by
  rw [List.filterMap_map]
  exact List.filterMap_eq_nil_iff.mpr fun _ _ => rfl

theorem entries_segments (segments : List Segment) :
    (segments.map segment).filterMap entry? = [] := by
  rw [List.filterMap_map]
  exact List.filterMap_eq_nil_iff.mpr fun _ _ => rfl

theorem segments_segments (segments : List Segment) :
    (segments.map segment).filterMap segment? = segments := by
  rw [List.filterMap_map]
  exact List.filterMap_some

end Event

namespace Observer

def tellAll (o : Observer) (events : List Event) : Observer :=
  events.foldl tell o

theorem tellAll_append (o : Observer) (front rest : List Event) :
    o.tellAll (front ++ rest) = (o.tellAll front).tellAll rest :=
  List.foldl_append ..

theorem tellAll_recorder (earlier : Array Event) (events : List Event) :
    (recorder earlier).tellAll events = recorder (earlier ++ events) := by
  induction events generalizing earlier with
  | nil => simp [tellAll]
  | cons e events ih =>
    have first : (recorder earlier).tellAll (e :: events) =
        (recorder (earlier.push e)).tellAll events := rfl
    rw [first, ih]
    simp

/-- An open channel takes the segments and nothing else. -/
theorem tellAll_channel (waiting : Array Segment) (events : List Event) :
    (channel true waiting).tellAll events =
      channel true (waiting ++ events.filterMap Event.segment?) := by
  induction events generalizing waiting with
  | nil => simp [tellAll]
  | cons e events ih =>
    have first : (channel true waiting).tellAll (e :: events) =
        ((channel true waiting).tell e).tellAll events := rfl
    rw [first]
    cases e <;> simp [tell, ih, List.filterMap_cons, Event.segment?]

end Observer

/-- What is told of a step: its segment, if the toolpath is built, and then its fault. -/
def Step.events (s : Step) (built : Bool) : List Event :=
  (if built then s.segment?.toList.map .segment else []) ++
    s.instruction.logged?.toList.map .fault

theorem Step.events_segments (s : Step) (built : Bool) :
    (s.events built).filterMap Event.segment? = if built then s.segment?.toList else [] := by
  rw [Step.events, List.filterMap_append, Event.segments_faults, List.append_nil]
  cases built with
  | false => rfl
  | true => exact Event.segments_segments _

theorem Step.events_entries (s : Step) (built : Bool) :
    (s.events built).filterMap Event.entry? = s.instruction.logged?.toList := by
  rw [Step.events, List.filterMap_append, Event.entries_faults]
  cases built with
  | false => rfl
  | true => rw [if_pos rfl, Event.entries_segments, List.nil_append]

namespace LineStep

/-- What is told of a line: that it comes up, out of so many, what is wrong with it as it is read,
and what is told of its steps. -/
def events (s : LineStep) (total : Nat) : List Event :=
  .progress s.line total :: (s.block.faults.map (Entry.mk s.line s.text)).map .fault ++
    s.steps.flatMap (·.events s.before.settings.toolpath)

theorem events_segments (s : LineStep) (total : Nat) :
    (s.events total).filterMap Event.segment? =
      if s.before.settings.toolpath then s.steps.filterMap (·.segment?) else [] := by
  rw [events, List.filterMap_append, List.filterMap_cons, Event.segments_faults,
    List.filterMap_flatMap, List.filterMap_eq_flatMap_toList Step.segment?]
  cases built : s.before.settings.toolpath <;> simp [Step.events_segments, Event.segment?]

theorem events_entries (s : LineStep) (total : Nat) :
    (s.events total).filterMap Event.entry? = s.block.entries := by
  have own : s.steps.flatMap (fun t => t.instruction.logged?.toList) =
      s.block.instructions.filterMap (·.logged?) := by
    rw [← s.steps_instructions, List.filterMap_map, List.filterMap_eq_flatMap_toList]
    rfl
  rw [events, List.filterMap_append, List.filterMap_cons, Event.entries_faults,
    List.filterMap_flatMap]
  simp [Step.events_entries, Event.entry?, own, Block.entries]

end LineStep

namespace Controller

/-- From the one controller to the other the observer is told the events, in order. -/
def Tells (c : Controller) (events : List Event) (d : Controller) : Prop :=
  d.observer = c.observer.map (·.tellAll events)

theorem Tells.nothing {c d : Controller} (same : d.observer = c.observer) : c.Tells [] d := by
  rw [Tells, same]
  cases c.observer <;> rfl

theorem Tells.trans {c d e : Controller} {front rest : List Event} (first : c.Tells front d)
    (second : d.Tells rest e) : c.Tells (front ++ rest) e := by
  rw [Tells, second, first, Option.map_map]
  congr 1
  funext o
  exact (o.tellAll_append front rest).symm

/-- What else is done to a controller tells nothing. -/
theorem Tells.congr {c d e : Controller} {events : List Event} (told : c.Tells events d)
    (same : e.observer = d.observer) : c.Tells events e := by
  rw [Tells, same]
  exact told

section effects

variable (c : Controller) (text : String) (line total : Nat)

theorem tells_reportAll (faults : List Fault) :
    c.Tells ((faults.map (Entry.mk line text)).map .fault) (c.reportAll text line faults) := by
  induction faults generalizing c with
  | nil => exact .nothing rfl
  | cons fault faults ih =>
    have first : c.Tells [.fault ⟨line, text, fault⟩] (c.report ⟨line, text, fault⟩) := rfl
    exact first.trans (ih _)

theorem tells_openLine :
    c.Tells (.progress line total ::
        ((c.read text line).faults.map (Entry.mk line text)).map .fault)
      (c.openLine text line total) := by
  let started := ({ c with machine := { c.machine with line } }).tell (.progress line total)
  have opened : c.openLine text line total =
      { started.reportAll text line (c.read text line).faults with
        summary := (started.reportAll text line (c.read text line).faults).summary.countLine
          (c.read text line) } := rfl
  have first : c.Tells [.progress line total] started := rfl
  have told := first.trans (started.tells_reportAll text line (c.read text line).faults)
  -- what remains is the count of the line, of which no observer hears
  rw [List.singleton_append] at told
  generalize started.reportAll text line (c.read text line).faults = reported at told opened
  rw [opened]
  exact told.congr rfl

theorem tells_execute (i : Instruction) :
    c.Tells ((c.step i).events c.settings.toolpath) (c.execute i).1 := by
  let moved : Controller := { c with machine := c.machine.apply i }
  have out : c.Tells ((c.delivered i).toList.map .segment) (moved.handOut (c.delivered i)) := by
    cases c.delivered i with
    | none => exact .nothing rfl
    | some g =>
      have kept : (moved.deliver g).observer = c.observer.map (·.tell (.segment g)) := by
        unfold deliver
        cases moved.keepsToolpath <;> rfl
      exact kept
  have counted (d : Controller) : d.Tells [] (d.account i (c.step i).segment?) := by
    refine .nothing ?_
    rw [account_eq]
  have noted (d : Controller) : d.Tells (i.logged?.toList.map .fault) (d.note i) := by
    unfold note Instruction.logged?
    cases i.fault? with
    | none => exact .nothing rfl
    | some fault => exact Eq.refl (d.observer.map _)
  have segment : (c.delivered i).toList.map Event.segment =
      if c.settings.toolpath then (c.step i).segment?.toList.map .segment else [] := by
    unfold delivered
    split <;> rfl
  have whole := (out.trans (counted _)).trans (noted _)
  rw [List.append_nil, segment] at whole
  exact whole

theorem tells_executeAll (instructions : List Instruction) :
    c.Tells ((c.machine.steps instructions).flatMap (·.events c.settings.toolpath))
      (c.executeAll instructions).1 := by
  induction instructions generalizing c with
  | nil => exact .nothing rfl
  | cons i rest ih =>
    have tail := ih (c.execute i).1
    rw [execute_settings, execute_machine] at tail
    rw [executeAll_cons]
    exact (c.tells_execute i).trans tail

theorem tells_runLine :
    c.Tells (LineStep.events ⟨c, text, line⟩ total) (c.runLine text line total).1 := by
  have tail := (c.openLine text line total).tells_executeAll (c.read text line).instructions
  rw [openLine_settings, openLine_machine] at tail
  exact (c.tells_openLine text line total).trans tail

end effects

/-- What is told of the first lines of a text. -/
def narration (c : Controller) (text : List Char) (n : Nat) : List Event :=
  (c.lineSteps text n).flatMap (·.events (Text.lines text).length)

section narration

variable (c : Controller) (text : List Char)

theorem tells_afterLines {n : Nat} (bound : n ≤ (Text.lines text).length) :
    c.Tells (c.narration text n) (c.afterLines text n) := by
  induction n with
  | zero => exact .nothing rfl
  | succ n ih =>
    have next : c.narration text (n + 1) = c.narration text n ++
        LineStep.events ⟨c.afterLines text n, (Text.lines text)[n], n + 1⟩
          (Text.lines text).length := by
      rw [narration, lineSteps_succ c text bound, List.flatMap_append, List.flatMap_singleton]
      rfl
    rw [next, afterLines_succ c text bound]
    exact (ih (Nat.le_of_succ_le bound)).trans (tells_runLine _ _ _ _)

theorem narration_entries {n : Nat} (bound : n ≤ (Text.lines text).length) :
    (c.narration text n).filterMap Event.entry? = (c.afterLines text n).log.toList := by
  simp [narration, List.filterMap_flatMap, LineStep.events_entries, afterLines_log c text bound]

end narration

theorem SameCourse.events {a b : Controller} (h : a.SameCourse b)
    (built : a.settings.toolpath = b.settings.toolpath) (text : String) (line total : Nat) :
    LineStep.events ⟨a, text, line⟩ total = LineStep.events ⟨b, text, line⟩ total := by
  have block : LineStep.block ⟨a, text, line⟩ = LineStep.block ⟨b, text, line⟩ := h.read text line
  have steps : LineStep.steps ⟨a, text, line⟩ = LineStep.steps ⟨b, text, line⟩ := by
    rw [LineStep.steps, LineStep.steps, block, h.machine]
  rw [LineStep.events, LineStep.events, block, steps, built]

/-- What is told does not depend on who listens. -/
theorem narration_congr {a b : Controller} (settings : a.settings = b.settings) (text : List Char)
    (n : Nat) : a.narration text n = b.narration text n := by
  have same (k : Nat) : (a.afterLines text k).SameCourse (b.afterLines text k) := by
    apply sameCourse_afterLines <;> rw [settings]
  have built (k : Nat) : (a.afterLines text k).settings.toolpath =
      (b.afterLines text k).settings.toolpath := by
    rw [afterLines_settings, afterLines_settings, settings]
  simp only [narration, lineSteps, List.flatMap_map, (same _).events (built _)]

namespace HaltsAfter

variable {c : Controller} {text : List Char} {n : Nat} (h : c.HaltsAfter text n)

include h

theorem observer : (c.runText text).observer = c.observer.map (·.tellAll (c.narration text n)) := by
  have told := c.tells_afterLines text h.bound
  rw [Tells] at told
  rw [h.runText, told]

theorem entries : (c.narration text n).filterMap Event.entry? = (c.runText text).log.toList := by
  rw [h.runText, c.narration_entries text h.bound]

/-- The segments that are told are the toolpath, wherever it is kept. -/
theorem segments (keeps : c.keepsToolpath = true) :
    (c.narration text n).filterMap Event.segment? = (c.runText text).toolpath.toList := by
  have told : (c.narration text n).filterMap Event.segment? = (c.lineSteps text n).flatMap
      fun s => if c.settings.toolpath then s.steps.filterMap (·.segment?) else [] := by
    rw [narration, List.filterMap_flatMap]
    refine List.flatMap_congr fun s mem => ?_
    rw [LineStep.events_segments, c.settings_of_mem_lineSteps text mem]
  rw [told, runText_toolpath, keeps, h.stepsOfText]
  cases c.settings.toolpath <;> simp [List.filterMap_flatMap]

end HaltsAfter

/-- The controller with someone else listening, or no one. -/
def observedBy (c : Controller) (o : Option Observer) : Controller :=
  { c with observer := o }

end Controller

open Controller

/-- What a run tells is faithful to what it leaves behind. If it carries out `n` lines, a recorder
has heard of each of them in order: that it comes up, out of all lines; each fault found in reading
it; and for each of its instructions, in order, the segment, if it is a move and the toolpath is
built, followed by the fault, if it cannot be carried out. The faults told are the log, in which
each entry has the number of a line and the text of that line, and the segments told are the
toolpath, which is what an open channel receives. Neither depends on who listens, and nor does anything else
the run leaves behind. -/
theorem runText_narrated (c : Controller) (keeps : c.keepsToolpath = true) (text : List Char) :
    ∃ n, c.HaltsAfter text n ∧ (c.runText text).summary.totalLines = n ∧
      (∀ earlier, ((c.observedBy (some (.recorder earlier))).runText text).observer =
        some (.recorder (earlier ++ c.narration text n))) ∧
      (c.narration text n).filterMap Event.entry? = (c.runText text).log.toList ∧
      (c.narration text n).filterMap Event.segment? = (c.runText text).toolpath.toList ∧
      (∀ e ∈ (c.runText text).log.toList, e.fault.severity = .parseError ∧ 1 ≤ e.line ∧
        (Text.lines text)[e.line - 1]? = some e.text) ∧
      (∀ waiting, ((c.observedBy (some (.channel true waiting))).runText text).observer =
        some (.channel true (waiting ++ (c.runText text).toolpath))) ∧
      (∀ o, ((c.observedBy o).runText text).results = (c.runText text).results ∧
        ((c.observedBy o).runText text).toolpath = (c.runText text).toolpath) ∧
      ∀ s : Step, s.segment?.isSome = true ↔ ∃ motion, s.instruction.operation = .move motion := by
  obtain ⟨n, halts, run⟩ := c.exists_haltsAfter text
  have settings (o : Option Observer) : (c.observedBy o).settings = c.settings := rfl
  have heard (o : Observer) : ((c.observedBy (some o)).runText text).observer =
      some (o.tellAll (c.narration text n)) := by
    have halts' : (c.observedBy (some o)).HaltsAfter text n := by
      refine (haltsAfter_iff ?_ ?_ text n).mpr halts <;> rw [settings]
    rw [halts'.observer, narration_congr (settings _)]
    rfl
  have segments := halts.segments keeps
  refine ⟨n, halts, ?_, ?_, halts.entries, segments, ?_, ?_, ?_, Step.segment?_isSome_iff⟩
  · rw [run]
    exact (c.afterLines_line text halts.bound).2
  · intro earlier
    rw [heard, Observer.tellAll_recorder]
  · intro e mem
    rw [run, c.afterLines_log text halts.bound] at mem
    obtain ⟨s, here, logged⟩ := List.mem_flatMap.mp mem
    obtain ⟨line, wording, severity⟩ := LineStep.of_mem_entries logged
    obtain ⟨positive, found⟩ := c.of_mem_lineSteps text here
    rw [line, wording]
    exact ⟨severity, positive, found⟩
  · intro waiting
    have received : waiting ++ (c.runText text).toolpath.toList =
        waiting ++ (c.runText text).toolpath := Array.ext' (by simp)
    rw [heard, Observer.tellAll_channel, segments, received]
  · intro o
    have keeps' : (c.observedBy o).keepsToolpath = c.keepsToolpath := rfl
    exact ⟨runText_results (settings o) text, runText_toolpath_congr (settings o) text keeps'⟩

/-- A move, an unknown code and a dwell without a time. -/
def restlessProgram : List Char :=
  "G1 X1 F2\nG97 M5\nG4".toList

/-- A recorder that has heard of another run hears of three lines, one segment and two faults. -/
theorem restlessProgram_narrated :
    let earlier : Array Event := #[.progress 1 1]
    let told := ({} : Controller).narration restlessProgram 3
    ((({} : Controller).observedBy (some (.recorder earlier))).runText restlessProgram).observer =
      some (.recorder (earlier ++ told)) ∧
    told.length = 6 ∧ (told.filterMap Event.entry?).length = 2 ∧
    (told.filterMap Event.segment?).length = 1 := by
  obtain ⟨n, -, total, recorded, entries, segments, -⟩ := runText_narrated {} rfl restlessProgram
  have three : n = 3 := total.symm.trans (by decide +kernel)
  rw [three] at recorded entries segments
  have logged : (({} : Controller).runText restlessProgram).log.toList.length = 2 := by
    decide +kernel
  have drawn : (({} : Controller).runText restlessProgram).toolpath.toList.length = 1 := by
    decide +kernel
  have heard : (({} : Controller).narration restlessProgram 3).length = 6 := by decide +kernel
  intro earlier told
  refine ⟨recorded earlier, heard, ?_, ?_⟩
  · rw [entries, logged]
  · rw [segments, drawn]

end PartProgram
