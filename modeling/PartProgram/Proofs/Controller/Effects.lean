import PartProgram.Controller
import PartProgram.Proofs.Machine.Step

namespace PartProgram

namespace Block

/-- The line has instructions and is no error line. -/
def isCommandLine (b : Block) : Bool :=
  !b.isErrorLine && !b.instructions.isEmpty

/-- The line has a comment, but no instructions, and is no error line. -/
def isCommentLine (b : Block) : Bool :=
  !b.isErrorLine && b.instructions.isEmpty && !b.comment.isEmpty

end Block

/-- A line counts as one of all lines, and under its heading. -/
theorem Summary.countLine_eq (s : Summary) (b : Block) : s.countLine b = { s with
    totalLines := s.totalLines + 1
    commandLines := s.commandLines + if b.isCommandLine then 1 else 0
    commentLines := s.commentLines + if b.isCommentLine then 1 else 0
    errorLines := s.errorLines + if b.isErrorLine then 1 else 0 } := by
  rw [countLine, Block.isCommandLine, Block.isCommentLine]
  cases b.isErrorLine <;> cases b.instructions.isEmpty <;> cases b.comment.isEmpty <;> rfl

/-- What neither the list of feed rates nor a segment bears on is settled when the operation has
been counted and the position visited. -/
theorem Summary.record_view {α : Type} (view : Summary → α)
    (listFeed : ∀ (s : Summary) (word : Option Float), view (s.listFeed word) = view s)
    (addSegment : ∀ (s : Summary) (g : Segment), view (s.addSegment g) = view s)
    (s : Summary) (i : Instruction) (m : Machine) (segment : Option Segment) :
    view (s.record i m segment) = view
      (if i.axes.anyLinear then (s.countOperation i).visit m.position else s.countOperation i) := by
  cases segment with
  | none => exact listFeed _ i.feed
  | some g => exact (addSegment _ g).trans (listFeed _ i.feed)

namespace Controller

variable (c : Controller) (text : String) (line total : Nat) (i : Instruction)

/-- A line is read, and its faults are reported, but nothing is carried out yet. -/
def openLine : Controller :=
  let c := { c with machine := { c.machine with line } }
  let c := c.tell (.progress line total)
  let (block, c) := c.check text line
  { c with summary := c.summary.countLine block }

theorem runLine_eq : c.runLine text line total =
    (c.openLine text line total).executeAll (c.read text line).instructions := rfl

/-- Reporting adds entries to the log and leaves the rest alone. -/
theorem reportAll_eq (faults : List Fault) : ∃ o, c.reportAll text line faults =
    { c with log := c.log ++ faults.map (Entry.mk line text), observer := o } := by
  induction faults generalizing c with
  | nil => exact ⟨c.observer, by simp [reportAll]⟩
  | cons fault faults ih =>
    obtain ⟨o, h⟩ := ih (c.report ⟨line, text, fault⟩)
    refine ⟨o, ?_⟩
    have first : c.reportAll text line (fault :: faults) =
        (c.report ⟨line, text, fault⟩).reportAll text line faults := rfl
    rw [first, h]
    simp [report, tell]

theorem openLine_eq : ∃ o, c.openLine text line total = { c with
    machine := { c.machine with line }
    summary := c.summary.countLine (c.read text line)
    log := c.log ++ (c.read text line).faults.map (Entry.mk line text)
    observer := o } := by
  let started := ({ c with machine := { c.machine with line } }).tell (.progress line total)
  obtain ⟨o, h⟩ := started.reportAll_eq text line (c.read text line).faults
  refine ⟨o, ?_⟩
  have opened : c.openLine text line total =
      { started.reportAll text line (c.read text line).faults with
        summary := (started.reportAll text line (c.read text line).faults).summary.countLine
          (c.read text line) } := rfl
  rw [opened, h]
  rfl

@[simp] theorem openLine_machine :
    (c.openLine text line total).machine = { c.machine with line } := by
  obtain ⟨o, h⟩ := c.openLine_eq text line total
  rw [h]

@[simp] theorem openLine_toolpath : (c.openLine text line total).toolpath = c.toolpath := by
  obtain ⟨o, h⟩ := c.openLine_eq text line total
  rw [h]

@[simp] theorem openLine_summary :
    (c.openLine text line total).summary = c.summary.countLine (c.read text line) := by
  obtain ⟨o, h⟩ := c.openLine_eq text line total
  rw [h]

@[simp] theorem openLine_log : (c.openLine text line total).log =
    c.log ++ (c.read text line).faults.map (Entry.mk line text) := by
  obtain ⟨o, h⟩ := c.openLine_eq text line total
  rw [h]

@[simp] theorem openLine_settings : (c.openLine text line total).settings = c.settings := by
  obtain ⟨o, h⟩ := c.openLine_eq text line total
  rw [h]

@[simp] theorem openLine_keepsToolpath :
    (c.openLine text line total).keepsToolpath = c.keepsToolpath := by
  obtain ⟨o, h⟩ := c.openLine_eq text line total
  rw [h]

/-- The step in which the controller carries an instruction out. -/
def step : Step :=
  ⟨c.machine, i⟩

/-- The segment that is handed out, if the toolpath is built. -/
def delivered : Option Segment :=
  if c.settings.toolpath then (c.step i).segment? else none

/-- An instruction is carried out in stages: the machine moves, the segment goes out, the summary
takes account of it, and a fault of it is noted. -/
def handOut : Option Segment → Controller
  | some g => c.deliver g
  | none => c

def account (segment : Option Segment) : Controller :=
  if c.settings.statistics then { c with summary := c.summary.record i c.machine segment } else c

def note : Controller :=
  match i.fault? with
  | some fault => c.report ⟨i.line, i.text, fault⟩
  | none => c

theorem execute_stages : c.execute i =
    (((({ c with machine := c.machine.apply i } : Controller).handOut (c.delivered i)).account i
      (c.step i).segment?).note i, c.delivered i) := rfl

theorem handOut_eq (segment : Option Segment) : ∃ o, c.handOut segment = { c with
    toolpath := if c.keepsToolpath then c.toolpath ++ segment.toList else c.toolpath
    observer := o } := by
  cases segment with
  | none => exact ⟨c.observer, by simp [handOut]⟩
  | some g =>
    refine ⟨(c.deliver g).observer, ?_⟩
    cases hk : c.keepsToolpath <;> simp [handOut, deliver, tell, hk]

theorem account_eq (segment : Option Segment) : c.account i segment = { c with
    summary :=
      if c.settings.statistics then c.summary.record i c.machine segment else c.summary } := by
  unfold account
  split <;> rfl

theorem note_eq : ∃ o, c.note i = { c with
    log := c.log ++ i.fault?.toList.map (Entry.mk i.line i.text)
    observer := o } := by
  unfold note
  cases i.fault? with
  | none => exact ⟨c.observer, by simp⟩
  | some fault => exact ⟨(c.report ⟨i.line, i.text, fault⟩).observer, by simp [report, tell]⟩

theorem execute_eq : ∃ o, c.execute i = ({ c with
    machine := c.machine.apply i
    toolpath := if c.keepsToolpath then c.toolpath ++ (c.delivered i).toList else c.toolpath
    summary :=
      if c.settings.statistics then c.summary.record i (c.machine.apply i) (c.step i).segment?
      else c.summary
    log := c.log ++ i.fault?.toList.map (Entry.mk i.line i.text)
    observer := o }, c.delivered i) := by
  obtain ⟨_, out⟩ := ({ c with machine := c.machine.apply i } : Controller).handOut_eq
    (c.delivered i)
  rw [execute_stages, out, account_eq]
  obtain ⟨o, noted⟩ := note_eq _ i
  exact ⟨o, Prod.ext noted rfl⟩

@[simp] theorem execute_machine : (c.execute i).1.machine = c.machine.apply i := by
  obtain ⟨o, h⟩ := c.execute_eq i
  rw [h]

@[simp] theorem execute_toolpath : (c.execute i).1.toolpath =
    if c.keepsToolpath then c.toolpath ++ (c.delivered i).toList else c.toolpath := by
  obtain ⟨o, h⟩ := c.execute_eq i
  rw [h]

@[simp] theorem execute_summary : (c.execute i).1.summary =
    if c.settings.statistics then c.summary.record i (c.machine.apply i) (c.step i).segment?
    else c.summary := by
  obtain ⟨o, h⟩ := c.execute_eq i
  rw [h]

@[simp] theorem execute_log :
    (c.execute i).1.log = c.log ++ i.fault?.toList.map (Entry.mk i.line i.text) := by
  obtain ⟨o, h⟩ := c.execute_eq i
  rw [h]

@[simp] theorem execute_settings : (c.execute i).1.settings = c.settings := by
  obtain ⟨o, h⟩ := c.execute_eq i
  rw [h]

@[simp] theorem execute_keepsToolpath : (c.execute i).1.keepsToolpath = c.keepsToolpath := by
  obtain ⟨o, h⟩ := c.execute_eq i
  rw [h]

@[simp] theorem execute_delivered : (c.execute i).2 = c.delivered i := by
  obtain ⟨o, h⟩ := c.execute_eq i
  rw [h]

theorem executeAll_cons (rest : List Instruction) : c.executeAll (i :: rest) =
    (((c.execute i).1.executeAll rest).1,
      (c.delivered i).toList ++ ((c.execute i).1.executeAll rest).2) := by
  rw [← c.execute_delivered i]
  rfl

/-- A relation that each instruction keeps is kept by all of them. -/
theorem executeAll_relation {R : Controller → Controller → Prop}
    (step : ∀ a b i, R a b → R (a.execute i).1 (b.execute i).1) {a b : Controller} (start : R a b)
    (instructions : List Instruction) :
    R (a.executeAll instructions).1 (b.executeAll instructions).1 := by
  induction instructions generalizing a b with
  | nil => exact start
  | cons i rest ih =>
    rw [executeAll_cons, executeAll_cons]
    exact ih (step a b i start)

theorem executeAll_keepsToolpath (instructions : List Instruction) :
    (c.executeAll instructions).1.keepsToolpath = c.keepsToolpath := by
  induction instructions generalizing c with
  | nil => rfl
  | cons i rest ih => rw [executeAll_cons, ih, execute_keepsToolpath]

theorem executeAll_settings (instructions : List Instruction) :
    (c.executeAll instructions).1.settings = c.settings := by
  induction instructions generalizing c with
  | nil => rfl
  | cons i rest ih => rw [executeAll_cons, ih, execute_settings]

/-- A controller that keeps its toolpath keeps what it hands out. -/
theorem executeAll_toolpath (keeps : c.keepsToolpath = true) (instructions : List Instruction) :
    (c.executeAll instructions).1.toolpath = c.toolpath ++ (c.executeAll instructions).2 := by
  induction instructions generalizing c with
  | nil => simp [executeAll]
  | cons i rest ih =>
    have tail := ih (c.execute i).1 (by rw [execute_keepsToolpath, keeps])
    rw [executeAll_cons, tail, execute_toolpath, if_pos keeps]
    apply Array.ext'
    simp

@[simp] theorem runLine_keepsToolpath :
    (c.runLine text line total).1.keepsToolpath = c.keepsToolpath := by
  rw [runLine_eq, executeAll_keepsToolpath, openLine_keepsToolpath]

@[simp] theorem runLine_settings : (c.runLine text line total).1.settings = c.settings := by
  rw [runLine_eq, executeAll_settings, openLine_settings]

theorem runLine_toolpath (keeps : c.keepsToolpath = true) :
    (c.runLine text line total).1.toolpath = c.toolpath ++ (c.runLine text line total).2 := by
  have opened : (c.openLine text line total).keepsToolpath = true := by
    rw [openLine_keepsToolpath, keeps]
  rw [runLine_eq, executeAll_toolpath _ opened, openLine_toolpath]

theorem runLines_of_isHalted (halted : c.isHalted = true) (lines : List (String × Nat)) :
    c.runLines total lines = c := by
  induction lines with
  | nil => rfl
  | cons l lines ih =>
    rw [runLines, List.foldl_cons, if_pos halted]
    exact ih

theorem runLines_cons (running : c.isHalted = false) (l : String × Nat)
    (lines : List (String × Nat)) :
    c.runLines total (l :: lines) = (c.runLine l.1 l.2 total).1.runLines total lines := by
  rw [runLines, List.foldl_cons, running]
  rfl

/-- A relation that lines keep is kept by runs of them if the two halt together. -/
theorem runLines_relation {R : Controller → Controller → Prop}
    (halt : ∀ {a b}, R a b → a.isHalted = b.isHalted) {k l : Nat}
    (step : ∀ {a b}, R a b → ∀ text line, R (a.runLine text line k).1 (b.runLine text line l).1)
    {a b : Controller} (start : R a b) (lines : List (String × Nat)) :
    R (a.runLines k lines) (b.runLines l lines) := by
  induction lines generalizing a b with
  | nil => exact start
  | cons x lines ih =>
    have same := halt start
    cases halted : b.isHalted with
    | true =>
      rw [runLines_of_isHalted _ _ (same.trans halted), runLines_of_isHalted _ _ halted]
      exact start
    | false =>
      rw [runLines_cons _ _ (same.trans halted), runLines_cons _ _ halted]
      exact ih (step start x.1 x.2)

theorem runLines_settings (lines : List (String × Nat)) :
    (c.runLines total lines).settings = c.settings := by
  induction lines generalizing c with
  | nil => rfl
  | cons l lines ih =>
    cases halted : c.isHalted with
    | true => rw [runLines_of_isHalted _ _ halted]
    | false => rw [runLines_cons _ _ halted, ih, runLine_settings]

/-- The segments handed out while numbered lines are run. -/
def deliveredAll (c : Controller) (total : Nat) : List (String × Nat) → List Segment
  | [] => []
  | l :: rest =>
    if c.isHalted then []
    else (c.runLine l.1 l.2 total).2 ++ (c.runLine l.1 l.2 total).1.deliveredAll total rest

theorem deliveredAll_of_isHalted (halted : c.isHalted = true) (lines : List (String × Nat)) :
    c.deliveredAll total lines = [] := by
  cases lines with
  | nil => rfl
  | cons l lines => rw [deliveredAll, if_pos halted]

theorem deliveredAll_cons (running : c.isHalted = false) (l : String × Nat)
    (lines : List (String × Nat)) : c.deliveredAll total (l :: lines) =
      (c.runLine l.1 l.2 total).2 ++ (c.runLine l.1 l.2 total).1.deliveredAll total lines := by
  rw [deliveredAll, running]
  rfl

theorem runLines_toolpath (keeps : c.keepsToolpath = true) (lines : List (String × Nat)) :
    (c.runLines total lines).toolpath = c.toolpath ++ c.deliveredAll total lines := by
  induction lines generalizing c with
  | nil => simp [runLines, deliveredAll]
  | cons l lines ih =>
    cases running : c.isHalted with
    | true => simp [runLines_of_isHalted _ _ running, deliveredAll_of_isHalted _ _ running]
    | false =>
      have tail := ih (c.runLine l.1 l.2 total).1 (by rw [runLine_keepsToolpath, keeps])
      rw [runLines_cons _ _ running, deliveredAll_cons _ _ running, tail,
        runLine_toolpath _ _ _ _ keeps]
      apply Array.ext'
      simp

end Controller

end PartProgram
