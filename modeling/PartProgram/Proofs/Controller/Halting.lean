import PartProgram.Proofs.Controller.SameWork
import PartProgram.Proofs.Controller.Trace
import PartProgram.Proofs.Machine.History
import PartProgram.Proofs.Text.Cutting

namespace PartProgram

namespace Summary

/-- The numbers of all lines, of those with instructions, of those with comments and of those with
errors. -/
def lineCounts (s : Summary) : Nat × Nat × Nat × Nat :=
  (s.totalLines, s.commandLines, s.commentLines, s.errorLines)

theorem lineCounts_countOperation (s : Summary) (i : Instruction) :
    (s.countOperation i).lineCounts = s.lineCounts := by
  unfold countOperation
  split <;> rfl

theorem lineCounts_listFeed (s : Summary) (word : Option Float) :
    (s.listFeed word).lineCounts = s.lineCounts := by
  unfold listFeed
  split <;> rfl

theorem lineCounts_addSegment (s : Summary) (g : Segment) :
    (s.addSegment g).lineCounts = s.lineCounts := by
  unfold addSegment
  dsimp only
  split <;> rfl

theorem totalLines_congr {s t : Summary} (h : s.lineCounts = t.lineCounts) :
    s.totalLines = t.totalLines :=
  congrArg Prod.fst h

theorem totalLines_countLine (s : Summary) (b : Block) :
    (s.countLine b).totalLines = s.totalLines + 1 := by
  rw [countLine_eq]

/-- Instructions are not counted as lines. -/
theorem lineCounts_record (s : Summary) (i : Instruction) (m : Machine)
    (segment : Option Segment) : (s.record i m segment).lineCounts = s.lineCounts := by
  rw [record_view lineCounts lineCounts_listFeed lineCounts_addSegment]
  split
  · exact lineCounts_countOperation s i
  · exact lineCounts_countOperation s i

end Summary

namespace Controller

/-- The run is to halt: the log has reached the error limit, or it is strict and not empty. -/
def MustHalt (c : Controller) : Prop :=
  c.settings.errorLimit ≤ c.log.size ∨ (c.settings.strict = true ∧ c.log ≠ #[])

theorem isHalted_iff {c : Controller} : c.isHalted = true ↔ c.MustHalt := by
  simp [isHalted, MustHalt]

theorem not_mustHalt_of_log {c : Controller} (room : 1 ≤ c.settings.errorLimit)
    (silent : c.log = #[]) : ¬c.MustHalt := by
  rintro (full | ⟨-, logged⟩)
  · rw [silent, List.size_toArray, List.length_nil] at full
    omega
  · exact logged silent

/-- The second controller shows what the first one shows, and more perhaps. -/
structure Extends (a b : Controller) : Prop where
  toolpath : a.toolpath.toList <+: b.toolpath.toList
  log : a.log.toList <+: b.log.toList

theorem Extends.refl (a : Controller) : a.Extends a :=
  ⟨List.prefix_refl _, List.prefix_refl _⟩

theorem Extends.trans {a b c : Controller} (h : a.Extends b) (k : b.Extends c) : a.Extends c :=
  ⟨h.toolpath.trans k.toolpath, h.log.trans k.log⟩

theorem SameWork.extends {a b : Controller} (h : a.SameWork b) : a.Extends b := by
  constructor
  · simp only [h.toolpath, List.prefix_refl]
  · simp only [h.log, List.prefix_refl]

section effects

variable (c : Controller) (text : String) (line total : Nat)

theorem extends_openLine : c.Extends (c.openLine text line total) := by
  constructor
  · simp only [openLine_toolpath, List.prefix_refl]
  · rw [openLine_log, Array.toList_appendList]
    exact List.prefix_append _ _

theorem extends_execute (i : Instruction) : c.Extends (c.execute i).1 := by
  constructor
  · rw [execute_toolpath]
    split
    · rw [Array.toList_appendList]
      exact List.prefix_append _ _
    · exact List.prefix_refl _
  · rw [execute_log, Array.toList_appendList]
    exact List.prefix_append _ _

theorem extends_runLine : c.Extends (c.runLine text line total).1 :=
  runLine_invariant (P := c.Extends)
    (fun d text n total shown => shown.trans (d.extends_openLine text n total))
    (fun d i shown => shown.trans (d.extends_execute i)) (Extends.refl c) text line total

theorem extends_runLines (lines : List (String × Nat)) : c.Extends (c.runLines total lines) :=
  runLines_invariant (P := c.Extends)
    (fun d text n total shown => shown.trans (d.extends_openLine text n total))
    (fun d i shown => shown.trans (d.extends_execute i)) (Extends.refl c) total lines

theorem executeAll_machine (instructions : List Instruction) :
    (c.executeAll instructions).1.machine = instructions.foldl Machine.apply c.machine := by
  induction instructions generalizing c with
  | nil => rfl
  | cons i rest ih => rw [executeAll_cons, ih, execute_machine, List.foldl_cons]

/-- A line applies its instructions one after the other to the machine, under its number. -/
theorem runLine_machine : (c.runLine text line total).1.machine =
    (c.read text line).instructions.foldl Machine.apply { c.machine with line } := by
  rw [runLine_eq, executeAll_machine, openLine_machine]

@[simp] theorem runLine_line : (c.runLine text line total).1.machine.line = line := by
  rw [runLine_machine, Machine.line_foldl_apply]

theorem execute_lineCounts (i : Instruction) :
    (c.execute i).1.summary.lineCounts = c.summary.lineCounts := by
  rw [execute_summary]
  split
  · rw [Summary.lineCounts_record]
  · rfl

theorem executeAll_lineCounts (instructions : List Instruction) :
    (c.executeAll instructions).1.summary.lineCounts = c.summary.lineCounts := by
  induction instructions generalizing c with
  | nil => rfl
  | cons i rest ih => rw [executeAll_cons, ih, execute_lineCounts]

theorem runLine_lineCounts : (c.runLine text line total).1.summary.lineCounts =
    (c.summary.countLine (c.read text line)).lineCounts := by
  rw [runLine_eq, executeAll_lineCounts, openLine_summary]

theorem runLine_totalLines :
    (c.runLine text line total).1.summary.totalLines = c.summary.totalLines + 1 := by
  rw [Summary.totalLines_congr (c.runLine_lineCounts text line total),
    Summary.totalLines_countLine]

theorem runText_settings (program : List Char) :
    (c.runText program).settings = c.settings :=
  runLines_settings c.reset _ _

theorem runLines_append (front rest : List (String × Nat)) :
    c.runLines total (front ++ rest) = (c.runLines total front).runLines total rest :=
  List.foldl_append ..

end effects

theorem SameWork.mustHalt {a b : Controller} (h : a.SameWork b)
    (rule : a.settings.strict = b.settings.strict)
    (limit : a.settings.errorLimit ≤ b.settings.errorLimit) (halt : b.MustHalt) : a.MustHalt := by
  unfold MustHalt at halt ⊢
  rw [h.log, rule]
  rcases halt with full | strict
  · exact .inl (Nat.le_trans limit full)
  · exact .inr strict

/-- Where two runs that have done the same work differ in the error limit, the one with the higher
limit goes on from where the other halts. -/
theorem SameWork.runLines_extends {a b : Controller} (h : a.SameWork b)
    (rule : a.settings.strict = b.settings.strict)
    (limit : a.settings.errorLimit ≤ b.settings.errorLimit) (total : Nat)
    (lines : List (String × Nat)) : (a.runLines total lines).Extends (b.runLines total lines) := by
  induction lines generalizing a b with
  | nil => exact h.extends
  | cons x lines ih =>
    cases halted : a.isHalted with
    | true =>
      rw [runLines_of_isHalted _ _ halted]
      exact h.extends.trans (b.extends_runLines total _)
    | false =>
      have running : b.isHalted = false := by
        rw [Bool.eq_false_iff, ne_eq, isHalted_iff] at halted ⊢
        exact fun halt => halted (h.mustHalt rule limit halt)
      have same := h.read rule x.1 x.2
      rw [runLines_cons _ _ halted, runLines_cons _ _ running]
      exact ih (h.runLine same total total) (by rw [runLine_settings, runLine_settings, rule])
        (by rw [runLine_settings, runLine_settings]; exact limit)

/-- Numbered lines, one after the other, whatever is logged. -/
def runAll (c : Controller) (total : Nat) (lines : List (String × Nat)) : Controller :=
  lines.foldl (fun c line => (c.runLine line.1 line.2 total).1) c

@[simp] theorem runAll_nil (c : Controller) (total : Nat) : c.runAll total [] = c := rfl

theorem runAll_cons (c : Controller) (total : Nat) (l : String × Nat)
    (lines : List (String × Nat)) :
    c.runAll total (l :: lines) = (c.runLine l.1 l.2 total).1.runAll total lines :=
  List.foldl_cons ..

theorem runAll_append (c : Controller) (total : Nat) (front rest : List (String × Nat)) :
    c.runAll total (front ++ rest) = (c.runAll total front).runAll total rest :=
  List.foldl_append ..

/-- A run carries out the first lines, up to the least number of them after which it is to halt. -/
theorem runLines_eq_runAll_take (c : Controller) (total : Nat) (lines : List (String × Nat)) :
    ∃ n ≤ lines.length, c.runLines total lines = c.runAll total (lines.take n) ∧
      (n < lines.length → (c.runAll total (lines.take n)).MustHalt) ∧
      ∀ k < n, ¬(c.runAll total (lines.take k)).MustHalt := by
  induction lines generalizing c with
  | nil =>
    refine ⟨0, Nat.le_refl 0, ?_, by simp, by simp⟩
    rw [List.take_nil, runAll_nil, runLines, List.foldl_nil]
  | cons l lines ih =>
    cases halted : c.isHalted with
    | true =>
      refine ⟨0, Nat.zero_le _, ?_, fun _ => ?_, by simp⟩
      · rw [runLines_of_isHalted _ _ halted, List.take_zero, runAll_nil]
      · rw [List.take_zero, runAll_nil]
        exact isHalted_iff.mp halted
    | false =>
      obtain ⟨n, bound, run, due, early⟩ := ih (c.runLine l.1 l.2 total).1
      refine ⟨n + 1, Nat.succ_le_succ bound, ?_, fun more => ?_, fun k before => ?_⟩
      · rw [runLines_cons _ _ halted, run, List.take_succ_cons, runAll_cons]
      · rw [List.take_succ_cons, runAll_cons]
        exact due (Nat.lt_of_succ_lt_succ more)
      · cases k with
        | zero =>
          rw [List.take_zero, runAll_nil, ← isHalted_iff, halted]
          exact Bool.false_ne_true
        | succ k =>
          rw [List.take_succ_cons, runAll_cons]
          exact early k (Nat.lt_of_succ_lt_succ before)

/-- The first lines of a text, run in a fresh state whatever is logged. -/
def afterLines (c : Controller) (text : List Char) (n : Nat) : Controller :=
  c.reset.runAll (Text.lines text).length (((Text.lines text).zipIdx 1).take n)

section afterLines

variable (c : Controller) (text : List Char)

theorem afterLines_succ {n : Nat} (h : n < (Text.lines text).length) :
    c.afterLines text (n + 1) = ((c.afterLines text n).runLine (Text.lines text)[n] (n + 1)
      (Text.lines text).length).1 := by
  have numbered : n < ((Text.lines text).zipIdx 1).length := by simpa using h
  unfold afterLines
  rw [List.take_succ_eq_append_getElem numbered, runAll_append, runAll_cons, runAll_nil,
    List.getElem_zipIdx, Nat.add_comm 1 n]

theorem afterLines_of_length_le {n : Nat} (h : (Text.lines text).length ≤ n) :
    c.afterLines text n = c.afterLines text (Text.lines text).length := by
  have numbered : ((Text.lines text).zipIdx 1).length = (Text.lines text).length := by simp
  unfold afterLines
  rw [List.take_of_length_le (by rw [numbered]; exact h),
    List.take_of_length_le (Nat.le_of_eq numbered)]

/-- What holds of the fresh state and is kept by each line holds after any number of lines. -/
theorem afterLines_induction {P : Nat → Controller → Prop} (start : P 0 c.reset)
    (line : ∀ n d (h : n < (Text.lines text).length), P n d →
      P (n + 1) (d.runLine (Text.lines text)[n] (n + 1) (Text.lines text).length).1)
    {n : Nat} (bound : n ≤ (Text.lines text).length) : P n (c.afterLines text n) := by
  induction n with
  | zero => exact start
  | succ n ih =>
    have here : n < (Text.lines text).length := bound
    rw [afterLines_succ c text here]
    exact line n _ here (ih (Nat.le_of_lt here))

@[simp] theorem afterLines_settings (n : Nat) : (c.afterLines text n).settings = c.settings := by
  induction n with
  | zero => rfl
  | succ n ih =>
    by_cases h : n < (Text.lines text).length
    · rw [afterLines_succ c text h, runLine_settings, ih]
    · have past : (Text.lines text).length ≤ n := by omega
      rw [afterLines_of_length_le c text (Nat.le_succ_of_le past),
        ← afterLines_of_length_le c text past, ih]

theorem afterLines_extends {m n : Nat} (le : m ≤ n) :
    (c.afterLines text m).Extends (c.afterLines text n) := by
  induction le with
  | refl => exact Extends.refl _
  | @step n _ ih =>
    by_cases h : n < (Text.lines text).length
    · rw [afterLines_succ c text h]
      exact ih.trans (extends_runLine _ _ _ _)
    · have past : (Text.lines text).length ≤ n := by omega
      rw [afterLines_of_length_le c text (Nat.le_succ_of_le past),
        ← afterLines_of_length_le c text past]
      exact ih

theorem afterLines_log_of_le {j k : Nat} (le : j ≤ k)
    (silent : (c.afterLines text k).log = #[]) : (c.afterLines text j).log = #[] := by
  have shown := (c.afterLines_extends text le).log
  rw [silent, List.prefix_nil] at shown
  exact Array.toList_eq_nil_iff.mp shown

/-- The machine and the summary both know how many lines have been run. -/
theorem afterLines_line {n : Nat} (bound : n ≤ (Text.lines text).length) :
    (c.afterLines text n).machine.line = n ∧ (c.afterLines text n).summary.totalLines = n := by
  apply afterLines_induction (P := fun n d => d.machine.line = n ∧ d.summary.totalLines = n)
  · exact ⟨rfl, rfl⟩
  · rintro n d _ ⟨-, total⟩
    exact ⟨runLine_line _ _ _ _, by rw [runLine_totalLines, total]⟩
  · exact bound

end afterLines

/-- The least number of lines of a text after which its run is to halt, or all of them if there is
none. -/
structure HaltsAfter (c : Controller) (text : List Char) (n : Nat) : Prop where
  bound : n ≤ (Text.lines text).length
  due : n < (Text.lines text).length → (c.afterLines text n).MustHalt
  early : ∀ k < n, ¬(c.afterLines text k).MustHalt

theorem HaltsAfter.unique {c : Controller} {text : List Char} {m n : Nat}
    (hm : c.HaltsAfter text m) (hn : c.HaltsAfter text n) : m = n := by
  have not_lt {j k : Nat} (hj : c.HaltsAfter text j) (hk : c.HaltsAfter text k) : ¬j < k := by
    intro lt
    exact hk.early j lt (hj.due (Nat.lt_of_lt_of_le lt hk.bound))
  have := not_lt hm hn
  have := not_lt hn hm
  omega

theorem exists_haltsAfter (c : Controller) (text : List Char) :
    ∃ n, c.HaltsAfter text n ∧ c.runText text = c.afterLines text n := by
  obtain ⟨n, bound, run, due, early⟩ :=
    c.reset.runLines_eq_runAll_take (Text.lines text).length ((Text.lines text).zipIdx 1)
  rw [List.length_zipIdx] at bound due
  exact ⟨n, ⟨bound, due, early⟩, run⟩

theorem HaltsAfter.runText {c : Controller} {text : List Char} {n : Nat}
    (h : c.HaltsAfter text n) : c.runText text = c.afterLines text n := by
  obtain ⟨m, hm, run⟩ := c.exists_haltsAfter text
  rw [run, hm.unique h]

/-- The controller with another error limit. -/
def withLimit (c : Controller) (limit : Nat) : Controller :=
  { c with settings := { c.settings with errorLimit := limit } }

/-- More text that begins on a line of its own adds to what a run shows, unless the run has halted
before it. -/
theorem runText_append (c : Controller) {u : List Char} (closed : u = [] ∨ u.getLast? = some '\n')
    (v : List Char) : (c.runText u).Extends (c.runText (u ++ v)) ∧
      ((c.runText u).MustHalt → (c.runText u).SameWork (c.runText (u ++ v))) := by
  -- the lines of `u`, of which more are announced in the longer text
  let front := c.reset.runLines (Text.lines (u ++ v)).length ((Text.lines u).zipIdx 1)
  have same : (c.runText u).SameWork front := (SameWork.refl c.reset).runLines rfl _ _ _
  have numbered : (Text.lines (u ++ v)).zipIdx 1 = (Text.lines u).zipIdx 1 ++
      (Text.lines v).zipIdx (1 + (Text.lines u).length) := by
    rw [Text.lines_append closed, List.zipIdx_append]
  have whole : c.runText (u ++ v) = front.runLines (Text.lines (u ++ v)).length
      ((Text.lines v).zipIdx (1 + (Text.lines u).length)) := by
    rw [runText, numbered, runLines_append]
  rw [whole]
  constructor
  · exact same.extends.trans (front.extends_runLines _ _)
  · intro halt
    have settings : front.settings = (c.runText u).settings := by
      rw [runText, runLines_settings, runLines_settings]
    have halted : front.MustHalt :=
      same.symm.mustHalt (by rw [settings]) (Nat.le_of_eq (by rw [settings])) halt
    rw [runLines_of_isHalted _ _ (isHalted_iff.mpr halted)]
    exact same

theorem runText_withLimit_extends (c : Controller) (text : List Char) {m n : Nat} (le : m ≤ n) :
    ((c.withLimit m).runText text).Extends ((c.withLimit n).runText text) := by
  have same : (c.withLimit m).reset.SameWork (c.withLimit n).reset :=
    ⟨rfl, rfl, rfl, rfl, rfl, rfl, rfl⟩
  exact same.runLines_extends rfl le _ _

end Controller

open Controller

/-- Where a run halts and what may come after. A text is run up to the least number of lines after
which the run is to halt, and both the machine and the summary tell that number. More text only
adds to the toolpath and the log, and changes nothing if the run has halted before it; a higher
error limit only adds to them as well. -/
theorem runText_halts_and_extends (c : Controller) :
    (∀ text, ∃ n, (∀ k, c.HaltsAfter text k ↔ k = n) ∧ c.runText text = c.afterLines text n ∧
      (c.runText text).machine.line = n ∧ (c.runText text).summary.totalLines = n ∧
      (c.settings.errorLimit = 0 → n = 0)) ∧
    (∀ u v, u = [] ∨ u.getLast? = some '\n' →
      (c.runText u).toolpath.toList <+: (c.runText (u ++ v)).toolpath.toList ∧
      (c.runText u).log.toList <+: (c.runText (u ++ v)).log.toList ∧
      ((c.runText u).MustHalt → (c.runText u).SameWork (c.runText (u ++ v)))) ∧
    (∀ text m n, m ≤ n →
      ((c.withLimit m).runText text).toolpath.toList <+:
        ((c.withLimit n).runText text).toolpath.toList ∧
      ((c.withLimit m).runText text).log.toList <+:
        ((c.withLimit n).runText text).log.toList) := by
  refine ⟨?_, ?_, ?_⟩
  · intro text
    obtain ⟨n, halts, run⟩ := c.exists_haltsAfter text
    obtain ⟨line, total⟩ := c.afterLines_line text halts.bound
    refine ⟨n, fun k => ⟨fun hk => hk.unique halts, fun eq => eq ▸ halts⟩, run, ?_, ?_, ?_⟩
    · rw [run, line]
    · rw [run, total]
    · intro zero
      refine Nat.eq_zero_of_not_pos fun positive => ?_
      have full : (c.afterLines text 0).MustHalt := by
        refine .inl ?_
        rw [afterLines_settings, zero]
        exact Nat.zero_le _
      exact halts.early 0 positive full
  · intro u v closed
    obtain ⟨shown, halted⟩ := c.runText_append closed v
    exact ⟨shown.toolpath, shown.log, halted⟩
  · intro text m n le
    have shown := c.runText_withLimit_extends text le
    exact ⟨shown.toolpath, shown.log⟩

/-- Two unknown codes on one line take the log past a limit of one. -/
def overfullProgram : List Char :=
  "G1 X2 F3\nG97 M77 X4\n".toList

theorem overfullProgram_halts :
    let c := ({} : Controller).withLimit 1
    let longer := overfullProgram ++ "G1 X5\nG98".toList
    (c.runText overfullProgram).log.size = 2 ∧
    (c.runText overfullProgram).SameWork (c.runText longer) ∧
    ((({} : Controller).withLimit 2).runText overfullProgram).log.toList <+:
      ((({} : Controller).withLimit 3).runText overfullProgram).log.toList := by
  intro c longer
  have size : (c.runText overfullProgram).log.size = 2 := by decide +kernel
  have full : (c.runText overfullProgram).settings.errorLimit = 1 := by decide +kernel
  obtain ⟨-, append, -⟩ := runText_halts_and_extends c
  obtain ⟨-, -, limits⟩ := runText_halts_and_extends {}
  refine ⟨size, ?_, ?_⟩
  · have halt : (c.runText overfullProgram).MustHalt := .inl (by rw [size, full]; decide)
    exact (append overfullProgram "G1 X5\nG98".toList (.inr (by decide))).2.2 halt
  · exact (limits overfullProgram 2 3 (by decide)).2

end PartProgram
