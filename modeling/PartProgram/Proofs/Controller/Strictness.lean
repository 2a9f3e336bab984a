import PartProgram.Proofs.Controller.LineLog

namespace PartProgram

theorem Operation.ofG?_ne_unknown (code : Int) : ofG? code ≠ some unknown := by
  unfold ofG?
  split <;> simp

theorem Operation.ofM?_ne_unknown (code : Int) : ofM? code ≠ some unknown := by
  unfold ofM?
  split <;> simp

namespace Block

/-- The block without the instructions of unknown codes. -/
def withoutUnknown (b : Block) : Block :=
  { b with instructions := b.instructions.filter (·.operation ≠ .unknown) }

/-- Nothing but instructions is left out. -/
theorem withoutUnknown_keeps (b : Block) :
    b.withoutUnknown.instructions = b.instructions.filter (·.operation ≠ .unknown) ∧
      b.withoutUnknown.faults = b.faults ∧ b.withoutUnknown.isErrorLine = b.isErrorLine ∧
      b.withoutUnknown.errorMessage = b.errorMessage ∧ b.withoutUnknown.comment = b.comment :=
  ⟨rfl, rfl, rfl, rfl, rfl⟩

section operations

variable {of? : Int → Option Operation}

theorem operations_strict (known : ∀ code, of? code ≠ some .unknown) (codes : List Int) :
    operations of? true codes = (operations of? false codes).filter (· ≠ .unknown) := by
  induction codes with
  | nil => rfl
  | cons code codes ih =>
    unfold operations at ih ⊢
    cases h : of? code with
    | none => simpa [h] using ih
    | some operation =>
      have known : operation ≠ .unknown := fun same => known code (by rw [h, same])
      simpa [h, known] using ih

/-- An unknown operation stands for a code that is reported. -/
theorem ne_unknown_of_unknownCodes {codes : List Int} (known : ∀ code, of? code ≠ some .unknown)
    (none : unknownCodes of? codes = []) :
    ∀ operation ∈ operations of? false codes, operation ≠ .unknown := by
  intro operation mem
  obtain ⟨code, here, found⟩ := List.mem_filterMap.mp mem
  have classified := List.filter_eq_nil_iff.mp none code here
  cases h : of? code with
  | none => simp [h] at classified
  | some o =>
    have same : o = operation := by simpa [h] using found
    rw [← same]
    exact fun unknown => known code (by rw [h, unknown])

end operations

theorem requested_strict (words : Line.Words) {implied : Operation} (known : implied ≠ .unknown) :
    requested words implied true = (requested words implied false).filter (· ≠ .unknown) := by
  unfold requested
  split
  · split
    · simp [known]
    · rfl
  · rw [List.filter_append, operations_strict Operation.ofG?_ne_unknown,
      operations_strict Operation.ofM?_ne_unknown]

theorem requested_ne_unknown {words : Line.Words} {implied : Operation} (known : implied ≠ .unknown)
    (g : unknownCodes Operation.ofG? words.gcodes = [])
    (m : unknownCodes Operation.ofM? words.mcodes = []) :
    ∀ operation ∈ requested words implied false, operation ≠ .unknown := by
  intro operation mem
  unfold requested at mem
  split at mem
  · split at mem
    · rw [List.mem_singleton.mp mem]
      exact known
    · cases mem
  · rcases List.mem_append.mp mem with mem | mem
    · exact ne_unknown_of_unknownCodes Operation.ofG?_ne_unknown g operation mem
    · exact ne_unknown_of_unknownCodes Operation.ofM?_ne_unknown m operation mem

/-- Unknown operations take no axis words, so the others keep theirs without them. -/
theorem bind_withoutUnknown (words : Table Char Float) (operations : List Operation) :
    bind words (operations.filter (· ≠ .unknown)) =
      (bind words operations).filter (·.operation ≠ .unknown) := by
  have owned : (operations.filter (· ≠ .unknown)).any (·.takesAxes) =
      operations.any (·.takesAxes) := by
    rw [List.any_filter]
    congr 1
    funext o
    cases o <;> rfl
  unfold bind
  rw [owned, List.filter_map]
  rfl

theorem parse_strict (text : String) (line : Nat) {implied : Operation}
    (known : implied ≠ .unknown) :
    parse text line implied true = (parse text line implied false).withoutUnknown := by
  unfold parse withoutUnknown
  cases Line.Words.read (Line.bare text.toList) with
  | error bad => rfl
  | ok words =>
    simp only [requested_strict words known, bind_withoutUnknown, List.filter_map]
    rfl

/-- On a line without faults nothing is left out. -/
theorem withoutUnknown_of_faults {text : String} {line : Nat} {implied : Operation}
    (known : implied ≠ .unknown) (clean : (parse text line implied false).faults = []) :
    (parse text line implied false).withoutUnknown = parse text line implied false := by
  unfold parse at clean ⊢
  cases h : Line.Words.read (Line.bare text.toList) with
  | error bad => simp [h] at clean
  | ok words =>
    simp only [h, faultsOf, List.append_eq_nil_iff, List.map_eq_nil_iff] at clean
    have all : ∀ operation ∈ requested words implied false, operation ≠ .unknown :=
      requested_ne_unknown known clean.1.2 clean.2
    have kept (i : Instruction)
        (mem : i ∈ (bind words.parameters (requested words implied false)).map
          ({ · with line, text, comment := String.ofList (Line.comment text.toList) })) :
        i.operation ≠ .unknown := by
      simp only [bind, List.map_map, List.mem_map] at mem
      obtain ⟨operation, here, rfl⟩ := mem
      exact all operation here
    rw [withoutUnknown, List.filter_eq_self.mpr fun i mem => decide_eq_true (kept i mem)]

/-- An unknown operation logs nothing of its own. -/
theorem entries_withoutUnknown (b : Block) : b.withoutUnknown.entries = b.entries := by
  have silent (i : Instruction) (unknown : i.operation = .unknown) : i.logged? = none := by
    simp [Instruction.logged?, Instruction.fault?, unknown, Operation.isArc]
  have rest (instructions : List Instruction) :
      (instructions.filter (·.operation ≠ .unknown)).filterMap (·.logged?) =
        instructions.filterMap (·.logged?) := by
    induction instructions with
    | nil => rfl
    | cons i instructions ih =>
      by_cases unknown : i.operation = .unknown
      · simpa [unknown, silent i unknown] using ih
      · rw [List.filter_cons_of_pos (by simp [unknown]), List.filterMap_cons, List.filterMap_cons,
          ih]
  exact congrArg (b.faults.map (Entry.mk b.line b.text) ++ ·) (rest b.instructions)

end Block

namespace Controller

/-- The controller, strict or tolerant of unknown codes. -/
def withStrict (c : Controller) (strict : Bool) : Controller :=
  { c with settings := { c.settings with strict } }

/-- The first line on which the run of a text logs an entry. -/
def firstLogged? (c : Controller) (text : List Char) : Option Nat :=
  ((c.runText text).log.toList.map (·.line)).min?

theorem firstLogged?_eq_some_iff {c : Controller} {text : List Char} {n : Nat} :
    c.firstLogged? text = some n ↔ (∃ e ∈ (c.runText text).log.toList, e.line = n) ∧
      ∀ e ∈ (c.runText text).log.toList, n ≤ e.line := by
  rw [firstLogged?, List.min?_eq_some_iff]
  simp only [List.mem_map, forall_exists_index, and_imp, forall_apply_eq_imp_iff₂]

theorem firstLogged?_eq_none_iff {c : Controller} {text : List Char} :
    c.firstLogged? text = none ↔ (c.runText text).log = #[] := by
  rw [firstLogged?, List.min?_eq_none_iff, List.map_eq_nil_iff, Array.toList_eq_nil_iff]

theorem succeeded_of_strict {c : Controller} (rule : c.settings.strict = true) :
    c.succeeded = true ↔ c.log = #[] := by
  simp [succeeded, rule]

theorem succeeded_of_log {c : Controller} (silent : c.log = #[]) : c.succeeded = true := by
  simp [succeeded, silent]

section lockstep

variable {a b : Controller}

/-- The motion in force is never an unknown operation. -/
theorem SameWork.read_strict (h : a.SameWork b) (strict : a.settings.strict = true)
    (tolerant : b.settings.strict = false) (text : String) (line : Nat) :
    a.read text line = (b.read text line).withoutUnknown := by
  unfold Controller.read
  rw [h.machine, strict, tolerant, Block.parse_strict _ _ (by simp)]

theorem SameWork.runLine_of_faults (h : a.SameWork b) (strict : a.settings.strict = true)
    (tolerant : b.settings.strict = false) {text : String} {line : Nat}
    (clean : (b.read text line).faults = []) (k l : Nat) :
    (a.runLine text line k).1.SameWork (b.runLine text line l).1 := by
  refine h.runLine ?_ k l
  rw [h.read_strict strict tolerant]
  unfold Controller.read at clean ⊢
  rw [tolerant] at clean ⊢
  exact Block.withoutUnknown_of_faults (by simp) clean

/-- A line logs the same whether the run is strict or not. -/
theorem SameWork.runLine_log (h : a.SameWork b) (strict : a.settings.strict = true)
    (tolerant : b.settings.strict = false) (text : String) (line k l : Nat) :
    (a.runLine text line k).1.log = (b.runLine text line l).1.log := by
  apply Array.toList_inj.mp
  rw [Controller.runLine_log, Controller.runLine_log, h.log, h.read_strict strict tolerant,
    Block.entries_withoutUnknown]

end lockstep

section truncation

variable (c : Controller) (text : List Char)

theorem afterLines_strict (strict : Bool) (n : Nat) :
    ((c.withStrict strict).afterLines text n).settings.strict = strict := by
  rw [afterLines_settings]
  rfl

/-- As long as the tolerant run logs nothing, both runs do the same work. -/
theorem sameWork_of_silent {n : Nat} (bound : n ≤ (Text.lines text).length)
    (silent : ((c.withStrict false).afterLines text n).log = #[]) :
    ((c.withStrict true).afterLines text n).SameWork ((c.withStrict false).afterLines text n) := by
  induction n with
  | zero => exact ⟨rfl, rfl, rfl, rfl, rfl, rfl, rfl⟩
  | succ n ih =>
    have earlier := (c.withStrict false).afterLines_log_of_le text (Nat.le_succ n) silent
    have same := ih (Nat.le_of_lt bound) earlier
    -- what the line adds to the log is empty, so it has no faults and no unknown codes
    rw [afterLines_succ _ _ bound] at silent
    have clean := congrArg Array.toList silent
    rw [Controller.runLine_log, List.append_eq_nil_iff, Block.entries, List.append_eq_nil_iff,
      List.map_eq_nil_iff] at clean
    rw [afterLines_succ _ _ bound, afterLines_succ _ _ bound]
    exact same.runLine_of_faults (c.afterLines_strict text true n)
      (c.afterLines_strict text false n) clean.2.1 _ _

/-- The first line on which the tolerant run may log anything logs the same in both. -/
theorem log_after_silent {n : Nat} (here : n < (Text.lines text).length)
    (silent : ((c.withStrict false).afterLines text n).log = #[]) :
    ((c.withStrict true).afterLines text (n + 1)).log =
      ((c.withStrict false).afterLines text (n + 1)).log := by
  have same := c.sameWork_of_silent text (Nat.le_of_lt here) silent
  rw [afterLines_succ _ _ here, afterLines_succ _ _ here]
  exact same.runLine_log (c.afterLines_strict text true n) (c.afterLines_strict text false n)
    _ _ _ _

theorem not_mustHalt_of_silent (room : 1 ≤ c.settings.errorLimit) {n : Nat}
    (bound : n ≤ (Text.lines text).length)
    (silent : ((c.withStrict false).afterLines text n).log = #[]) (strict : Bool) :
    ¬((c.withStrict strict).afterLines text n).MustHalt := by
  apply not_mustHalt_of_log
  · rw [afterLines_settings]
    exact room
  · cases strict with
    | false => exact silent
    | true => rw [(c.sameWork_of_silent text bound silent).log, silent]

/-- If the tolerant run logs nothing, both carry out the whole text. -/
theorem sameWork_runText (room : 1 ≤ c.settings.errorLimit)
    (silent : ((c.withStrict false).runText text).log = #[]) :
    (c.withStrict true).runText text =
        (c.withStrict true).afterLines text (Text.lines text).length ∧
      ((c.withStrict true).runText text).SameWork ((c.withStrict false).runText text) := by
  obtain ⟨N, halts, run⟩ := (c.withStrict false).exists_haltsAfter text
  rw [run] at silent ⊢
  have all : N = (Text.lines text).length := by
    refine Nat.le_antisymm halts.bound (Nat.le_of_not_lt fun short => ?_)
    exact c.not_mustHalt_of_silent text room halts.bound silent false (halts.due short)
  subst all
  have strict : (c.withStrict true).HaltsAfter text (Text.lines text).length := by
    refine ⟨Nat.le_refl _, fun past => absurd past (Nat.lt_irrefl _), fun k before => ?_⟩
    exact c.not_mustHalt_of_silent text room (Nat.le_of_lt before)
      ((c.withStrict false).afterLines_log_of_le text (Nat.le_of_lt before) silent) true
  rw [strict.runText]
  exact ⟨rfl, c.sameWork_of_silent text (Nat.le_refl _) silent⟩

/-- If the tolerant run logs anything, the strict run halts after the first line that does. -/
theorem runText_of_firstLogged (room : 1 ≤ c.settings.errorLimit) {n : Nat}
    (first : (c.withStrict false).firstLogged? text = some n) :
    1 ≤ n ∧
      (∃ N, n ≤ N ∧ (c.withStrict false).runText text = (c.withStrict false).afterLines text N) ∧
      (c.withStrict true).runText text = (c.withStrict true).afterLines text n ∧
      ((c.withStrict true).afterLines text (n - 1)).SameWork
        ((c.withStrict false).afterLines text (n - 1)) ∧
      ((c.withStrict true).runText text).log.toList =
        ((c.withStrict false).runText text).log.toList.filter (·.line = n) := by
  -- the tolerant run carries out `N` lines, of which the first `k` log nothing
  obtain ⟨N, halts, run⟩ := (c.withStrict false).exists_haltsAfter text
  obtain ⟨⟨e, logged, line⟩, least⟩ := firstLogged?_eq_some_iff.mp first
  rw [run] at logged least ⊢
  have numbered := (c.withStrict false).line_of_mem_afterLines_log text halts.bound e logged
  obtain ⟨k, rfl⟩ : ∃ k, n = k + 1 := ⟨n - 1, by omega⟩
  have reached : k + 1 ≤ N := by omega
  have bound : k < (Text.lines text).length := Nat.lt_of_lt_of_le reached halts.bound
  have silent := log_before_first _ _ halts.bound reached least
  have log : ((c.withStrict true).afterLines text (k + 1)).log.toList =
      ((c.withStrict false).afterLines text N).log.toList.filter (·.line = k + 1) := by
    rw [c.log_after_silent text bound silent, log_at_first _ _ halts.bound reached least]
  have halt : ((c.withStrict true).afterLines text (k + 1)).MustHalt := by
    refine .inr ⟨c.afterLines_strict text true (k + 1), fun empty => ?_⟩
    rw [empty] at log
    exact filter_line_ne_nil logged line log.symm
  have strict : (c.withStrict true).HaltsAfter text (k + 1) := by
    refine ⟨bound, fun _ => halt, fun j before => ?_⟩
    have before : j ≤ k := Nat.le_of_lt_succ before
    exact c.not_mustHalt_of_silent text room (Nat.le_trans before (Nat.le_of_lt bound))
      ((c.withStrict false).afterLines_log_of_le text before silent) true
  rw [strict.runText]
  exact ⟨Nat.succ_pos k, ⟨N, reached, rfl⟩, rfl,
    c.sameWork_of_silent text (Nat.le_of_lt bound) silent, log⟩

theorem runText_strict_silent_iff (room : 1 ≤ c.settings.errorLimit) :
    ((c.withStrict true).runText text).log = #[] ↔
      ((c.withStrict false).runText text).log = #[] := by
  constructor
  · intro empty
    cases first : (c.withStrict false).firstLogged? text with
    | none => exact firstLogged?_eq_none_iff.mp first
    | some n =>
      obtain ⟨-, -, -, -, log⟩ := c.runText_of_firstLogged text room first
      obtain ⟨⟨e, logged, line⟩, -⟩ := firstLogged?_eq_some_iff.mp first
      rw [empty] at log
      exact absurd log.symm (filter_line_ne_nil logged line)
  · intro silent
    rw [(c.sameWork_runText text room silent).2.log, silent]

end truncation

end Controller

open Controller

/-- Strictness cuts a run short and changes nothing else. On a line it leaves out the instructions
of unknown codes. Over a text, let `n` be the first line on which the tolerant run logs an entry:
both runs come to it having done the same work, and the strict one halts after it with the entries
of that line in its log. So the strict run succeeds just if the tolerant one logs nothing, and then
they do the same work throughout. -/
theorem strict_truncates_tolerant :
    (∀ text line implied, implied ≠ .unknown →
      let strict := Block.parse text line implied true
      let tolerant := Block.parse text line implied false
      strict.instructions = tolerant.instructions.filter (·.operation ≠ .unknown) ∧
      strict.faults = tolerant.faults ∧ strict.isErrorLine = tolerant.isErrorLine ∧
      strict.errorMessage = tolerant.errorMessage ∧ strict.comment = tolerant.comment) ∧
    (∀ (c : Controller) text, 1 ≤ c.settings.errorLimit →
      let strict := c.withStrict true
      let tolerant := c.withStrict false
      (∀ n, tolerant.firstLogged? text = some n →
        1 ≤ n ∧ (∃ N, n ≤ N ∧ tolerant.runText text = tolerant.afterLines text N) ∧
        strict.runText text = strict.afterLines text n ∧
        (strict.afterLines text (n - 1)).SameWork (tolerant.afterLines text (n - 1)) ∧
        (strict.runText text).log.toList =
          (tolerant.runText text).log.toList.filter (·.line = n)) ∧
      (tolerant.firstLogged? text = none →
        strict.runText text = strict.afterLines text (Text.lines text).length) ∧
      ((strict.runText text).succeeded = true ↔ (tolerant.runText text).log = #[]) ∧
      ((tolerant.runText text).log = #[] →
        (strict.runText text).SameWork (tolerant.runText text) ∧
        (strict.runText text).succeeded = (tolerant.runText text).succeeded)) := by
  refine ⟨?_, ?_⟩
  · intro text line implied known strict tolerant
    have eq : strict = tolerant.withoutUnknown := Block.parse_strict text line known
    rw [eq]
    exact Block.withoutUnknown_keeps tolerant
  · intro c text room strict tolerant
    have rule : (strict.runText text).settings.strict = true := by
      rw [runText_settings]
      rfl
    refine ⟨fun n => c.runText_of_firstLogged text room, fun none => ?_, ?_, fun silent => ?_⟩
    · exact (c.sameWork_runText text room (firstLogged?_eq_none_iff.mp none)).1
    · rw [succeeded_of_strict rule]
      exact c.runText_strict_silent_iff text room
    · have same := (c.sameWork_runText text room silent).2
      refine ⟨same, ?_⟩
      rw [succeeded_of_log silent, succeeded_of_log (by rw [same.log, silent])]

/-- An unknown code on the second of three lines and an arc without a center on the third. -/
def misspeltProgram : List Char :=
  "G1 X1 F2\nG97 G0 X2\nG2 X1".toList

theorem misspeltProgram_truncated :
    (Block.parse "G97 G0 X2" 2 (.move .linear) true).instructions =
      (Block.parse "G97 G0 X2" 2 (.move .linear) false).instructions.filter
        (·.operation ≠ .unknown) ∧
    ((({} : Controller).withStrict false).runText misspeltProgram).log.size = 2 ∧
    (({} : Controller).withStrict true).runText misspeltProgram =
      (({} : Controller).withStrict true).afterLines misspeltProgram 2 ∧
    ((({} : Controller).withStrict true).runText misspeltProgram).log.toList =
      ((({} : Controller).withStrict false).runText misspeltProgram).log.toList.filter
        (·.line = 2) ∧
    ((({} : Controller).withStrict true).runText "G1 X1 F2".toList).SameWork
      ((({} : Controller).withStrict false).runText "G1 X1 F2".toList) := by
  obtain ⟨line, run⟩ := strict_truncates_tolerant
  obtain ⟨logged, -, -, -⟩ := run {} misspeltProgram (by decide)
  obtain ⟨-, -, short, -, log⟩ := logged 2 (by decide +kernel)
  obtain ⟨-, -, -, silent⟩ := run {} "G1 X1 F2".toList (by decide)
  exact ⟨(line "G97 G0 X2" 2 (.move .linear) (by decide)).1, by decide +kernel, short, log,
    (silent (by decide +kernel)).1⟩

end PartProgram
