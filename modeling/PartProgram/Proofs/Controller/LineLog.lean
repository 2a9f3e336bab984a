import PartProgram.Proofs.Controller.Halting

namespace PartProgram

def Instruction.logged? (i : Instruction) : Option Entry :=
  i.fault?.map (Entry.mk i.line i.text)

theorem Instruction.fault?_cases {i : Instruction} {fault : Fault}
    (found : i.fault? = some fault) : fault = .arcWithoutCenter ∨ fault = .arcOverdetermined ∨
      fault = .dwellWithoutTime := by
  unfold fault? at found
  split at found
  · split at found <;> cases found <;> simp
  · split at found
    · split at found <;> cases found
      simp
    · cases found

theorem Instruction.severity_of_fault? {i : Instruction} {fault : Fault}
    (found : i.fault? = some fault) : fault.severity = .parseError := by
  obtain rfl | rfl | rfl := fault?_cases found <;> rfl

theorem Instruction.of_logged? {i : Instruction} {e : Entry} (logged : i.logged? = some e) :
    e.line = i.line ∧ e.text = i.text ∧ e.fault.severity = .parseError := by
  obtain ⟨fault, found, rfl⟩ := Option.map_eq_some_iff.mp logged
  exact ⟨rfl, rfl, severity_of_fault? found⟩

namespace Block

/-- What a block adds to the log. -/
def entries (b : Block) : List Entry :=
  b.faults.map (Entry.mk b.line b.text) ++ b.instructions.filterMap (·.logged?)

/-- What can be wrong with a line as it is read: letters without a value, a number that cannot be
read, codes that stand for nothing. -/
theorem mem_faults_cases {text : String} {line : Nat} {implied : Operation} {strict : Bool}
    {fault : Fault} (mem : fault ∈ (parse text line implied strict).faults) :
    (∃ letter, fault = .missingValue letter) ∨ (∃ bad, fault = .badNumber bad) ∨
      (∃ code, fault = .unknownG code) ∨ ∃ code, fault = .unknownM code := by
  unfold parse at mem
  split at mem
  · rcases List.mem_append.mp mem with missing | bad
    · obtain ⟨letter, -, rfl⟩ := List.mem_map.mp missing
      exact .inl ⟨letter, rfl⟩
    · exact .inr (.inl ⟨_, List.mem_singleton.mp bad⟩)
  · rcases List.mem_append.mp mem with known | unknown
    · rcases List.mem_append.mp known with missing | unknown
      · obtain ⟨letter, -, rfl⟩ := List.mem_map.mp missing
        exact .inl ⟨letter, rfl⟩
      · obtain ⟨code, -, rfl⟩ := List.mem_map.mp unknown
        exact .inr (.inr (.inl ⟨code, rfl⟩))
    · obtain ⟨code, -, rfl⟩ := List.mem_map.mp unknown
      exact .inr (.inr (.inr ⟨code, rfl⟩))

theorem severity_of_mem_faults {text : String} {line : Nat} {implied : Operation} {strict : Bool}
    {fault : Fault} (mem : fault ∈ (parse text line implied strict).faults) :
    fault.severity = .parseError := by
  obtain ⟨_, rfl⟩ | ⟨_, rfl⟩ | ⟨_, rfl⟩ | ⟨_, rfl⟩ := mem_faults_cases mem <;> rfl

variable (text : String) (line : Nat) (implied : Operation) (strict : Bool)

@[simp] theorem parse_line : (parse text line implied strict).line = line := by
  unfold parse
  split <;> rfl

@[simp] theorem parse_text : (parse text line implied strict).text = text := by
  unfold parse
  split <;> rfl

theorem of_mem_parse {i : Instruction}
    (mem : i ∈ (parse text line implied strict).instructions) : i.line = line ∧ i.text = text := by
  unfold parse at mem
  split at mem
  · cases mem
  · obtain ⟨j, -, labelled⟩ := List.mem_map.mp mem
    rw [← labelled]
    exact ⟨rfl, rfl⟩

/-- All that a line logs bears its number and its text, and lets the program go on. -/
theorem of_mem_entries {e : Entry} (mem : e ∈ (parse text line implied strict).entries) :
    e.line = line ∧ e.text = text ∧ e.fault.severity = .parseError := by
  rcases List.mem_append.mp mem with own | further
  · obtain ⟨fault, found, rfl⟩ := List.mem_map.mp own
    exact ⟨parse_line text line implied strict, parse_text text line implied strict,
      severity_of_mem_faults found⟩
  · obtain ⟨i, here, logged⟩ := List.mem_filterMap.mp further
    obtain ⟨number, wording, severity⟩ := Instruction.of_logged? logged
    obtain ⟨number', wording'⟩ := of_mem_parse text line implied strict here
    exact ⟨number.trans number', wording.trans wording', severity⟩

theorem line_of_mem_entries {e : Entry}
    (mem : e ∈ (parse text line implied strict).entries) : e.line = line :=
  (of_mem_entries text line implied strict mem).1

end Block

theorem filter_line_ne_nil {log : List Entry} {e : Entry} {n : Nat} (logged : e ∈ log)
    (line : e.line = n) : log.filter (·.line = n) ≠ [] :=
  List.ne_nil_of_mem (List.mem_filter.mpr ⟨logged, decide_eq_true line⟩)

namespace Controller

theorem executeAll_log (c : Controller) (instructions : List Instruction) :
    (c.executeAll instructions).1.log.toList =
      c.log.toList ++ instructions.filterMap (·.logged?) := by
  induction instructions generalizing c with
  | nil => simp [executeAll]
  | cons i rest ih =>
    rw [executeAll_cons, ih, execute_log, Array.toList_appendList, List.append_assoc]
    cases fault : i.fault? <;> simp [Instruction.logged?, fault]

theorem runLine_log (c : Controller) (text : String) (line total : Nat) :
    (c.runLine text line total).1.log.toList = c.log.toList ++ (c.read text line).entries := by
  rw [runLine_eq, executeAll_log, openLine_log, Array.toList_appendList, List.append_assoc,
    Block.entries, read, Block.parse_line, Block.parse_text]

section afterLines

variable (c : Controller) (text : List Char)

theorem line_of_mem_afterLines_log {n : Nat} (bound : n ≤ (Text.lines text).length) :
    ∀ e ∈ (c.afterLines text n).log.toList, 1 ≤ e.line ∧ e.line ≤ n := by
  apply afterLines_induction (P := fun n d => ∀ e ∈ d.log.toList, 1 ≤ e.line ∧ e.line ≤ n)
  · intro e mem
    cases mem
  · intro n d here earlier e mem
    rw [runLine_log] at mem
    rcases List.mem_append.mp mem with old | new
    · have := earlier e old
      omega
    · have line := Block.line_of_mem_entries _ _ _ _ new
      omega
  · exact bound

theorem afterLines_log_eq_filter {k n : Nat} (le : k ≤ n) (bound : n ≤ (Text.lines text).length) :
    (c.afterLines text k).log.toList =
      (c.afterLines text n).log.toList.filter (·.line ≤ k) := by
  induction le with
  | refl =>
    symm
    rw [List.filter_eq_self]
    intro e mem
    exact decide_eq_true (c.line_of_mem_afterLines_log text bound e mem).2
  | @step n le ih =>
    have later : ((c.afterLines text n).read (Text.lines text)[n] (n + 1)).entries.filter
        (·.line ≤ k) = [] := by
      rw [List.filter_eq_nil_iff]
      intro e mem low
      have line := Block.line_of_mem_entries _ _ _ _ mem
      have low : e.line ≤ k := of_decide_eq_true low
      have le : k ≤ n := le
      omega
    rw [afterLines_succ c text bound, runLine_log, List.filter_append, later, List.append_nil]
    exact ih (Nat.le_of_succ_le bound)

/-- A run has logged nothing before the first line on which it logs an entry. -/
theorem log_before_first {k n : Nat} (bound : n ≤ (Text.lines text).length) (reached : k + 1 ≤ n)
    (least : ∀ e ∈ (c.afterLines text n).log.toList, k + 1 ≤ e.line) :
    (c.afterLines text k).log = #[] := by
  apply Array.toList_eq_nil_iff.mp
  rw [afterLines_log_eq_filter _ _ (Nat.le_of_succ_le reached) bound, List.filter_eq_nil_iff]
  intro e mem low
  have low : e.line ≤ k := of_decide_eq_true low
  have := least e mem
  omega

/-- After that line the log is what the line has logged. -/
theorem log_at_first {k n : Nat} (bound : n ≤ (Text.lines text).length) (reached : k + 1 ≤ n)
    (least : ∀ e ∈ (c.afterLines text n).log.toList, k + 1 ≤ e.line) :
    (c.afterLines text (k + 1)).log.toList =
      (c.afterLines text n).log.toList.filter (·.line = k + 1) := by
  rw [afterLines_log_eq_filter _ _ reached bound]
  apply List.filter_congr
  intro e mem
  have := least e mem
  exact decide_eq_decide.mpr ⟨fun low => by omega, Nat.le_of_eq⟩

end afterLines

end Controller

end PartProgram
