import PartProgram.Proofs.Machine.Step
import PartProgram.Proofs.Number.Sign

namespace PartProgram

namespace Instruction

def motion? (i : Instruction) : Option Motion :=
  match i.operation with
  | .move motion => some motion
  | _ => none

def distanceMode? (i : Instruction) : Option DistanceMode :=
  match i.operation with
  | .distanceMode mode => some mode
  | _ => none

def units? (i : Instruction) : Option Units :=
  match i.operation with
  | .units units => some units
  | _ => none

def plane? (i : Instruction) : Option Plane :=
  match i.operation with
  | .plane plane => some plane
  | _ => none

def system? (i : Instruction) : Option WorkSystem :=
  match i.operation with
  | .workSystem system => some system
  | _ => none

def spindle? (i : Instruction) : Option Spindle :=
  match i.operation with
  | .spindle state => some state
  | _ => none

/-- The tool that a tool change puts in. A negative one is refused. -/
def changedTool? (i : Instruction) : Option Int :=
  match i.operation with
  | .toolChange => i.tool.filter (0 ≤ ·)
  | _ => none

/-- The program ends or stops. -/
def Halts (i : Instruction) : Prop :=
  i.operation = .programEnd ∨ i.operation = .programStop

instance (i : Instruction) : Decidable i.Halts :=
  inferInstanceAs (Decidable (_ ∨ _))

end Instruction

section History

variable {α : Type}

/-- The last value that the instructions of a history give. -/
def latest (value? : Instruction → Option α) (history : List Instruction) : Option α :=
  history.reverse.findSome? value?

theorem latest_snoc (value? : Instruction → Option α) (history : List Instruction)
    (i : Instruction) (initial : α) :
    (latest value? (history ++ [i])).getD initial =
      (value? i).getD ((latest value? history).getD initial) := by
  unfold latest
  rw [List.reverse_append, List.reverse_singleton, List.singleton_append, List.findSome?_cons]
  cases value? i <;> rfl

theorem latest_eq_none {value? : Instruction → Option α} {history : List Instruction}
    (silent : ∀ i ∈ history, value? i = none) : latest value? history = none := by
  unfold latest
  rw [List.findSome?_eq_none_iff]
  intro i mem
  exact silent i (List.mem_reverse.mp mem)

theorem exists_of_latest {value? : Instruction → Option α} {history : List Instruction} {v : α}
    (last : latest value? history = some v) : ∃ i ∈ history, value? i = some v := by
  obtain ⟨i, mem, gives⟩ := List.exists_of_findSome?_eq_some last
  exact ⟨i, List.mem_reverse.mp mem, gives⟩

/-- A value that some instruction gives, and no instruction contradicts. -/
theorem latest_eq_some {value? : Instruction → Option α} {history : List Instruction} {v : α}
    {i : Instruction} (mem : i ∈ history) (gives : value? i = some v)
    (agree : ∀ j ∈ history, ∀ u, value? j = some u → u = v) : latest value? history = some v := by
  cases found : latest value? history with
  | none =>
    have silent := List.findSome?_eq_none_iff.mp found i (List.mem_reverse.mpr mem)
    rw [silent] at gives
    cases gives
  | some u =>
    obtain ⟨j, here, last⟩ := exists_of_latest found
    rw [agree j here u last]

/-- The coolant was switched on after it was last switched off. -/
def SwitchedOn (coolant : Operation) (history : List Instruction) : Prop :=
  ∃ before i after, history = before ++ i :: after ∧ i.operation = coolant ∧
    ∀ j ∈ after, j.operation ≠ .coolantOff

theorem switchedOn_snoc {coolant : Operation} {history : List Instruction} {i : Instruction} :
    SwitchedOn coolant (history ++ [i]) ↔
      i.operation = coolant ∨ (i.operation ≠ .coolantOff ∧ SwitchedOn coolant history) := by
  constructor
  · -- either the instruction that switches on is the last one, or the last one comes after it
    rintro ⟨before, j, after, whole, on, kept⟩
    rcases List.eq_nil_or_concat after with none | ⟨between, k, split⟩
    · rw [none] at whole
      obtain ⟨-, same⟩ := List.append_inj' whole rfl
      left
      rw [← on, List.singleton_inj.mp same]
    · rw [List.concat_eq_append] at split
      rw [split, ← List.cons_append, ← List.append_assoc] at whole
      obtain ⟨front, same⟩ := List.append_inj' whole rfl
      rw [split, ← List.singleton_inj.mp same] at kept
      exact .inr ⟨kept i (by simp), before, j, between, front, on,
        fun l hl => kept l (by simp [hl])⟩
  · rintro (on | ⟨kept, before, j, after, whole, on, rest⟩)
    · exact ⟨history, i, [], rfl, on, by simp⟩
    · refine ⟨before, j, after ++ [i], by simp [whole], on, ?_⟩
      intro k hk
      rcases List.mem_append.mp hk with hk | hk
      · exact rest k hk
      · rw [List.mem_singleton.mp hk]
        exact kept

end History

namespace Machine

/-- The fields of the machine are what the history of its instructions says. Of the words that set a
rate, those that are negative or no number say nothing. -/
structure Remembers (m : Machine) (history : List Instruction) : Prop where
  motion : m.motion = (latest (·.motion?) history).getD .rapid
  distanceMode : m.distanceMode = (latest (·.distanceMode?) history).getD .absolute
  units : m.units = (latest (·.units?) history).getD .millimeters
  plane : m.plane = (latest (·.plane?) history).getD .xy
  system : m.system = (latest (·.system?) history).getD .g54
  spindle : m.spindle = (latest (·.spindle?) history).getD .off
  mist : m.coolant.mist = true ↔ SwitchedOn .mist history
  flood : m.coolant.flood = true ↔ SwitchedOn .flood history
  tool : m.tool = (latest (·.changedTool?) history).getD 0
  running : m.running = false ↔ ∃ i ∈ history, i.Halts
  feed : m.feed = (latest (fun i => i.feed.filter (0.0 ≤ ·)) history).getD 0.0
  speed : m.speed = (latest (fun i => i.speed.filter (0.0 ≤ ·)) history).getD 0.0
  dwell : m.dwell = (latest (fun i => i.dwell.filter (0.0 ≤ ·)) history).getD 0.0
  peck : m.peck = (latest (fun i => i.peck.filter (0.0 ≤ ·)) history).getD 0.0
  retract : m.retract = (latest (·.retract) history).getD 0.0
  feedMode : m.feedMode = .unitsPerMinute

theorem select_eq (m : Machine) (i : Instruction) : m.select i = { m with
    motion := i.motion?.getD m.motion
    distanceMode := i.distanceMode?.getD m.distanceMode
    units := i.units?.getD m.units
    plane := i.plane?.getD m.plane
    system := i.system?.getD m.system
    spindle := i.spindle?.getD m.spindle
    coolant :=
      { mist := i.operation = .mist || (i.operation ≠ .coolantOff && m.coolant.mist)
        flood := i.operation = .flood || (i.operation ≠ .coolantOff && m.coolant.flood) }
    tool := i.changedTool?.getD m.tool
    running := m.running && !decide i.Halts
    offset := (m.select i).offset } := by
  cases h : i.operation <;>
    simp [select, h, Instruction.motion?, Instruction.distanceMode?, Instruction.units?,
      Instruction.plane?, Instruction.system?, Instruction.spindle?, Instruction.changedTool?,
      Instruction.Halts, toolNumber]

theorem adopt_eq (m : Machine) (i : Instruction) : m.adopt i = { m with
    feed := (i.feed.filter (0.0 ≤ ·)).getD m.feed
    speed := (i.speed.filter (0.0 ≤ ·)).getD m.speed
    dwell := (i.dwell.filter (0.0 ≤ ·)).getD m.dwell
    retract := i.retract.getD m.retract
    peck := (i.peck.filter (0.0 ≤ ·)).getD m.peck } := rfl

theorem apply_offset (m : Machine) (i : Instruction) :
    (m.apply i).offset = (m.select i).offset := by
  unfold apply travel
  split <;> rfl

/-- An instruction in one piece. Each field but the coordinates is replaced if the instruction
bears on it. -/
theorem apply_eq (m : Machine) (i : Instruction) : m.apply i = { m with
    motion := i.motion?.getD m.motion
    distanceMode := i.distanceMode?.getD m.distanceMode
    units := i.units?.getD m.units
    plane := i.plane?.getD m.plane
    system := i.system?.getD m.system
    spindle := i.spindle?.getD m.spindle
    coolant :=
      { mist := i.operation = .mist || (i.operation ≠ .coolantOff && m.coolant.mist)
        flood := i.operation = .flood || (i.operation ≠ .coolantOff && m.coolant.flood) }
    tool := i.changedTool?.getD m.tool
    running := m.running && !decide i.Halts
    feed := (i.feed.filter (0.0 ≤ ·)).getD m.feed
    speed := (i.speed.filter (0.0 ≤ ·)).getD m.speed
    dwell := (i.dwell.filter (0.0 ≤ ·)).getD m.dwell
    retract := i.retract.getD m.retract
    peck := (i.peck.filter (0.0 ≤ ·)).getD m.peck
    position := (m.apply i).position
    offset := (m.apply i).offset } := by
  have apart : m.apply i = { (m.select i).adopt i with position := (m.apply i).position } := by
    unfold apply travel
    split <;> rfl
  -- the offset is named by `select`, so that nothing is left of `apply` but the position
  rw [apply_offset]
  generalize (m.apply i).position = position at apart
  rw [apart, adopt_eq, select_eq]

/-- An instruction is remembered as the last one of its history. -/
theorem Remembers.apply {m : Machine} {history : List Instruction} (h : m.Remembers history)
    (i : Instruction) : (m.apply i).Remembers (history ++ [i]) where
  motion := by rw [apply_eq, latest_snoc, ← h.motion]
  distanceMode := by rw [apply_eq, latest_snoc, ← h.distanceMode]
  units := by rw [apply_eq, latest_snoc, ← h.units]
  plane := by rw [apply_eq, latest_snoc, ← h.plane]
  system := by rw [apply_eq, latest_snoc, ← h.system]
  spindle := by rw [apply_eq, latest_snoc, ← h.spindle]
  mist := by
    rw [apply_eq, switchedOn_snoc, ← h.mist]
    simp
  flood := by
    rw [apply_eq, switchedOn_snoc, ← h.flood]
    simp
  tool := by rw [apply_eq, latest_snoc, ← h.tool]
  running := by
    rw [apply_eq]
    simp only [Bool.and_eq_false_iff, h.running, Bool.not_eq_false', decide_eq_true_eq,
      List.mem_append, List.mem_singleton, or_and_right, exists_or, exists_eq_left]
  feed := by rw [apply_eq, latest_snoc, ← h.feed]
  speed := by rw [apply_eq, latest_snoc, ← h.speed]
  dwell := by rw [apply_eq, latest_snoc, ← h.dwell]
  peck := by rw [apply_eq, latest_snoc, ← h.peck]
  retract := by rw [apply_eq, latest_snoc, ← h.retract]
  feedMode := by rw [apply_eq, h.feedMode]

theorem remembers_fresh : Remembers {} [] where
  motion := rfl
  distanceMode := rfl
  units := rfl
  plane := rfl
  system := rfl
  spindle := rfl
  mist := by simp [SwitchedOn]
  flood := by simp [SwitchedOn]
  tool := rfl
  running := by simp
  feed := rfl
  speed := rfl
  dwell := rfl
  peck := rfl
  retract := rfl
  feedMode := rfl

theorem Remembers.of_renumbered {m n : Machine} {history : List Instruction}
    (h : m.Remembers history) (same : m.Renumbered n) : n.Remembers history := by
  unfold Renumbered at same
  rw [same]
  exact { h with }

/-- Along a run each machine remembers the instructions of the steps so far. -/
theorem Remembers.linked {m n : Machine} {past : List Instruction} {steps : List Step}
    (h : m.Remembers past) (linked : Linked m steps n) :
    n.Remembers (past ++ steps.map (·.instruction)) := by
  induction steps generalizing m past with
  | nil => simpa using h.of_renumbered linked
  | cons s rest ih =>
    have here := (h.of_renumbered linked.1).apply s.instruction
    have tail := ih here linked.2
    simpa using tail

/-- The rates at which a machine works or waits. -/
def rates (m : Machine) : List Float :=
  [m.feed, m.speed, m.dwell, m.peck]

theorem nonneg_of_filter {word : Option Float} {rate : Float}
    (kept : word.filter (0.0 ≤ ·) = some rate) : 0.0 ≤ rate :=
  of_decide_eq_true (Option.filter_eq_some_iff.mp kept).2

theorem nonneg_of_latest {word : Instruction → Option Float} {history : List Instruction} :
    0.0 ≤ (latest (fun i => (word i).filter (0.0 ≤ ·)) history).getD 0.0 := by
  cases last : latest (fun i => (word i).filter (0.0 ≤ ·)) history with
  | none => decide
  | some rate =>
    obtain ⟨i, -, given⟩ := exists_of_latest last
    exact nonneg_of_filter given

/-- No rate is negative or NaN. -/
theorem Remembers.rates {m : Machine} {history : List Instruction} (h : m.Remembers history) :
    ∀ rate ∈ m.rates, 0.0 ≤ rate ∧ rate.isNaN = false ∧ ¬rate < 0.0 := by
  have feed : 0.0 ≤ m.feed := by rw [h.feed]; exact nonneg_of_latest
  have speed : 0.0 ≤ m.speed := by rw [h.speed]; exact nonneg_of_latest
  have dwell : 0.0 ≤ m.dwell := by rw [h.dwell]; exact nonneg_of_latest
  have peck : 0.0 ≤ m.peck := by rw [h.peck]; exact nonneg_of_latest
  intro rate mem
  have nonneg : 0.0 ≤ rate := by
    simp only [Machine.rates, List.mem_cons, List.not_mem_nil, or_false] at mem
    rcases mem with rfl | rfl | rfl | rfl
    · exact feed
    · exact speed
    · exact dwell
    · exact peck
  exact ⟨nonneg, Number.isNumber_of_nonneg nonneg⟩

theorem line_foldl_apply (m : Machine) (history : List Instruction) :
    (history.foldl apply m).line = m.line := by
  induction history generalizing m with
  | nil => rfl
  | cons i rest ih => rw [List.foldl_cons, ih, apply_eq]

end Machine

end PartProgram
