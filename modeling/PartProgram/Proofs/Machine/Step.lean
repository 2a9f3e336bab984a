import PartProgram.Segment

namespace PartProgram

/-- A machine that is about to take an instruction. -/
structure Step where
  before : Machine
  instruction : Instruction

namespace Step

def after (s : Step) : Machine :=
  s.before.apply s.instruction

/-- The segment of a step leads to where the axis words point, seen from before it. -/
def segment? (s : Step) : Option Segment :=
  Segment.ofInstruction? s.instruction s.before.position
    (s.before.target s.instruction.axes) s.after

theorem exists_move_of_segment? {s : Step} {g : Segment} (h : s.segment? = some g) :
    s.instruction.operation = .move g.motion := by
  unfold segment? Segment.ofInstruction? at h
  split at h
  · rename_i motion hm
    rw [hm, ← Option.some.inj h]
  · cases h

/-- The segment of a step in one piece. -/
theorem segment?_eq {s : Step} {g : Segment} (h : s.segment? = some g) : g = {
    motion := g.motion
    start := s.before.position
    stop := s.before.target s.instruction.axes
    arc := Segment.geometry? s.instruction s.before.position (s.before.target s.instruction.axes)
    feed := s.after.feed
    speed := s.after.speed
    spindleOn := s.after.spindleOn
    coolantOn := s.after.coolant.isOn
    tool := s.after.tool
    length := Segment.lengthOf s.instruction s.before.position
      (s.before.target s.instruction.axes)
    time := Segment.timeOf g.motion s.after.feed (Segment.lengthOf s.instruction s.before.position
      (s.before.target s.instruction.axes))
    line := s.instruction.line } := by
  unfold segment? Segment.ofInstruction? at h
  split at h
  · rw [← Option.some.inj h]
  · cases h

theorem line_of_segment? {s : Step} {g : Segment} (h : s.segment? = some g) :
    g.line = s.instruction.line :=
  congrArg Segment.line (segment?_eq h)

theorem segment?_of_move {s : Step} {motion : Motion}
    (h : s.instruction.operation = .move motion) : ∃ g, s.segment? = some g := by
  unfold segment? Segment.ofInstruction?
  rw [h]
  exact ⟨_, rfl⟩

theorem segment?_isSome_iff (s : Step) :
    s.segment?.isSome = true ↔ ∃ motion, s.instruction.operation = .move motion := by
  rw [Option.isSome_iff_exists]
  constructor
  · rintro ⟨g, found⟩
    exact ⟨g.motion, exists_move_of_segment? found⟩
  · rintro ⟨motion, move⟩
    exact segment?_of_move move

theorem segments_snoc (trace : List Step) (s : Step) : (trace ++ [s]).filterMap (·.segment?) =
    trace.filterMap (·.segment?) ++ s.segment?.toList := by
  cases h : s.segment? <;> simp [h]

/-- Where a toolpath has a segment, the trace has its step. -/
theorem split_of_segments {trace : List Step} (gs : List Segment) {g : Segment} {hs : List Segment}
    (whole : trace.filterMap (·.segment?) = gs ++ g :: hs) :
    ∃ front s rest, trace = front ++ s :: rest ∧ front.filterMap (·.segment?) = gs ∧
      s.segment? = some g ∧ rest.filterMap (·.segment?) = hs := by
  obtain ⟨skipped, later, split, first, found⟩ := List.filterMap_eq_append_iff.mp whole
  obtain ⟨before, s, rest, next, none, segment, follow⟩ := List.filterMap_eq_cons_iff.mp found
  refine ⟨skipped ++ before, s, rest, ?_, ?_, segment, follow⟩
  · rw [split, next, List.append_assoc]
  · rw [List.filterMap_append, first, List.filterMap_eq_nil_iff.mpr none, List.append_nil]

end Step

namespace Machine

/-- The same machine, on another line perhaps. -/
def Renumbered (m n : Machine) : Prop :=
  n = { m with line := n.line }

theorem Renumbered.refl (m : Machine) : m.Renumbered m := rfl

theorem Renumbered.line (m : Machine) (line : Nat) : m.Renumbered { m with line } := rfl

theorem Renumbered.trans {m n o : Machine} (h : m.Renumbered n) (k : n.Renumbered o) :
    m.Renumbered o := by
  unfold Renumbered at h k ⊢
  rw [k, h]

theorem Renumbered.position {m n : Machine} (h : m.Renumbered n) : n.position = m.position := by
  unfold Renumbered at h
  rw [h]

/-- The steps in which a machine takes instructions in order. -/
def steps (m : Machine) : List Instruction → List Step
  | [] => []
  | i :: rest => ⟨m, i⟩ :: (m.apply i).steps rest

/-- The steps lead from one machine to another. -/
def Linked : Machine → List Step → Machine → Prop
  | m, [], n => m.Renumbered n
  | m, s :: rest, n => m.Renumbered s.before ∧ Linked s.after rest n

theorem Linked.of_renumbered {m n o : Machine} {steps : List Step} (h : m.Renumbered n)
    (linked : Linked n steps o) : Linked m steps o := by
  cases steps with
  | nil => exact h.trans linked
  | cons s rest => exact ⟨h.trans linked.1, linked.2⟩

theorem linked_append {m o : Machine} {front rest : List Step} :
    Linked m (front ++ rest) o ↔ ∃ n, Linked m front n ∧ Linked n rest o := by
  induction front generalizing m with
  | nil =>
    constructor
    · intro h
      exact ⟨m, Renumbered.refl m, h⟩
    · rintro ⟨n, h, rest⟩
      exact rest.of_renumbered h
  | cons s front ih =>
    simp only [List.cons_append, Linked, ih]
    constructor
    · rintro ⟨h, n, linked, rest⟩
      exact ⟨n, ⟨h, linked⟩, rest⟩
    · rintro ⟨n, ⟨h, linked⟩, rest⟩
      exact ⟨h, n, linked, rest⟩

/-- A step in the middle of a run: the run before it leads to it, the run after it goes on. -/
theorem Linked.around {m o : Machine} {front rest : List Step} {s : Step}
    (h : Linked m (front ++ s :: rest) o) : Linked m front s.before ∧ Linked s.after rest o := by
  obtain ⟨n, left, step, right⟩ := linked_append.mp h
  refine ⟨?_, right⟩
  have last : Linked n [] s.before := step
  simpa using linked_append.mpr ⟨n, left, last⟩

theorem Linked.renumber {m n o : Machine} {steps : List Step} (linked : Linked m steps n)
    (h : n.Renumbered o) : Linked m steps o := by
  have last : Linked n [] o := h
  simpa using linked_append.mpr ⟨n, linked, last⟩

theorem Linked.snoc {m n : Machine} {steps : List Step} (linked : Linked m steps n)
    (i : Instruction) : Linked m (steps ++ [⟨n, i⟩]) (n.apply i) :=
  linked_append.mpr ⟨n, linked, Renumbered.refl n, Renumbered.refl _⟩

theorem linked_steps (m : Machine) (instructions : List Instruction) :
    Linked m (m.steps instructions) (instructions.foldl apply m) := by
  induction instructions generalizing m with
  | nil => exact Renumbered.refl m
  | cons i rest ih => exact ⟨Renumbered.refl m, ih (m.apply i)⟩

theorem steps_instructions (m : Machine) (instructions : List Instruction) :
    (m.steps instructions).map (·.instruction) = instructions := by
  induction instructions generalizing m with
  | nil => rfl
  | cons i rest ih => rw [steps, List.map_cons, ih]

end Machine

end PartProgram
