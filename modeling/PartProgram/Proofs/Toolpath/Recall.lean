import PartProgram.Proofs.Controller.Trace
import PartProgram.Proofs.Machine.History

namespace PartProgram

/-- The rates, the spindle, the coolant and the tool of a segment are what a history says. -/
structure Segment.Recalls (g : Segment) (history : List Instruction) : Prop where
  feed : g.feed = (latest (fun i => i.feed.filter (0.0 ≤ ·)) history).getD 0.0
  speed : g.speed = (latest (fun i => i.speed.filter (0.0 ≤ ·)) history).getD 0.0
  spindleOn : g.spindleOn = true ↔ (latest (·.spindle?) history).getD .off ≠ .off
  coolantOn : g.coolantOn = true ↔ SwitchedOn .mist history ∨ SwitchedOn .flood history
  tool : g.tool = (latest (·.changedTool?) history).getD 0

theorem Step.segment?_modal {s : Step} {g : Segment} (h : s.segment? = some g) :
    g.feed = s.after.feed ∧ g.speed = s.after.speed ∧ g.spindleOn = s.after.spindleOn ∧
      g.coolantOn = s.after.coolant.isOn ∧ g.tool = s.after.tool := by
  rw [segment?_eq h]
  exact ⟨rfl, rfl, rfl, rfl, rfl⟩

/-- The segment of a step recalls what the machine remembers after it. -/
theorem Machine.Remembers.recalls {s : Step} {g : Segment} {history : List Instruction}
    (h : s.after.Remembers history) (segment : s.segment? = some g) : g.Recalls history := by
  obtain ⟨feed, speed, spindle, coolant, tool⟩ := Step.segment?_modal segment
  constructor
  · rw [feed, h.feed]
  · rw [speed, h.speed]
  · rw [spindle, Machine.spindleOn, bne_iff_ne, h.spindle]
  · rw [coolant, Coolant.isOn, Bool.or_eq_true, h.mist, h.flood]
  · rw [tool, h.tool]

/-- In a run from the fresh machine each segment recalls the instructions up to its own. -/
theorem Machine.Linked.recalls {m : Machine} {front rest : List Step} {s : Step} {g : Segment}
    (linked : Linked {} (front ++ s :: rest) m) (segment : s.segment? = some g) :
    g.Recalls ((front ++ [s]).map (·.instruction)) := by
  have before := remembers_fresh.linked linked.around.1
  have after := before.apply s.instruction
  rw [List.map_append]
  exact Remembers.recalls after segment

/-- The modal state is a query on the history, whatever instructions are applied to a fresh
machine; and each segment of a program recalls the history up to its own instruction. -/
theorem modal_state_recalls_history :
    (∀ history : List Instruction,
      (history.foldl Machine.apply {}).Remembers history ∧
      (∀ rate ∈ (history.foldl Machine.apply {}).rates,
        0.0 ≤ rate ∧ rate.isNaN = false ∧ ¬rate < 0.0) ∧
      (history.foldl Machine.apply {}).line = 0) ∧
    ∀ (c : Controller) (text : List Char) (gs : List Segment) (g : Segment) (hs : List Segment),
      (c.runText text).toolpath.toList = gs ++ g :: hs →
      ∃ front s rest, c.stepsOfText text = front ++ s :: rest ∧
        front.filterMap (·.segment?) = gs ∧ s.segment? = some g ∧
        g.Recalls ((front ++ [s]).map (·.instruction)) := by
  constructor
  · intro history
    have remembers := Machine.remembers_fresh.linked (Machine.linked_steps {} history)
    rw [Machine.steps_instructions] at remembers
    exact ⟨remembers, remembers.rates, Machine.line_foldl_apply {} history⟩
  · intro c text gs g hs whole
    have linked := c.linked_stepsOfText text
    rw [c.runText_toolpath text] at whole
    split at whole
    · obtain ⟨front, s, rest, cut, before, segment, -⟩ := Step.split_of_segments gs whole
      rw [cut] at linked
      exact ⟨front, s, rest, cut, before, segment, linked.recalls segment⟩
    · simp at whole

/-- Between its two moves the coolant is switched off, and words below zero are refused: a feed
rate, a dwell time and a tool. Only a retract height may be one. -/
def cooledProgram : List Char :=
  "M6 T4\nM3 M8 S500\nG1 X3 F10\nG4 P2\nM9 F-2 P-1\nG83 Q7 R-3\nM6 T-1\nX1".toList

theorem cooledProgram_recalls_history :
    (∃ g h front s rest, (({} : Controller).runText cooledProgram).toolpath.toList = [g, h] ∧
      ({} : Controller).stepsOfText cooledProgram = front ++ s :: rest ∧
      front.filterMap (·.segment?) = [g] ∧ s.segment? = some h ∧
      h.Recalls ((front ++ [s]).map (·.instruction))) ∧
    (({} : Controller).runText cooledProgram).toolpath.toList.map
        (fun g => (g.feed, g.speed, g.spindleOn, g.coolantOn, g.tool)) =
      [(10.0, 500.0, true, true, 4), (10.0, 500.0, true, false, 4)] ∧
    ((({} : Controller).history cooledProgram).foldl Machine.apply {}).Remembers
      (({} : Controller).history cooledProgram) ∧
    ((({} : Controller).history cooledProgram).foldl Machine.apply {}).rates =
      [10.0, 500.0, 2.0, 7.0] ∧
    ((({} : Controller).history cooledProgram).foldl Machine.apply {}).retract = -3.0 ∧
    ((({} : Controller).history cooledProgram).foldl Machine.apply {}).tool = 4 := by
  obtain ⟨remembers, -, -⟩ :=
    modal_state_recalls_history.1 (({} : Controller).history cooledProgram)
  refine ⟨?_, by decide +kernel, remembers, by decide +kernel, by decide +kernel,
    by decide +kernel⟩
  have two : (({} : Controller).runText cooledProgram).toolpath.toList.length = 2 := by
    decide +kernel
  obtain ⟨g, tail, whole⟩ := List.exists_cons_of_length_eq_add_one two
  rw [whole, List.length_cons, Nat.succ_inj] at two
  obtain ⟨h, single⟩ := List.length_eq_one_iff.mp two
  rw [single] at whole
  obtain ⟨front, s, rest, recalls⟩ :=
    modal_state_recalls_history.2 {} cooledProgram [g] h [] whole
  exact ⟨g, h, front, s, rest, whole, recalls⟩

end PartProgram
