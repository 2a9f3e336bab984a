import PartProgram.Proofs.Controller.Effects

namespace PartProgram

namespace Controller

/-- The steps in which numbered lines are run, up to the halt. -/
def steps (c : Controller) (total : Nat) : List (String × Nat) → List Step
  | [] => []
  | l :: rest =>
    if c.isHalted then []
    else (c.openLine l.1 l.2 total).machine.steps (c.read l.1 l.2).instructions ++
      (c.runLine l.1 l.2 total).1.steps total rest

/-- The steps in which a text is run. -/
def stepsOfText (c : Controller) (text : List Char) : List Step :=
  let lines := Text.lines text
  c.reset.steps lines.length (lines.zipIdx 1)

/-- The instructions of a text that are carried out, in order. -/
def history (c : Controller) (text : List Char) : List Instruction :=
  (c.stepsOfText text).map (·.instruction)

section induction

variable {P : Controller → List Step → Prop}
  (line : ∀ c trace text n total, P c trace → P (c.openLine text n total) trace)
  (step : ∀ c trace i, P c trace → P (c.execute i).1 (trace ++ [c.step i]))

include step in
theorem executeAll_induction {c : Controller} {trace : List Step} (start : P c trace)
    (instructions : List Instruction) :
    P (c.executeAll instructions).1 (trace ++ c.machine.steps instructions) := by
  induction instructions generalizing c trace with
  | nil => simpa [executeAll, Machine.steps] using start
  | cons i rest ih =>
    have tail := ih (step c trace i start)
    rw [executeAll_cons]
    simpa [Machine.steps, Controller.step] using tail

include line step in
theorem runLines_induction {c : Controller} {trace : List Step} (start : P c trace) (total : Nat)
    (lines : List (String × Nat)) :
    P (c.runLines total lines) (trace ++ c.steps total lines) := by
  induction lines generalizing c trace with
  | nil => simpa [runLines, steps] using start
  | cons l lines ih =>
    cases halted : c.isHalted with
    | true =>
      rw [runLines_of_isHalted _ _ halted, steps, if_pos halted, List.append_nil]
      exact start
    | false =>
      have opened := line c trace l.1 l.2 total start
      have ran := executeAll_induction step opened (c.read l.1 l.2).instructions
      rw [← runLine_eq] at ran
      have tail := ih ran
      rw [runLines_cons _ _ halted, steps, halted]
      simpa using tail

end induction

section invariant

variable {P : Controller → Prop}
  (line : ∀ c text n total, P c → P (c.openLine text n total))
  (step : ∀ c i, P c → P (c.execute i).1)

include step in
theorem executeAll_invariant {c : Controller} (start : P c) (instructions : List Instruction) :
    P (c.executeAll instructions).1 :=
  @executeAll_induction (fun c _ => P c) (fun c _ => step c) c [] start instructions

include line step in
theorem runLine_invariant {c : Controller} (start : P c) (text : String) (n total : Nat) :
    P (c.runLine text n total).1 := by
  rw [runLine_eq]
  exact executeAll_invariant step (line c text n total start) _

include line step in
theorem runLines_invariant {c : Controller} (start : P c) (total : Nat)
    (lines : List (String × Nat)) : P (c.runLines total lines) :=
  @runLines_induction (fun c _ => P c) (fun c _ => line c) (fun c _ => step c) c [] start total
    lines

end invariant

/-- What a fresh controller satisfies with no steps, and each line and each step keeps, every run
of a text satisfies with its steps. The settings stay as they are all along. -/
theorem runText_induction {P : Controller → List Step → Prop} {c : Controller}
    (line : ∀ d trace text n total, P d trace → P (d.openLine text n total) trace)
    (step : ∀ d trace i, d.settings = c.settings → d.keepsToolpath = c.keepsToolpath →
      P d trace → P (d.execute i).1 (trace ++ [d.step i]))
    (start : P c.reset []) (text : List Char) : P (c.runText text) (c.stepsOfText text) := by
  -- the settings are carried along with the property, since a step may read them
  have run := runLines_induction (c := c.reset)
    (P := fun d trace =>
      d.settings = c.settings ∧ d.keepsToolpath = c.keepsToolpath ∧ P d trace)
    (fun d trace text n total ⟨settings, keeps, h⟩ =>
      ⟨by rw [openLine_settings, settings], by rw [openLine_keepsToolpath, keeps],
        line d trace text n total h⟩)
    (fun d trace i ⟨settings, keeps, h⟩ =>
      ⟨by rw [execute_settings, settings], by rw [execute_keepsToolpath, keeps],
        step d trace i settings keeps h⟩)
    ⟨rfl, rfl, start⟩ (Text.lines text).length ((Text.lines text).zipIdx 1)
  rw [List.nil_append] at run
  exact run.2.2

theorem runText_keepsToolpath (c : Controller) (text : List Char) :
    (c.runText text).keepsToolpath = c.keepsToolpath := by
  apply runText_induction (c := c) (P := fun d _ => d.keepsToolpath = c.keepsToolpath)
  · intro d trace text n total keeps
    rw [openLine_keepsToolpath, keeps]
  · intro d trace i _ keeps _
    rw [execute_keepsToolpath, keeps]
  · rfl

section linked

variable {c : Controller} {trace : List Step} (linked : Machine.Linked {} trace c.machine)

include linked

theorem linked_openLine (text : String) (n total : Nat) :
    Machine.Linked {} trace (c.openLine text n total).machine := by
  rw [openLine_machine]
  exact linked.renumber (.line c.machine n)

theorem linked_execute (i : Instruction) :
    Machine.Linked {} (trace ++ [c.step i]) (c.execute i).1.machine := by
  rw [execute_machine]
  exact linked.snoc i

end linked

/-- The machine goes from the fresh one to the one at the end through the steps. -/
theorem linked_stepsOfText (c : Controller) (text : List Char) :
    Machine.Linked {} (c.stepsOfText text) (c.runText text).machine := by
  apply runText_induction (c := c) (P := fun d trace => Machine.Linked {} trace d.machine)
  · intro d trace text n total linked
    exact linked_openLine linked text n total
  · intro d trace i _ _ linked
    exact linked_execute linked i
  · exact Machine.Renumbered.refl _

/-- The toolpath is the segments of the steps, if it is built and kept. -/
theorem runText_toolpath (c : Controller) (text : List Char) :
    (c.runText text).toolpath.toList =
      if c.settings.toolpath && c.keepsToolpath then (c.stepsOfText text).filterMap (·.segment?)
      else [] := by
  apply runText_induction (c := c) (P := fun d trace => d.toolpath.toList =
    if c.settings.toolpath && c.keepsToolpath then trace.filterMap (·.segment?) else [])
  · intro d trace text n total toolpath
    rw [openLine_toolpath, toolpath]
  · intro d trace i settings keeps toolpath
    have out : d.delivered i = if c.settings.toolpath then (d.step i).segment? else none := by
      rw [delivered, settings]
    rw [execute_toolpath, keeps, out]
    cases kept : c.keepsToolpath with
    | false => simpa [kept] using toolpath
    | true =>
      cases built : c.settings.toolpath with
      | false => simpa [kept, built] using toolpath
      | true =>
        simp only [built, kept, Bool.and_true, if_true] at toolpath ⊢
        rw [Array.toList_appendList, toolpath, Step.segments_snoc]
  · simp [reset]

end Controller

end PartProgram
