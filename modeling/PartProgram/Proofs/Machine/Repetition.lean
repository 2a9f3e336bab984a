import PartProgram.Proofs.Machine.Axis

namespace PartProgram

/-- A choice written over twice, with another one in between. -/
theorem getD_getD_getD {α : Type} (o p : Option α) (value : α) :
    o.getD (p.getD (o.getD value)) = o.getD (p.getD value) := by
  cases o with
  | none => rfl
  | some _ => rfl

namespace AxisWords

theorem absolute_absolute_absolute (v w : AxisWords) (base : Position) :
    v.absolute (w.absolute (v.absolute base)) = v.absolute (w.absolute base) := by
  apply Axes.ext <;> exact getD_getD_getD _ _ _

end AxisWords

namespace Machine

variable {m : Machine} {i : Instruction}

/-- What an instruction makes of a machine that counts in absolute coordinates. -/
def overwrite (m : Machine) (i : Instruction) : Machine :=
  { m with
    position := i.axes.absolute m.position
    motion := i.motion?.getD m.motion
    distanceMode := i.distanceMode?.getD m.distanceMode
    units := i.units?.getD m.units
    plane := i.plane?.getD m.plane
    system := i.system?.getD m.system
    spindle := i.spindle?.getD m.spindle
    coolant :=
      { mist := i.operation = .mist || (i.operation ≠ .coolantOff && m.coolant.mist)
        flood := i.operation = .flood || (i.operation ≠ .coolantOff && m.coolant.flood) }
    tool := i.changedTool?.getD m.tool
    running := m.running && !decide i.Halts
    feed := (i.feed.filter (0.0 ≤ ·)).getD m.feed
    speed := (i.speed.filter (0.0 ≤ ·)).getD m.speed
    dwell := (i.dwell.filter (0.0 ≤ ·)).getD m.dwell
    retract := i.retract.getD m.retract
    peck := (i.peck.filter (0.0 ≤ ·)).getD m.peck }

theorem apply_offset_of_ne (m : Machine) (other : i.operation ≠ .offset) :
    (m.apply i).offset = m.offset := by
  rw [apply_offset, select]
  cases operation : i.operation with
  | offset => exact absurd operation other
  | _ => rfl

theorem apply_eq_overwrite (other : i.operation ≠ .offset)
    (absolute : (m.apply i).distanceMode = .absolute) : m.apply i = m.overwrite i := by
  have position : (m.apply i).position = i.axes.absolute m.position := by
    have coordinate (axis : Axis) : (m.apply i).position.get axis =
        (i.axes.absolute m.position).get axis := by
      rw [apply_position_get_of_absolute absolute, AxisWords.get_absolute]
    exact Axes.ext (coordinate .x) (coordinate .y) (coordinate .z) (coordinate .a) (coordinate .b)
      (coordinate .c)
  rw [apply_eq, position, apply_offset_of_ne m other]
  rfl

/-- What an instruction writes is lost where it comes again. -/
theorem overwrite_overwrite_overwrite (m : Machine) (i j : Instruction) :
    ((m.overwrite i).overwrite j).overwrite i = (m.overwrite j).overwrite i := by
  have switch (on kept on' kept' was : Bool) :
      (on || (kept && (on' || (kept' && (on || (kept && was)))))) =
        (on || (kept && (on' || (kept' && was)))) := by
    revert on kept on' kept' was
    decide
  have stop (running : Bool) (h h' : Prop) [Decidable h] [Decidable h'] :
      (((running && !decide h) && !decide h') && !decide h) =
        ((running && !decide h') && !decide h) := by
    cases decide h <;> cases decide h' <;> simp
  simp only [overwrite, getD_getD_getD, AxisWords.absolute_absolute_absolute, switch, stop]

/-- An instruction that bears on nothing writes nothing. -/
theorem overwrite_unknown (m : Machine) : m.overwrite { operation := .unknown } = m := by
  have running : (m.running && !decide (Instruction.Halts { operation := .unknown })) = m.running :=
    Bool.and_true _
  unfold overwrite
  rw [running]
  rfl

theorem overwrite_overwrite (m : Machine) (i : Instruction) :
    (m.overwrite i).overwrite i = m.overwrite i := by
  have between := m.overwrite_overwrite_overwrite i { operation := .unknown }
  rwa [overwrite_unknown, overwrite_unknown] at between

/-- What an instruction writes is lost where it comes again, be it after many others. -/
theorem overwrite_foldl_overwrite (i : Instruction) (later : List Instruction) (m : Machine) :
    (later.foldl overwrite (m.overwrite i)).overwrite i =
      (later.foldl overwrite m).overwrite i := by
  induction later generalizing m with
  | nil => exact m.overwrite_overwrite i
  | cons j later ih =>
    simp only [List.foldl_cons]
    -- the instruction is put in once more, right after the one it is to be moved past
    calc (later.foldl overwrite ((m.overwrite i).overwrite j)).overwrite i
      _ = (later.foldl overwrite (((m.overwrite i).overwrite j).overwrite i)).overwrite i :=
        (ih _).symm
      _ = (later.foldl overwrite ((m.overwrite j).overwrite i)).overwrite i := by
        rw [overwrite_overwrite_overwrite]
      _ = (later.foldl overwrite (m.overwrite j)).overwrite i := ih _

/-- Instructions carried out twice leave what they left the first time. -/
theorem foldl_overwrite_foldl_overwrite (instructions : List Instruction) (m : Machine) :
    instructions.foldl overwrite (instructions.foldl overwrite m) =
      instructions.foldl overwrite m := by
  induction instructions using List.reverseRecOn with
  | nil => rfl
  | append_singleton earlier i ih =>
    simp only [List.foldl_append, List.foldl_cons, List.foldl_nil]
    rw [overwrite_foldl_overwrite, ih]

/-- Where nothing selects incremental coordinates or sets an offset, absolute coordinates stay in
force and each instruction only writes over fields. -/
theorem foldl_apply_eq_overwrite {instructions : List Instruction}
    (absolute : m.distanceMode = .absolute)
    (plain : ∀ i ∈ instructions,
      i.operation ≠ .offset ∧ i.operation ≠ .distanceMode .incremental) :
    instructions.foldl apply m = instructions.foldl overwrite m ∧
      (instructions.foldl apply m).distanceMode = .absolute := by
  induction instructions generalizing m with
  | nil => exact ⟨rfl, absolute⟩
  | cons i rest ih =>
    obtain ⟨noOffset, noIncrement⟩ := plain i (List.mem_cons_self ..)
    have kept : (m.apply i).distanceMode = .absolute :=
      apply_absolute_of_ne absolute noIncrement
    have later := ih kept fun j mem => plain j (List.mem_cons_of_mem _ mem)
    rw [List.foldl_cons, List.foldl_cons, ← apply_eq_overwrite noOffset kept]
    exact later

/-- Nothing reads the number of the line. -/
theorem foldl_overwrite_line (instructions : List Instruction) (m : Machine) (line : Nat) :
    instructions.foldl overwrite { m with line } =
      { instructions.foldl overwrite m with line } := by
  induction instructions generalizing m with
  | nil => rfl
  | cons i rest ih => exact ih (m.overwrite i)

end Machine

end PartProgram
