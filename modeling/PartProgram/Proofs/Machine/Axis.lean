import Mathlib.Data.List.Induction
import Mathlib.Logic.Function.Iterate
import PartProgram.Proofs.Machine.History
import PartProgram.Proofs.Machine.Position

namespace PartProgram

/-- The name of an axis. -/
inductive Axis where
  | x
  | y
  | z
  | a
  | b
  | c
deriving DecidableEq, Repr

instance (p : Axis → Prop) [DecidablePred p] : Decidable (∀ axis, p axis) :=
  decidable_of_iff (p .x ∧ p .y ∧ p .z ∧ p .a ∧ p .b ∧ p .c)
    ⟨fun ⟨x, y, z, a, b, c⟩ axis => match axis with
      | .x => x | .y => y | .z => z | .a => a | .b => b | .c => c,
    fun h => ⟨h .x, h .y, h .z, h .a, h .b, h .c⟩⟩

/-- The letter that gives the axis a word. -/
def Axis.letter : Axis → Char
  | x => 'X'
  | y => 'Y'
  | z => 'Z'
  | a => 'A'
  | b => 'B'
  | c => 'C'

theorem Axis.letter_mem : ∀ axis : Axis, axis.letter ∈ ['X', 'Y', 'Z', 'A', 'B', 'C'] := by
  decide

namespace Axes

variable {α β γ : Type}

def get (p : Axes α) : Axis → α
  | .x => p.x
  | .y => p.y
  | .z => p.z
  | .a => p.a
  | .b => p.b
  | .c => p.c

@[simp] theorem get_replicate (v : α) (axis : Axis) : (replicate v).get axis = v := by
  cases axis <;> rfl

@[simp] theorem get_zipWith (f : α → β → γ) (p : Axes α) (q : Axes β) (axis : Axis) :
    (p.zipWith f q).get axis = f (p.get axis) (q.get axis) := by
  cases axis <;> rfl

end Axes

namespace AxisWords

variable (w : AxisWords) (base : Position) (axis : Axis)

@[simp] theorem get_none : none.get axis = .none :=
  Axes.get_replicate _ _

@[simp] theorem get_absolute : (w.absolute base).get axis = (w.get axis).getD (base.get axis) :=
  Axes.get_zipWith _ _ _ _

@[simp] theorem get_incremental :
    (w.incremental base).get axis = base.get axis + (w.get axis).getD 0.0 :=
  Axes.get_zipWith _ _ _ _

theorem any_of_get {w : AxisWords} {axis : Axis} {v : Float} (given : w.get axis = some v) :
    w.any = true := by
  cases h : w.any with
  | true => rfl
  | false =>
    rw [any_eq_false.mp h, get_none] at given
    cases given

end AxisWords

@[simp] theorem Position.get_origin (axis : Axis) : Position.origin.get axis = 0.0 :=
  Axes.get_replicate _ _

namespace Machine

variable {m : Machine} {i : Instruction} {axis : Axis}

theorem get_offsetFor (m : Machine) (w : AxisWords) (axis : Axis) :
    (m.offsetFor w).get axis =
      offsetFor.shift (w.get axis) (m.position.get axis) (m.offset.get axis) := by
  cases axis <;> rfl

theorem get_toMachine (m : Machine) (p : Position) (axis : Axis) :
    (m.toMachine p).get axis = p.get axis + m.offset.get axis :=
  Axes.get_zipWith _ _ _ _

theorem apply_distanceMode (m : Machine) (i : Instruction) :
    (m.apply i).distanceMode = (m.select i).distanceMode := by
  rw [apply_eq, select_eq]

/-- An instruction that selects no other mode leaves the mode in force. -/
theorem apply_distanceMode_of_ne {mode : DistanceMode} (inForce : m.distanceMode = mode)
    (other : ∀ selected, i.operation = .distanceMode selected → selected = mode) :
    (m.apply i).distanceMode = mode := by
  rw [apply_eq]
  unfold Instruction.distanceMode?
  cases operation : i.operation with
  | distanceMode selected => exact other selected operation
  | _ => exact inForce

theorem apply_absolute_of_ne (absolute : m.distanceMode = .absolute)
    (other : i.operation ≠ .distanceMode .incremental) :
    (m.apply i).distanceMode = .absolute := by
  apply apply_distanceMode_of_ne absolute
  intro selected selects
  cases selected with
  | absolute => rfl
  | incremental => exact absurd selects other

/-- A motion goes to the target of its words, and so does any instruction with axis words. -/
theorem apply_position_get (moves : (i.operation.isMotion || i.axes.any) = true) :
    (m.apply i).position.get axis =
      match (m.apply i).distanceMode with
      | .absolute => (i.axes.get axis).getD (m.position.get axis)
      | .incremental => m.position.get axis + (i.axes.get axis).getD 0.0 := by
  have target : (m.apply i).position = (m.select i).target i.axes := by
    rw [apply_position, if_pos moves]
  rw [target, apply_distanceMode]
  unfold Machine.target
  cases (m.select i).distanceMode with
  | absolute => simp
  | incremental => simp

/-- An instruction without axis words that is no motion stays where it is. -/
theorem apply_position_of_none (still : i.operation.isMotion = false) (words : i.axes = .none) :
    (m.apply i).position = m.position := by
  have any : i.axes.any = false := AxisWords.any_eq_false.mpr words
  rw [apply_position, still, any]
  rfl

/-- In absolute mode a coordinate takes the word for its axis, if there is one. -/
theorem apply_position_get_of_absolute (absolute : (m.apply i).distanceMode = .absolute) :
    (m.apply i).position.get axis = (i.axes.get axis).getD (m.position.get axis) := by
  cases moves : i.operation.isMotion || i.axes.any with
  | true => rw [apply_position_get moves, absolute]
  | false =>
    have still := Bool.or_eq_false_iff.mp moves
    have words : i.axes = .none := AxisWords.any_eq_false.mp still.2
    rw [apply_position_of_none still.1 words, words, AxisWords.get_none, Option.getD_none]

/-- In incremental mode a coordinate moves by the word for its axis. -/
theorem apply_position_get_of_incremental {v : Float}
    (incremental : (m.apply i).distanceMode = .incremental) (given : i.axes.get axis = some v) :
    (m.apply i).position.get axis = m.position.get axis + v := by
  have moves : (i.operation.isMotion || i.axes.any) = true := by
    simp [AxisWords.any_of_get given]
  rw [apply_position_get moves, incremental, given]
  rfl

/-- In absolute mode a coordinate is the last word that instructions give for its axis. -/
theorem foldl_apply_position_of_absolute (axis : Axis) (history : List Instruction)
    (absolute : m.distanceMode = .absolute)
    (never : ∀ i ∈ history, i.operation ≠ .distanceMode .incremental) :
    (history.foldl apply m).distanceMode = .absolute ∧
      (history.foldl apply m).position.get axis =
        (latest (·.axes.get axis) history).getD (m.position.get axis) := by
  induction history using List.reverseRecOn with
  | nil => exact ⟨absolute, rfl⟩
  | append_singleton earlier i ih =>
    obtain ⟨mode, position⟩ := ih fun j mem => never j (by simp [mem])
    have last : i.operation ≠ .distanceMode .incremental := never i (by simp)
    have kept : ((earlier.foldl apply m).apply i).distanceMode = .absolute :=
      apply_absolute_of_ne mode last
    rw [List.foldl_append, List.foldl_cons, List.foldl_nil]
    refine ⟨kept, ?_⟩
    rw [apply_position_get_of_absolute kept, position, latest_snoc]

/-- In incremental mode a coordinate moves by the word for its axis as often as an instruction
carries it, if the others neither move nor carry axis words. -/
theorem foldl_apply_position_of_incremental {v : Float} (instructions : List Instruction)
    (incremental : m.distanceMode = .incremental)
    (never : ∀ i ∈ instructions, i.operation ≠ .distanceMode .absolute)
    (carried : ∀ i ∈ instructions, i.axes.get axis = some v ∨
      (i.operation.isMotion = false ∧ i.axes = .none)) :
    (instructions.foldl apply m).position.get axis =
      (· + v)^[instructions.countP (·.axes.any)] (m.position.get axis) := by
  induction instructions generalizing m with
  | nil => rfl
  | cons i rest ih =>
    have kept : (m.apply i).distanceMode = .incremental := by
      apply apply_distanceMode_of_ne incremental
      intro selected selects
      cases selected with
      | absolute => exact absurd selects (never i (by simp))
      | incremental => rfl
    have tail := ih kept (fun j mem => never j (by simp [mem]))
      fun j mem => carried j (by simp [mem])
    rw [List.foldl_cons, tail]
    rcases carried i (by simp) with given | ⟨still, words⟩
    · have one : (i :: rest).countP (·.axes.any) = rest.countP (·.axes.any) + 1 := by
        simp [AxisWords.any_of_get given]
      rw [apply_position_get_of_incremental kept given, one, Function.iterate_succ_apply]
    · have none : (i :: rest).countP (·.axes.any) = rest.countP (·.axes.any) := by
        simp [AxisWords.any_eq_false.mpr words]
      rw [apply_position_of_none still words, none]

end Machine

end PartProgram
