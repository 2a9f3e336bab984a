import PartProgram.Proofs.Controller.Trace
import PartProgram.Proofs.Machine.Axis
import PartProgram.Proofs.Number.Exact

namespace PartProgram

open Number

namespace Machine

variable {m n : Machine} {i : Instruction} {axis : Axis}

/-- The second machine reads the words on the axes that have them, keeps the others as they are,
and stands where the first one stands. -/
structure Relabels (m : Machine) (w : AxisWords) (n : Machine) : Prop where
  reads : ∀ axis v, w.get axis = some v → SameValue (n.position.get axis) v
  position : ∀ axis, w.get axis = none → SameValue (n.position.get axis) (m.position.get axis)
  offset : ∀ axis, w.get axis = none → n.offset.get axis = m.offset.get axis
  stands : ∀ axis,
    SameValue ((n.toMachine n.position).get axis) ((m.toMachine m.position).get axis)

instance (m : Machine) (w : AxisWords) (n : Machine) : Decidable (m.Relabels w n) :=
  decidable_of_iff
    ((∀ axis, ∀ v ∈ w.get axis, SameValue (n.position.get axis) v) ∧
      (∀ axis, w.get axis = none → SameValue (n.position.get axis) (m.position.get axis)) ∧
      (∀ axis, w.get axis = none → n.offset.get axis = m.offset.get axis) ∧
      ∀ axis, SameValue ((n.toMachine n.position).get axis) ((m.toMachine m.position).get axis))
    ⟨fun ⟨reads, position, offset, stands⟩ => ⟨reads, position, offset, stands⟩,
    fun ⟨reads, position, offset, stands⟩ => ⟨reads, position, offset, stands⟩⟩

/-- Nothing is rounded when the offset is set: neither the machine coordinates before and after,
nor the shift of a given axis, nor what incremental mode adds. -/
structure Unrounded (m : Machine) (i : Instruction) : Prop where
  before : ∀ axis, SumExact (m.position.get axis) (m.offset.get axis)
  shift : ∀ axis v, i.axes.get axis = some v → DifferenceExact (m.position.get axis) v
  move : m.distanceMode = .incremental →
    ∀ axis, SumExact (m.position.get axis) ((i.axes.get axis).getD 0.0)
  after : ∀ axis, SumExact ((m.apply i).position.get axis) ((m.apply i).offset.get axis)

instance (m : Machine) (i : Instruction) : Decidable (m.Unrounded i) :=
  decidable_of_iff
    ((∀ axis, SumExact (m.position.get axis) (m.offset.get axis)) ∧
      (∀ axis, ∀ v ∈ i.axes.get axis, DifferenceExact (m.position.get axis) v) ∧
      (m.distanceMode = .incremental →
        ∀ axis, SumExact (m.position.get axis) ((i.axes.get axis).getD 0.0)) ∧
      ∀ axis, SumExact ((m.apply i).position.get axis) ((m.apply i).offset.get axis))
    ⟨fun ⟨before, shift, move, after⟩ => ⟨before, shift, move, after⟩,
    fun ⟨before, shift, move, after⟩ => ⟨before, shift, move, after⟩⟩

section offset

variable (isOffset : i.operation = .offset)

include isOffset

theorem apply_offset_get : (m.apply i).offset.get axis =
    offsetFor.shift (i.axes.get axis) (m.position.get axis) (m.offset.get axis) := by
  have selected : (m.apply i).offset = m.offsetFor i.axes := by
    rw [apply_offset, select, isOffset]
  rw [selected, get_offsetFor]

theorem apply_offset_distanceMode : (m.apply i).distanceMode = m.distanceMode := by
  apply apply_distanceMode_of_ne rfl
  intro selected selects
  rw [isOffset] at selects
  cases selects

/-- In absolute mode a given axis reads its word, bit for bit, and the others stay as they are. -/
theorem apply_offset_position_of_absolute (absolute : m.distanceMode = .absolute) :
    (m.apply i).position.get axis = (i.axes.get axis).getD (m.position.get axis) :=
  apply_position_get_of_absolute (by rw [apply_offset_distanceMode isOffset, absolute])

/-- What a given axis reads afterwards. -/
def reading (m : Machine) (position word : Int) : Int :=
  match m.distanceMode with
  | .absolute => word
  | .incremental => position + word

/-- The values on a given axis. The machine coordinate becomes what is read plus the shift. -/
theorem Unrounded.given (h : m.Unrounded i) {v : Float} (word : i.axes.get axis = some v) :
    ∃ p o u, units? (m.position.get axis) = some p ∧ units? (m.offset.get axis) = some o ∧
      units? v = some u ∧
      units? ((m.apply i).position.get axis) = some (m.reading p u) ∧
      units? ((m.toMachine m.position).get axis) = some (p + o) ∧
      units? (((m.apply i).toMachine (m.apply i).position).get axis) =
        some (m.reading p u + (p - u)) := by
  obtain ⟨p, hp, o, ho, sum⟩ := h.before axis
  obtain ⟨-, -, u, hu, -⟩ := h.shift axis v word
  have read : units? ((m.apply i).position.get axis) = some (m.reading p u) := by
    unfold reading
    cases mode : m.distanceMode with
    | absolute =>
      rw [apply_offset_position_of_absolute isOffset mode, word]
      exact hu
    | incremental =>
      have moved : (m.apply i).position.get axis = m.position.get axis + v :=
        apply_position_get_of_incremental
          (by rw [apply_offset_distanceMode isOffset, mode]) word
      have move := h.move mode axis
      rw [word] at move
      rw [moved]
      exact move.units hp hu
  have shifted : units? ((m.apply i).offset.get axis) = some (p - u) := by
    rw [apply_offset_get isOffset, word]
    exact (h.shift axis v word).units hp hu
  refine ⟨p, o, u, hp, ho, hu, read, ?_, ?_⟩
  · rw [get_toMachine, sum]
  · rw [get_toMachine, (h.after axis).units read shifted]

/-- On an axis without a word the position keeps its value, and so does the machine coordinate. -/
theorem Unrounded.absent (h : m.Unrounded i) (absent : i.axes.get axis = none) :
    (m.apply i).offset.get axis = m.offset.get axis ∧
      SameValue ((m.apply i).position.get axis) (m.position.get axis) ∧
      SameValue (((m.apply i).toMachine (m.apply i).position).get axis)
        ((m.toMachine m.position).get axis) := by
  obtain ⟨p, hp, o, ho, sum⟩ := h.before axis
  have kept : (m.apply i).offset.get axis = m.offset.get axis := by
    rw [apply_offset_get isOffset, absent]
    rfl
  have stays : units? ((m.apply i).position.get axis) = some p := by
    cases mode : m.distanceMode with
    | absolute =>
      rw [apply_offset_position_of_absolute isOffset mode, absent]
      exact hp
    | incremental =>
      cases any : i.axes.any with
      | false =>
        have still : i.operation.isMotion = false := by rw [isOffset]; rfl
        rw [apply_position_of_none still (AxisWords.any_eq_false.mp any)]
        exact hp
      | true =>
        -- a word for another axis moves this one by zero
        have moves : (i.operation.isMotion || i.axes.any) = true := by rw [any, Bool.or_true]
        have move := h.move mode axis
        rw [absent] at move
        rw [apply_position_get moves, apply_offset_distanceMode isOffset, mode, absent]
        simpa using move.units hp units?_zero
  have after := h.after axis
  rw [kept] at after
  refine ⟨kept, ⟨p, stays, hp⟩, ?_⟩
  rw [get_toMachine, get_toMachine, kept]
  exact ⟨p + o, after.units stays ho, sum⟩

end offset

end Machine

/-- G92 relabels the position without moving the machine just if the axes it names have no offset
yet and, in incremental mode, stand at zero, provided that nothing is rounded. In absolute mode
it always makes them read their words, bit for bit, and leaves the other axes as they are. -/
theorem offset_relabels_iff (m : Machine) (i : Instruction) (isOffset : i.operation = .offset) :
    (m.distanceMode = .absolute → ∀ axis : Axis,
      (m.apply i).position.get axis = (i.axes.get axis).getD (m.position.get axis)) ∧
    (m.Unrounded i →
      (m.Relabels i.axes (m.apply i) ↔ ∀ axis v, i.axes.get axis = some v →
        units? (m.offset.get axis) = some 0 ∧
          (m.distanceMode = .incremental → units? (m.position.get axis) = some 0))) := by
  refine ⟨fun absolute axis => Machine.apply_offset_position_of_absolute isOffset absolute, ?_⟩
  intro exact
  constructor
  · -- the machine stays only if the axis reads `u + o`, and the word asks for `u`
    intro relabels axis v word
    obtain ⟨p, o, u, hp, ho, hu, reads, before, after⟩ := exact.given isOffset word
    have read := (sameValue_iff reads hu).mp (relabels.reads axis v word)
    have stands := (sameValue_iff after before).mp (relabels.stands axis)
    rw [hp, ho, Option.some.injEq, Option.some.injEq]
    constructor
    · omega
    · intro incremental
      unfold Machine.reading at read
      rw [incremental] at read
      dsimp only at read
      omega
  · intro fresh
    have same {axis v} (word : i.axes.get axis = some v) :
        SameValue ((m.apply i).position.get axis) v ∧
          SameValue (((m.apply i).toMachine (m.apply i).position).get axis)
            ((m.toMachine m.position).get axis) := by
      obtain ⟨p, o, u, hp, ho, hu, reads, before, after⟩ := exact.given isOffset word
      obtain ⟨zero, start⟩ := fresh axis v word
      rw [ho, Option.some.injEq] at zero
      rw [hp, Option.some.injEq] at start
      have read : m.reading p u = u := by
        unfold Machine.reading
        cases mode : m.distanceMode with
        | absolute => rfl
        | incremental =>
          have start := start mode
          dsimp only
          omega
      rw [sameValue_iff reads hu, sameValue_iff after before]
      exact ⟨read, by omega⟩
    constructor
    · intro axis v word
      exact (same word).1
    · intro axis absent
      exact (exact.absent isOffset absent).2.1
    · intro axis absent
      exact (exact.absent isOffset absent).1
    · intro axis
      cases word : i.axes.get axis with
      | some v => exact (same word).2
      | none => exact (exact.absent isOffset word).2.2

/-- G92 X0. -/
def zeroX : Instruction :=
  { operation := .offset, axes := ⟨some 0.0, none, none, none, none, none⟩ }

/-- A machine that is away from zero on X without an offset. -/
def movedMachine : Machine :=
  (({} : Controller).runText "G1 X10 Y3".toList).machine

/-- The same in incremental mode. -/
def incrementalMachine : Machine :=
  (({} : Controller).runText "G91\nG1 X5".toList).machine

/-- A machine that has moved since its X was relabelled. -/
def relabelledMachine : Machine :=
  (({} : Controller).runText "G1 X10\nG92 X0\nG1 X5".toList).machine

theorem movedMachine_relabelled :
    zeroX.operation = .offset ∧ movedMachine.Unrounded zeroX ∧
      movedMachine.Relabels zeroX.axes (movedMachine.apply zeroX) := by
  have exact : movedMachine.Unrounded zeroX := by decide +kernel
  have fresh : ∀ axis, ∀ v ∈ zeroX.axes.get axis, units? (movedMachine.offset.get axis) = some 0 ∧
      (movedMachine.distanceMode = .incremental →
        units? (movedMachine.position.get axis) = some 0) := by
    decide +kernel
  exact ⟨rfl, exact, ((offset_relabels_iff movedMachine zeroX rfl).2 exact).mpr fresh⟩

/-- In incremental mode the axis does not read its word. After another G92 it does in absolute
mode, but the machine is taken to stand elsewhere. -/
theorem offset_displaces_machine :
    (incrementalMachine.Unrounded zeroX ∧
      ¬incrementalMachine.Relabels zeroX.axes (incrementalMachine.apply zeroX)) ∧
    (relabelledMachine.Unrounded zeroX ∧
      ¬relabelledMachine.Relabels zeroX.axes (relabelledMachine.apply zeroX)) := by
  decide +kernel

end PartProgram
