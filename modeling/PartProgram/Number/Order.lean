import PartProgram.Number.Power
import PartProgram.Table

namespace PartProgram.Number

/-- The place of a value in the total order, where −0 comes before 0 and NaN after all. -/
def place (x : Float) : Int :=
  if x.toBits.toNat < 2 ^ (63 : Nat) then x.toBits.toNat else 2 ^ (63 : Nat) - 1 - x.toBits.toNat

theorem place_injective {x y : Float} (h : place x = place y) : x = y := by
  have bits : x.toBits.toNat = y.toBits.toNat := by
    unfold place at h
    split at h <;> split at h <;> omega
  have bits : x.toModel.toBits = y.toModel.toBits := UInt64.toNat_inj.mp bits
  cases x with | _ x
  cases y with | _ y
  cases x
  cases y
  obtain rfl := bits
  rfl

instance : Ranked Float := ⟨place, place_injective⟩

/-- The lesser of two values: the first unless the second is below it or the first is NaN. -/
def least (x y : Float) : Float :=
  if x.isNaN then y else if y < x then y else x

def greatest (x y : Float) : Float :=
  if x.isNaN then y else if x < y then y else x

end PartProgram.Number
