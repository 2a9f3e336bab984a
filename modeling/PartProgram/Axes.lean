namespace PartProgram

/-- One value for each axis: the linear axes X, Y, Z and the rotary axes A, B, C. -/
structure Axes (α : Type) where
  x : α
  y : α
  z : α
  a : α
  b : α
  c : α
deriving DecidableEq, Repr

namespace Axes

variable {α β γ : Type}

def replicate (v : α) : Axes α :=
  ⟨v, v, v, v, v, v⟩

def map (f : α → β) (p : Axes α) : Axes β :=
  ⟨f p.x, f p.y, f p.z, f p.a, f p.b, f p.c⟩

def zipWith (f : α → β → γ) (p : Axes α) (q : Axes β) : Axes γ :=
  ⟨f p.x q.x, f p.y q.y, f p.z q.z, f p.a q.a, f p.b q.b, f p.c q.c⟩

@[ext] theorem ext {p q : Axes α} (x : p.x = q.x) (y : p.y = q.y) (z : p.z = q.z) (a : p.a = q.a)
    (b : p.b = q.b) (c : p.c = q.c) : p = q := by
  cases p
  cases q
  simp_all

end Axes

abbrev Position := Axes Float

namespace Position

def origin : Position :=
  .replicate 0.0

/-- A position whose rotary axes are at zero. -/
def linear (x y z : Float) : Position :=
  ⟨x, y, z, 0.0, 0.0, 0.0⟩

def add (p q : Position) : Position :=
  p.zipWith (· + ·) q

def sub (p q : Position) : Position :=
  p.zipWith (· - ·) q

/-- The Euclidean distance on the linear axes. -/
def distance (p q : Position) : Float :=
  let d := sub q p
  (d.x * d.x + d.y * d.y + d.z * d.z).sqrt

end Position

abbrev AxisWords := Axes (Option Float)

namespace AxisWords

def none : AxisWords :=
  .replicate .none

def anyLinear (w : AxisWords) : Bool :=
  w.x.isSome || w.y.isSome || w.z.isSome

def any (w : AxisWords) : Bool :=
  w.anyLinear || w.a.isSome || w.b.isSome || w.c.isSome

/-- The given axes take their values; the others stay. -/
def absolute (w : AxisWords) (base : Position) : Position :=
  w.zipWith (fun word value => word.getD value) base

/-- The given axes move by their values. The others move by zero, which makes a −0 positive. -/
def incremental (w : AxisWords) (base : Position) : Position :=
  w.zipWith (fun word value => value + word.getD 0.0) base

theorem any_eq_false {w : AxisWords} : w.any = false ↔ w = none := by
  simp [any, anyLinear, none, Axes.replicate, Axes.ext_iff, and_assoc]

end AxisWords

end PartProgram
