namespace PartProgram

structure Settings where
  /-- Unknown codes are left out, and the first fault ends the program. -/
  strict : Bool := false
  /-- So many faults end the program. -/
  errorLimit : Nat := 100
  /-- Moves are counted and measured. -/
  statistics : Bool := true
  toolpath : Bool := true
deriving DecidableEq, Repr

end PartProgram
