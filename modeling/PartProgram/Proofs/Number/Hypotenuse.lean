import PartProgram.Number.Hypotenuse
import PartProgram.Proofs.Number.Nearest

namespace PartProgram.Number

example : hypotenuse 3.0 (-4.0) = 5.0 := by
  decide +kernel

end PartProgram.Number
