namespace PartProgram

-- Throughout the library the power of a natural or an integer is that of the core language, also
-- where a theory of monoids brings one of its own. A literal exponent is written with its type, or
-- a default would choose between the two.
attribute [scoped instance (high)] instPowNat

end PartProgram
