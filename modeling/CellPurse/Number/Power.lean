/-!
# CellPurse.Number.Power — powers with a natural exponent

A power of a number is the one the number's own type computes, so that a closed power, such as `2 ^ 64`, is evaluated
and not unfolded.
-/

attribute [instance (20000)] instPowNat
attribute [default_instance (20000)] instPowNat
