/-!
# Words of 64 bits

The ends of the domains of whole numbers that fit 64 bits, with a sign and without.
-/

namespace TestSpec

/-- The least whole number of 64 bits with a sign. -/
def int64Min : Int := -9223372036854775808

/-- The greatest whole number of 64 bits with a sign. -/
def int64Max : Int := 9223372036854775807

/-- Whole numbers without a sign that are below this fit 64 bits. -/
def wordLimit : Nat := 18446744073709551616

end TestSpec
