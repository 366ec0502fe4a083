/-!
# Integers of 64 bits

The ranges of whole numbers that fit into 64 bits, with a sign and without one.
-/

namespace CloudProvision.Integer64

/-- The least number with a sign. -/
def least : Int := -9223372036854775808

/-- The greatest number with a sign. -/
def greatest : Int := 9223372036854775807

/-- The greatest number without a sign. -/
def greatestUnsigned : Nat := 18446744073709551615

end CloudProvision.Integer64
