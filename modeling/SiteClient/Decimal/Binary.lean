/-!
# The exact value of a double

A finite double is `± mantissa · 2 ^ exponent` with natural mantissa. Everything the library decides
about a double (its shortest decimal, its integer part) is decided on these two numbers in exact
arithmetic.
-/

namespace SiteClient

/-- The number `± mantissa · 2 ^ exponent`. -/
structure Binary where
  negative : Bool
  mantissa : Nat
  exponent : Int
  deriving DecidableEq, Repr

namespace Binary

def leadingBit : Nat := 1 <<< 52

/-- The fields of a double: a sign bit, eleven exponent bits, fifty-two fraction bits. An exponent
field of zero means that the leading bit of the mantissa is zero as well. -/
def ofFloat (x : Float) : Binary :=
  let bits : Nat := x.toBits.toNat
  let field : Nat := bits / leadingBit % 0x800
  let fraction : Nat := bits % leadingBit
  { negative := bits >>> 63 ≠ 0
    mantissa := if field = 0 then fraction else leadingBit + fraction
    exponent := if field = 0 then -1074 else (field : Int) - 1075 }

def integerPart (b : Binary) : Nat :=
  if 0 ≤ b.exponent then b.mantissa <<< b.exponent.toNat
  else b.mantissa >>> (-b.exponent).toNat

/-- The number rounded towards zero. -/
def truncate (b : Binary) : Int :=
  if b.negative then -(b.integerPart : Int) else b.integerPart

/-- The signed word nearest to the number rounded towards zero. -/
def saturate (b : Binary) : Int :=
  max (-0x8000000000000000) (min b.truncate 0x7FFFFFFFFFFFFFFF)

end Binary
end SiteClient
