import SiteClient.Text.Basic
import SiteClient.Decimal.Shortest
/-!
# JSON numbers

A number is an integer from `-2 ^ 63` to `2 ^ 64 - 1`, or a double. The two never meet: `1` and
`1.0` are different numbers with different texts.
-/

namespace SiteClient

/-- A JSON number. The range of the integers is part of the type. -/
inductive Number where
  | integer (n : Int) (inRange : -0x8000000000000000 ≤ n ∧ n < 0x10000000000000000)
  | double (x : Float)
  deriving DecidableEq

namespace Number

/-- The integer `n`, if it is in range. -/
def ofInt? (n : Int) : Option Number :=
  if h : -0x8000000000000000 ≤ n ∧ n < 0x10000000000000000 then some (.integer n h) else none

def ofUInt64 (n : UInt64) : Number :=
  .integer n.toNat (by have := n.toNat_lt; omega)

def ofInt64 (n : Int64) : Number :=
  .integer n.toInt (by have := n.le_toInt; have := n.toInt_lt; omega)

instance : Inhabited Number := ⟨.integer 0 (by decide)⟩

/-- The integer, if a signed word holds it. -/
def toInt64? : Number → Option Int
  | .integer n _ => if n < 0x8000000000000000 then some n else none
  | .double _ => none

/-- The double that an integer rounds to, or the double itself. -/
def toFloat : Number → Float
  | .integer n _ => Float.ofInt n
  | .double x => x

/-- Whether the number differs from zero. Negative zero does not. -/
def isNonzero : Number → Bool
  | .integer n _ => n ≠ 0
  | .double x => !(x == 0.0)

/-! ## Text -/

/-- Where the digits of a double are written without an exponent: the place of the leading digit
lies from `least` to `greatest`. Otherwise the exponent follows the digits with its sign. -/
structure PointStyle where
  least : Int
  greatest : Int
  mark : Char
  plus : Bool

/-- From a hundred-thousandth up to sixteen digits before the point. -/
def pointStyle : PointStyle := ⟨-5, 15, 'e', true⟩

/-- A decimal with at least one digit after the point, or in scientific notation. -/
def PointStyle.text (style : PointStyle) (d : Decimal) : Text :=
  let digits := Text.ofNat d.digits
  let lead : Int := d.exponent + digits.length - 1
  if style.least ≤ lead ∧ lead ≤ style.greatest then
    if 0 ≤ d.exponent then digits ++ List.replicate d.exponent.toNat '0' ++ ['.', '0']
    else if 0 ≤ lead then
      digits.take (lead.toNat + 1) ++ '.' :: digits.drop (lead.toNat + 1)
    else '0' :: '.' :: List.replicate (-lead - 1).toNat '0' ++ digits
  else
    let fraction := match digits.drop 1 with
      | [] => []
      | more => '.' :: more
    let sign := if lead < 0 then ['-'] else if style.plus then ['+'] else []
    digits.take 1 ++ fraction ++ style.mark :: sign ++ Text.ofNat lead.natAbs

/-- The shortest decimal that reads back as the same double. -/
def floatText (x : Float) : Text :=
  let b := Binary.ofFloat x
  let magnitude := pointStyle.text (Decimal.shortest b)
  if b.negative then '-' :: magnitude else magnitude

/-- The number as JSON text. -/
def text : Number → Text
  | .integer n _ => Text.ofInt n
  | .double x => floatText x

end Number
end SiteClient
