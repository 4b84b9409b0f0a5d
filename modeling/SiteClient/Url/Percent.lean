import SiteClient.Text.Utf8
/-!
# Percent encoding

A byte is written as a percent sign and two upper case hexadecimal digits. Each part of a URL has a
class of characters that are written like this; characters beyond ASCII are in every class. A
percent sign that is there already is kept, so encoding leaves encoded text alone.
-/

namespace SiteClient.Percent

/-- A byte in percent encoding. -/
def byte (b : UInt8) : Text :=
  ['%', (Text.hexDigit (b.toNat / 16)).toUpper, (Text.hexDigit (b.toNat % 16)).toUpper]

/-- The text with the characters of a class, and those beyond ASCII, in percent encoding. -/
def encode (isEscaped : Char → Bool) (t : Text) : Text :=
  t.flatMap fun c ↦
    if c.toNat < 0x80 && !isEscaped c then [c] else (String.utf8EncodeChar c).flatMap byte

/-- The value of the byte that a hexadecimal digit is. -/
def digit? (b : UInt8) : Option Nat :=
  Text.hexValue? (Char.ofNat b.toNat)

/-- The bytes with every percent encoding undone. A percent sign without two digits behind it
stays. -/
def decode : Body → Body
  | p :: a :: b :: rest =>
    if p = 0x25 then
      match digit? a, digit? b with
      | some high, some low => (16 * high + low).toUInt8 :: decode rest
      | _, _ => p :: decode (a :: b :: rest)
    else p :: decode (a :: b :: rest)
  | short => short

/-! ## The classes of the parts of a URL -/

/-- Escaped everywhere: control characters. -/
def isControl (c : Char) : Bool :=
  c.toNat < 0x20 || c.toNat = 0x7F

def inFragment (c : Char) : Bool :=
  isControl c || [' ', '"', '<', '>', '\x60'].contains c

def inQuery (c : Char) : Bool :=
  isControl c || [' ', '"', '#', '<', '>'].contains c

/-- Escaped in the query of a URL with a scheme of the web. -/
def inWebQuery (c : Char) : Bool :=
  inQuery c || c = '\''

def inPath (c : Char) : Bool :=
  inFragment c || ['#', '?', '\x7B', '\x7D'].contains c

/-- Escaped in the name and the password of a user. -/
def inCredentials (c : Char) : Bool :=
  inPath c || ['/', ':', ';', '=', '@', '[', '\\', ']', '^', '|'].contains c

end SiteClient.Percent
