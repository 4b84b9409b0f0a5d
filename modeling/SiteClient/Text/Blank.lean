import SiteClient.Text.Basic
/-!
# Blank characters and trimming

Blank means the Unicode property `White_Space`: the no-break space and the line separator are blank,
the zero width space and the byte order mark are not.
-/

namespace SiteClient.Text

/-- The Unicode property `White_Space`. -/
def isBlank (c : Char) : Bool :=
  let n := c.toNat
  (0x9 ≤ n && n ≤ 0xD) || n == 0x20 || n == 0x85 || n == 0xA0 || n == 0x1680 ||
    (0x2000 ≤ n && n ≤ 0x200A) || n == 0x2028 || n == 0x2029 || n == 0x202F || n == 0x205F ||
    n == 0x3000

/-- Nothing but blank characters, possibly none. -/
def allBlank (t : Text) : Bool :=
  t.all isBlank

/-- The text without the blank characters at its start. -/
def trimStart (t : Text) : Text :=
  t.dropWhile isBlank

/-- The text without the blank characters at its end. -/
def trimEnd (t : Text) : Text :=
  (t.reverse.dropWhile isBlank).reverse

/-- The text without the blank characters at either end. -/
def trim (t : Text) : Text :=
  trimEnd (trimStart t)

end SiteClient.Text
