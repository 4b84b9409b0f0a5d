import SiteClient.Url.Percent
/-!
# Form encoding

The query form of a URL: pairs of names and values joined by `&`, name and value by `=`. In names
and values a space is written `+` and any byte that is not a letter, a digit or one of `*-._` in
percent encoding, so none of the joining characters can come from a value.
-/

namespace SiteClient.Form

/-- Whether a byte stands for itself. -/
def isPlain (b : UInt8) : Bool :=
  let c := Char.ofNat b.toNat
  b.toNat < 0x80 && (c.isAlphanum || c == '*' || c == '-' || c == '.' || c == '_')

def encodeByte (b : UInt8) : Text :=
  if b = 0x20 then ['+'] else if isPlain b then [Char.ofNat b.toNat] else Percent.byte b

/-- A name or a value. -/
def encode (t : Text) : Text :=
  t.toBody.flatMap encodeByte

def pair (name value : Text) : Text :=
  encode name ++ '=' :: encode value

def query (pairs : List (Text × Text)) : Text :=
  List.intercalate ['&'] (pairs.map fun (name, value) ↦ pair name value)

end SiteClient.Form
