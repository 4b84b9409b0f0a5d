import SiteClient.Url.Domain.Direction
import SiteClient.Url.Domain.Joining
import SiteClient.Url.Domain.Mapping
import SiteClient.Url.Domain.Marks
import SiteClient.Url.Percent
import SiteClient.Url.Punycode
/-!
# Domain names

A domain name is carried in ASCII. Percent encoding is undone, every character is read as what it
stands for, and the text is composed; then each label must be one that can be told from others. A
label with other characters than those of ASCII is written in Punycode behind `xn--`, and a label
that is given like this must be what would be written.
-/

namespace SiteClient

/-- A part of a domain name between two dots. -/
structure DomainLabel where
  /-- The label as it is meant. -/
  meaning : Text
  /-- The label as it is carried. -/
  ascii : Text
  deriving DecidableEq, Repr

namespace Domain

def isAscii (c : Char) : Bool :=
  c.toNat < 0x80

/-- Characters of ASCII that no domain name has. -/
def isForbidden (c : Char) : Bool :=
  Percent.isControl c || " #%/:<>?@[\\]^|".toList.contains c

/-- What stands before a label in Punycode. -/
def punycodeMark : Text := ['x', 'n', '-', '-']

/-- A label in Punycode is not longer than this. -/
def longestPunycode : Nat := 2000

/-- A label with other characters than those of ASCII is not longer than this. -/
def longestMeaning : Nat := 1000

/-- Whether a label starts with a character of its own, has joiners only where they are seen, and is
not too long. -/
def isLabel (t : Text) : Bool :=
  !((t.head?.map marks.contains).getD false) && joinersFit [] t &&
    (t.all isAscii || t.length ≤ longestMeaning)

/-- The label that a text in Punycode stands for. Only what the label itself would be written as is
accepted, so the label must be in the form that reading a name gives it. -/
def fromPunycode? (t : Text) : Option Text :=
  if t = [] ∨ t.getLast? = some '-' ∨ !t.all isAscii ∨ longestPunycode < t.length then none
  else match Punycode.decode t with
    | none => none
    | some label =>
      if label.all (fun c ↦ isPlain c && !isForbidden c && c != '.') ∧ composed label = label
        then some label
      else none

/-- The label that a text without dots spells. -/
def label? (t : Text) : Option DomainLabel := do
  let label ← match punycodeMark.isPrefixOf? t with
    | some rest => (fromPunycode? rest).map fun meaning ↦ ⟨meaning, t⟩
    | none => some ⟨t, if t.all isAscii then t else punycodeMark ++ Punycode.encode t⟩
  if isLabel label.meaning then some label else none

/-- Whether labels can stand in one name: if a character of one is written from right to left, each
must keep to one direction. -/
def keepDirections (labels : List DomainLabel) : Bool :=
  !labels.any (fun label ↦ label.meaning.any turns) ||
    labels.all fun label ↦ keepsDirection (label.meaning.map direction)

/-- The domain name that a host spells, in ASCII; `none` if it spells none. -/
def ofHost? (host : Text) : Option Text := do
  let name := composed (← readings (← Body.toText? (Percent.decode host.toBody)))
  if name.any isForbidden then none
  else
    let labels ← (Text.cutAt (· == '.') name).mapM label?
    if keepDirections labels then some (List.intercalate ['.'] (labels.map DomainLabel.ascii))
    else none

end Domain
end SiteClient
