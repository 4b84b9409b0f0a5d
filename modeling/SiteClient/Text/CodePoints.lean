import SiteClient.Text.Basic
/-!
# Tables of code points

A property of characters is a set of code points, kept as closed ranges. A long table is written as
a list of lines, which are read when the table is used: numbers are hexadecimal, and what stands
between two blanks is one entry. The entry `41-5A` of a set is a range and `AA` a single code point.
The entry `FB00=66.66,66.69` of an assignment gives texts to code points in a row: to `FB00` the
text of `66` and `66`, to `FB01` that of `66` and `69`.
-/

namespace SiteClient

/-- A set of code points, as closed ranges. -/
abbrev CodePoints := List (Nat × Nat)

/-- Texts for some code points: each entry has texts for a row of them. -/
abbrev CodePointTexts := List (Nat × List Text)

namespace CodePoints

def contains (s : CodePoints) (c : Char) : Bool :=
  s.any fun r ↦ r.1 ≤ c.toNat && c.toNat ≤ r.2

/-- The number that hexadecimal digits spell. -/
def number (digits : Text) : Nat :=
  digits.foldl (fun n c ↦ 16 * n + (Text.hexValue? c).getD 0) 0

/-- The entries in the lines of a table. -/
def entries (lines : List String) : List Text :=
  lines.flatMap fun line ↦ Text.cutAt (· == ' ') line.toList

/-- The set that a table spells. -/
def ofTable (lines : List String) : CodePoints :=
  (entries lines).map fun entry ↦
    match Text.cutAt (· == '-') entry with
    | [first, last] => (number first, number last)
    | _ => (number entry, number entry)

end CodePoints

namespace CodePointTexts

/-- The text of a character, if it has one. -/
def get? (texts : CodePointTexts) (c : Char) : Option Text :=
  texts.findSome? fun (first, row) ↦ if first ≤ c.toNat then row[c.toNat - first]? else none

/-- The assignment that a table spells. -/
def ofTable (lines : List String) : CodePointTexts :=
  (CodePoints.entries lines).filterMap fun entry ↦
    match Text.cutAt (· == '=') entry with
    | [first, row] =>
      some (CodePoints.number first, (Text.cutAt (· == ',') row).map fun t ↦
        (Text.cutAt (· == '.') t).map fun n ↦ Char.ofNat (CodePoints.number n))
    | _ => none

end CodePointTexts
end SiteClient
