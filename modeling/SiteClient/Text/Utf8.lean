import SiteClient.Text.Basic
/-!
# Bytes and the symbols in them

A body is a list of bytes. What is read from it is a list of *symbols*: the characters that it
encodes in UTF-8, and the bytes that belong to no character. Reading never fails, so that a reader
of symbols can say where a stray byte matters and where it does not.
-/

namespace SiteClient

/-- The bytes of one message between client and site. -/
abbrev Body := List UInt8

/-- One step of reading a body: a character, or a byte that is part of none. -/
inductive Symbol where
  | char (c : Char)
  | stray (byte : UInt8)
  deriving DecidableEq, Repr

namespace Text

def toBody (t : Text) : Body :=
  t.flatMap String.utf8EncodeChar

/-- The text as symbols, all of them characters. -/
def symbols (t : Text) : List Symbol :=
  t.map Symbol.char

end Text

namespace Body

/-- The character that the body starts with, if its first bytes encode one. -/
def firstChar? (b : Body) : Option Char :=
  (b.take 4).toByteArray.utf8DecodeChar? 0

/-- The symbols of a body: characters wherever the bytes encode one, stray bytes elsewhere. -/
def symbols : Body → List Symbol
  | [] => []
  | b :: rest =>
    match firstChar? (b :: rest) with
    | some c => .char c :: symbols (rest.drop (c.utf8Size - 1))
    | none => .stray b :: symbols rest
termination_by b => b.length
decreasing_by all_goals simp only [List.length_cons, List.length_drop]; omega

/-- The text that a body encodes, if it is UTF-8 throughout. -/
def toText? (b : Body) : Option Text :=
  (symbols b).mapM fun
    | .char c => some c
    | .stray _ => none

/-- What may follow the first byte of a character of several bytes: the range of the second byte,
and how many bytes follow in all. -/
def following? (first : UInt8) : Option (UInt8 × UInt8 × Nat) :=
  if first < 0xC2 then none
  else if first < 0xE0 then some (0x80, 0xBF, 1)
  else if first < 0xF0 then
    some (if first = 0xE0 then 0xA0 else 0x80, if first = 0xED then 0x9F else 0xBF, 2)
  else if first < 0xF5 then
    some (if first = 0xF0 then 0x90 else 0x80, if first = 0xF4 then 0x8F else 0xBF, 3)
  else none

/-- How many bytes at the start of a body belong together where no character does: the longest part
that could have become a character, or else one byte. -/
def brokenLength : Body → Nat
  | first :: second :: rest =>
    match following? first with
    | some (low, high, count) =>
      if low ≤ second ∧ second ≤ high then
        2 + ((rest.take (count - 2)).takeWhile fun b ↦ 0x80 ≤ b && b ≤ 0xBF).length
      else 1
    | none => 1
  | _ => 1

/-- The text of a body for display: bytes that belong together and make no character show as one
replacement character. -/
def display : Body → Text
  | [] => []
  | b :: rest =>
    match firstChar? (b :: rest) with
    | some c => c :: display (rest.drop (c.utf8Size - 1))
    | none => '\uFFFD' :: display (rest.drop (brokenLength (b :: rest) - 1))
termination_by b => b.length
decreasing_by all_goals simp only [List.length_cons, List.length_drop]; omega

end Body
end SiteClient
