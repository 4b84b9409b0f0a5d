import SiteClient.Json.Decode
/-!
# Records in JSON

A record is written as an object, or as an array of its fields in order. In an object a field may
stand anywhere but only once, and other fields are skipped. In an array the fields at the end may be
left out, if they have defaults.

While a record is read, a value of a type `π` holds the fields met so far. `Record.finish` makes the
record of it, or names the first field that has no default and was not met.
-/

namespace SiteClient

/-- A field of a record that is being read into a `π`. -/
structure RecordField (π : Type) where
  name : Text
  /-- Whether the field has been met. -/
  isSet : π → Bool
  /-- Reads the value of the field. -/
  read : π → Decoder π

/-- How a record of type `α` is read. -/
structure Record (π α : Type) where
  name : Text
  empty : π
  fields : List (RecordField π)
  /-- The record; if a field is missing, the place of the first such field and its name. -/
  finish : π → Except (Nat × Text) α

namespace RecordField

/-- The field `name`, read by `decoder` and kept by `put`. -/
def of {π α : Type} (name : String) (get : π → Option α) (put : π → α → π) (decoder : Decoder α) :
    RecordField π where
  name := name.toList
  isSet p := (get p).isSome
  read p s o := put p <$> decoder s o

end RecordField

namespace Record

variable {π α : Type}

/-- What is wanted where a record is wanted. -/
def wanted (record : Record π α) : Text :=
  "struct ".toList ++ record.name

/-- What is wanted of an array that is to be the record. -/
def wantedLength (record : Record π α) : Text :=
  record.wanted ++ " with ".toList ++ Text.ofNat record.fields.length ++ " elements".toList

def readEntries (record : Record π α) (s : Setting) (p : π) :
    List (Except ReadError Text × Outline) → Except ReadError π
  | [] => .ok p
  | (key, v) :: rest => do
    let key ← key
    match record.fields.find? fun field ↦ field.name = key with
    | none =>
      v.skip
      readEntries record s p rest
    | some field =>
      if field.isSet p then throw (.duplicateField field.name)
      let p ← field.read p s v
      readEntries record s p rest

/-- Reads the items of an array, as many as there are fields. -/
def readItems (s : Setting) (p : π) :
    List (RecordField π) → List Outline → Except ReadError π
  | field :: fields, v :: rest => do
    let p ← field.read p s v
    readItems s p fields rest
  | _, _ => .ok p

def decoder (record : Record π α) : Decoder α
  | s, .object entries ending => do
    let p ← record.readEntries (← s.enter) record.empty entries
    ending.ofObject
    match record.finish p with
    | .ok value => return value
    | .error (_, name) => throw (.missingField name)
  | s, .array items ending => do
    let p ← readItems (← s.enter) record.empty record.fields items
    if record.fields.length < items.length then throw (s.surplus items.length)
    if items.length < record.fields.length then ending.ofArray else ending.ofFilledArray
    match record.finish p with
    | .ok value => return value
    | .error (place, _) => throw (.wrongLength place record.wantedLength)
  | _, o => Decoder.refuse record.wanted o

/-- The value of a field without a default, which stands at `place`. -/
def require {β : Type} (place : Nat) (name : String) : Option β → Except (Nat × Text) β
  | some value => .ok value
  | none => .error (place, name.toList)

end Record
end SiteClient
