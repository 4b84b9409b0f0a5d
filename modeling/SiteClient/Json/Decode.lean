import SiteClient.Json.Outline
/-!
# Decoding outlines

A decoder turns an outline into a value of some type or reports the first problem that it meets on
its walk from left to right. It sees only as much of the grammar as it walks over: what it merely
skips is checked for its brackets, commas and escapes and for nothing else.
-/

namespace SiteClient

/-- What decoding depends on besides the outline. -/
structure Setting where
  /-- How many arrays and objects may still be entered, one inside the other; `none` for any
  number. -/
  room : Option Nat
  /-- What is wrong with an array of the given length that has more elements than its record has
  fields. -/
  surplus : Nat → ReadError

namespace Setting

def text : Setting := ⟨some 127, fun _ ↦ .trailingCharacters⟩

/-- For a value that has been read before. -/
def value : Setting := ⟨none, fun n ↦ .wrongLength n "fewer elements in array".toList⟩

/-- One container further in. -/
def enter (s : Setting) : Except ReadError Setting :=
  match s.room with
  | none => .ok s
  | some 0 => .error .tooDeep
  | some (n + 1) => .ok { s with room := some n }

end Setting

/-! ## Endings -/

namespace Ending

/-- Reports `e`, unless there is nothing to report. -/
private def report : Option ReadError → Except ReadError Unit
  | none => .ok ()
  | some e => .error e

/-- What a reader of all elements of an array reports at its end. -/
def ofArray (ending : Ending) : Except ReadError Unit :=
  report <| match ending with
    | .closed => none
    | .ended => some .endInList
    | .junk | .keyless => some .expectedCommaOrBracket
    | .commaClosed => some .trailingComma
    | .commaEnded => some .endInValue

/-- What a reader that wants no further element of an array reports at its end. -/
def ofFilledArray (ending : Ending) : Except ReadError Unit :=
  report <| match ending with
    | .closed => none
    | .ended => some .endInList
    | .junk | .keyless | .commaEnded => some .trailingCharacters
    | .commaClosed => some .trailingComma

/-- What a reader of an object reports at its end. -/
def ofObject (ending : Ending) : Except ReadError Unit :=
  report <| match ending with
    | .closed => none
    | .ended => some .endInObject
    | .junk => some .expectedCommaOrBrace
    | .commaClosed => some .trailingComma
    | .commaEnded => some .endInValue
    | .keyless => some .keyNotString

/-- What a skipper reports at the end of an array. -/
def ofSkippedArray (ending : Ending) : Except ReadError Unit :=
  report <| match ending with
    | .closed => none
    | .ended => some .endInList
    | .junk | .keyless => some .expectedCommaOrBracket
    | .commaClosed => some .expectedValue
    | .commaEnded => some .endInValue

/-- What a skipper reports at the end of an object. -/
def ofSkippedObject (ending : Ending) : Except ReadError Unit :=
  report <| match ending with
    | .closed => none
    | .ended | .commaEnded => some .endInObject
    | .junk => some .expectedCommaOrBrace
    | .commaClosed | .keyless => some .keyNotString

end Ending

namespace Outline

/-! ## Skipping -/

mutual

/-- Checks the grammar of a value that nobody wants. -/
def skip : Outline → Except ReadError Unit
  | .array items ending => do
    skipItems items
    ending.ofSkippedArray
  | .object entries ending => do
    skipEntries entries
    ending.ofSkippedObject
  | .absent _ skipped => .error skipped
  | _ => .ok ()

/-- Checks the grammar of values. -/
def skipItems : List Outline → Except ReadError Unit
  | [] => .ok ()
  | v :: rest => do
    skip v
    skipItems rest

/-- Checks the grammar of entries. -/
def skipEntries : List (Except ReadError Text × Outline) → Except ReadError Unit
  | [] => .ok ()
  | (_, v) :: rest => do
    skip v
    skipEntries rest

end

/-! ## Values of any shape -/

mutual

def toJson (s : Setting) : Outline → Except ReadError Json
  | .null => .ok .null
  | .bool b => .ok (.bool b)
  | .number n => n.map .number
  | .string t => t.map .string
  | .array items ending => do
    let values ← toItems (← s.enter) items
    ending.ofArray
    return .array values
  | .object entries ending => do
    let fields ← toFields (← s.enter) [] entries
    ending.ofObject
    return .object fields
  | .absent typed _ => .error typed

def toItems (s : Setting) : List Outline → Except ReadError (List Json)
  | [] => .ok []
  | v :: rest => do
    let value ← toJson s v
    let values ← toItems s rest
    return value :: values

/-- The fields so far with those of further entries. -/
def toFields (s : Setting) (fields : Fields) :
    List (Except ReadError Text × Outline) → Except ReadError Fields
  | [] => .ok fields
  | (key, v) :: rest => do
    let key ← key
    let value ← toJson s v
    toFields s (fields.insert key value) rest

end

/-! ## Values of one shape -/

/-- What stands in the outline, for a report that something else was wanted. -/
def found : Outline → Except ReadError Found
  | .null => .ok .null
  | .bool b => .ok (.bool b)
  | .number n => n.map .number
  | .string t => t.map .string
  | .array .. => .ok .sequence
  | .object .. => .ok .map
  | .absent typed _ => .error typed

end Outline

/-- Reads a value of type `α` from an outline. -/
abbrev Decoder (α : Type) := Setting → Outline → Except ReadError α

namespace Decoder

/-- Reports that something else than `wanted` stands in the outline. -/
def refuse {α : Type} (wanted : Text) (o : Outline) : Except ReadError α := do
  throw (.wrongType (← o.found) wanted)

def json : Decoder Json := Outline.toJson

def text : Decoder Text
  | _, .string t => t
  | _, o => refuse "a string".toList o

def bool : Decoder Bool
  | _, .bool b => .ok b
  | _, o => refuse "a boolean".toList o

/-- An integer from `low` to `high`. -/
def integer (wanted : Text) (low high : Int) : Decoder { n : Int // low ≤ n ∧ n ≤ high }
  | _, .number (.ok (.integer n _)) =>
    if h : low ≤ n ∧ n ≤ high then .ok ⟨n, h⟩ else .error (.outOfRange n wanted)
  | _, o => refuse wanted o

def uint64 (wanted : Text) : Decoder UInt64 := fun s o ↦ do
  return (← integer wanted 0 0xFFFFFFFFFFFFFFFF s o).val.toNat.toUInt64

def int64 (wanted : Text) : Decoder Int64 := fun s o ↦ do
  return Int64.ofInt (← integer wanted (-0x8000000000000000) 0x7FFFFFFFFFFFFFFF s o).val

/-- A number of either kind, as a double. -/
def float (wanted : Text) : Decoder Float
  | _, .number n => n.map Number.toFloat
  | _, o => refuse wanted o

def optional {α : Type} (item : Decoder α) : Decoder (Option α)
  | _, .null => .ok none
  | s, o => some <$> item s o

def list {α : Type} (item : Decoder α) : Decoder (List α)
  | s, .array items ending => do
    let inner ← s.enter
    let values ← items.mapM (item inner)
    ending.ofArray
    return values
  | _, o => refuse "a sequence".toList o

def fields : Decoder Fields
  | s, .object entries ending => do
    let fields ← Outline.toFields (← s.enter) [] entries
    ending.ofObject
    return fields
  | _, o => refuse "a map".toList o

/-! ## Whole texts -/

/-- Reads one value from a body of JSON, with nothing but blanks around it. -/
def readSymbols {α : Type} (decoder : Decoder α) (s : List Symbol) : Except ReadError α := do
  let (outline, rest) := Outline.ofTokens (Token.scan s)
  let value ← decoder .text outline
  if rest.isEmpty then return value else throw .trailingCharacters

def readText {α : Type} (decoder : Decoder α) (t : Text) : Except ReadError α :=
  decoder.readSymbols t.symbols

def readBody {α : Type} (decoder : Decoder α) (b : Body) : Except ReadError α :=
  decoder.readSymbols b.symbols

/-- Takes a value that has been read before for a value of type `α`. -/
def convert {α : Type} (decoder : Decoder α) (v : Json) : Except ReadError α :=
  decoder .value (.ofJson v)

end Decoder
end SiteClient
