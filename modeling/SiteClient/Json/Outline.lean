import SiteClient.Json.Basic
import SiteClient.Json.Token
/-!
# Outlines

The outline of a JSON text is the tree that its brackets spell, up to the first place where the
grammar breaks. It is built without knowing what the text is wanted for; a decoder then walks it
from left to right, so the first problem of the text is the first problem that the decoder meets.

The tree is built one token at a time, from a stack of the containers that are still open.
-/

namespace SiteClient

/-- How an array or an object ends. -/
inductive Ending where
  /-- By its bracket. -/
  | closed
  /-- The text ends first. -/
  | ended
  /-- Neither a comma nor the bracket comes after an element. -/
  | junk
  /-- The bracket comes after a comma. -/
  | commaClosed
  /-- The text ends after a comma. -/
  | commaEnded
  /-- A key is wanted and no string comes. -/
  | keyless
  deriving DecidableEq, Repr

/-- The shape of a JSON text as far as its grammar goes. -/
inductive Outline where
  | null
  | bool (b : Bool)
  | number (n : Except ReadError Number)
  | string (t : Except ReadError Text)
  | array (items : List Outline) (ending : Ending)
  | object (entries : List (Except ReadError Text × Outline)) (ending : Ending)
  /-- No value: the problem as a reader and as a skipper sees it. -/
  | absent (typed skipped : ReadError)

namespace Outline

/-- An open container, innermost first: what it holds so far, last first. -/
inductive Frame where
  | array (done : List Outline)
  | object (done : List (Except ReadError Text × Outline))
  /-- An object whose next key has been read. -/
  | entry (done : List (Except ReadError Text × Outline)) (key : Except ReadError Text)

/-- What the next token should be. -/
inductive Expect where
  | value
  /-- A value or the end of an array just opened. -/
  | firstItem
  /-- A value after a comma. -/
  | nextItem
  /-- A key or the end of an object just opened. -/
  | firstKey
  /-- A key after a comma. -/
  | nextKey
  | colon
  /-- What follows the value `v`. -/
  | after (v : Outline)

/-- The container with its last element. -/
def Frame.complete (frame : Frame) (v : Outline) (ending : Ending) : Outline :=
  match frame with
  | .array done => .array (v :: done).reverse ending
  | .object done => .object done.reverse ending
  | .entry done key => .object ((key, v) :: done).reverse ending

/-- The container without a further element. -/
def Frame.stop (frame : Frame) (ending : Ending) : Outline :=
  match frame with
  | .array done => .array done.reverse ending
  | .object done => .object done.reverse ending
  | .entry done _ => .object done.reverse ending

/-- The outline of a text that breaks off in the value `v`. -/
def abandon (frames : List Frame) (v : Outline) : Outline :=
  frames.foldl (fun v frame ↦ frame.complete v .ended) v

/-- The outline of a text that breaks off between two elements of the innermost container. -/
def stopInside (frames : List Frame) (ending : Ending) : Outline :=
  match frames with
  | [] => .absent .endInValue .endInValue
  | frame :: frames => abandon frames (frame.stop ending)

/-- Builds the outline of the value under way; also gives the tokens after it. A text that breaks
off leaves none. -/
def build (expect : Expect) (frames : List Frame) (tokens : List Token) : Outline × List Token :=
  match expect, tokens with
  | .after v, tokens =>
    match frames, tokens with
    | [], tokens => (v, tokens)
    | frame :: frames, [] => (abandon frames (frame.complete v .ended), [])
    | .array done :: frames, .comma :: rest => build .nextItem (.array (v :: done) :: frames) rest
    | .entry done key :: frames, .comma :: rest =>
      build .nextKey (.object ((key, v) :: done) :: frames) rest
    | .array done :: frames, .closeArray :: rest =>
      build (.after (Frame.complete (.array done) v .closed)) frames rest
    | .entry done key :: frames, .closeObject :: rest =>
      build (.after (Frame.complete (.entry done key) v .closed)) frames rest
    | frame :: frames, _ :: _ => (abandon frames (frame.complete v .junk), [])
  | .firstItem, [] => (stopInside frames .ended, [])
  | .nextItem, [] => (stopInside frames .commaEnded, [])
  | .firstKey, [] => (stopInside frames .ended, [])
  | .nextKey, [] => (stopInside frames .commaEnded, [])
  | .colon, [] => (abandon frames (.absent .endInObject .endInObject), [])
  | .value, [] => (abandon frames (.absent .endInValue .endInValue), [])
  | .firstItem, .closeArray :: rest =>
    match frames with
    | frame :: frames => build (.after (frame.stop .closed)) frames rest
    | [] => (.absent .expectedValue .expectedValue, [])
  | .nextItem, .closeArray :: _ => (stopInside frames .commaClosed, [])
  | .firstKey, .closeObject :: rest =>
    match frames with
    | frame :: frames => build (.after (frame.stop .closed)) frames rest
    | [] => (.absent .expectedValue .expectedValue, [])
  | .nextKey, .closeObject :: _ => (stopInside frames .commaClosed, [])
  | .firstKey, token :: rest | .nextKey, token :: rest =>
    match token, frames with
    | .string key, .object done :: frames => build .colon (.entry done key :: frames) rest
    | .brokenString typed skipped, .object done :: frames =>
      (abandon (.entry done (.error typed) :: frames) (.absent typed skipped), [])
    | _, frames => (stopInside frames .keyless, [])
  | .colon, .colon :: rest => build .value frames rest
  | .colon, _ :: _ => (abandon frames (.absent .expectedColon .expectedColon), [])
  | .value, token :: rest | .firstItem, token :: rest | .nextItem, token :: rest =>
    match token with
    | .null => build (.after .null) frames rest
    | .bool b => build (.after (.bool b)) frames rest
    | .number n => build (.after (.number n)) frames rest
    | .string t => build (.after (.string t)) frames rest
    | .openArray => build .firstItem (.array [] :: frames) rest
    | .openObject => build .firstKey (.object [] :: frames) rest
    | .brokenString typed skipped | .brokenScalar typed skipped =>
      (abandon frames (.absent typed skipped), [])
    | .closeArray | .closeObject | .comma | .colon | .other =>
      (abandon frames (.absent .expectedValue .expectedValue), [])

/-- The outline of the value at the start of the tokens, and the tokens after it. -/
def ofTokens (tokens : List Token) : Outline × List Token :=
  build .value [] tokens

mutual

def ofJson : Json → Outline
  | .null => .null
  | .bool b => .bool b
  | .number n => .number (.ok n)
  | .string t => .string (.ok t)
  | .array items => .array (ofItems items) .closed
  | .object fields => .object (ofFields fields) .closed

def ofItems : List Json → List Outline
  | [] => []
  | v :: rest => ofJson v :: ofItems rest

def ofFields : List (Text × Json) → List (Except ReadError Text × Outline)
  | [] => []
  | (k, v) :: rest => (.ok k, ofJson v) :: ofFields rest

end

end Outline
end SiteClient
