import SiteClient.Text.Quoted
import SiteClient.Json.Number
/-!
# What can be wrong with a JSON text

A text can break the grammar, or spell a value of another shape than the one wanted. The first
problem from left to right is the one reported.
-/

namespace SiteClient

/-- What stands in a text where a value of another type was wanted. -/
inductive Found where
  | null
  | bool (b : Bool)
  | number (n : Number)
  | string (t : Text)
  | sequence
  | map
  deriving DecidableEq

namespace Found

/-- How a value that was not wanted is named. -/
def describe : Found → Text
  | .null => "null".toList
  | .bool true => "boolean \x60true\x60".toList
  | .bool false => "boolean \x60false\x60".toList
  | .number (.integer n _) => "integer \x60".toList ++ Text.ofInt n ++ ['\x60']
  | .number (.double x) => "floating point \x60".toList ++ Number.floatText x ++ ['\x60']
  | .string t => "string ".toList ++ Text.quoted t
  | .sequence => "sequence".toList
  | .map => "map".toList

end Found

/-- A problem in a JSON text. -/
inductive ReadError where
  | endInValue
  | endInObject
  | endInList
  | endInString
  | expectedValue
  | expectedLiteral
  | expectedColon
  | expectedCommaOrBrace
  | expectedCommaOrBracket
  | trailingComma
  | trailingCharacters
  | keyNotString
  | invalidEscape
  | invalidNumber
  | numberOutOfRange
  | invalidCodePoint
  | controlCharacter
  | loneSurrogate
  | unpairedSurrogate
  | tooDeep
  | wrongType (found : Found) (wanted : Text)
  | outOfRange (n : Int) (wanted : Text)
  | missingField (name : Text)
  | duplicateField (name : Text)
  | wrongLength (length : Nat) (wanted : Text)
  deriving DecidableEq

namespace ReadError

private def ticked (t : Text) : Text :=
  '\x60' :: t ++ ['\x60']

def message : ReadError → Text
  | .endInValue => "EOF while parsing a value".toList
  | .endInObject => "EOF while parsing an object".toList
  | .endInList => "EOF while parsing a list".toList
  | .endInString => "EOF while parsing a string".toList
  | .expectedValue => "expected value".toList
  | .expectedLiteral => "expected ident".toList
  | .expectedColon => "expected ".toList ++ ticked [':']
  | .expectedCommaOrBrace => "expected ".toList ++ ticked [','] ++ " or ".toList ++ ticked ['}']
  | .expectedCommaOrBracket => "expected ".toList ++ ticked [','] ++ " or ".toList ++ ticked [']']
  | .trailingComma => "trailing comma".toList
  | .trailingCharacters => "trailing characters".toList
  | .keyNotString => "key must be a string".toList
  | .invalidEscape => "invalid escape".toList
  | .invalidNumber => "invalid number".toList
  | .numberOutOfRange => "number out of range".toList
  | .invalidCodePoint => "invalid unicode code point".toList
  | .controlCharacter =>
    "control character (\\u0000-\\u001F) found while parsing a string".toList
  | .loneSurrogate => "lone leading surrogate in hex escape".toList
  | .unpairedSurrogate => "unexpected end of hex escape".toList
  | .tooDeep => "recursion limit exceeded".toList
  | .wrongType found wanted =>
    "invalid type: ".toList ++ found.describe ++ ", expected ".toList ++ wanted
  | .outOfRange n wanted =>
    "invalid value: integer ".toList ++ ticked (Text.ofInt n) ++ ", expected ".toList ++ wanted
  | .missingField name => "missing field ".toList ++ ticked name
  | .duplicateField name => "duplicate field ".toList ++ ticked name
  | .wrongLength length wanted =>
    "invalid length ".toList ++ Text.ofNat length ++ ", expected ".toList ++ wanted

end ReadError
end SiteClient
