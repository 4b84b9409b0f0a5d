import SiteClient.Json.Basic
/-!
# JSON text of a value

Compact: no blanks, keys in their order. A string is written as it is but for the quotation mark,
the backslash and the characters below the space, which have escapes of two characters where JSON
knows one and of six otherwise.
-/

namespace SiteClient.Json

def escapedChar (c : Char) : Text :=
  match c with
  | '"' => ['\\', '"']
  | '\\' => ['\\', '\\']
  | '\x08' => ['\\', 'b']
  | '\x0c' => ['\\', 'f']
  | '\n' => ['\\', 'n']
  | '\r' => ['\\', 'r']
  | '\t' => ['\\', 't']
  | c =>
    if c.toNat < 0x20 then
      ['\\', 'u', '0', '0', Text.hexDigit (c.toNat / 16), Text.hexDigit (c.toNat % 16)]
    else [c]

def stringText (t : Text) : Text :=
  '"' :: t.flatMap escapedChar ++ ['"']

mutual

def text : Json → Text
  | .null => "null".toList
  | .bool true => "true".toList
  | .bool false => "false".toList
  | .number n => n.text
  | .string t => stringText t
  | .array items => '[' :: itemsText items ++ [']']
  | .object fields => '{' :: fieldsText fields ++ ['}']

/-- Values with a comma between any two. -/
def itemsText : List Json → Text
  | [] => []
  | [v] => text v
  | v :: w :: rest => text v ++ ',' :: itemsText (w :: rest)

/-- Fields with a comma between any two. -/
def fieldsText : List (Text × Json) → Text
  | [] => []
  | [(k, v)] => stringText k ++ ':' :: text v
  | (k, v) :: w :: rest => stringText k ++ ':' :: text v ++ ',' :: fieldsText (w :: rest)

end

end SiteClient.Json
