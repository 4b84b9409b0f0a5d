import SiteClient.Text.Basic
import SiteClient.Text.Printable
/-!
# Quoted text

How a text is shown inside a message: between double quotes, on one line, with every character that
could not be told from its neighbours written by its code point.
-/

namespace SiteClient.Text

/-- A code point written out, in hexadecimal between braces. -/
private def codePoint (c : Char) : Text :=
  '\\' :: 'u' :: '{' :: hex c.toNat ++ ['}']

/-- One character of a quoted text. -/
def quotedChar (c : Char) : Text :=
  match c with
  | '"' => ['\\', '"']
  | '\\' => ['\\', '\\']
  | '\t' => ['\\', 't']
  | '\r' => ['\\', 'r']
  | '\n' => ['\\', 'n']
  | '\x00' => ['\\', '0']
  | c => if isPrintable c && !isCombining c then [c] else codePoint c

/-- The text between double quotes. A single quote stands as it is. -/
def quoted (t : Text) : Text :=
  '"' :: t.flatMap quotedChar ++ ['"']

end SiteClient.Text
