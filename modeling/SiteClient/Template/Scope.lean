import SiteClient.Json.Printer
/-!
# Scopes

A name in a template is looked up in a stack of contexts. Only its first segment is searched for,
from the innermost context outwards; the other segments lead from the value found into its fields,
and if one of them is missing no context further out is tried.
-/

namespace SiteClient.Template

/-- The contexts that names are looked up in, innermost first. -/
abbrev Scope := List Json

/-- Follows field names into a value. -/
def descend (v : Json) : List Text → Option Json
  | [] => some v
  | key :: keys => (v.field? key).bind fun w ↦ descend w keys

/-- The value of a name. A point alone names the innermost context. -/
def Scope.lookup (scope : Scope) (name : Text) : Option Json :=
  if name = ['.'] then scope.head?
  else
    match name.splitOn '.' with
    | [] => none
    | first :: more =>
      (scope.findSome? fun context ↦ context.field? first).bind fun v ↦ descend v more

/-- Whether a section with this value is written. -/
def isTruthy : Json → Bool
  | .null => false
  | .bool b => b
  | .number n => n.isNonzero
  | .string t => t ≠ []
  | .array items => !items.isEmpty
  | .object _ => true

mutual

/-- What a variable with this value writes. -/
def display : Json → Text
  | .null | .object _ => []
  | .bool true => "true".toList
  | .bool false => "false".toList
  | .number n => n.text
  | .string t => t
  | .array items => displayItems items

/-- What values write, with a comma between any two. -/
def displayItems : List Json → Text
  | [] => []
  | [v] => display v
  | v :: w :: rest => display v ++ ',' :: displayItems (w :: rest)

end

end SiteClient.Template
