import SiteClient.Json.Printer
/-!
# Filling placeholders

A localized string may contain `{$a}`, which a single value fills, or `{$a->field}`, which the field
of a record fills. A record is filled in field by field, in the order of its keys.
-/

namespace SiteClient.Localized

def valueMark : Text := ['{', '$', 'a', '}']

def fieldMark (name : Text) : Text :=
  ['{', '$', 'a', '-', '>'] ++ name ++ ['}']

/-- What a value puts in the place of a placeholder: a string itself, nothing for `null`, JSON text
for anything else. -/
def plainText : Json → Text
  | .string t => t
  | .null => []
  | v => v.text

/-- The text with the placeholders of each field replaced in turn. -/
def fillFields (t : Text) (fields : Fields) : Text :=
  fields.foldl (fun t field ↦ Text.replaceAll (fieldMark field.1) (plainText field.2) t) t

/-- The text with its placeholders filled. -/
def format (t : Text) : Option Json → Text
  | none | some .null => t
  | some (.object fields) => fillFields t fields
  | some v => Text.replaceAll valueMark (plainText v) t

end SiteClient.Localized
