import SiteClient.Text.Basic
/-!
# Escaping for HTML

Eight characters have entities. Escaping works on each character by itself, so it distributes over
concatenation.
-/

namespace SiteClient.Template

/-- The entity of a character that could start or end markup or an attribute. -/
def entity? : Char → Option Text
  | '&' => some "&amp;".toList
  | '<' => some "&lt;".toList
  | '>' => some "&gt;".toList
  | '"' => some "&quot;".toList
  | '\'' => some "&#39;".toList
  | '/' => some "&#x2F;".toList
  | '\x60' => some "&#x60;".toList
  | '=' => some "&#x3D;".toList
  | _ => none

/-- The text with entities for the characters that have one. -/
def escapeHtml (t : Text) : Text :=
  t.flatMap fun c ↦ (entity? c).getD [c]

@[simp] theorem escapeHtml_nil : escapeHtml [] = [] := rfl

@[simp] theorem escapeHtml_append (s t : Text) :
    escapeHtml (s ++ t) = escapeHtml s ++ escapeHtml t := by
  simp [escapeHtml]

end SiteClient.Template
