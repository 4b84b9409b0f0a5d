import SiteClient.Json.Basic
/-!
# Requests for localized strings

A localized string has a key and belongs to a component of the site. A request may carry a parameter
for the placeholders in the string.
-/

namespace SiteClient

/-- What identifies a localized string. -/
structure StringId where
  component : Text
  key : Text
  deriving DecidableEq, Repr

/-- A request for a localized string. -/
structure StringRequest where
  key : Text
  component : Text
  param : Option Json := none
  deriving DecidableEq

namespace StringRequest

/-- The component that is meant when none is named. -/
def defaultComponent : Text := "core".toList

/-- A request for the string `key` of a component. -/
def of (key component : Text) (param : Option Json := none) : StringRequest :=
  { key, component := if component = [] then defaultComponent else component, param }

def id (r : StringRequest) : StringId :=
  ⟨r.component, r.key⟩

end StringRequest
end SiteClient
