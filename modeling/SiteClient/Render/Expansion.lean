import SiteClient.Localized.Request
import SiteClient.Render.Image
import SiteClient.Render.Placeholder
import SiteClient.Template.Render
/-!
# Expanding a template

Three sections of a page template have rules of their own.

* `str`, with the body `key, component, parameter`, stands for a localized string. The string is
  only requested; a placeholder stands in its place. The parameter is itself a template.
* `pix`, with the body `key, component, alternative text`, writes the icon template for an image.
* `js` writes nothing; its expanded body is a script of the page.

An expansion collects the requests in the order of their placeholders and the scripts in the order
of the page. The text that a rule expands in turn is part of the body of a section, hence shorter
than the source that holds the section, so the expansion ends whatever the contexts hold.
-/

namespace SiteClient

/-- How icons are written. -/
structure IconStyle where
  template : Template
  images : ImageSource
  cssClass : Text

/-- What an expansion has collected. -/
structure Collected where
  strings : List StringRequest := []
  scripts : List Text := []
  deriving DecidableEq

/-- What a template expands to. -/
structure Expansion where
  markup : Text
  collected : Collected
  deriving DecidableEq

namespace Expansion

open Template

/-- The three parts of a body; the last one may contain commas. -/
def arguments (body : Text) : Text × Text × Text :=
  match Text.breakOn [','] body with
  | none => (Text.trim body, [], [])
  | some (key, rest) =>
    match Text.breakOn [','] rest with
    | none => (Text.trim key, Text.trim rest, [])
    | some (component, more) => (Text.trim key, Text.trim component, Text.trim more)

/-- The parameter that an expanded text stands for: none if it is empty, a JSON value if it starts
with one brace but not with two, else the text itself. -/
def parameter (t : Text) : Except TemplateError (Option Json) :=
  match t with
  | [] => .ok none
  | '{' :: '{' :: _ => .ok (some (.string t))
  | '{' :: _ =>
    match Decoder.json.readText t with
    | .ok v => .ok (some v)
    | .error e => .error (.stringArgument t e.message)
  | t => .ok (some (.string t))

/-- Requests a string and puts its placeholder. -/
def requestString (r : StringRequest) : Pass Collected Text := do
  let collected ← get
  set { collected with strings := collected.strings ++ [r] }
  return Placeholder.placeholder collected.strings.length

def stringSection (expand : Text → Pass Collected Text) (body : Text) : Pass Collected Text := do
  let (key, component, param) := arguments body
  if param = [] then requestString (.of key component)
  else
    let expanded ← expand param
    let param ← liftM (parameter (Placeholder.substitute expanded []))
    requestString (.of key component param)

def iconMarkup (style : IconStyle) (body : Text) : Except TemplateError Text := do
  let (key, component, alt) := arguments body
  let markup ← renderPlain style.template <| .ofFields [
    ("src".toList, .string (style.images.url key component)),
    ("alt".toList, .string alt),
    ("class".toList, .string style.cssClass)]
  return Text.trim markup

def iconSection (style : IconStyle) (body : Text) : Pass Collected Text := do
  return Placeholder.guarded (← liftM (iconMarkup style body))

def scriptSection (expand : Text → Pass Collected Text) (body : Text) : Pass Collected Text := do
  let script ← expand body
  modify fun collected ↦ { collected with scripts := collected.scripts ++ [script] }
  return []

/-- The rules of the three sections, by a way to expand the texts in them. -/
def rules (style : IconStyle) (expand : Text → Scope → Pass Collected Text) :
    SectionRules Collected where
  expand name body scope :=
    if name = "str".toList then some (stringSection (expand · scope) body)
    else if name = "pix".toList then some (iconSection style body)
    else if name = "js".toList then some (scriptSection (expand · scope) body)
    else none
  filter := Placeholder.guarded

/-- Expands a source by rules that may expand texts in their turn. A text that is not shorter than
the source it comes from would write nothing; there is none. -/
def expandBy {σ : Type} (rules : (Text → Scope → Pass σ Text) → SectionRules σ) (source : Text)
    (scope : Scope) : Pass σ Text := do
  let template ← liftM (parsed source)
  let inner (text : Text) (scope : Scope) : Pass σ Text :=
    if text.length < source.length then expandBy rules text scope else return []
  renderAll (rules inner) scope template
termination_by source.length

/-- Expands a source. -/
def expandSource (style : IconStyle) (source : Text) (scope : Scope) : Pass Collected Text :=
  expandBy (rules style) source scope

/-- The expansion of a source. -/
def ofSource (style : IconStyle) (source : Text) (scope : Scope) :
    Except TemplateError Expansion := do
  let (markup, collected) ← (expandSource style source scope).run {}
  return ⟨markup, collected⟩

end Expansion
end SiteClient
