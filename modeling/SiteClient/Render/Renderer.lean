import SiteClient.Localized.Loader
import SiteClient.Render.Expansion
import SiteClient.Render.TemplateCache
/-!
# Rendering pages

A renderer takes template sources from the cache, expands a template in one pass and then puts the
localized strings into the markup and the scripts. A cold rendering costs one round trip for
templates and one for strings; a warm one none.

Templates see, above their context, a number that differs from rendering to rendering and the
configuration of the site.
-/

namespace SiteClient

/-- How pages are rendered. -/
structure RenderSettings where
  iconTemplate : Text := "core/pix_icon".toList
  iconClass : Text := "smallicon".toList
  deriving DecidableEq, Repr

/-- A page. -/
structure Rendered where
  markup : Text
  /-- The scripts of the page, to be run once the markup is in place. -/
  script : Text
  deriving DecidableEq, Repr

namespace Rendered

/-- The scripts as an element; none if there is no script. -/
def scriptElement? (page : Rendered) : Option Text :=
  if page.script = [] then none
  else some ("<script type=\"text/javascript\">".toList ++ page.script ++ "</script>".toList)

end Rendered

/-- What renderings share: the template sources, the state of whatever resolves strings, and the
number of the next rendering. -/
structure RenderMemory (τ : Type) where
  templates : TemplateCache := []
  strings : τ
  nextNumber : UInt64 := 1

/-- A renderer; `resolve` finds the texts for string requests. -/
structure Renderer (τ : Type) where
  config : SiteConfig
  settings : RenderSettings
  resolve : List StringRequest → Job τ (Except RemoteError (List Text))

namespace Renderer

variable {τ : Type}

/-- What templates see above their context. -/
def injected (config : SiteConfig) (number : UInt64) : Json :=
  .ofFields [
    ("uniqid".toList, .number (.ofUInt64 number)),
    ("globals".toList, .ofFields [("config".toList, config.toJson)])]

def iconStyle (r : Renderer τ) (icon : Template) : IconStyle where
  template := icon
  images := .ofConfig r.config
  cssClass := r.settings.iconClass

/-- The page that an expansion and its strings make. -/
def page (expansion : Expansion) (strings : List Text) : Rendered where
  markup := Text.trim (Placeholder.substitute expansion.markup strings)
  script := Placeholder.substitute
    (List.intercalate [';', '\n'] expansion.collected.scripts) strings

/-- The number of a rendering. -/
def takeNumber : Job (RenderMemory τ) UInt64 :=
  Job.modifyGet fun m ↦ (m.nextNumber, { m with nextNumber := m.nextNumber + 1 })

/-- A job on the template sources. -/
def onTemplates {α : Type} (job : Job TemplateCache α) : Job (RenderMemory τ) α :=
  job.zoom RenderMemory.templates fun templates m ↦ { m with templates }

/-- The strings for requests; none for none. -/
def strings (r : Renderer τ) (requests : List StringRequest) :
    Job (RenderMemory τ) (Except RenderError (List Text)) :=
  if requests = [] then return .ok []
  else
    let found := (r.resolve requests).zoom RenderMemory.strings fun strings m ↦ { m with strings }
    (found.mapError RenderError.remote).andThen fun texts ↦
      if texts.length = requests.length then return .ok texts
      else return .error (.remote (Localized.countError requests.length texts.length))

/-- Renders a source with the icon template of the given source. A rendering gets its number once
both sources are known to be templates. -/
def renderWithIcon (r : Renderer τ) (icon source : Text) (context : Json) :
    Job (RenderMemory τ) (Except RenderError Rendered) := do
  match Template.parsed icon, Template.parsed source with
  | .error e, _ | .ok _, .error e => return .error (.template e)
  | .ok icon, .ok _ =>
    let number ← takeNumber
    match Expansion.ofSource (r.iconStyle icon) source [injected r.config number, context] with
    | .error e => return .error (.template e)
    | .ok expansion =>
      (r.strings expansion.collected.strings).andThen fun strings ↦
        return .ok (page expansion strings)

def render (r : Renderer τ) (name : Text) (context : Json) :
    Job (RenderMemory τ) (Except RenderError Rendered) :=
  let icon := r.settings.iconTemplate
  (onTemplates (TemplateCache.resolveMany [icon, name])).andThen fun _ ↦
    (onTemplates (TemplateCache.resolve icon)).andThen fun iconSource ↦
      (onTemplates (TemplateCache.resolve name)).andThen fun source ↦
        r.renderWithIcon iconSource source context

/-- Renders a source that is not in the cache. -/
def renderSource (r : Renderer τ) (source : Text) (context : Json) :
    Job (RenderMemory τ) (Except RenderError Rendered) :=
  (onTemplates (TemplateCache.resolve r.settings.iconTemplate)).andThen fun icon ↦
    r.renderWithIcon icon source context

end Renderer
end SiteClient
