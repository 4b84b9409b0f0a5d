import SiteClient.Template.Render
/-!
# Section rules by name

Four ready-made ways to expand a section, given to sections by their names. A rule that renders text
may meet sections with rules again, in the body or, when the rendering is rendered once more, in
text that came out of the contexts. Nothing bounds that, so rules nest at most `nesting` deep.
-/

namespace SiteClient.Template

/-- A way to expand a section. -/
inductive SectionRule where
  /-- The text of the body as it is. -/
  | raw
  /-- The body rendered, with its Latin letters in upper case. -/
  | upper
  /-- The body rendered, and the result rendered as a template again. -/
  | twice
  /-- No expansion but an error. -/
  | fail
  deriving DecidableEq, Repr

/-- Which sections have rules, and whether written text is put in square brackets. -/
structure NamedRules where
  rules : List (Text × SectionRule)
  bracketed : Bool

namespace NamedRules

def renderSource {σ : Type} (rules : SectionRules σ) (source : Text) (scope : Scope) :
    Pass σ Text := do
  let template ← liftM (parsed source)
  renderAll rules scope template

/-- The error of a rule about a body. -/
private def refuse (body : Text) (reason : String) : Pass Unit Text :=
  throw (.stringArgument body reason.toList)

/-- The rules, as long as they nest at most `depth` deep. -/
def sectionRules (named : NamedRules) : (depth : Nat) → SectionRules Unit
  | 0 =>
    { expand := fun name body _ ↦ (named.rules.lookup name).map fun _ ↦
        refuse body "sections nest too deep"
      filter := id }
  | depth + 1 =>
    { expand := fun name body scope ↦ (named.rules.lookup name).map fun
        | .raw => pure body
        | .upper => do
          let t ← renderSource (sectionRules named depth) body scope
          return t.map Char.toUpper
        | .twice => do
          let t ← renderSource (sectionRules named depth) body scope
          renderSource (sectionRules named depth) t scope
        | .fail => refuse body "helper failed"
      filter := fun t ↦ if named.bracketed then '[' :: t ++ [']'] else t }

/-- How deep rules may nest. -/
def nesting : Nat := 1000

def render (named : NamedRules) (scope : Scope) (template : Template) : Except TemplateError Text :=
  (·.1) <$> (renderAll (named.sectionRules nesting) scope template).run ()

end NamedRules
end SiteClient.Template
