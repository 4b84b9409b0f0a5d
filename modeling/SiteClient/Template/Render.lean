import SiteClient.Template.Escape
import SiteClient.Template.Scope
import SiteClient.Template.Tree
/-!
# Rendering

A template is rendered against a scope. Section rules can take over the expansion of sections: a
rule gets the text of the body and the scope, may keep a state from one expansion to the next and
may fail. Text of the template and values of variables pass through a filter on their way to the
output; what a rule expands to does not.
-/

namespace SiteClient

/-- Why a template has no rendering. -/
inductive TemplateError where
  | parse (error : Template.ParseError)
  /-- The parameter of a string request is not what it should be. -/
  | stringArgument (param reason : Text)
  deriving DecidableEq, Repr

def TemplateError.message : TemplateError → Text
  | .parse error =>
    "template syntax error at byte ".toList ++ Text.ofNat error.position ++ ": ".toList ++
      error.fault.message
  | .stringArgument param reason =>
    "malformed string argument ".toList ++ Text.quoted param ++ ": ".toList ++ reason

namespace Template

/-- A computation with a state of type `σ` that may fail. -/
abbrev Pass (σ : Type) := StateT σ (Except TemplateError)

/-- Section expansions that replace the ordinary meaning of some sections. -/
structure SectionRules (σ : Type) where
  /-- Expands the section `name` with the text `body`; `none` if the section has its ordinary
  meaning. Inverted sections are never expanded. -/
  expand : (name body : Text) → Scope → Option (Pass σ Text)
  /-- What is written for a text of the template or of a variable. -/
  filter : Text → Text

/-- Every section has its ordinary meaning. -/
def SectionRules.none : SectionRules Unit where
  expand _ _ _ := Option.none
  filter t := t

variable {σ : Type}

mutual

/-- What a node writes. -/
def Node.render (rules : SectionRules σ) (scope : Scope) : Node → Pass σ Text
  | .text t => return rules.filter t
  | .variable name escaped =>
    match scope.lookup name with
    | none => return []
    | some v => return rules.filter (if escaped then escapeHtml (display v) else display v)
  | .section name true _ children =>
    if ((scope.lookup name).map isTruthy).getD false then return []
    else renderAll rules scope children
  | .section name false body children =>
    match rules.expand name body scope with
    | some expansion => expansion
    | none =>
      match scope.lookup name with
      | some (.array items) => do
        let parts ← items.mapM fun item ↦ renderAll rules (item :: scope) children
        return parts.flatten
      | some v => if isTruthy v then renderAll rules (v :: scope) children else return []
      | none => return []

/-- What nodes write, one after the other. -/
def renderAll (rules : SectionRules σ) (scope : Scope) : List Node → Pass σ Text
  | [] => return []
  | node :: rest => do
    let first ← node.render rules scope
    let more ← renderAll rules scope rest
    return first ++ more

end

def parsed (source : Text) : Except TemplateError Template :=
  (parse source).mapError .parse

/-- Renders a template against one context, every section with its ordinary meaning. -/
def renderPlain (template : Template) (context : Json) : Except TemplateError Text :=
  (·.1) <$> (renderAll .none [context] template).run ()

end Template
end SiteClient
