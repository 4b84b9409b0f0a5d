import SiteClient.Template.Layout
/-!
# Templates

A template is a list of nodes. A section keeps the text of its body as it stands in the source
beside the nodes that the body holds, because a section rule expands the text and not the nodes.
-/

namespace SiteClient.Template

/-- A node of a template. -/
inductive Node where
  | text (t : Text)
  | variable (name : Text) (escaped : Bool)
  | section (name : Text) (inverted : Bool) (body : Text) (children : List Node)
  deriving Repr

end SiteClient.Template

namespace SiteClient

/-- A template: what it writes, in order. -/
abbrev Template := List Template.Node

end SiteClient

namespace SiteClient.Template

/-- A section that has been opened, and what stood before it on the level around it, newest first:
the pieces of the text of that level up to and including the opening tag, and its nodes. -/
structure OpenSection where
  name : Text
  inverted : Bool
  position : Nat
  outerBody : List Text
  outerNodes : List Node

/-- Nests pieces into nodes. `position` counts the bytes before the pieces; `body` and `nodes` are
the pieces of text and the nodes so far of the innermost open section, newest first, so that each
piece is added in one step. -/
def nest (position : Nat) (body : List Text) (nodes : List Node) (stack : List OpenSection) :
    List Piece → Except ParseError Template
  | [] =>
    match stack with
    | [] => .ok nodes.reverse
    | frame :: _ => .error ⟨frame.position, .unclosedSection frame.name⟩
  | piece :: rest =>
    let next := position + Text.byteSize piece.source
    match piece with
    | .text t => nest next (t :: body) (.text t :: nodes) stack rest
    | .margin t => nest next (t :: body) nodes stack rest
    | .tag source (.variable name escaped) =>
      nest next (source :: body) (.variable name escaped :: nodes) stack rest
    | .tag source .silent => nest next (source :: body) nodes stack rest
    | .tag source (.openSection name inverted) =>
      nest next [] [] (⟨name, inverted, position, source :: body, nodes⟩ :: stack) rest
    | .tag source (.closeSection name) =>
      match stack with
      | [] => .error ⟨position, .unopenedSection name⟩
      | frame :: stack =>
        if frame.name = name then
          let inner := body.reverse.flatten
          nest next (source :: inner :: frame.outerBody)
            (.section name frame.inverted inner nodes.reverse :: frame.outerNodes) stack rest
        else .error ⟨position, .crossedSection frame.name name⟩

/-- The template that a source spells. -/
def parse (source : Text) : Except ParseError Template := do
  nest 0 [] [] [] (← pieces source)

end SiteClient.Template
