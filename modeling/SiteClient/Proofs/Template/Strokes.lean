import Mathlib.Data.List.Basic
import SiteClient.Template.Render

/-!
# Plain renderings, stroke by stroke

Without section rules a rendering keeps no state and does not fail: it is a list of strokes, each a
text of the template or a value that a variable found (`renderPlain_eq`). Which texts these are and
how often they come is decided by sections alone. So the rendering in which variables write nothing,
be it because they are taken out of the template (`mute`), has the same strokes without the values
(`renderPlain_mute`).
-/

namespace SiteClient.Template

/-! ## Strokes -/

/-- What is written at a time. -/
inductive Stroke where
  /-- A text of the template. -/
  | text (t : Text)
  /-- The value of a variable. -/
  | value (v : Json) (escaped : Bool)

namespace Stroke

def written : Stroke → Text
  | .text t => t
  | .value v escaped => if escaped then escapeHtml (display v) else display v

/-- What the stroke writes if values write nothing. -/
def fixed : Stroke → Text
  | .text t => t
  | .value .. => []

def isText : Stroke → Bool
  | .text _ => true
  | .value .. => false

end Stroke

mutual

def Node.strokes (scope : Scope) : Node → List Stroke
  | .text t => [.text t]
  | .variable name escaped =>
    match scope.lookup name with
    | none => []
    | some v => [.value v escaped]
  | .section name true _ children =>
    if ((scope.lookup name).map isTruthy).getD false then [] else strokes scope children
  | .section name false _ children =>
    match scope.lookup name with
    | some (.array items) => items.flatMap fun item ↦ strokes (item :: scope) children
    | some v => if isTruthy v then strokes (v :: scope) children else []
    | none => []

def strokes (scope : Scope) : List Node → List Stroke
  | [] => []
  | node :: rest => node.strokes scope ++ strokes scope rest

end

def writtenBy (l : List Stroke) : Text :=
  l.flatMap Stroke.written

theorem writtenBy_append (l l' : List Stroke) : writtenBy (l ++ l') = writtenBy l ++ writtenBy l' :=
  List.flatMap_append

theorem flatten_mapM_pure {σ α : Type} (items : List α) {f : α → Pass σ Text} {g : α → List Stroke}
    (h : ∀ item, f item = return writtenBy (g item)) :
    (do return (← items.mapM f).flatten) = (return writtenBy (items.flatMap g) : Pass σ Text) := by
  have hf : f = fun item ↦ pure (writtenBy (g item)) := funext h
  rw [hf, List.mapM_pure, pure_bind, ← List.flatMap_def, writtenBy, List.flatMap_assoc]
  rfl

mutual

theorem Node.render_none (scope : Scope) :
    ∀ node : Node, node.render .none scope = return writtenBy (node.strokes scope)
  | .text t => by
    rw [Node.render, Node.strokes, writtenBy, List.flatMap_singleton]
    rfl
  | .variable name escaped => by
    rw [Node.render, Node.strokes]
    cases scope.lookup name with
    | none => rfl
    | some v =>
      dsimp only
      rw [writtenBy, List.flatMap_singleton]
      rfl
  | .section name true body children => by
    rw [Node.render, Node.strokes]
    split
    · rfl
    · exact renderAll_none scope children
  | .section name false body children => by
    have henter (v : Json) :
        (if isTruthy v then renderAll .none (v :: scope) children else return [])
          = return writtenBy (if isTruthy v then strokes (v :: scope) children else []) := by
      split
      · exact renderAll_none (v :: scope) children
      · rfl
    rw [Node.render, Node.strokes]
    cases scope.lookup name with
    | none => rfl
    | some v =>
      cases v with
      | array items => exact flatten_mapM_pure _ fun item ↦ renderAll_none (item :: scope) children
      | null | bool | number | string | object => exact henter _

theorem renderAll_none (scope : Scope) :
    ∀ nodes : List Node, renderAll .none scope nodes = return writtenBy (strokes scope nodes)
  | [] => rfl
  | node :: rest => by
    rw [renderAll, strokes, node.render_none, renderAll_none scope rest, pure_bind, pure_bind,
      writtenBy_append]

end

/-- **A plain rendering is its strokes.** It does not fail. -/
theorem renderPlain_eq (template : Template) (context : Json) :
    renderPlain template context = .ok (writtenBy (strokes [context] template)) := by
  rw [renderPlain, renderAll_none]
  rfl

/-! ## Variables that write nothing -/

mutual

/-- What is left of a node without the variables in it. -/
def Node.mute : Node → List Node
  | .text t => [.text t]
  | .variable _ _ => []
  | .section name inverted body children => [.section name inverted body (mute children)]

/-- What is left of nodes without the variables in them. -/
def mute : List Node → List Node
  | [] => []
  | node :: rest => node.mute ++ mute rest

end

theorem strokes_append (scope : Scope) (nodes more : List Node) :
    strokes scope (nodes ++ more) = strokes scope nodes ++ strokes scope more := by
  induction nodes with
  | nil => rfl
  | cons node nodes ih => rw [List.cons_append, strokes, strokes, ih, List.append_assoc]

theorem strokes_singleton (scope : Scope) (node : Node) :
    strokes scope [node] = node.strokes scope := by
  rw [strokes, strokes, List.append_nil]

mutual

theorem Node.strokes_mute (scope : Scope) :
    ∀ node : Node, strokes scope node.mute = (node.strokes scope).filter Stroke.isText
  | .text t => by
    rw [Node.mute, strokes_singleton, Node.strokes]
    rfl
  | .variable name escaped => by
    rw [Node.mute, Node.strokes]
    cases scope.lookup name <;> rfl
  | .section name true body children => by
    rw [Node.mute, strokes_singleton, Node.strokes, Node.strokes]
    split
    · rfl
    · exact strokes_mute scope children
  | .section name false body children => by
    rw [Node.mute, strokes_singleton, Node.strokes, Node.strokes]
    split
    · rw [List.filter_flatMap]
      exact List.flatMap_congr fun item _ ↦ strokes_mute (item :: scope) children
    · split
      · exact strokes_mute _ children
      · rfl
    · rfl

/-- Sections decide the same when variables write nothing. -/
theorem strokes_mute (scope : Scope) :
    ∀ nodes : List Node, strokes scope (mute nodes) = (strokes scope nodes).filter Stroke.isText
  | [] => rfl
  | node :: rest => by
    rw [mute, strokes_append, strokes, node.strokes_mute, strokes_mute scope rest,
      List.filter_append]

end

def fixedBy (l : List Stroke) : Text :=
  l.flatMap Stroke.fixed

theorem writtenBy_filter (l : List Stroke) : writtenBy (l.filter Stroke.isText) = fixedBy l := by
  induction l with
  | nil => rfl
  | cons stroke l ih =>
    cases stroke with
    | text t => exact congrArg (t ++ ·) ih
    | value v escaped => exact ih

/-- **Without its variables a template writes the texts between the values.** -/
theorem renderPlain_mute (template : Template) (context : Json) :
    renderPlain (mute template) context = .ok (fixedBy (strokes [context] template)) := by
  rw [renderPlain_eq, strokes_mute, writtenBy_filter]

end SiteClient.Template
