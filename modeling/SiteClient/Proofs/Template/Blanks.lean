import SiteClient.Template.Render

/-!
# Nodes up to blanks

Two templates are the same up to blanks if the same is left of both when all blank characters of
their texts are deleted and texts of which nothing is left are dropped (`squeeze`). Names, flags,
and the bodies that section rules get must be the same to the letter. Rendering then writes the same
up to blanks, fails alike and leaves the same state, provided that the filter of the rules does not
turn blanks into something else (`renderAll_squeeze`).
-/

namespace SiteClient

namespace Text

def withoutBlanks (t : Text) : Text :=
  t.filter fun c ↦ !isBlank c

@[simp] theorem withoutBlanks_nil : withoutBlanks [] = [] := rfl

@[simp] theorem withoutBlanks_append (s t : Text) :
    withoutBlanks (s ++ t) = withoutBlanks s ++ withoutBlanks t :=
  List.filter_append s t

theorem withoutBlanks_eq_nil {t : Text} (h : allBlank t = true) : withoutBlanks t = [] := by
  rw [withoutBlanks, List.filter_eq_nil_iff]
  intro c hc
  simp [List.all_eq_true.mp h c hc]

@[simp] theorem withoutBlanks_withoutBlanks (t : Text) :
    withoutBlanks (withoutBlanks t) = withoutBlanks t := by
  rw [withoutBlanks, withoutBlanks, List.filter_filter]
  simp

end Text

namespace Template

/-! ## Deleting blanks -/

/-- The text as a node, without its blanks; nothing of it may be left. -/
def squeezedText (t : Text) : List Node :=
  if Text.withoutBlanks t = [] then [] else [.text (Text.withoutBlanks t)]

mutual

/-- What is left of a node without the blanks in its texts. -/
def Node.squeeze : Node → List Node
  | .text t => squeezedText t
  | .variable name escaped => [.variable name escaped]
  | .section name inverted body children => [.section name inverted body (squeeze children)]

/-- What is left of nodes without the blanks in their texts. -/
def squeeze : List Node → List Node
  | [] => []
  | node :: rest => node.squeeze ++ squeeze rest

end

@[simp] theorem squeeze_nil : squeeze [] = [] := rfl

@[simp] theorem squeeze_append (nodes more : List Node) :
    squeeze (nodes ++ more) = squeeze nodes ++ squeeze more := by
  induction nodes with
  | nil => rfl
  | cons node nodes ih => rw [List.cons_append, squeeze, squeeze, ih, List.append_assoc]

/-! ## Rendering what is left -/

variable {σ : Type}

/-- The filter writes nothing but blanks for blanks. -/
structure SectionRules.KeepsBlanks (rules : SectionRules σ) : Prop where
  filter_nil : Text.withoutBlanks (rules.filter []) = []
  filter_withoutBlanks : ∀ t,
    Text.withoutBlanks (rules.filter (Text.withoutBlanks t)) = Text.withoutBlanks (rules.filter t)

/-- What two passes write, one after the other. -/
def Pass.append (p q : Pass σ Text) : Pass σ Text := do
  return (← p) ++ (← q)

theorem Pass.withoutBlanks_append (p q : Pass σ Text) :
    Text.withoutBlanks <$> p.append q
      = Pass.append (Text.withoutBlanks <$> p) (Text.withoutBlanks <$> q) := by
  simp [Pass.append]

theorem renderAll_append (rules : SectionRules σ) (scope : Scope) (nodes more : List Node) :
    renderAll rules scope (nodes ++ more)
      = Pass.append (renderAll rules scope nodes) (renderAll rules scope more) := by
  induction nodes with
  | nil => simp [renderAll, Pass.append]
  | cons node nodes ih =>
    rw [List.cons_append, renderAll, renderAll, ih]
    simp only [Pass.append, bind_assoc, pure_bind, List.append_assoc]

theorem renderAll_singleton (rules : SectionRules σ) (scope : Scope) (node : Node) :
    renderAll rules scope [node] = node.render rules scope := by
  simp [renderAll]

theorem withoutBlanks_flatten_mapM {α : Type} {f g : α → Pass σ Text}
    (h : ∀ item, Text.withoutBlanks <$> f item = Text.withoutBlanks <$> g item) (items : List α) :
    Text.withoutBlanks <$> (do return (← items.mapM f).flatten : Pass σ Text)
      = Text.withoutBlanks <$> (do return (← items.mapM g).flatten : Pass σ Text) := by
  induction items with
  | nil => rfl
  | cons item items ih =>
    have hcons (f : α → Pass σ Text) : (do return (← (item :: items).mapM f).flatten : Pass σ Text)
        = Pass.append (f item) (do return (← items.mapM f).flatten) := by
      simp only [List.mapM_cons, Pass.append, bind_assoc, pure_bind, List.flatten_cons]
    rw [hcons, hcons, Pass.withoutBlanks_append, Pass.withoutBlanks_append, h, ih]

mutual

theorem Node.renderAll_squeeze {rules : SectionRules σ} (hrules : rules.KeepsBlanks)
    (scope : Scope) : ∀ node : Node,
      Text.withoutBlanks <$> renderAll rules scope node.squeeze
        = Text.withoutBlanks <$> node.render rules scope
  | .text t => by
    have hfilter := hrules.filter_withoutBlanks t
    rw [Node.squeeze, squeezedText, Node.render, map_pure, ← hfilter]
    split
    · rename_i hnil
      rw [hnil, hrules.filter_nil]
      rfl
    · rw [renderAll_singleton, Node.render, map_pure]
  | .variable name escaped => by rw [Node.squeeze, renderAll_singleton]
  | .section name true body children => by
    rw [Node.squeeze, renderAll_singleton, Node.render, Node.render]
    split
    · rfl
    · exact renderAll_squeeze hrules scope children
  | .section name false body children => by
    rw [Node.squeeze, renderAll_singleton, Node.render, Node.render]
    split
    · rfl
    · split
      · exact withoutBlanks_flatten_mapM
          (fun item ↦ renderAll_squeeze hrules (item :: scope) children) _
      · split
        · exact renderAll_squeeze hrules (_ :: scope) children
        · rfl
      · rfl

/-- **Blanks in a template become nothing but blanks.** -/
theorem renderAll_squeeze {rules : SectionRules σ} (hrules : rules.KeepsBlanks) (scope : Scope) :
    ∀ nodes : List Node,
      Text.withoutBlanks <$> renderAll rules scope (squeeze nodes)
        = Text.withoutBlanks <$> renderAll rules scope nodes
  | [] => rfl
  | node :: rest => by
    rw [squeeze, renderAll_append, renderAll, ← Pass.append, Pass.withoutBlanks_append,
      Pass.withoutBlanks_append, node.renderAll_squeeze hrules, renderAll_squeeze hrules scope rest]

end

/-- Templates that are the same up to blanks are rendered the same up to blanks. -/
theorem renderAll_congr {rules : SectionRules σ} (hrules : rules.KeepsBlanks) (scope : Scope)
    {nodes others : List Node} (h : squeeze nodes = squeeze others) :
    Text.withoutBlanks <$> renderAll rules scope nodes
      = Text.withoutBlanks <$> renderAll rules scope others := by
  rw [← renderAll_squeeze hrules, h, renderAll_squeeze hrules]

end Template
end SiteClient
