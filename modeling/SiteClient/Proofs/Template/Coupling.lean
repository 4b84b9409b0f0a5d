import Mathlib.Data.List.Basic
import SiteClient.Proofs.Template.Names

/-!
# Rendering by two sets of rules

The same template is rendered twice, by rules that keep different states and write different texts,
and maybe in different scopes. If the two sides are related wherever a rule or the filter writes
something, and what is written one after the other stays related, then the two renderings are
related and fail alike (`coupled_renderAll`).

What "related" means is a `Coupling`, and which scopes may stand beside each other is a `Likeness`,
so that one induction over the tree serves every comparison. Only the sections and the names that
stand in the template matter: a rule may do what it wants at all other sections, and a scope may
hold what it wants under all other names.
-/

namespace SiteClient.Template

/-! ## Failing alike -/

/-- Both fail with the same error, or neither fails and the results are related. -/
inductive Agree {ε α β : Type} (R : α → β → Prop) : Except ε α → Except ε β → Prop
  | error (e : ε) : Agree R (.error e) (.error e)
  | ok {a : α} {b : β} (h : R a b) : Agree R (.ok a) (.ok b)

namespace Agree

variable {ε α β γ δ : Type} {R : α → β → Prop} {S : γ → δ → Prop}

theorem bind {p : Except ε α} {q : Except ε β} (h : Agree R p q) {f : α → Except ε γ}
    {g : β → Except ε δ} (hfg : ∀ a b, R a b → Agree S (f a) (g b)) :
    Agree S (p >>= f) (q >>= g) := by
  cases h with
  | error e => exact .error e
  | ok hab => exact hfg _ _ hab

theorem mono {S : α → β → Prop} {p : Except ε α} {q : Except ε β} (h : Agree R p q)
    (hRS : ∀ a b, R a b → S a b) : Agree S p q := by
  cases h with
  | error e => exact .error e
  | ok hab => exact .ok (hRS _ _ hab)

end Agree

/-! ## The sections of a template -/

mutual

/-- The name and the body of every section in a node that is not inverted, at any depth. -/
def Node.sections : Node → List (Text × Text)
  | .text _ | .variable _ _ => []
  | .section _ true _ children => sections children
  | .section name false body children => (name, body) :: sections children

/-- The name and the body of every section in nodes that is not inverted, at any depth. -/
def sections : List Node → List (Text × Text)
  | [] => []
  | node :: rest => node.sections ++ sections rest

end

/-! ## Scopes beside each other -/

/-- Which scopes stand beside each other in two renderings of one template. -/
structure Likeness where
  /-- The scopes may stand beside each other. -/
  Alike : Scope → Scope → Prop
  /-- A value may be entered on both sides. -/
  enter : ∀ {scope scope' : Scope} (v : Json), Alike scope scope' → Alike (v :: scope) (v :: scope')

namespace Likeness

/-- The scope is the same on both sides. -/
def same : Likeness where
  Alike := Eq
  enter v h := congrArg (v :: ·) h

/-- What a name may stand for on both sides: for the same, or for objects that may be entered beside
each other. No more is asked of the objects, for an object itself writes nothing. -/
inductive Shows (L : Likeness) (scope scope' : Scope) (name : Text) : Prop
  | same (h : scope.lookup name = scope'.lookup name)
  | objects {fields fields' : Fields} (h : scope.lookup name = some (.object fields))
      (h' : scope'.lookup name = some (.object fields'))
      (henter : L.Alike (.object fields :: scope) (.object fields' :: scope'))

/-- The name does not tell scopes apart that stand beside each other. -/
def Blind (L : Likeness) (name : Text) : Prop :=
  ∀ {scope scope' : Scope}, L.Alike scope scope' → L.Shows scope scope' name

theorem blind_same (name : Text) : same.Blind name :=
  fun h ↦ .same (congrArg (Scope.lookup · name) h)

end Likeness

/-! ## Couplings -/

/-- How two passes over one template stand to each other. -/
structure Coupling (σ τ : Type) where
  /-- How the states are related before and after every text. -/
  Same : σ → τ → Prop
  /-- How two written texts are related, by the states before and after them. -/
  Writes : σ → τ → Text → Text → σ → τ → Prop
  /-- Nothing is related to nothing. -/
  nil : ∀ s t, Writes s t [] [] s t
  /-- What is related piece by piece is related as a whole. -/
  append : ∀ {s s₁ s₂ t t₁ t₂} {a a' b b' : Text}, Writes s t a b s₁ t₁ →
    Writes s₁ t₁ a' b' s₂ t₂ → Writes s t (a ++ a') (b ++ b') s₂ t₂

namespace Coupling

variable {σ τ : Type} (C : Coupling σ τ)

/-- Two passes that fail alike and write related texts. -/
def Coupled (p : Pass σ Text) (q : Pass τ Text) : Prop :=
  ∀ s t, C.Same s t →
    Agree (fun a b ↦ C.Same a.2 b.2 ∧ C.Writes s t a.1 b.1 a.2 b.2) (p.run s) (q.run t)

/-- The rules treat the section alike. -/
def Expands (left : SectionRules σ) (right : SectionRules τ) (name body : Text) : Prop :=
  ∀ scope, Option.Rel C.Coupled (left.expand name body scope) (right.expand name body scope)

/-- The rules treat the section alike, also where the scopes differ. -/
def ExpandsIn (L : Likeness) (left : SectionRules σ) (right : SectionRules τ)
    (name body : Text) : Prop :=
  ∀ scope scope', L.Alike scope scope' →
    Option.Rel C.Coupled (left.expand name body scope) (right.expand name body scope')

variable {C}

/-- Both sides do the same. -/
def equal (σ : Type) : Coupling σ σ where
  Same := Eq
  Writes _ _ a b _ _ := a = b
  nil _ _ := rfl
  append h h' := congrArg₂ (· ++ ·) h h'

theorem coupled_equal_iff {p q : Pass σ Text} : (equal σ).Coupled p q ↔ p = q := by
  constructor
  · intro h
    funext s
    have hs := h s s rfl
    change Agree _ (p s) (q s) at hs
    cases hp : p s with
    | error e =>
      rw [hp] at hs
      generalize q s = r at hs ⊢
      cases hs
      rfl
    | ok a =>
      rw [hp] at hs
      generalize q s = r at hs ⊢
      cases hs with
      | ok h => exact congrArg Except.ok (Prod.ext h.2 h.1)
  · rintro rfl s _ rfl
    cases p.run s with
    | error e => exact .error e
    | ok a => exact .ok ⟨rfl, rfl⟩

theorem Expands.expandsIn {left : SectionRules σ} {right : SectionRules τ} {name body : Text}
    (h : C.Expands left right name body) : C.ExpandsIn .same left right name body := by
  rintro scope _ rfl
  exact h scope

theorem coupled_nil : C.Coupled (return []) (return []) :=
  fun s t h ↦ .ok ⟨h, C.nil s t⟩

/-- What both passes compute first without looking at their states. -/
theorem coupled_liftM {α : Type} (e : Except TemplateError α) {p : α → Pass σ Text}
    {q : α → Pass τ Text} (h : ∀ a, e = .ok a → C.Coupled (p a) (q a)) :
    C.Coupled (liftM e >>= p) (liftM e >>= q) := by
  intro s t hsame
  cases e with
  | error e => exact .error e
  | ok a => exact h a rfl s t hsame

theorem coupled_append {p p' : Pass σ Text} {q q' : Pass τ Text} (h : C.Coupled p q)
    (h' : C.Coupled p' q') :
    C.Coupled (do return (← p) ++ (← p')) (do return (← q) ++ (← q')) := by
  intro s t hsame
  simp only [StateT.run_bind]
  -- The second pass starts where the first one ends, on both sides.
  refine (h s t hsame).bind ?_
  rintro ⟨a, s₁⟩ ⟨b, t₁⟩ ⟨hsame₁, hwrites₁⟩
  refine (h' s₁ t₁ hsame₁).bind ?_
  rintro ⟨a', s₂⟩ ⟨b', t₂⟩ ⟨hsame₂, hwrites₂⟩
  exact .ok ⟨hsame₂, C.append hwrites₁ hwrites₂⟩

theorem coupled_flatten_mapM {α : Type} {f : α → Pass σ Text} {g : α → Pass τ Text}
    (h : ∀ item, C.Coupled (f item) (g item)) (items : List α) :
    C.Coupled (do return (← items.mapM f).flatten) (do return (← items.mapM g).flatten) := by
  induction items with
  | nil =>
    rw [List.mapM_nil, List.mapM_nil]
    exact coupled_nil
  | cons item items ih =>
    -- The items of a section are written one after the other, as nodes are.
    have hcons := coupled_append (h item) ih
    simpa only [List.mapM_cons, bind_assoc, pure_bind, List.flatten_cons] using hcons

end Coupling

open Coupling

section

variable {σ τ : Type} {C : Coupling σ τ} {left : SectionRules σ} {right : SectionRules τ}
  {L : Likeness}

mutual

theorem Node.coupled_render
    (hfilter : ∀ t, C.Coupled (return left.filter t) (return right.filter t)) {scope scope' : Scope}
    (hscope : L.Alike scope scope') :
    ∀ node : Node, (∀ name ∈ node.names, L.Blind name) →
      (∀ s ∈ node.sections, C.ExpandsIn L left right s.1 s.2) →
      C.Coupled (node.render left scope) (node.render right scope')
  | .text t, _, _ => by
    rw [Node.render, Node.render]
    exact hfilter t
  | .variable name escaped, hnames, _ => by
    rw [Node.names_variable] at hnames
    rw [Node.render, Node.render]
    cases List.forall_mem_singleton.mp hnames hscope with
    | same h =>
      rw [h]
      cases scope'.lookup name with
      | none => exact coupled_nil
      | some v => exact hfilter _
    | objects h h' _ =>
      rw [h, h']
      exact hfilter _
  | .section name true body children, hnames, hsections => by
    rw [Node.names_section] at hnames
    obtain ⟨hname, hchildren⟩ := List.forall_mem_cons.mp hnames
    obtain ⟨hchildren, -⟩ := List.forall_mem_append.mp hchildren
    have hinner := coupled_renderAll hfilter hscope children hchildren hsections
    rw [Node.render, Node.render]
    cases hname hscope with
    | same h =>
      rw [h]
      split
      · exact coupled_nil
      · exact hinner
    | objects h h' _ =>
      rw [h, h']
      exact coupled_nil
  | .section name false body children, hnames, hsections => by
    rw [Node.names_section] at hnames
    obtain ⟨hname, hchildren⟩ := List.forall_mem_cons.mp hnames
    obtain ⟨hchildren, -⟩ := List.forall_mem_append.mp hchildren
    rw [Node.sections] at hsections
    obtain ⟨hhead, hsections⟩ := List.forall_mem_cons.mp hsections
    have hrules := hhead scope scope' hscope
    rw [Node.render, Node.render]
    -- Either a rule takes the section on both sides, or on neither.
    cases hl : left.expand name body scope with
    | some p =>
      cases hr : right.expand name body scope' with
      | some q =>
        rw [hl, hr] at hrules
        cases hrules with
        | some h => exact h
      | none => rw [hl, hr] at hrules; cases hrules
    | none =>
      cases hr : right.expand name body scope' with
      | some q => rw [hl, hr] at hrules; cases hrules
      | none =>
        dsimp only
        cases hname hscope with
        | same h =>
          rw [h]
          split
          · exact coupled_flatten_mapM (fun item ↦
              coupled_renderAll hfilter (L.enter item hscope) children hchildren hsections) _
          · rename_i v _ _
            split
            · exact coupled_renderAll hfilter (L.enter v hscope) children hchildren hsections
            · exact coupled_nil
          · exact coupled_nil
        | objects h h' henter =>
          -- An object is always entered.
          rw [h, h']
          exact coupled_renderAll hfilter henter children hchildren hsections

/-- **Rules that treat the sections of a template alike render it alike**, in scopes that its names
do not tell apart. -/
theorem coupled_renderAll
    (hfilter : ∀ t, C.Coupled (return left.filter t) (return right.filter t)) {scope scope' : Scope}
    (hscope : L.Alike scope scope') :
    ∀ nodes : List Node, (∀ name ∈ names nodes, L.Blind name) →
      (∀ s ∈ sections nodes, C.ExpandsIn L left right s.1 s.2) →
      C.Coupled (renderAll left scope nodes) (renderAll right scope' nodes)
  | [], _, _ => by
    rw [renderAll, renderAll]
    exact coupled_nil
  | node :: rest, hnames, hsections => by
    rw [names_cons] at hnames
    obtain ⟨hnode, hrest⟩ := List.forall_mem_append.mp hnames
    rw [sections] at hsections
    obtain ⟨hnode', hrest'⟩ := List.forall_mem_append.mp hsections
    rw [renderAll, renderAll]
    exact coupled_append (node.coupled_render hfilter hscope hnode hnode')
      (coupled_renderAll hfilter hscope rest hrest hrest')

end

end

end SiteClient.Template
