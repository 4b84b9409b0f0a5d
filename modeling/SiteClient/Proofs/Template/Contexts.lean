import SiteClient.Proofs.Template.Coupling
import SiteClient.Proofs.Template.Strokes

/-!
# What a template sees of its contexts

A name finds the innermost context that has its first segment, so of each context a template sees
the fields that its names begin with and no others. The point alone names a whole context. As long
as that is one of the outermost contexts, all of which are objects, nothing is written for it, and
entering it again changes nothing (`field?_enter`). Hence scopes that show the same fields are
rendered the same, whatever else they hold (`Likeness.ofKeys`), and a template does not see the
fields of its context that it does not name (`renderPlain_eq_of_names`).
-/

namespace SiteClient.Template

/-! ## Fields -/

namespace Scope

/-- The first segment of a name: the field that is searched for. -/
def key (name : Text) : Text :=
  (name.splitOn '.').headD []

def field? (scope : Scope) (key : Text) : Option Json :=
  scope.findSome? fun context ↦ context.field? key

theorem field?_cons (context : Json) (scope : Scope) (key : Text) :
    field? (context :: scope) key = (context.field? key).or (field? scope key) := by
  rw [field?, List.findSome?_cons, field?]
  cases context.field? key <;> rfl

/-- A context that is entered once more shows nothing new. -/
theorem field?_enter (context : Json) (scope : Scope) (key : Text) :
    field? (context :: context :: scope) key = field? (context :: scope) key := by
  rw [field?_cons, field?_cons]
  cases context.field? key <;> rfl

/-- But for the point, a name stands for what its first segment leads to. -/
theorem lookup_eq (scope : Scope) {name : Text} (h : name ≠ ['.']) :
    scope.lookup name
      = (scope.field? (key name)).bind fun v ↦ descend v (name.splitOn '.').tail := by
  rw [lookup, if_neg h, key]
  cases hsplit : name.splitOn '.' with
  | nil => exact absurd hsplit (List.splitOn_ne_nil '.' name)
  | cons first more => rfl

end Scope

/-! ## Scopes that show the same fields -/

/-- Two scopes show the same under the keys that are `known`: the same values have been entered, and
around them are objects that show the same. -/
inductive ShowsSame (known : Text → Prop) : Scope → Scope → Prop
  | outermost {fields fields' : Fields} {scope scope' : Scope}
      (h : ∀ key, known key →
        Scope.field? (.object fields :: scope) key = Scope.field? (.object fields' :: scope') key) :
      ShowsSame known (.object fields :: scope) (.object fields' :: scope')
  | entered {scope scope' : Scope} (v : Json) (h : ShowsSame known scope scope') :
      ShowsSame known (v :: scope) (v :: scope')

theorem ShowsSame.field?_eq {known : Text → Prop} {scope scope' : Scope}
    (h : ShowsSame known scope scope') {key : Text} (hkey : known key) :
    scope.field? key = scope'.field? key := by
  induction h with
  | outermost h => exact h key hkey
  | entered v _ ih => rw [Scope.field?_cons, Scope.field?_cons, ih]

/-- Scopes may stand beside each other if they show the same fields. -/
def Likeness.ofKeys (known : Text → Prop) : Likeness where
  Alike := ShowsSame known
  enter v h := .entered v h

/-- A name whose field is known does not tell such scopes apart, and neither does the point. -/
theorem Likeness.blind_ofKeys {known : Text → Prop} {name : Text}
    (h : name ≠ ['.'] → known (Scope.key name)) : (Likeness.ofKeys known).Blind name := by
  intro scope scope' hscope
  by_cases hpoint : name = ['.']
  · subst hpoint
    cases hscope with
    | outermost hsame =>
      -- The two may differ, but they are objects, and show the same when they are entered.
      refine .objects rfl rfl (.outermost fun key hkey ↦ ?_)
      rw [Scope.field?_enter, Scope.field?_enter]
      exact hsame key hkey
    | entered v _ => exact .same rfl
  · refine .same ?_
    have hsame := ShowsSame.field?_eq hscope (h hpoint)
    rw [Scope.lookup_eq scope hpoint, Scope.lookup_eq scope' hpoint, hsame]

/-! ## Plain renderings -/

theorem field?_singleton (fields : Fields) (key : Text) :
    Scope.field? [.object fields] key = fields.get? key := by
  rw [Scope.field?_cons]
  exact Option.or_none

/-- **A template sees only the fields that it names.** The point alone names none. -/
theorem renderPlain_eq_of_names {source : Text} {template : Template}
    (h : parse source = .ok template) {fields fields' : Fields}
    (hfields : ∀ name ∈ namesOf source, name ≠ ['.'] →
      fields.get? (Scope.key name) = fields'.get? (Scope.key name)) :
    ∃ out, renderPlain template (.object fields) = .ok out ∧
      renderPlain template (.object fields') = .ok out := by
  let known (key : Text) : Prop := ∃ name ∈ namesOf source, name ≠ ['.'] ∧ Scope.key name = key
  have hscope : (Likeness.ofKeys known).Alike [.object fields] [.object fields'] := by
    refine .outermost ?_
    rintro _ ⟨name, hname, hpoint, rfl⟩
    rw [field?_singleton, field?_singleton]
    exact hfields name hname hpoint
  have hrender : renderAll .none [.object fields] template
      = renderAll .none [.object fields'] template := by
    refine Coupling.coupled_equal_iff.mp (coupled_renderAll (fun t ↦ ?_) hscope template
      (fun name hname ↦ ?_) fun s _ scope scope' _ ↦ .none)
    · exact Coupling.coupled_equal_iff.mpr rfl
    · rw [names_eq h] at hname
      exact Likeness.blind_ofKeys fun hpoint ↦ ⟨name, hname, hpoint, rfl⟩
  refine ⟨_, renderPlain_eq template (.object fields), ?_⟩
  rw [← renderPlain_eq, renderPlain, renderPlain, hrender]

/-- A list whose items have a field of the outermost context in front, and a section that enters
that context itself. -/
def prefixedSource : Text :=
  opener ++ "#items".toList ++ closer ++ opener ++ "mark".toList ++ closer ++ opener
    ++ "id.n".toList ++ closer ++ opener ++ "/items".toList ++ closer ++ opener ++ "#.".toList
    ++ closer ++ opener ++ "mark".toList ++ closer ++ opener ++ "/.".toList ++ closer

def prefixedTemplate : Template :=
  [.section "items".toList false
      (opener ++ "mark".toList ++ closer ++ opener ++ "id.n".toList ++ closer)
      [.variable "mark".toList true, .variable "id.n".toList true],
    .section ['.'] false (opener ++ "mark".toList ++ closer) [.variable "mark".toList true]]

theorem parse_prefixedSource : parse prefixedSource = .ok prefixedTemplate := by
  have hpieces : pieces prefixedSource = .ok [
      .tag (opener ++ "#items".toList ++ closer) (.openSection "items".toList false),
      .tag (opener ++ "mark".toList ++ closer) (.variable "mark".toList true),
      .tag (opener ++ "id.n".toList ++ closer) (.variable "id.n".toList true),
      .tag (opener ++ "/items".toList ++ closer) (.closeSection "items".toList),
      .tag (opener ++ "#.".toList ++ closer) (.openSection ['.'] false),
      .tag (opener ++ "mark".toList ++ closer) (.variable "mark".toList true),
      .tag (opener ++ "/.".toList ++ closer) (.closeSection ['.'])] := by
    decide +kernel
  rw [parse, hpieces]
  rfl

/-- Two items, a mark, and a field that `prefixedSource` does not name. -/
def prefixedFields (secret : Json) : Fields :=
  .ofList [
    ("items".toList, .array [
      .ofFields [("id".toList, .ofFields [("n".toList, .string ['1'])])],
      .ofFields [("id".toList, .ofFields [("n".toList, .string ['2'])])]]),
    ("mark".toList, .string ['+']),
    ("n".toList, secret)]

theorem renderPlain_eq_of_names_of_prefixedSource :
    (∀ name ∈ namesOf prefixedSource, name ≠ ['.'] → (prefixedFields .null).get? (Scope.key name)
      = (prefixedFields (.string ['s'])).get? (Scope.key name)) ∧
    ∃ out, renderPlain prefixedTemplate (.object (prefixedFields .null)) = .ok out ∧
      renderPlain prefixedTemplate (.object (prefixedFields (.string ['s']))) = .ok out ∧
      out = "+1+2+".toList := by
  have hfields : ∀ name ∈ namesOf prefixedSource, name ≠ ['.'] →
      (prefixedFields .null).get? (Scope.key name)
        = (prefixedFields (.string ['s'])).get? (Scope.key name) := by
    decide +kernel
  have hout : renderPlain prefixedTemplate (.object (prefixedFields .null)) =
      .ok "+1+2+".toList := by
    decide +kernel
  obtain ⟨out, hleft, hright⟩ := renderPlain_eq_of_names parse_prefixedSource hfields
  exact ⟨hfields, out, hleft, hright, Except.ok.inj (hleft.symm.trans hout)⟩

end SiteClient.Template
