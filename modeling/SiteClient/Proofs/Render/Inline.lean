import SiteClient.Proofs.Render.Trace
import SiteClient.Render.Renderer

/-!
# Strings written on the spot

If every string had its text at once, an expansion could write it where it is requested: no
placeholders, no guards, no second scan. `inlineRules` expand so, and the page is the same. The two
differ in one case only, when a string is requested inside the parameter of another
(`StringsApart`): written on the spot it becomes a part of the parameter, but its placeholder is
still a placeholder when the parameter is taken.

The two expansions are compared part by part. What is in front of a part on one side are its guards,
on the other nothing; that the strings are not known yet on one side does not matter, because those
that a part holds have been requested before it was written (`filled_texts`).
-/

namespace SiteClient

open Placeholder Template Template.Coupling

/-! ## Sources without strings in strings -/

namespace Template

/-- The sections of a source; none if it is no template. -/
def sectionsOf (source : Text) : List (Text × Text) :=
  match parsed source with
  | .ok template => sections template
  | .error _ => []

theorem sectionsOf_eq {source : Text} {template : Template} (h : parsed source = .ok template) :
    sectionsOf source = sections template := by
  rw [sectionsOf, h]

end Template

namespace Expansion

/-- No `str` section occurs in the parameter of another one, at any depth. `inParameter` tells that
the source itself stands in the parameter of one. -/
inductive StringsApart : (inParameter : Bool) → Text → Prop
  | intro {inParameter : Bool} {source : Text}
      (outside : inParameter = true → ∀ body, ("str".toList, body) ∉ sectionsOf source)
      (parameters : ∀ body, ("str".toList, body) ∈ sectionsOf source →
        StringsApart true (arguments body).2.2)
      (scripts : ∀ body, ("js".toList, body) ∈ sectionsOf source → StringsApart inParameter body) :
      StringsApart inParameter source

theorem StringsApart.of_sectionsOf_eq_nil {inParameter : Bool} {source : Text}
    (h : sectionsOf source = []) : StringsApart inParameter source := by
  refine .intro ?_ ?_ ?_
  all_goals simp [h]

/-! ## Expanding on the spot -/

def inlineString (f : StringRequest → Text) (expand : Text → Pass (List Text) Text) (body : Text) :
    Pass (List Text) Text := do
  let (key, component, param) := arguments body
  if param = [] then return f (.of key component)
  else
    let expanded ← expand param
    let param ← liftM (parameter expanded)
    return f (.of key component param)

def inlineScript (expand : Text → Pass (List Text) Text) (body : Text) :
    Pass (List Text) Text := do
  let script ← expand body
  modify fun scripts ↦ scripts ++ [script]
  return []

/-- The rules of the three sections when the text of every string is known. Only scripts are kept.
-/
def inlineRules (style : IconStyle) (f : StringRequest → Text)
    (expand : Text → Scope → Pass (List Text) Text) : SectionRules (List Text) where
  expand name body scope :=
    if name = "str".toList then some (inlineString f (expand · scope) body)
    else if name = "pix".toList then some (liftM (iconMarkup style body))
    else if name = "js".toList then some (inlineScript (expand · scope) body)
    else none
  filter t := t

/-- The page of a source when the text of every string is known. -/
def inlinePage (style : IconStyle) (f : StringRequest → Text) (source : Text) (scope : Scope) :
    Except TemplateError Rendered := do
  let (markup, scripts) ← (expandBy (inlineRules style f) source scope).run []
  return { markup := Text.trim markup, script := [';', '\n'].intercalate scripts }

/-! ## Comparing part by part -/

def texts (f : StringRequest → Text) (trace : Trace) : List Text :=
  trace.collected.strings.map f

theorem length_texts (f : StringRequest → Text) (trace : Trace) :
    (texts f trace).length = trace.collected.strings.length :=
  List.length_map f

section

variable {f : StringRequest → Text} {before between after : Trace} {out out' : Text}

theorem filled_texts {requests : List StringRequest} {parts : List Part}
    (hstrings : after.collected.strings = between.collected.strings ++ requests)
    (h : ∀ i ∈ indices parts, i < between.collected.strings.length) :
    filled (texts f after) parts = filled (texts f between) parts := by
  rw [texts, hstrings, List.map_append]
  exact filled_append_strings (by simpa [texts] using h) _

theorem map_filled_texts {requests : List StringRequest} (w : Emission before out between)
    (hstrings : after.collected.strings = between.collected.strings ++ requests) :
    w.scripts.map (filled (texts f after)) = w.scripts.map (filled (texts f between)) := by
  refine List.map_congr_left fun parts hparts ↦ filled_texts hstrings fun i hi ↦ w.lt_of_mem ?_
  have hscripts : i ∈ w.scripts.flatMap indices := List.mem_flatMap.mpr ⟨parts, hparts, hi⟩
  exact List.mem_append_left _ (List.mem_append_right _ hscripts)

/-- What an expansion writes, beside what is written when every string is written on the spot. In a
parameter there are no strings. -/
structure Emission.Inline (f : StringRequest → Text) (inParameter : Bool)
    (w : Emission before out after) (scripts : List Text) (direct : Text) (scripts' : List Text) :
    Prop where
  absorbed_eq : w.absorbed = []
  indices_eq : inParameter = true → indices w.parts = []
  direct_eq : direct = filled (texts f after) w.parts
  scripts_eq : scripts' = scripts ++ w.scripts.map (filled (texts f after))

theorem Emission.Inline.nil (f : StringRequest → Text) (inParameter : Bool) (trace : Trace)
    (scripts : List Text) : (Emission.nil trace).Inline f inParameter scripts [] scripts where
  absorbed_eq := rfl
  indices_eq _ := rfl
  direct_eq := rfl
  scripts_eq := (List.append_nil scripts).symm

theorem Emission.Inline.text (f : StringRequest → Text) (inParameter : Bool) (trace : Trace)
    (scripts : List Text) (t : Text) :
    (Emission.text trace t).Inline f inParameter scripts t scripts where
  absorbed_eq := rfl
  indices_eq _ := rfl
  direct_eq := (List.append_nil t).symm
  scripts_eq := (List.append_nil scripts).symm

theorem Emission.Inline.append {inParameter : Bool} {scripts scripts₁ scripts₂ direct direct' : _}
    {w : Emission before out between} {w' : Emission between out' after}
    (h : w.Inline f inParameter scripts direct scripts₁)
    (h' : w'.Inline f inParameter scripts₁ direct' scripts₂) :
    (w.append w').Inline f inParameter scripts (direct ++ direct') scripts₂ where
  absorbed_eq := by
    rw [Emission.append_absorbed, h.absorbed_eq, h'.absorbed_eq, List.append_nil]
  indices_eq hin := by
    rw [Emission.append_parts, indices_append, h.indices_eq hin, h'.indices_eq hin, List.append_nil]
  direct_eq := by
    rw [Emission.append_parts, filled_append, h.direct_eq, h'.direct_eq,
      filled_texts w'.strings_eq fun i hi ↦ w.lt_of_mem_indices hi]
  scripts_eq := by
    rw [Emission.append_scripts, List.map_append, map_filled_texts w w'.strings_eq,
      ← List.append_assoc, ← h.scripts_eq, ← h'.scripts_eq]

theorem Emission.Inline.request {scripts scripts₁ : List Text} {direct : Text}
    {w : Emission before out between} (h : w.Inline f true scripts direct scripts₁)
    (r : StringRequest) {absorbed : List ℕ}
    (habsorbed : absorbed = between.absorbed ++ indices w.parts) :
    (w.request r habsorbed).Inline f false scripts (f r) scripts₁ where
  absorbed_eq := by
    rw [Emission.request_absorbed, h.absorbed_eq, h.indices_eq rfl, List.append_nil]
  indices_eq := nofun
  direct_eq := by simp [texts, Part.filled]
  scripts_eq := by
    rw [Emission.request_scripts, map_filled_texts w rfl]
    exact h.scripts_eq

theorem Emission.Inline.script {inParameter : Bool} {scripts scripts₁ : List Text} {direct : Text}
    {w : Emission before out between} (h : w.Inline f inParameter scripts direct scripts₁) :
    w.script.Inline f inParameter scripts [] (scripts₁ ++ [direct]) where
  absorbed_eq := h.absorbed_eq
  indices_eq _ := rfl
  direct_eq := rfl
  scripts_eq := by
    rw [Emission.script_scripts, List.map_append, ← List.append_assoc, h.scripts_eq, h.direct_eq]
    rfl

end

/-- The traced expansion beside the one that writes every string on the spot. -/
def inlining (f : StringRequest → Text) (inParameter : Bool) : Coupling Trace (List Text) where
  Same _ _ := True
  Writes before scripts out direct after scripts' :=
    ∃ w : Emission before out after, w.Inline f inParameter scripts direct scripts'
  nil trace scripts := ⟨.nil trace, .nil f inParameter trace scripts⟩
  append := by
    rintro _ _ _ _ _ _ _ _ _ _ ⟨w, h⟩ ⟨w', h'⟩
    exact ⟨w.append w', h.append h'⟩

theorem coupled_plain (f : StringRequest → Text) (inParameter : Bool) (t : Text) :
    (inlining f inParameter).Coupled (return guarded t) (return t) :=
  fun trace scripts _ ↦ .ok ⟨trivial, .text trace t, .text f inParameter trace scripts t⟩

/-- Nothing is substituted in a parameter without strings, and its guards go. -/
theorem substitute_parameter {f : StringRequest → Text}
    {before after : Trace} {out direct : Text} {scripts scripts' : List Text}
    {w : Emission before out after} (h : w.Inline f true scripts direct scripts') :
    substitute out [] = direct := by
  have hnone : ∀ i ∈ indices w.parts, i < ([] : List Text).length := by
    rw [h.indices_eq rfl]
    exact fun _ hi ↦ absurd hi List.not_mem_nil
  have hnodup : (indices w.parts).Nodup := by
    rw [h.indices_eq rfl]
    exact List.nodup_nil
  calc substitute out [] = substitute (written w.parts) [] := by rw [w.written_parts]
    _ = filled [] w.parts := substitute_written hnone hnodup
    _ = filled ([] ++ texts f after) w.parts := (filled_append_strings hnone _).symm
    _ = direct := h.direct_eq.symm

theorem coupled_inlineString {f : StringRequest → Text} {inner : Text → Pass Trace Text}
    {inner' : Text → Pass (List Text) Text} {body : Text}
    (h : (inlining f true).Coupled (inner (arguments body).2.2) (inner' (arguments body).2.2)) :
    (inlining f false).Coupled (tracedString inner body) (inlineString f inner' body) := by
  rcases harguments : arguments body with ⟨key, component, param⟩
  rw [harguments] at h
  intro trace scripts _
  simp only [tracedString, inlineString, harguments]
  by_cases hparam : param = []
  · rw [if_pos hparam, if_pos hparam]
    have hnil := Emission.Inline.nil f true trace scripts
    exact .ok ⟨trivial, _, hnil.request (.of key component) (List.append_nil _).symm⟩
  · rw [if_neg hparam, if_neg hparam]
    refine (h trace scripts trivial).bind ?_
    rintro ⟨expanded, between⟩ ⟨direct, scripts₁⟩ ⟨-, w, hw⟩
    dsimp only
    -- From here on both sides have the same parameter, and fail alike on it.
    rw [substitute_parameter hw]
    cases parameter direct with
    | error e => exact .error e
    | ok value =>
      exact .ok ⟨trivial, _, hw.request (.of key component value) (congrArg _ w.places_out)⟩

theorem coupled_inlineIcon (style : IconStyle) (f : StringRequest → Text) (inParameter : Bool)
    (body : Text) :
    (inlining f inParameter).Coupled (untraced (iconSection style body))
      (liftM (iconMarkup style body)) := by
  intro trace scripts _
  unfold untraced iconSection
  cases iconMarkup style body with
  | error e => exact .error e
  | ok markup => exact .ok ⟨trivial, _, .text f inParameter trace scripts markup⟩

theorem coupled_inlineScript {f : StringRequest → Text} {inParameter : Bool}
    {inner : Text → Pass Trace Text} {inner' : Text → Pass (List Text) Text} {body : Text}
    (h : (inlining f inParameter).Coupled (inner body) (inner' body)) :
    (inlining f inParameter).Coupled (tracedScript inner body) (inlineScript inner' body) := by
  intro trace scripts _
  rw [tracedScript, inlineScript]
  refine (h trace scripts trivial).bind ?_
  rintro ⟨script, between⟩ ⟨direct, scripts₁⟩ ⟨-, w, hw⟩
  exact .ok ⟨trivial, _, hw.script⟩

theorem expands_inlineRules (style : IconStyle) (f : StringRequest → Text) {inParameter : Bool}
    {source : Text} (happart : StringsApart inParameter source)
    {inner : Text → Scope → Pass Trace Text} {inner' : Text → Scope → Pass (List Text) Text}
    (h : ∀ inParameter text scope, StringsApart inParameter text →
      (inlining f inParameter).Coupled (inner text scope) (inner' text scope))
    {name body : Text} (hsection : (name, body) ∈ sectionsOf source) :
    (inlining f inParameter).Expands (tracedRules style inner) (inlineRules style f inner')
      name body := by
  obtain ⟨outside, parameters, scripts⟩ := happart
  intro scope
  rw [tracedRules, inlineRules]
  dsimp only
  split
  · rename_i hname
    subst hname
    -- A `str` section stands in no parameter, so a string may be written here.
    obtain rfl : inParameter = false := by
      cases inParameter with
      | false => rfl
      | true => exact absurd hsection (outside rfl body)
    exact .some (coupled_inlineString (h true _ scope (parameters body hsection)))
  split
  · exact .some (coupled_inlineIcon style f inParameter body)
  split
  · rename_i hname
    subst hname
    exact .some (coupled_inlineScript (h inParameter body scope (scripts body hsection)))
  · exact .none

/-- Beside each other, the traced expansion and the one on the spot write the same but for guards
and placeholders. -/
theorem agree_inline (style : IconStyle) (f : StringRequest → Text) {source : Text}
    (h : StringsApart false source) (scope : Scope) :
    Agree (fun traced direct ↦ ∃ w : Emission {} traced.1 traced.2,
      w.Inline f false [] direct.1 direct.2) (trace style source scope)
      ((expandBy (inlineRules style f) source scope).run []) := by
  have hexpand : (inlining f false).Coupled (expandBy (tracedRules style) source scope)
      (expandBy (inlineRules style f) source scope) :=
    coupled_expandBy (P := StringsApart) (fun i _ _ ↦ coupled_plain f i)
      (fun i source template _ _ happart htemplate hinner s hs ↦
        expands_inlineRules style f happart (fun j text scope ↦ hinner j text scope)
          (sectionsOf_eq htemplate ▸ hs))
      false h scope
  exact (hexpand {} [] trivial).mono fun _ _ hab ↦ hab.2

theorem page_inline (style : IconStyle) (f : StringRequest → Text) {source : Text}
    (h : StringsApart false source) (scope : Scope) :
    (ofSource style source scope).map
        (fun expansion ↦ Renderer.page expansion (expansion.collected.strings.map f))
      = inlinePage style f source scope := by
  have htrace := agree_trace style source scope
  have hinline := agree_inline style f h scope
  rw [inlinePage]
  -- The traced expansion stands between the other two and is related to both.
  generalize (expandBy (inlineRules style f) source scope).run [] = direct at hinline ⊢
  generalize trace style source scope = traced at htrace hinline
  generalize ofSource style source scope = expansion at htrace ⊢
  cases htrace with
  | error e => cases hinline; rfl
  | ok hexpansion =>
    obtain ⟨rfl, -⟩ := hexpansion
    cases hinline with
    | ok hdirect =>
      obtain ⟨w, hw⟩ := hdirect
      have hpage := w.page_eq (length_texts f _)
      rw [filled_joined, ← hw.direct_eq] at hpage
      refine congrArg Except.ok (hpage.trans ?_)
      rw [hw.scripts_eq, List.nil_append]

end Expansion

/-! ## Pages -/

namespace Renderer

variable {τ : Type}

/-- A renderer that has a text for each string, whatever else is requested with it. -/
def ofTexts (config : SiteConfig) (settings : RenderSettings) (f : StringRequest → Text) :
    Renderer τ where
  config
  settings
  resolve requests := return .ok (requests.map f)

/-- Renders a source that is not in the cache and writes every string on the spot. -/
def renderInline (r : Renderer τ) (f : StringRequest → Text) (source : Text) (context : Json) :
    Job (RenderMemory τ) (Except RenderError Rendered) :=
  (onTemplates (TemplateCache.resolve r.settings.iconTemplate)).andThen fun icon ↦
    match parsed icon, parsed source with
    | .error e, _ | .ok _, .error e => return .error (.template e)
    | .ok icon, .ok _ => do
      let number ← takeNumber
      let scope := [injected r.config number, context]
      return (Expansion.inlinePage (r.iconStyle icon) f source scope).mapError .template

theorem strings_ofTexts (config : SiteConfig) (settings : RenderSettings) (f : StringRequest → Text)
    (requests : List StringRequest) :
    (ofTexts config settings f : Renderer τ).strings requests = .pure (.ok (requests.map f)) := by
  rw [strings]
  split
  · rename_i hnil
    rw [hnil]
    rfl
  · have hlength : (requests.map f).length = requests.length := List.length_map _
    exact if_pos hlength

/-- **Rendering puts every string where it was requested.** -/
theorem renderSource_eq_renderInline (config : SiteConfig) (settings : RenderSettings)
    (f : StringRequest → Text) {source : Text} (h : Expansion.StringsApart false source)
    (context : Json) :
    (ofTexts config settings f : Renderer τ).renderSource source context
      = (ofTexts config settings f).renderInline f source context := by
  refine congrArg (Job.andThen _) (funext fun icon ↦ ?_)
  rw [renderWithIcon]
  cases parsed icon with
  | error e => rfl
  | ok icon =>
    cases parsed source with
    | error e => rfl
    | ok template =>
      refine congrArg (Job.bind takeNumber) (funext fun number ↦ ?_)
      dsimp only
      rw [← Expansion.page_inline _ f h]
      cases Expansion.ofSource _ source _ with
      | error e => rfl
      | ok expansion =>
        dsimp only
        rw [strings_ofTexts]
        rfl

def farewell : Text :=
  opener ++ "#str".toList ++ closer ++ "bye".toList ++ opener ++ "/str".toList ++ closer

/-- A string with a parameter, and the script. -/
def greeting : Text :=
  opener ++ "#str".toList ++ closer ++ "hello, core, ".toList ++ opener ++ "name".toList ++ closer
    ++ opener ++ "/str".toList ++ closer ++ opener ++ "#js".toList ++ closer ++ farewell
    ++ opener ++ "/js".toList ++ closer

theorem sectionsOf_farewell : sectionsOf farewell = [("str".toList, "bye".toList)] := by
  decide +kernel

theorem sectionsOf_greeting :
    sectionsOf greeting =
      [("str".toList, "hello, core, ".toList ++ opener ++ "name".toList ++ closer),
        ("js".toList, farewell), ("str".toList, "bye".toList)] := by
  decide +kernel

theorem stringsApart_farewell : Expansion.StringsApart false farewell := by
  refine .intro nofun (fun body hbody ↦ .of_sectionsOf_eq_nil ?_) fun body hbody ↦ ?_
  all_goals
    rw [sectionsOf_farewell, List.mem_singleton, Prod.mk.injEq] at hbody
    obtain ⟨hname, rfl⟩ := hbody
  · decide +kernel
  · exact absurd hname (by decide)

theorem stringsApart_greeting : Expansion.StringsApart false greeting := by
  refine .intro nofun (fun body hbody ↦ .of_sectionsOf_eq_nil ?_) fun body hbody ↦ ?_
  all_goals
    rw [sectionsOf_greeting] at hbody
    simp only [List.mem_cons, Prod.mk.injEq, List.not_mem_nil, or_false] at hbody
    obtain ⟨hname, rfl⟩ | ⟨hname, rfl⟩ | ⟨hname, rfl⟩ := hbody
  · decide +kernel
  · exact absurd hname (by decide)
  · decide +kernel
  · exact absurd hname (by decide)
  · exact stringsApart_farewell
  · exact absurd hname (by decide)

/-- A context whose text is a placeholder. -/
theorem renderSource_eq_renderInline_of_greeting :
    let r : Renderer Unit := ofTexts default {} StringRequest.key
    r.renderSource greeting (.ofFields [("name".toList, .string (placeholder 0))])
      = r.renderInline StringRequest.key greeting
          (.ofFields [("name".toList, .string (placeholder 0))]) :=
  renderSource_eq_renderInline default {} StringRequest.key stringsApart_greeting _

end Renderer

end SiteClient
