import Mathlib.Data.List.Nodup
import SiteClient.Proofs.Render.Parts
import SiteClient.Proofs.Template.Coupling
import SiteClient.Render.Renderer

/-!
# Where placeholders end up

An expansion writes the placeholder of each string that it requests to whoever asked for the
expansion: the page, a script, or the parameter of another string. In the last case the placeholder
becomes a part of the request, and is not in the page. `tracedRules` expand as `rules` do and note
which strings ended up so; `Emission` says where all others are.

The note is kept beside the expansion and not read by it (`agree_trace`), so whatever is shown of
it holds of the expansion itself.
-/

namespace SiteClient.Expansion

open Placeholder Template Template.Coupling

/-! ## Expanding by two sets of rules -/

/-- Rules that treat the sections of every source alike, if they do so for all shorter texts, expand
it alike, in scopes that its names do not tell apart. How two expansions are related may depend on
where the source stands (`i`). -/
theorem coupled_expandBy_of_alike {ι σ τ : Type} {C : ι → Coupling σ τ} {P : ι → Text → Prop}
    {L : Likeness} {left : (Text → Scope → Pass σ Text) → SectionRules σ}
    {right : (Text → Scope → Pass τ Text) → SectionRules τ}
    (hfilter : ∀ i inner inner' t,
      (C i).Coupled (return (left inner).filter t) (return (right inner').filter t))
    (hblind : ∀ i source template, P i source → parsed source = .ok template →
      ∀ name ∈ names template, L.Blind name)
    (hexpand : ∀ i source template inner inner', P i source → parsed source = .ok template →
      (∀ j text scope scope', P j text → L.Alike scope scope' →
        (C j).Coupled (inner text scope) (inner' text scope')) →
      ∀ s ∈ sections template, (C i).ExpandsIn L (left inner) (right inner') s.1 s.2)
    (i : ι) {source : Text} (h : P i source) {scope scope' : Scope}
    (hscope : L.Alike scope scope') :
    (C i).Coupled (expandBy left source scope) (expandBy right source scope') := by
  induction hn : source.length using Nat.strongRecOn generalizing i source scope scope' with
  | ind n ih =>
    subst hn
    rw [expandBy, expandBy]
    refine coupled_liftM _ fun template htemplate ↦ ?_
    refine coupled_renderAll (hfilter i _ _) hscope template
      (hblind i source template h htemplate) ?_
    refine hexpand i source template _ _ h htemplate fun j text scope scope' htext hscope ↦ ?_
    -- A text that is not shorter is not expanded on either side.
    split
    · rename_i hlt
      exact ih text.length hlt j htext hscope rfl
    · exact coupled_nil

theorem coupled_expandBy {ι σ τ : Type} {C : ι → Coupling σ τ} {P : ι → Text → Prop}
    {left : (Text → Scope → Pass σ Text) → SectionRules σ}
    {right : (Text → Scope → Pass τ Text) → SectionRules τ}
    (hfilter : ∀ i inner inner' t,
      (C i).Coupled (return (left inner).filter t) (return (right inner').filter t))
    (hexpand : ∀ i source template inner inner', P i source → parsed source = .ok template →
      (∀ j text scope, P j text → (C j).Coupled (inner text scope) (inner' text scope)) →
      ∀ s ∈ sections template, (C i).Expands (left inner) (right inner') s.1 s.2)
    (i : ι) {source : Text} (h : P i source) (scope : Scope) :
    (C i).Coupled (expandBy left source scope) (expandBy right source scope) := by
  refine coupled_expandBy_of_alike (L := .same) hfilter
    (fun _ _ _ _ _ name _ ↦ Likeness.blind_same name) ?_ i h rfl
  intro i source template inner inner' hsource htemplate hinner s hs
  refine Expands.expandsIn (hexpand i source template inner inner' hsource htemplate ?_ s hs)
  exact fun j text scope htext ↦ hinner j text scope scope htext rfl

/-! ## Traced rules -/

/-- What an expansion has collected, and the strings whose placeholders went into requests. -/
structure Trace where
  collected : Collected := {}
  absorbed : List ℕ := []

/-- A pass that leaves the note alone. -/
def untraced {α : Type} (pass : Pass Collected α) : Pass Trace α := fun trace ↦ do
  let (a, collected) ← pass.run trace.collected
  return (a, { trace with collected })

/-- Notes that the placeholders in a text went into a request. -/
def absorb (expanded : Text) : Pass Trace Unit :=
  modify fun trace ↦ { trace with
    absorbed := trace.absorbed ++ places trace.collected.strings.length expanded }

def tracedString (expand : Text → Pass Trace Text) (body : Text) : Pass Trace Text := do
  let (key, component, param) := arguments body
  if param = [] then untraced (requestString (.of key component))
  else
    let expanded ← expand param
    let param ← liftM (parameter (substitute expanded []))
    absorb expanded
    untraced (requestString (.of key component param))

def tracedScript (expand : Text → Pass Trace Text) (body : Text) : Pass Trace Text := do
  let script ← expand body
  untraced (scriptSection (fun _ ↦ return script) body)

/-- The rules of the three sections, with the note. -/
def tracedRules (style : IconStyle) (expand : Text → Scope → Pass Trace Text) :
    SectionRules Trace where
  expand name body scope :=
    if name = "str".toList then some (tracedString (expand · scope) body)
    else if name = "pix".toList then some (untraced (iconSection style body))
    else if name = "js".toList then some (tracedScript (expand · scope) body)
    else none
  filter := guarded

/-! ## What is written -/

/-- What an expansion writes and collects between two states, and where the placeholders of the
strings it requests are: each of them is once in the text, in a script, or in a request. -/
structure Emission (before : Trace) (out : Text) (after : Trace) where
  parts : List Part
  scripts : List (List Part)
  requests : List StringRequest
  absorbed : List ℕ
  written_parts : written parts = out
  scripts_eq : after.collected.scripts = before.collected.scripts ++ scripts.map written
  strings_eq : after.collected.strings = before.collected.strings ++ requests
  absorbed_eq : after.absorbed = before.absorbed ++ absorbed
  perm : (indices parts ++ scripts.flatMap indices ++ absorbed).Perm
    (List.range' before.collected.strings.length requests.length)

namespace Emission

variable {before between after : Trace} {out out' : Text}

theorem length_strings (w : Emission before out after) :
    after.collected.strings.length = before.collected.strings.length + w.requests.length := by
  rw [w.strings_eq, List.length_append]

theorem lt_of_mem (w : Emission before out after) {i : ℕ}
    (hi : i ∈ indices w.parts ++ w.scripts.flatMap indices ++ w.absorbed) :
    i < after.collected.strings.length := by
  rw [w.length_strings]
  exact (List.mem_range'_1.mp (w.perm.mem_iff.mp hi)).2

theorem lt_of_mem_indices (w : Emission before out after) {i : ℕ} (hi : i ∈ indices w.parts) :
    i < after.collected.strings.length :=
  w.lt_of_mem (List.mem_append_left _ (List.mem_append_left _ hi))

/-- A scan of what is written finds the placeholders of its parts. -/
theorem places_out (w : Emission before out after) :
    places after.collected.strings.length out = indices w.parts := by
  have hplaces := places_written fun i hi ↦ w.lt_of_mem_indices hi
  rwa [w.written_parts] at hplaces

@[simps parts scripts absorbed]
def nil (trace : Trace) : Emission trace [] trace where
  parts := []
  scripts := []
  requests := []
  absorbed := []
  written_parts := rfl
  scripts_eq := (List.append_nil _).symm
  strings_eq := (List.append_nil _).symm
  absorbed_eq := (List.append_nil _).symm
  perm := .refl _

@[simps parts scripts absorbed]
def text (trace : Trace) (t : Text) : Emission trace (guarded t) trace where
  parts := [.text t]
  scripts := []
  requests := []
  absorbed := []
  written_parts := List.append_nil _
  scripts_eq := (List.append_nil _).symm
  strings_eq := (List.append_nil _).symm
  absorbed_eq := (List.append_nil _).symm
  perm := .refl _

@[simps parts scripts absorbed]
def append (w : Emission before out between) (w' : Emission between out' after) :
    Emission before (out ++ out') after where
  parts := w.parts ++ w'.parts
  scripts := w.scripts ++ w'.scripts
  requests := w.requests ++ w'.requests
  absorbed := w.absorbed ++ w'.absorbed
  written_parts := by rw [written_append, w.written_parts, w'.written_parts]
  scripts_eq := by rw [w'.scripts_eq, w.scripts_eq, List.map_append, List.append_assoc]
  strings_eq := by rw [w'.strings_eq, w.strings_eq, List.append_assoc]
  absorbed_eq := by rw [w'.absorbed_eq, w.absorbed_eq, List.append_assoc]
  perm := by
    -- The strings of the second range follow those of the first.
    have hrange := w.perm.append w'.perm
    rw [w.length_strings, List.range'_append_1] at hrange
    rw [List.length_append]
    refine List.Perm.trans (List.perm_iff_count.mpr fun n ↦ ?_) hrange
    simp only [indices_append, List.flatMap_append, List.count_append]
    omega

/-- A request, whose parameter was expanded first. -/
@[simps parts scripts absorbed]
def request (w : Emission before out between) (r : StringRequest)
    {absorbed : List ℕ} (habsorbed : absorbed = between.absorbed ++ indices w.parts) :
    Emission before (placeholder between.collected.strings.length)
      { collected := { between.collected with strings := between.collected.strings ++ [r] }
        absorbed } where
  parts := [.string between.collected.strings.length]
  scripts := w.scripts
  requests := w.requests ++ [r]
  absorbed := w.absorbed ++ indices w.parts
  written_parts := List.append_nil _
  scripts_eq := w.scripts_eq
  strings_eq := by rw [w.strings_eq, List.append_assoc]
  absorbed_eq := by rw [habsorbed, w.absorbed_eq, List.append_assoc]
  perm := by
    -- What was in the parameter goes into the request; the request itself has the last place.
    have hrange := w.perm.append_right [between.collected.strings.length]
    rw [w.length_strings, ← List.range'_1_concat] at hrange
    rw [List.length_append, w.length_strings]
    refine List.Perm.trans (List.perm_iff_count.mpr fun n ↦ ?_) hrange
    simp only [indices_string, List.count_append]
    omega

@[simps parts scripts absorbed]
def script (w : Emission before out between) :
    Emission before []
      { collected := { between.collected with scripts := between.collected.scripts ++ [out] }
        absorbed := between.absorbed } where
  parts := []
  scripts := w.scripts ++ [w.parts]
  requests := w.requests
  absorbed := w.absorbed
  written_parts := rfl
  scripts_eq := by
    rw [List.map_append, List.map_singleton, w.written_parts, w.scripts_eq, List.append_assoc]
  strings_eq := w.strings_eq
  absorbed_eq := w.absorbed_eq
  perm := by
    refine List.Perm.trans (List.perm_iff_count.mpr fun n ↦ ?_) w.perm
    simp only [indices_nil, List.flatMap_append, List.flatMap_singleton, List.count_append,
      List.count_nil]
    omega

end Emission

/-! ## The note changes nothing -/

/-- The traced expansion writes what the expansion writes, and accounts for it. -/
def tracing : Coupling Trace Collected where
  Same trace collected := trace.collected = collected
  Writes before _ out out' after _ := out = out' ∧ Nonempty (Emission before out after)
  nil before _ := ⟨rfl, ⟨.nil before⟩⟩
  append := by
    rintro _ _ _ _ _ _ a a' b b' ⟨rfl, ⟨w⟩⟩ ⟨rfl, ⟨w'⟩⟩
    exact ⟨rfl, ⟨w.append w'⟩⟩

theorem coupled_filter (t : Text) : tracing.Coupled (return guarded t) (return guarded t) := by
  rintro trace collected rfl
  exact .ok ⟨rfl, rfl, ⟨.text trace t⟩⟩

theorem coupled_tracedString {inner : Text → Pass Trace Text} {inner' : Text → Pass Collected Text}
    (h : ∀ text, tracing.Coupled (inner text) (inner' text)) (body : Text) :
    tracing.Coupled (tracedString inner body) (stringSection inner' body) := by
  rcases harguments : arguments body with ⟨key, component, param⟩
  rintro trace collected rfl
  simp only [tracedString, stringSection, harguments]
  by_cases hparam : param = []
  · rw [if_pos hparam, if_pos hparam]
    have w := (Emission.nil trace).request (.of key component) (List.append_nil _).symm
    exact .ok ⟨rfl, rfl, ⟨w⟩⟩
  · rw [if_neg hparam, if_neg hparam]
    refine (h param trace _ rfl).bind ?_
    rintro ⟨expanded, between⟩ ⟨_, _⟩ ⟨rfl, rfl, ⟨w⟩⟩
    dsimp only
    cases parameter (substitute expanded []) with
    | error e => exact .error e
    | ok value =>
      exact .ok ⟨rfl, rfl, ⟨w.request (.of key component value) (congrArg _ w.places_out)⟩⟩

theorem coupled_tracedIcon (style : IconStyle) (body : Text) :
    tracing.Coupled (untraced (iconSection style body)) (iconSection style body) := by
  rintro trace _ rfl
  unfold untraced iconSection
  cases iconMarkup style body with
  | error e => exact .error e
  | ok markup => exact .ok ⟨rfl, rfl, ⟨.text trace markup⟩⟩

theorem coupled_tracedScript {inner : Text → Pass Trace Text} {inner' : Text → Pass Collected Text}
    {body : Text} (h : tracing.Coupled (inner body) (inner' body)) :
    tracing.Coupled (tracedScript inner body) (scriptSection inner' body) := by
  rintro trace _ rfl
  rw [tracedScript, scriptSection]
  refine (h trace _ rfl).bind ?_
  rintro ⟨script, between⟩ ⟨_, _⟩ ⟨rfl, rfl, ⟨w⟩⟩
  exact .ok ⟨rfl, rfl, ⟨w.script⟩⟩

theorem expands_tracedRules (style : IconStyle) {inner : Text → Scope → Pass Trace Text}
    {inner' : Text → Scope → Pass Collected Text}
    (h : ∀ text scope, tracing.Coupled (inner text scope) (inner' text scope)) (name body : Text) :
    tracing.Expands (tracedRules style inner) (rules style inner') name body := by
  intro scope
  rw [tracedRules, rules]
  dsimp only
  split
  · exact .some (coupled_tracedString (h · scope) body)
  split
  · exact .some (coupled_tracedIcon style body)
  split
  · exact .some (coupled_tracedScript (h body scope))
  · exact .none

/-- The traced expansion of a source. -/
def trace (style : IconStyle) (source : Text) (scope : Scope) :
    Except TemplateError (Text × Trace) :=
  (expandBy (tracedRules style) source scope).run {}

/-- **The note changes nothing.** The traced expansion fails as the expansion does, or writes and
collects the same, and accounts for every placeholder. -/
theorem agree_trace (style : IconStyle) (source : Text) (scope : Scope) :
    Agree (fun traced expansion ↦ expansion = ⟨traced.1, traced.2.collected⟩ ∧
      Nonempty (Emission {} traced.1 traced.2)) (trace style source scope)
      (ofSource style source scope) := by
  have hexpand : tracing.Coupled (expandBy (tracedRules style) source scope)
      (expandSource style source scope) :=
    coupled_expandBy (C := fun _ : Unit ↦ tracing) (P := fun _ _ ↦ True)
      (fun _ _ _ ↦ coupled_filter)
      (fun _ _ _ _ _ _ _ hinner s _ ↦
        expands_tracedRules style (fun text scope ↦ hinner () text scope trivial) s.1 s.2)
      () trivial scope
  have h := hexpand {} {} rfl
  rw [trace, ofSource, ← bind_pure ((expandBy (tracedRules style) source scope).run {})]
  refine h.bind ?_
  rintro ⟨markup, trace⟩ ⟨_, _⟩ ⟨rfl, rfl, w⟩
  exact .ok ⟨rfl, w⟩

theorem exists_trace_of_ofSource {style : IconStyle} {source : Text} {scope : Scope}
    {expansion : Expansion} (h : ofSource style source scope = .ok expansion) :
    ∃ out after, trace style source scope = .ok (out, after) ∧ expansion = ⟨out, after.collected⟩ ∧
      Nonempty (Emission {} out after) := by
  have hagree := agree_trace style source scope
  rw [h] at hagree
  generalize trace style source scope = traced at hagree ⊢
  cases hagree with
  | ok hexpansion => exact ⟨_, _, rfl, hexpansion⟩

/-! ## The page -/

section

variable {after : Trace} {out : Text} {strings : List Text}

theorem Emission.nodup (w : Emission {} out after) :
    (indices w.parts ++ w.scripts.flatMap indices ++ w.absorbed).Nodup :=
  w.perm.nodup_iff.mpr List.nodup_range'

theorem Emission.nodup_parts (w : Emission {} out after) : (indices w.parts).Nodup :=
  w.nodup.of_append_left.of_append_left

theorem Emission.written_scripts (w : Emission {} out after) :
    [';', '\n'].intercalate after.collected.scripts = written (joined [';', '\n'] w.scripts) := by
  rw [written_joined rfl, w.scripts_eq]
  rfl

theorem Emission.nodup_scripts (w : Emission {} out after) :
    (indices (joined [';', '\n'] w.scripts)).Nodup := by
  rw [indices_joined]
  exact w.nodup.of_append_left.of_append_right

theorem Emission.lt_of_mem_scripts (w : Emission {} out after) {i : ℕ}
    (hi : i ∈ indices (joined [';', '\n'] w.scripts)) : i < after.collected.strings.length := by
  rw [indices_joined] at hi
  exact w.lt_of_mem (List.mem_append_left _ (List.mem_append_right _ hi))

theorem Emission.page_eq (w : Emission {} out after)
    (h : strings.length = after.collected.strings.length) :
    Renderer.page ⟨out, after.collected⟩ strings =
      { markup := Text.trim (filled strings w.parts)
        script := filled strings (joined [';', '\n'] w.scripts) } := by
  -- Markup and scripts are substituted apart, and no string has a place in both.
  have hmarkup : substitute out strings = filled strings w.parts := by
    have hfilled := substitute_written (fun i hi ↦ h ▸ w.lt_of_mem_indices hi) w.nodup_parts
    rwa [w.written_parts] at hfilled
  have hscript := substitute_written (fun i hi ↦ h ▸ w.lt_of_mem_scripts hi) w.nodup_scripts
  rw [Renderer.page, hmarkup, w.written_scripts, hscript]

end

end SiteClient.Expansion
