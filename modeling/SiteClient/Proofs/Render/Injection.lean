import SiteClient.Proofs.Render.Trace
import SiteClient.Proofs.Template.Extracts

/-!
# Values injected above a context

A renderer enters an object of its own above the context of a page. A source that holds neither of
its keys names neither of its fields, in whatever it expands in turn, for all of that is a part of
the source. So the object shows nothing, and hides nothing of the context below it
(`ofSource_injected`): the expansion is the same without it.
-/

namespace SiteClient.Expansion

open Template Template.Coupling

/-! ## Parts of a body -/

theorem infix_arguments (body : Text) : (arguments body).2.2 <:+: body := by
  rw [arguments]
  split
  · exact List.nil_infix
  · rename_i key rest hrest
    split
    · exact List.nil_infix
    · rename_i component more hmore
      have hbody : body = (key ++ [','] ++ component ++ [',']) ++ more := by
        rw [Text.eq_of_breakOn hrest, Text.eq_of_breakOn hmore]
        simp only [List.append_assoc]
      exact (Text.trim_infix more).trans (hbody ▸ (List.suffix_append _ _).isInfix)

variable {expand expand' : Text → Pass Collected Text} {body : Text}

theorem stringSection_congr (h : expand (arguments body).2.2 = expand' (arguments body).2.2) :
    stringSection expand body = stringSection expand' body := by
  rcases harguments : arguments body with ⟨key, component, param⟩
  rw [harguments] at h
  simp only [stringSection, harguments, h]

theorem scriptSection_congr (h : expand body = expand' body) :
    scriptSection expand body = scriptSection expand' body := by
  rw [scriptSection, scriptSection, h]

/-! ## Scopes that show the same -/

theorem expandsIn_rules (style : IconStyle) {L : Likeness}
    {inner inner' : Text → Scope → Pass Collected Text} {body : Text}
    (h : ∀ text scope scope', text <:+: body → L.Alike scope scope' →
      inner text scope = inner' text scope') (name : Text) :
    (equal Collected).ExpandsIn L (rules style inner) (rules style inner') name body := by
  intro scope scope' hscope
  rw [rules, rules]
  dsimp only
  split
  · have hparam := h _ scope scope' (infix_arguments body) hscope
    exact .some (coupled_equal_iff.mpr (stringSection_congr hparam))
  split
  · exact .some (coupled_equal_iff.mpr rfl)
  split
  · have hscript := h _ scope scope' List.infix_rfl hscope
    exact .some (coupled_equal_iff.mpr (scriptSection_congr hscript))
  · exact .none

/-- A source is expanded the same in scopes that show the same under all keys it can name. -/
theorem ofSource_eq_of_showsSame (style : IconStyle) {known : Text → Prop} {source : Text}
    (hknown : ∀ name, name <:+: source → known (Scope.key name)) {scope scope' : Scope}
    (h : ShowsSame known scope scope') :
    ofSource style source scope = ofSource style source scope' := by
  have hfilter (inner inner' : Text → Scope → Pass Collected Text) (t : Text) :
      (equal Collected).Coupled (return (rules style inner).filter t)
        (return (rules style inner').filter t) :=
    coupled_equal_iff.mpr rfl
  have hexpand : (equal Collected).Coupled (expandBy (rules style) source scope)
      (expandBy (rules style) source scope') := by
    refine coupled_expandBy_of_alike (C := fun _ : Unit ↦ equal Collected)
      (P := fun _ text ↦ text <:+: source) (L := .ofKeys known)
      (fun _ ↦ hfilter) ?_ ?_ () List.infix_rfl h
    · intro _ text template htext htemplate name hname
      rw [names_eq (parsed_eq_ok_iff.mp htemplate)] at hname
      exact Likeness.blind_ofKeys fun _ ↦ hknown name ((infix_of_mem_namesOf hname).trans htext)
    · intro _ text template inner inner' htext htemplate hinner s hs
      refine expandsIn_rules style (fun part scope scope' hpart hscope ↦ ?_) s.1
      have hbody := infix_of_mem_sections (parsed_eq_ok_iff.mp htemplate) hs
      exact coupled_equal_iff.mp
        (hinner () part scope scope' ((hpart.trans hbody).trans htext) hscope)
  rw [ofSource, ofSource, expandSource, expandSource, coupled_equal_iff.mp hexpand]

/-! ## The injected object -/

theorem field?_injected (config : SiteConfig) (number : UInt64) {key : Text}
    (huniqid : key ≠ "uniqid".toList) (hglobals : key ≠ "globals".toList) :
    (Renderer.injected config number).field? key = none := by
  rw [Renderer.injected, Json.ofFields, Json.field?, Fields.ofList, List.foldl_cons,
    List.foldl_cons, List.foldl_nil, Fields.get?_insert_of_ne _ _ hglobals,
    Fields.get?_insert_of_ne _ _ huniqid]
  rfl

/-- **What a source does not mention is not hidden from it.** Without the injected object the
expansion is the same, or fails the same, if the source mentions neither of its keys. -/
theorem ofSource_injected (config : SiteConfig) (number : UInt64) (style : IconStyle)
    {source : Text} (huniqid : ¬"uniqid".toList <:+: source)
    (hglobals : ¬"globals".toList <:+: source) (fields : Fields) :
    ofSource style source [Renderer.injected config number, .object fields]
      = ofSource style source [.object fields] := by
  let known (key : Text) : Prop := key ≠ "uniqid".toList ∧ key ≠ "globals".toList
  have hknown (name : Text) (hname : name <:+: source) : known (Scope.key name) := by
    have hkey : Scope.key name <:+: source := (Scope.key_prefix name).isInfix.trans hname
    exact ⟨fun h ↦ huniqid (h ▸ hkey), fun h ↦ hglobals (h ▸ hkey)⟩
  have hscope : ShowsSame known [Renderer.injected config number, .object fields]
      [.object fields] := by
    refine .outermost fun key hkey ↦ ?_
    have hnone := field?_injected config number hkey.1 hkey.2
    rw [← Json.ofFields, ← Renderer.injected, Scope.field?_cons, hnone]
    rfl
  exact ofSource_eq_of_showsSame style hknown hscope

/-- A section that enters the innermost context, a string and a script with a field of it. -/
def pointSource : Text :=
  opener ++ "#.".toList ++ closer ++ opener ++ "name".toList ++ closer ++ opener ++ "/.".toList
    ++ closer ++ opener ++ ".".toList ++ closer ++ opener ++ "#str".toList ++ closer
    ++ "hi, core, ".toList ++ opener ++ "name".toList ++ closer ++ opener ++ "/str".toList
    ++ closer ++ opener ++ "#js".toList ++ closer ++ opener ++ "^.".toList ++ closer
    ++ "none".toList ++ opener ++ "/.".toList ++ closer ++ opener ++ "name".toList ++ closer
    ++ opener ++ "/js".toList ++ closer

theorem ofSource_injected_of_pointSource :
    let style : IconStyle := ⟨[], .ofConfig default, []⟩
    let fields : Fields := [("name".toList, .string ['x'])]
    (¬"uniqid".toList <:+: pointSource ∧ ¬"globals".toList <:+: pointSource) ∧
    ofSource style pointSource [Renderer.injected default 7, .object fields]
      = ofSource style pointSource [.object fields] ∧
    ofSource style pointSource [.object fields] = .ok ⟨'x' :: Placeholder.placeholder 0, {
      strings := [.of "hi".toList "core".toList (some (.string ['x']))]
      scripts := [['x']] }⟩ := by
  intro style fields
  have huniqid : ¬"uniqid".toList <:+: pointSource := by decide +kernel
  have hglobals : ¬"globals".toList <:+: pointSource := by decide +kernel
  exact ⟨⟨huniqid, hglobals⟩, ofSource_injected default 7 style huniqid hglobals fields,
    by decide +kernel⟩

end SiteClient.Expansion
