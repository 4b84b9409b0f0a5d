import Mathlib.Data.List.Nodup
import SiteClient.Proofs.Render.Inline

/-!
# Where requested strings are put

The placeholder of a string is in the page once, or, when it was requested inside the parameter of
another string, it went into that request and is in the page nowhere: its text is looked up and not
shown. Which strings these are is what a traced expansion notes (`Expansion.absorbed`), and there
are none if strings are apart.
-/

namespace SiteClient.Expansion

open Placeholder Template

/-- The strings whose placeholders went into the requests of other strings. -/
def absorbed (style : IconStyle) (source : Text) (scope : Scope) : List ℕ :=
  match trace style source scope with
  | .ok (_, trace) => trace.absorbed
  | .error _ => []

/-- The places of strings in the markup and in the scripts of an expansion. -/
def placesOf (expansion : Expansion) : List ℕ :=
  let count := expansion.collected.strings.length
  places count expansion.markup
    ++ places count ([';', '\n'].intercalate expansion.collected.scripts)

section

variable {after : Trace} {out : Text}

theorem Emission.places_scripts (w : Emission {} out after) :
    places after.collected.strings.length ([';', '\n'].intercalate after.collected.scripts)
      = w.scripts.flatMap indices := by
  rw [w.written_scripts, places_written fun _ ↦ w.lt_of_mem_scripts, indices_joined]

theorem Emission.placesOf_eq (w : Emission {} out after) :
    placesOf ⟨out, after.collected⟩ = indices w.parts ++ w.scripts.flatMap indices := by
  rw [placesOf, w.places_out, w.places_scripts]

/-- Each string that was requested is in the page or in a request, and not in both. -/
theorem Emission.count_placesOf (w : Emission {} out after) {n : ℕ}
    (h : n < after.collected.strings.length) :
    (placesOf ⟨out, after.collected⟩).count n = if n ∈ after.absorbed then 0 else 1 := by
  have hone : (List.range' 0 w.requests.length).count n = 1 := by
    rw [w.length_strings] at h
    exact List.count_eq_one_of_mem List.nodup_range' (List.mem_range'_1.mpr ⟨n.zero_le, h⟩)
  have hcount : (placesOf ⟨out, after.collected⟩).count n + w.absorbed.count n = 1 := by
    rw [w.placesOf_eq, ← List.count_append, w.perm.count_eq]
    exact hone
  have habsorbed : after.absorbed = w.absorbed := w.absorbed_eq
  rw [habsorbed]
  -- One occurrence in all: it is in the request or else in the page.
  split
  · have hpos := List.count_pos_iff.mpr ‹n ∈ w.absorbed›
    omega
  · have hzero := List.count_eq_zero.mpr ‹n ∉ w.absorbed›
    omega

end

theorem absorbed_eq_nil (style : IconStyle) {source : Text} (h : StringsApart false source)
    (scope : Scope) : absorbed style source scope = [] := by
  have hinline := agree_inline style (fun _ ↦ []) h scope
  rw [absorbed]
  generalize trace style source scope = traced at hinline ⊢
  generalize (expandBy (inlineRules style fun _ ↦ []) source scope).run [] = direct at hinline
  cases hinline with
  | error e => rfl
  | ok hdirect =>
    obtain ⟨w, hw⟩ := hdirect
    exact w.absorbed_eq.trans hw.absorbed_eq

theorem absorbed_of_trace {style : IconStyle} {source : Text} {scope : Scope} {out : Text}
    {after : Trace} (h : trace style source scope = .ok (out, after)) :
    absorbed style source scope = after.absorbed := by
  rw [absorbed, h]

/-- **Every string has one place in the page, unless it is a part of another string.** The
placeholder of a requested string is once in the markup or in the scripts if it did not go into a
request, and then its text stands there; else it is not there. Nothing goes into a request if
strings are apart. -/
theorem count_placesOf_of_ofSource (style : IconStyle) (source : Text) (scope : Scope)
    {expansion : Expansion} (h : ofSource style source scope = .ok expansion) :
    (∀ n < expansion.collected.strings.length,
      (placesOf expansion).count n = if n ∈ absorbed style source scope then 0 else 1) ∧
    ((∀ n < expansion.collected.strings.length, (placesOf expansion).count n = 1) ↔
      absorbed style source scope = []) ∧
    (∃ markup script : List Part, indices markup ++ indices script = placesOf expansion ∧
      ∀ strings, strings.length = expansion.collected.strings.length →
        Renderer.page expansion strings =
          { markup := Text.trim (filled strings markup), script := filled strings script }) ∧
    (StringsApart false source → absorbed style source scope = []) := by
  obtain ⟨out, after, htrace, rfl, ⟨w⟩⟩ := exists_trace_of_ofSource h
  rw [absorbed_of_trace htrace]
  refine ⟨fun n hn ↦ w.count_placesOf hn, ⟨fun hall ↦ ?_, fun hnone n hn ↦ ?_⟩, ?_,
    fun happart ↦ ?_⟩
  · refine List.eq_nil_iff_forall_not_mem.mpr fun n hn ↦ ?_
    have hlt : n < after.collected.strings.length := by
      rw [w.absorbed_eq] at hn
      exact w.lt_of_mem (List.mem_append_right _ hn)
    have hcount := w.count_placesOf hlt
    rw [if_pos hn, hall n hlt] at hcount
    exact absurd hcount Nat.one_ne_zero
  · rw [w.count_placesOf hn, hnone]
    exact if_neg List.not_mem_nil
  · refine ⟨w.parts, joined [';', '\n'] w.scripts, ?_, fun strings ↦ w.page_eq⟩
    rw [indices_joined, w.placesOf_eq]
  · rw [← absorbed_of_trace htrace]
    exact absorbed_eq_nil style happart scope

/-! ## A string inside the parameter of another -/

def nested : Text :=
  opener ++ "#str".toList ++ closer ++ "a, core, ".toList ++ opener ++ "#str".toList ++ closer
    ++ "b, core".toList ++ opener ++ "/str".toList ++ closer ++ opener ++ "/str".toList ++ closer

/-- Icons that show nothing. -/
def noIcons : IconStyle where
  template := []
  images := .ofConfig default
  cssClass := []

/-- The string inside is requested and has no place: its placeholder is the text of the parameter.
-/
theorem count_placesOf_nested :
    ∃ expansion, ofSource noIcons nested [] = .ok expansion ∧
      expansion.collected.strings =
        [.of "b".toList "core".toList,
          .of "a".toList "core".toList (some (.string (placeholder 0)))] ∧
      (placesOf expansion).count 0 = 0 ∧ (placesOf expansion).count 1 = 1 := by
  have hexpansion : ofSource noIcons nested [] =
      .ok ⟨placeholder 1, { strings := [.of "b".toList "core".toList,
        .of "a".toList "core".toList (some (.string (placeholder 0)))] }⟩ := by
    decide +kernel
  have habsorbed : absorbed noIcons nested [] = [0] := by decide +kernel
  obtain ⟨hcount, -⟩ := count_placesOf_of_ofSource noIcons nested [] hexpansion
  rw [habsorbed] at hcount
  exact ⟨_, hexpansion, rfl, hcount 0 (by decide), hcount 1 (by decide)⟩

end SiteClient.Expansion
