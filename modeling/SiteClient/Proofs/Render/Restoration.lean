import SiteClient.Proofs.Render.Trace

/-!
# What substituting restores

Whatever an expansion writes is written for parts: texts with guards, and the places of strings, of
which no two are the same (`emitted_of_ofSource`). Substituting undoes the writing. It gives back
the texts and has the strings in their places, in the same order, and no part is changed by the
parts beside it (`substitute_restores`).
-/

namespace SiteClient.Expansion

open Placeholder Template

/-- The text is written for parts that have places for `count` strings, each of them once at
most. -/
def Emitted (count : ℕ) (t : Text) : Prop :=
  ∃ parts : List Part, t = written parts ∧ (∀ i ∈ indices parts, i < count) ∧ (indices parts).Nodup

/-- **What an expansion writes is written for parts.** -/
theorem emitted_of_ofSource {style : IconStyle} {source : Text} {scope : Scope}
    {expansion : Expansion} (h : ofSource style source scope = .ok expansion) :
    Emitted expansion.collected.strings.length expansion.markup ∧
      Emitted expansion.collected.strings.length
        ([';', '\n'].intercalate expansion.collected.scripts) := by
  obtain ⟨out, after, -, rfl, ⟨w⟩⟩ := exists_trace_of_ofSource h
  exact ⟨⟨w.parts, w.written_parts.symm, fun _ ↦ w.lt_of_mem_indices, w.nodup_parts⟩,
    ⟨_, w.written_scripts, fun _ ↦ w.lt_of_mem_scripts, w.nodup_scripts⟩⟩

theorem guarded_flatten (texts : List Text) : guarded texts.flatten = texts.flatMap guarded := by
  induction texts with
  | nil => rfl
  | cons t texts ih => rw [List.flatten_cons, guarded_append, ih, List.flatMap_cons]

/-- **Substituting undoes the writing.** Texts are given back as they were, and strings stand in
their places; with no strings the texts are joined. Everything an expansion writes is of this
kind. -/
theorem substitute_restores (strings : List Text) :
    (∀ parts : List Part, (∀ i ∈ indices parts, i < strings.length) → (indices parts).Nodup →
      substitute (parts.flatMap Part.written) strings = parts.flatMap (Part.filled strings)) ∧
    (∀ texts : List Text, substitute (texts.flatMap guarded) [] = texts.flatten) ∧
    (∀ style source scope expansion, ofSource style source scope = .ok expansion →
      expansion.collected.strings.length = strings.length →
        Emitted strings.length expansion.markup ∧
          Emitted strings.length ([';', '\n'].intercalate expansion.collected.scripts)) := by
  refine ⟨fun parts hlt hnodup ↦ substitute_written hlt hnodup, fun texts ↦ ?_, ?_⟩
  · rw [← guarded_flatten, substitute_guarded]
  · intro style source scope expansion h hlength
    rw [← hlength]
    exact emitted_of_ofSource h

/-- Texts that would line up with what stands beside them, and one that looks like a placeholder. -/
def crowdedParts : List Part :=
  [.text ['{', '{'], .string 1, .text ['}'], .string 0, .text (guardMark :: placeholder 1)]

/-- A brace in front of a string. -/
def braceSource : Text :=
  ['{', ' '] ++ opener ++ "#str".toList ++ closer ++ "b".toList ++ opener ++ "/str".toList ++ closer

/-- The first string looks like a placeholder, too. -/
theorem substitute_restores_of_crowdedParts :
    (∀ i ∈ indices crowdedParts, i < 2) ∧ (indices crowdedParts).Nodup ∧
      substitute (crowdedParts.flatMap Part.written) [placeholder 1, ['b']] =
        ['{', '{', 'b', '}'] ++ placeholder 1 ++ guardMark :: placeholder 1 ∧
      ∃ expansion, ofSource ⟨[], .ofConfig default, []⟩ braceSource [] = .ok expansion ∧
        expansion.collected.strings.length = 1 ∧ Emitted 1 expansion.markup := by
  have hlt : ∀ i ∈ indices crowdedParts, i < 2 := by decide
  have hnodup : (indices crowdedParts).Nodup := by decide
  have hexpansion : ofSource ⟨[], .ofConfig default, []⟩ braceSource [] =
      .ok ⟨guarded ['{', ' '] ++ placeholder 0, { strings := [.of "b".toList []] }⟩ := by
    decide +kernel
  obtain ⟨hrestored, -⟩ := substitute_restores [placeholder 1, ['b']]
  obtain ⟨-, -, hemitted⟩ := substitute_restores [['B']]
  exact ⟨hlt, hnodup, hrestored crowdedParts hlt hnodup, _, hexpansion, rfl,
    (hemitted _ _ _ _ hexpansion rfl).1⟩

end SiteClient.Expansion
