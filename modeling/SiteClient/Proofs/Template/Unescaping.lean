import SiteClient.Proofs.Template.Entities

/-!
# Reading an escaped text back

Escaping writes each character as a word of its own, an entity or the character itself. No entity
starts another, and no character that is written as itself starts an entity. So a reader who goes
from left to right knows where each word ends, whatever follows it, and gets the text back
(`unescapeHtml_escapeHtml`), also where the text itself looked like an entity.

Conversely a text without markup in which every ampersand starts an entity is an escaped text,
namely that of what the reader makes of it (`escapeHtml_unescapeHtml`).
-/

namespace SiteClient.Template

/-! ## Telling entities apart -/

/-- The entities are a prefix-free code. -/
theorem eq_of_isPrefix_entities : ∀ p ∈ entities, ∀ q ∈ entities, p.1 <+: q.1 → p = q := by
  decide

theorem eq_of_entity?_append {c d : Char} {e f r s : Text} (hc : entity? c = some e)
    (hd : entity? d = some f) (h : e ++ r = f ++ s) : c = d ∧ r = s := by
  have he := mem_entities_iff.mpr hc
  have hf := mem_entities_iff.mpr hd
  have heq : (e, c) = (f, d) := by
    obtain hpre | hpre := List.prefix_or_prefix_of_prefix (List.prefix_append e r)
      (h ▸ List.prefix_append f s)
    · exact eq_of_isPrefix_entities _ he _ hf hpre
    · exact (eq_of_isPrefix_entities _ hf _ he hpre).symm
  obtain ⟨rfl, rfl⟩ := Prod.mk.inj heq
  exact ⟨rfl, List.append_cancel_left h⟩

/-! ## The reader -/

/-- The entity that the text starts with, if any: its character, and what follows it. -/
def readEntity? (t : Text) : Option (Char × Text) :=
  entities.findSome? fun (e, c) ↦ (e.isPrefixOf? t).map (c, ·)

theorem readEntity?_eq_some_iff {t rest : Text} {c : Char} :
    readEntity? t = some (c, rest) ↔ ∃ e, entity? c = some e ∧ t = e ++ rest := by
  have sound {d : Char} {r : Text} (h : readEntity? t = some (d, r)) :
      ∃ e, entity? d = some e ∧ t = e ++ r := by
    obtain ⟨⟨e, d'⟩, hmem, h⟩ := List.exists_of_findSome?_eq_some h
    obtain ⟨r', hr, heq⟩ := Option.map_eq_some_iff.mp h
    obtain ⟨rfl, rfl⟩ := Prod.mk.inj heq
    exact ⟨e, mem_entities_iff.mp hmem, Text.eq_append_of_isPrefixOf? hr⟩
  refine ⟨sound, fun ⟨e, hc, ht⟩ ↦ ?_⟩
  have hsome : (readEntity? t).isSome := by
    rw [readEntity?, List.findSome?_isSome_iff]
    refine ⟨(e, c), mem_entities_iff.mpr hc, ?_⟩
    rw [Option.isSome_map, List.isPrefixOf?_eq_some_iff_append_eq.mpr ht.symm, Option.isSome_some]
  obtain ⟨⟨d, r⟩, hread⟩ := Option.isSome_iff_exists.mp hsome
  obtain ⟨f, hd, ht'⟩ := sound hread
  obtain ⟨rfl, rfl⟩ := eq_of_entity?_append hc hd (ht.symm.trans ht')
  exact hread

theorem length_lt_of_readEntity? {t rest : Text} {c : Char} (h : readEntity? t = some (c, rest)) :
    rest.length < t.length := by
  obtain ⟨e, hc, rfl⟩ := readEntity?_eq_some_iff.mp h
  obtain ⟨-, name, rfl, -⟩ := exists_of_entity? hc
  rw [List.length_append, List.length_cons]
  omega

/-- The text with each entity, read from left to right, replaced by its character. -/
def unescapeHtml : Text → Text
  | [] => []
  | c :: t =>
    match h : readEntity? (c :: t) with
    | some (d, rest) =>
      have := length_lt_of_readEntity? h
      d :: unescapeHtml rest
    | none => c :: unescapeHtml t
termination_by t => t.length
decreasing_by
  · exact this
  · exact Nat.lt_succ_self _

theorem unescapeHtml_of_some {t rest : Text} {c : Char} (h : readEntity? t = some (c, rest)) :
    unescapeHtml t = c :: unescapeHtml rest := by
  cases t with
  | nil => exact absurd (length_lt_of_readEntity? h) (Nat.not_lt_zero _)
  | cons d t =>
    rw [unescapeHtml]
    split
    · rename_i h'
      obtain ⟨rfl, rfl⟩ := Prod.mk.inj (Option.some.inj (h'.symm.trans h))
      rfl
    · rename_i h'
      exact absurd (h'.symm.trans h) (Option.some_ne_none _).symm

theorem unescapeHtml_of_none {c : Char} {t : Text} (h : readEntity? (c :: t) = none) :
    unescapeHtml (c :: t) = c :: unescapeHtml t := by
  rw [unescapeHtml]
  split
  · rename_i h'
    exact absurd (h'.symm.trans h) (Option.some_ne_none _)
  · rfl

theorem readEntity?_eq_none {c : Char} (h : c ≠ '&') (t : Text) : readEntity? (c :: t) = none := by
  refine Option.eq_none_iff_forall_ne_some.mpr fun ⟨d, rest⟩ hread ↦ ?_
  obtain ⟨e, hd, ht⟩ := readEntity?_eq_some_iff.mp hread
  obtain ⟨-, name, rfl, -⟩ := exists_of_entity? hd
  exact h (List.cons.inj ht).1

/-- **What is written for a character is read as it**, whatever follows. -/
theorem unescapeHtml_append (c : Char) (t : Text) :
    unescapeHtml ((entity? c).getD [c] ++ t) = c :: unescapeHtml t := by
  cases hc : entity? c with
  | some e => exact unescapeHtml_of_some (readEntity?_eq_some_iff.mpr ⟨e, hc, rfl⟩)
  | none =>
    obtain ⟨-, hne⟩ := entity?_eq_none_iff.mp hc
    exact unescapeHtml_of_none (readEntity?_eq_none hne t)

theorem unescapeHtml_escapeHtml (t : Text) : unescapeHtml (escapeHtml t) = t := by
  induction t with
  | nil => rw [escapeHtml_nil, unescapeHtml]
  | cons c t ih => rw [escapeHtml_cons, unescapeHtml_append, ih]

/-- The reader does not read again what it has read, and passes over ampersands that start no
entity. -/
example : unescapeHtml "&amp;lt; &copy;".toList = "&lt; &copy;".toList := by decide +kernel

/-! ## Which texts are escaped -/

theorem StartsEntities.of_append {s t : Text} (h : StartsEntities (s ++ t)) : StartsEntities t :=
  fun before after ht ↦ h (s ++ before) after (by rw [ht, List.append_assoc])

/-- A text without markup in which every ampersand starts an entity is that of what is read from
it. -/
theorem escapeHtml_unescapeHtml {t : Text} (hmarkup : markupOf t = [])
    (hstarts : StartsEntities t) : escapeHtml (unescapeHtml t) = t := by
  fun_induction unescapeHtml t with
  | case1 => rfl
  | case2 c t d rest hread _ ih =>
    -- An entity: what follows it has no markup either, and its ampersands start entities too.
    obtain ⟨e, hd, ht⟩ := readEntity?_eq_some_iff.mp hread
    rw [ht] at hmarkup hstarts ⊢
    rw [markupOf_append] at hmarkup
    rw [escapeHtml_cons, hd, Option.getD_some,
      ih (List.append_eq_nil_iff.mp hmarkup).2 hstarts.of_append]
  | case3 c t hread ih =>
    -- An ampersand here would have been read with its entity, so this character is written as
    -- itself.
    have hne : c ≠ '&' := by
      rintro rfl
      obtain ⟨d, e, hd, rest, hrest⟩ := hstarts [] t rfl
      rw [readEntity?_eq_some_iff.mpr ⟨e, hd, hrest.symm⟩] at hread
      cases hread
    obtain ⟨hc, ht⟩ := List.append_eq_nil_iff.mp ((markupOf_append [c] t).symm.trans hmarkup)
    have hmem : c ∉ markup := by simpa using List.filter_eq_nil_iff.mp hc c List.mem_cons_self
    rw [escapeHtml_cons, entity?_eq_none_iff.mpr ⟨hmem, hne⟩, Option.getD_none,
      List.singleton_append, ih ht (StartsEntities.of_append (s := [c]) hstarts)]

/-- **Escaping is lossless.** An escaped text is read back as the text that was escaped, so
different texts have different escaped texts. It has no markup, each ampersand in it starts an
entity, and every text of this form is an escaped one. What is escaped in parts is escaped as a
whole. -/
theorem escapeHtml_lossless :
    (∀ t, unescapeHtml (escapeHtml t) = t) ∧ Function.Injective escapeHtml ∧
      (∀ t, markupOf (escapeHtml t) = [] ∧ StartsEntities (escapeHtml t)) ∧
      (∀ t, markupOf t = [] ∧ StartsEntities t → escapeHtml (unescapeHtml t) = t) ∧
      ∀ s t, escapeHtml (s ++ t) = escapeHtml s ++ escapeHtml t :=
  ⟨unescapeHtml_escapeHtml, Function.LeftInverse.injective unescapeHtml_escapeHtml,
    fun t ↦ ⟨markupOf_escapeHtml t, startsEntities_escapeHtml t⟩,
    fun _ ⟨hmarkup, hstarts⟩ ↦ escapeHtml_unescapeHtml hmarkup hstarts, escapeHtml_append⟩

/-- A text that looks like an entity, and a slash. -/
theorem escapeHtml_lossless_of_entity :
    escapeHtml "&lt;/".toList = "&amp;lt;&#x2F;".toList ∧
      unescapeHtml "&amp;lt;&#x2F;".toList = "&lt;/".toList ∧
      (markupOf "&amp;lt;&#x2F;".toList = [] ∧ StartsEntities "&amp;lt;&#x2F;".toList) ∧
      escapeHtml (unescapeHtml "&amp;lt;&#x2F;".toList) = "&amp;lt;&#x2F;".toList := by
  have hwritten : escapeHtml "&lt;/".toList = "&amp;lt;&#x2F;".toList := by decide
  obtain ⟨hread, -, hform, hback, -⟩ := escapeHtml_lossless
  have hescaped := hform "&lt;/".toList
  rw [hwritten] at hescaped
  exact ⟨hwritten, hwritten ▸ hread "&lt;/".toList, hescaped, hback _ hescaped⟩

end SiteClient.Template
