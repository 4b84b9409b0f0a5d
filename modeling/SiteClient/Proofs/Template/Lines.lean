import SiteClient.Proofs.Template.Layout

/-!
# Tags that stand alone

Whether a tag stands alone on its line is a matter of the source in front of it and behind it, not
of how the source is cut: `IsIndent` and `IsLineEnd` say so without cutting anything. The layout
decides it from less, the text since the last tag and the segments that follow. That this is enough
rests on what is known where the text since the last tag begins (`Behind`): either a line starts
there, or a tag has just ended, and then its last character is no line break.
-/

namespace SiteClient.Template

/-! ## Margins of a tag -/

def StartsLine (t : Text) : Prop :=
  t = [] ∨ ∃ s, t = s ++ ['\n']

/-- A line stops behind the text, at its line break or because nothing is left. -/
def StopsLine (line rest : Text) : Prop :=
  (∃ t, line = t ++ ['\n'] ∧ '\n' ∉ t) ∨ rest = [] ∧ '\n' ∉ line

/-- What stands before a tag on its line is `indent`, all of it blank and no part of `earlier`. The
tag has `before` in front of it, and the last tag ends where `earlier` does. -/
structure IsIndent (earlier before indent : Text) : Prop where
  blank : Text.allBlank indent = true
  newline_not_mem : '\n' ∉ indent
  exists_lines : ∃ lines, before = lines ++ indent ∧ StartsLine lines ∧ earlier <+: lines

/-- What stands behind a tag on its line is `line`, all of it blank, with its line break if it has
one. The tag has `after` behind it. -/
structure IsLineEnd (after line : Text) : Prop where
  blank : Text.allBlank line = true
  exists_rest : ∃ rest, after = line ++ rest ∧ StopsLine line rest

theorem exists_lines (t : Text) :
    ∃ lines last, t = lines ++ last ∧ StartsLine lines ∧ '\n' ∉ last := by
  cases hlast : lastLine? t with
  | none => exact ⟨[], t, rfl, .inl rfl, lastLine?_eq_none_iff.mp hlast⟩
  | some cut =>
    obtain ⟨ht, hlines, hmem⟩ := lastLine?_eq_some_iff.mp hlast
    exact ⟨cut.1, cut.2, ht, .inr hlines, hmem⟩

theorem exists_line (t : Text) : ∃ line rest, t = line ++ rest ∧ StopsLine line rest := by
  cases hfirst : firstLine? t with
  | none => exact ⟨t, [], (List.append_nil t).symm, .inr ⟨rfl, firstLine?_eq_none_iff.mp hfirst⟩⟩
  | some cut =>
    obtain ⟨ht, hline⟩ := firstLine?_eq_some_iff.mp hfirst
    exact ⟨cut.1, cut.2, ht, .inl hline⟩

theorem openBrace_not_mem_of_allBlank {t : Text} (h : Text.allBlank t = true) : '{' ∉ t := by
  intro hmem
  have hblank := List.all_eq_true.mp h '{' hmem
  exact absurd hblank (by decide)

theorem eq_concat_of_append_eq {s t u : Text} {c : Char} (h : s ++ t = u ++ [c]) (ht : t ≠ []) :
    ∃ s', t = s' ++ [c] := by
  obtain ⟨t', d, rfl⟩ := (List.eq_nil_or_concat' t).resolve_left ht
  rw [← List.append_assoc] at h
  obtain ⟨-, hd⟩ := List.append_inj' h rfl
  exact ⟨t', by rw [hd]⟩

/-! ## The start of the line -/

/-- What is known where the text since the last tag begins: `earlier` is the source up to the end of
that tag, `read` is the source up to here, and `fresh` tells that a line starts here. -/
inductive Behind : Bool → Text → Text → Prop
  | line {earlier read : Text} (hearlier : earlier <+: read) (hline : StartsLine read) :
      Behind true earlier read
  | tag {t : Text} {c : Char} (hc : c ≠ '\n') : Behind false (t ++ [c]) (t ++ [c])

variable {fresh : Bool} {earlier read since kept indent : Text}

theorem Behind.isPrefix (h : Behind fresh earlier read) : earlier <+: read := by
  cases h with
  | line hearlier => exact hearlier
  | tag => exact List.prefix_rfl

theorem Behind.of_tag {source t : Text} {tag : Tag} (htag : IsTag source tag) (ht : source <:+ t) :
    Behind false t t := by
  obtain ⟨inner, rfl⟩ := htag.exists_concat
  obtain ⟨front, rfl⟩ := ht
  rw [← List.append_assoc]
  exact .tag (by decide)

theorem Behind.of_isLineEnd {line after front : Text} (hline : IsLineEnd (line ++ after) line)
    (hafter : after ≠ []) (hearlier : earlier <+: front ++ line) :
    Behind true earlier (front ++ line) := by
  obtain ⟨-, rest, hrest, ⟨t, rfl, -⟩ | ⟨rfl, -⟩⟩ := hline
  · exact .line hearlier (.inr ⟨front ++ t, (List.append_assoc ..).symm⟩)
  · exact absurd (List.append_cancel_left hrest) hafter

/-- The indent of a tag stands in the text since the last tag. -/
theorem IsIndent.exists_kept (h : Behind fresh earlier read)
    (hindent : IsIndent earlier (read ++ since) indent) : ∃ kept, since = kept ++ indent := by
  obtain ⟨lines, hlines, -, hprefix⟩ := hindent.exists_lines
  obtain ⟨kept, -, hsince⟩ | ⟨more, hread, hmore⟩ := List.append_eq_append_iff.mp hlines
  · exact ⟨kept, hsince⟩
  · by_cases hnil : more = []
    · exact ⟨[], by rw [hmore, hnil]; rfl⟩
    -- The indent would begin before this place, but a line or the last tag ends here.
    exfalso
    cases h with
    | line _ hline =>
      obtain rfl | ⟨s, rfl⟩ := hline
      · exact hnil (List.append_eq_nil_iff.mp hread.symm).2
      · obtain ⟨s', rfl⟩ := eq_concat_of_append_eq hread.symm hnil
        exact hindent.newline_not_mem (by simp [hmore])
    | tag =>
      rw [hread] at hprefix
      have hlength := hprefix.length_le
      have := List.length_pos_iff.mpr hnil
      rw [List.length_append] at hlength
      omega

/-- **The layout finds the indents of tags.** -/
theorem indent?_eq_some_iff (h : Behind fresh earlier read) :
    indent? fresh since = some (kept, indent) ↔
      since = kept ++ indent ∧ IsIndent earlier (read ++ since) indent := by
  constructor
  · intro hsome
    rw [indent?] at hsome
    cases hlast : lastLine? since with
    | some cut =>
      obtain ⟨lines, last⟩ := cut
      simp only [hlast, Option.ite_none_right_eq_some] at hsome
      obtain ⟨hblank, hcut⟩ := hsome
      obtain ⟨rfl, rfl⟩ := Prod.mk.inj (Option.some.inj hcut)
      obtain ⟨rfl, ⟨s, hs⟩, hmem⟩ := lastLine?_eq_some_iff.mp hlast
      refine ⟨rfl, hblank, hmem, read ++ lines, (List.append_assoc ..).symm,
        .inr ⟨read ++ s, ?_⟩, ?_⟩
      · rw [hs, List.append_assoc]
      · exact h.isPrefix.trans (List.prefix_append ..)
    | none =>
      simp only [hlast, Option.ite_none_right_eq_some, Bool.and_eq_true] at hsome
      obtain ⟨⟨rfl, hblank⟩, hcut⟩ := hsome
      obtain ⟨rfl, rfl⟩ := Prod.mk.inj (Option.some.inj hcut)
      cases h with
      | line hearlier hline =>
        exact ⟨rfl, hblank, lastLine?_eq_none_iff.mp hlast, read, rfl, hline, hearlier⟩
  · rintro ⟨rfl, hblank, hmem, lines, hlines, hstart, -⟩
    rw [← List.append_assoc] at hlines
    obtain rfl := List.append_cancel_right hlines
    rw [indent?]
    by_cases hkept : kept = []
    · subst hkept
      rw [List.append_nil] at hstart
      cases h with
      | line => simp [lastLine?_eq_none_iff.mpr hmem, hblank]
      | @tag t c hc =>
        obtain hnil | ⟨s, hs⟩ := hstart
        · simp at hnil
        · obtain ⟨-, hlast⟩ := List.append_inj' hs rfl
          exact absurd (List.singleton_inj.mp hlast) hc
    · obtain hnil | ⟨s, hs⟩ := hstart
      · exact absurd (List.append_eq_nil_iff.mp hnil).2 hkept
      · have hcut : lastLine? (kept ++ indent) = some (kept, indent) :=
          lastLine?_eq_some_iff.mpr ⟨rfl, eq_concat_of_append_eq hs hkept, hmem⟩
        simp only [hcut, if_pos hblank]

theorem indent?_eq_none_iff (h : Behind fresh earlier read) :
    indent? fresh since = none ↔ ∀ indent, ¬IsIndent earlier (read ++ since) indent := by
  rw [Option.eq_none_iff_forall_ne_some]
  constructor
  · intro hnone indent hindent
    obtain ⟨kept, hkept⟩ := hindent.exists_kept h
    exact hnone (kept, indent) ((indent?_eq_some_iff h).mpr ⟨hkept, hindent⟩)
  · rintro hnone ⟨kept, indent⟩ hsome
    exact hnone indent ((indent?_eq_some_iff h).mp hsome).2

/-! ## The end of the line -/

variable {segs later : List Segment} {line : Text}

/-- What is behind a blank line of a text is cut as before. -/
theorem Segmented.of_append_text {rest : Text} (hline : Text.allBlank line = true)
    (h : Segmented (.text (line ++ rest) :: segs)) : Segmented (textSegment rest ++ segs) := by
  have hbrace := openBrace_not_mem_of_allBlank hline
  cases h with
  | last hne hclear =>
    rw [opener, Text.breakOn_append_left hbrace, Option.map_eq_none_iff, ← opener] at hclear
    rw [List.append_nil, textSegment]
    split
    · exact .nil
    · exact .last ‹_› hclear
  | between hne hclear htag hlater =>
    rw [opener, List.append_assoc, Text.breakOn_append_left hbrace, ← opener,
      Option.map_eq_some_iff] at hclear
    obtain ⟨⟨before, after⟩, hbreak, hcut⟩ := hclear
    obtain ⟨hbefore, rfl⟩ := Prod.mk.inj hcut
    obtain rfl := List.append_cancel_left hbefore
    exact .textSegment_tag hbreak htag hlater

/-- **The layout finds the ends of lines.** -/
theorem spec_of_lineEnd? (hsegs : Segmented segs) (h : lineEnd? segs = some (line, later)) :
    IsLineEnd (segs.flatMap Segment.source) line ∧ Segmented later ∧
      segs.flatMap Segment.source = line ++ later.flatMap Segment.source := by
  rcases segs with _ | ⟨t | ⟨source, tag⟩, more⟩
  case nil =>
    obtain ⟨rfl, rfl⟩ := Prod.mk.inj (Option.some.inj h)
    exact ⟨⟨rfl, [], rfl, .inr ⟨rfl, List.not_mem_nil⟩⟩, .nil, rfl⟩
  case cons.tag => cases h
  case cons.text =>
    rw [lineEnd?.eq_def] at h
    cases hfirst : firstLine? t with
    | some cut =>
      obtain ⟨l, rest⟩ := cut
      simp only [hfirst, Option.ite_none_right_eq_some] at h
      obtain ⟨hblank, hcut⟩ := h
      obtain ⟨rfl, rfl⟩ := Prod.mk.inj (Option.some.inj hcut)
      obtain ⟨rfl, hbreak⟩ := firstLine?_eq_some_iff.mp hfirst
      have hsource : (Segment.text (l ++ rest) :: more).flatMap Segment.source =
          l ++ (textSegment rest ++ more).flatMap Segment.source := by
        simp [Segment.source]
      exact ⟨⟨hblank, _, hsource, .inl hbreak⟩, hsegs.of_append_text hblank, hsource⟩
    | none =>
      cases more with
      | nil =>
        simp only [hfirst, Option.ite_none_right_eq_some] at h
        obtain ⟨hblank, hcut⟩ := h
        obtain ⟨rfl, rfl⟩ := Prod.mk.inj (Option.some.inj hcut)
        exact ⟨⟨hblank, [], rfl, .inr ⟨rfl, firstLine?_eq_none_iff.mp hfirst⟩⟩, .nil, rfl⟩
      | cons => simp [hfirst] at h

theorem exists_of_append_eq_tag {rest t source more : Text} {tag : Tag} (htag : IsTag source tag)
    (hline : Text.allBlank line = true) (h : t ++ (source ++ more) = line ++ rest) :
    ∃ after, t = line ++ after ∧ rest ≠ [] := by
  obtain ⟨inner, rfl, -⟩ := htag
  obtain ⟨between, hbetween, hsource⟩ | ⟨after, ht, hrest⟩ := List.append_eq_append_iff.mp h
  · cases between with
    | nil =>
      refine ⟨[], by rw [hbetween, List.append_nil, List.append_nil], ?_⟩
      rintro rfl
      simp [opener] at hsource
    | cons c between =>
      obtain ⟨rfl, -⟩ := List.cons.inj hsource
      exact absurd (by simp [hbetween]) (openBrace_not_mem_of_allBlank hline)
  · exact ⟨after, ht, by simp [hrest, opener]⟩

theorem exists_of_isLineEnd (hsegs : Segmented segs)
    (h : IsLineEnd (segs.flatMap Segment.source) line) :
    ∃ later, lineEnd? segs = some (line, later) := by
  obtain ⟨hblank, rest, hsource, hline⟩ := h
  have hfirst {after : Text} {more : List Segment} (hbreak : ∃ t, line = t ++ ['\n'] ∧ '\n' ∉ t) :
      lineEnd? (.text (line ++ after) :: more) = some (line, textSegment after ++ more) := by
    rw [lineEnd?.eq_def]
    simp only [firstLine?_eq_some_iff.mpr ⟨rfl, hbreak⟩, if_pos hblank]
  cases hsegs with
  | nil =>
    obtain ⟨rfl, -⟩ := List.append_eq_nil_iff.mp hsource.symm
    exact ⟨[], rfl⟩
  | @last t hne hclear =>
    rw [List.flatMap_cons, List.flatMap_nil, List.append_nil, Segment.source] at hsource
    obtain hbreak | ⟨rfl, hmem⟩ := hline
    · exact ⟨_, hsource ▸ hfirst hbreak⟩
    · rw [List.append_nil] at hsource
      obtain rfl := hsource
      exact ⟨[], by
        rw [lineEnd?.eq_def]
        simp only [firstLine?_eq_none_iff.mpr hmem, if_pos hblank]⟩
  | tag htag hlater =>
    obtain ⟨after, hnil, hrest⟩ := exists_of_append_eq_tag (t := []) htag hblank hsource
    obtain ⟨rfl, -⟩ := List.append_eq_nil_iff.mp hnil.symm
    obtain ⟨t, ht, -⟩ | ⟨rfl, -⟩ := hline
    · simp at ht
    · exact absurd rfl hrest
  | between hne hclear htag hlater =>
    obtain ⟨after, rfl, hrest⟩ := exists_of_append_eq_tag htag hblank hsource
    obtain hbreak | ⟨rfl, -⟩ := hline
    · exact ⟨_, hfirst hbreak⟩
    · exact absurd rfl hrest

theorem lineEnd?_eq_none_iff (hsegs : Segmented segs) :
    lineEnd? segs = none ↔ ∀ line, ¬IsLineEnd (segs.flatMap Segment.source) line := by
  rw [Option.eq_none_iff_forall_ne_some]
  constructor
  · intro hnone line hline
    obtain ⟨later, hlater⟩ := exists_of_isLineEnd hsegs hline
    exact hnone (line, later) hlater
  · rintro hnone ⟨line, later⟩ hsome
    exact hnone line (spec_of_lineEnd? hsegs hsome).1

/-- The layout does not find a tag alone on its line that is not. -/
theorem indent?_or_lineEnd?_eq_none (h : Behind fresh earlier read) (hsegs : Segmented segs)
    (halone : ∀ indent line, IsIndent earlier (read ++ since) indent →
      ¬IsLineEnd (segs.flatMap Segment.source) line) :
    indent? fresh since = none ∨ lineEnd? segs = none := by
  cases hindent : indent? fresh since with
  | none => exact .inl rfl
  | some cut =>
    obtain ⟨-, hindent⟩ := (indent?_eq_some_iff h).mp hindent
    exact .inr ((lineEnd?_eq_none_iff hsegs).mpr fun line ↦ halone cut.2 line hindent)

end SiteClient.Template
