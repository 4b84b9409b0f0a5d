import Mathlib.Data.List.Basic
import SiteClient.Template.Tag

/-!
# The segments of a source

Where a source is cut depends on nothing but the cut itself: a tag is read up to its closer whatever
follows, and a text in front of a tag never ends in a brace, since the tag would have begun there.
Lists of segments with this property (`Segmented`) are exactly those that sources are cut into
(`segmentsFrom_eq_ok_iff`), and a part of such a list has it again. So a source that is put together
from neighbouring segments of another is cut as the other was.
-/

namespace SiteClient

/-! ## Cutting at a mark -/

namespace Text

variable {mark s t before after : Text}

theorem isPrefixOf?_append_eq_none (h : mark.isPrefixOf? s = none)
    (hlength : mark.length ≤ s.length) (rest : Text) : mark.isPrefixOf? (s ++ rest) = none := by
  rw [Option.eq_none_iff_forall_ne_some] at h ⊢
  intro tail htail
  have hlong : mark <+: s ++ rest := ⟨tail, List.isPrefixOf?_eq_some_iff_append_eq.mp htail⟩
  obtain ⟨short, hshort⟩ :=
    List.prefix_of_prefix_length_le hlong (List.prefix_append s rest) hlength
  exact h short (List.isPrefixOf?_eq_some_iff_append_eq.mpr hshort)

theorem breakOn_append (h : breakOn mark s = some (before, after)) (rest : Text) :
    breakOn mark (s ++ rest) = some (before, after ++ rest) := by
  induction s generalizing before with
  | nil => cases h
  | cons c s ih =>
    rw [breakOn] at h
    rw [List.cons_append, breakOn]
    cases hstart : mark.isPrefixOf? (c :: s) with
    | some tail =>
      obtain ⟨rfl, rfl⟩ : [] = before ∧ tail = after := by simpa [hstart] using h
      have hlong : mark.isPrefixOf? (c :: (s ++ rest)) = some (tail ++ rest) := by
        rw [List.isPrefixOf?_eq_some_iff_append_eq] at hstart ⊢
        rw [← List.append_assoc, hstart, List.cons_append]
      rw [hlong]
    | none =>
      obtain ⟨b, hb, rfl⟩ : ∃ b, breakOn mark s = some (b, after) ∧ c :: b = before := by
        simpa [hstart] using h
      -- The mark found lies in `s`, so the longer text does not make one begin at `c`.
      have hlength : mark.length ≤ (c :: s).length := by
        rw [eq_of_breakOn hb]
        simp only [List.length_cons, List.length_append]
        omega
      have hlong : mark.isPrefixOf? (c :: (s ++ rest)) = none :=
        isPrefixOf?_append_eq_none hstart hlength rest
      rw [hlong, ih hb]
      rfl

theorem breakOn_self (hmark : mark ≠ []) (h : breakOn mark t = some (before, after)) :
    breakOn mark (before ++ mark) = some (before, []) := by
  induction t generalizing before with
  | nil => cases h
  | cons c t ih =>
    rw [breakOn] at h
    cases hstart : mark.isPrefixOf? (c :: t) with
    | some tail =>
      obtain ⟨rfl, -⟩ : [] = before ∧ tail = after := by simpa [hstart] using h
      obtain ⟨m, ms, rfl⟩ := List.exists_cons_of_ne_nil hmark
      have hself : (m :: ms).isPrefixOf? (m :: ms) = some [] :=
        List.isPrefixOf?_eq_some_iff_append_eq.mpr (List.append_nil _)
      rw [List.nil_append, breakOn, hself]
    | none =>
      obtain ⟨b, hb, rfl⟩ : ∃ b, breakOn mark t = some (b, after) ∧ c :: b = before := by
        simpa [hstart] using h
      have hshort : mark.isPrefixOf? (c :: (b ++ mark)) = none := by
        rw [Option.eq_none_iff_forall_ne_some] at hstart ⊢
        intro tail htail
        rw [List.isPrefixOf?_eq_some_iff_append_eq] at htail
        refine hstart (tail ++ after) (List.isPrefixOf?_eq_some_iff_append_eq.mpr ?_)
        rw [← List.append_assoc, htail, eq_of_breakOn hb, List.cons_append]
      rw [List.cons_append, breakOn, hshort, ih hb]
      rfl

theorem breakOn_eq_none_of_self (hmark : mark ≠ []) (h : breakOn mark (t ++ mark) = some (t, [])) :
    breakOn mark t = none := by
  cases hbreak : breakOn mark t with
  | none => rfl
  | some cut =>
    obtain ⟨before, after⟩ := cut
    obtain ⟨rfl, -⟩ := Prod.mk.inj (Option.some.inj (h.symm.trans (breakOn_append hbreak mark)))
    have hlength := congrArg List.length (eq_of_breakOn hbreak)
    have := List.length_pos_iff.mpr hmark
    simp only [List.length_append] at hlength
    omega

/-- A text without the first character of a mark does not matter to what stands behind it. -/
theorem breakOn_append_left {m : Char} {ms : Text} (h : m ∉ s) (t : Text) :
    breakOn (m :: ms) (s ++ t)
      = (breakOn (m :: ms) t).map fun cut ↦ (s ++ cut.1, cut.2) := by
  induction s with
  | nil => simp
  | cons c s ih =>
    obtain ⟨hc, hs⟩ := List.ne_and_not_mem_of_not_mem_cons h
    have hstart : (m :: ms).isPrefixOf? (c :: (s ++ t)) = none := by
      rw [Option.eq_none_iff_forall_ne_some]
      intro tail htail
      rw [List.isPrefixOf?_eq_some_iff_append_eq] at htail
      exact hc (List.cons.inj htail).1
    rw [List.cons_append, breakOn, hstart, ih hs]
    cases breakOn (m :: ms) t <;> rfl

/-- A text without the first character of a mark is in front of the first one. -/
theorem breakOn_append_of_not_mem {m : Char} {ms : Text} (h : m ∉ s) :
    breakOn (m :: ms) (s ++ m :: ms) = some (s, []) := by
  have hself : (m :: ms).isPrefixOf? (m :: ms) = some [] :=
    List.isPrefixOf?_eq_some_iff_append_eq.mpr (List.append_nil _)
  rw [breakOn_append_left h, breakOn, hself, Option.map_some, List.append_nil]

theorem breakOn_append_cons {c : Char} (h : c ∉ s) (t : Text) :
    breakOn [c] (s ++ c :: t) = some (s, t) := by
  have hcut : breakOn [c] (s ++ [c]) = some (s, []) := breakOn_append_of_not_mem h
  have hlong := breakOn_append hcut t
  rwa [List.append_assoc] at hlong

theorem not_mem_of_breakOn {c : Char} (h : breakOn [c] t = some (before, after)) : c ∉ before := by
  induction t generalizing before with
  | nil => cases h
  | cons d t ih =>
    rw [breakOn] at h
    cases hstart : [c].isPrefixOf? (d :: t) with
    | some tail =>
      obtain ⟨rfl, -⟩ : [] = before ∧ tail = after := by simpa [hstart] using h
      exact List.not_mem_nil
    | none =>
      obtain ⟨rest, hrest, rfl⟩ : ∃ rest, breakOn [c] t = some (rest, after) ∧
          d :: rest = before := by simpa [hstart] using h
      have hne : c ≠ d := by
        rintro rfl
        exact absurd hstart (by simp [List.isPrefixOf?])
      exact List.not_mem_cons_of_ne_of_not_mem hne (ih hrest)

end Text

namespace Template

/-! ## One tag -/

/-- The marks that tell the kind of a tag. -/
def marks : Text := ['#', '^', '/', '&', '>', '!', '=']

/-- The text is written as the tag, whatever follows it. -/
def IsTag (source : Text) (tag : Tag) : Prop :=
  ∃ inner, source = opener ++ inner ∧ ∀ rest, cutTag (inner ++ rest) = .ok ⟨source, tag, rest⟩

theorem isTag_of_content {content : Text} {tag : Tag} (hbrace : content.head? ≠ some '{')
    (hcloser : Text.breakOn closer (content ++ closer) = some (content, []))
    (htag : Tag.ofContent content = .ok tag) : IsTag (opener ++ content ++ closer) tag := by
  refine ⟨content ++ closer, List.append_assoc _ _ _, fun rest ↦ ?_⟩
  have hbreak := Text.breakOn_append hcloser rest
  rw [cutTag.eq_def]
  split
  · rename_i tail hinner
    cases content with
    | nil => cases hinner
    | cons c content => exact absurd (congrArg some (List.cons.inj hinner).1) hbrace
  · rw [hbreak]
    simp only [htag]
    rfl

/-- A tag between three braces. The content includes the third brace that opens. -/
theorem isTag_of_tripleContent {content name : Text}
    (hcloser : Text.breakOn tripleCloser ('{' :: content ++ tripleCloser) =
      some ('{' :: content, []))
    (hname : tagName content = .ok name) :
    IsTag (opener ++ '{' :: content ++ tripleCloser) (.variable name false) := by
  refine ⟨'{' :: content ++ tripleCloser, List.append_assoc _ _ _, fun rest ↦ ?_⟩
  have hbreak := Text.breakOn_append hcloser rest
  rw [List.cons_append, List.cons_append] at hbreak ⊢
  rw [cutTag, hbreak]
  simp only [List.drop_succ_cons, List.drop_zero, hname]
  rfl

/-- How tags are written: between two braces, or between three. -/
inductive Written : Text → Tag → Prop
  | double {content : Text} {tag : Tag} (hbrace : content.head? ≠ some '{')
      (hcloser : Text.breakOn closer (content ++ closer) = some (content, []))
      (htag : Tag.ofContent content = .ok tag) : Written (opener ++ content ++ closer) tag
  | triple {content name : Text}
      (hcloser : Text.breakOn tripleCloser ('{' :: content ++ tripleCloser)
        = some ('{' :: content, []))
      (hname : tagName content = .ok name) :
      Written (opener ++ '{' :: content ++ tripleCloser) (.variable name false)

theorem written_of_cutTag {inner : Text} {cut : CutTag} (h : cutTag inner = .ok cut) :
    Written cut.source cut.tag := by
  rw [cutTag.eq_def] at h
  split at h
  · rename_i tail
    split at h
    · cases h
    · rename_i content rest hbreak
      cases hname : tagName (content.drop 1) with
      | error fault => rw [hname] at h; cases h
      | ok name =>
        rw [hname] at h
        obtain rfl := Except.ok.inj h
        have hcloser := Text.breakOn_self (by decide) hbreak
        have hinner := Text.eq_of_breakOn hbreak
        cases content with
        | nil => cases hinner
        | cons c content =>
          obtain rfl : '{' = c := (List.cons.inj hinner).1
          exact .triple hcloser hname
  · rename_i hbrace
    split at h
    · cases h
    · rename_i content rest hbreak
      cases htag : Tag.ofContent content with
      | error fault => rw [htag] at h; cases h
      | ok tag =>
        rw [htag] at h
        obtain rfl := Except.ok.inj h
        refine .double ?_ (Text.breakOn_self (by decide) hbreak) htag
        intro hhead
        obtain ⟨content, rfl⟩ := List.head?_eq_some_iff.mp hhead
        exact hbrace _ (Text.eq_of_breakOn hbreak)

/-- A tag is what is written as one, whatever follows it. -/
theorem isTag_iff_written {source : Text} {tag : Tag} : IsTag source tag ↔ Written source tag := by
  constructor
  · rintro ⟨inner, rfl, hcut⟩
    exact written_of_cutTag (hcut [])
  · rintro (⟨hbrace, hcloser, htag⟩ | ⟨hcloser, hname⟩)
    · exact isTag_of_content hbrace hcloser htag
    · exact isTag_of_tripleContent hcloser hname

theorem isTag_of_cutTag {inner : Text} {cut : CutTag} (h : cutTag inner = .ok cut) :
    IsTag cut.source cut.tag :=
  isTag_iff_written.mpr (written_of_cutTag h)

theorem IsTag.exists_concat {source : Text} {tag : Tag} (h : IsTag source tag) :
    ∃ t, source = t ++ ['}'] := by
  cases isTag_iff_written.mp h with
  | @double content => exact ⟨opener ++ content ++ ['}'], by simp [closer]⟩
  | @triple content => exact ⟨opener ++ '{' :: content ++ ['}', '}'], by simp [tripleCloser]⟩

theorem IsTag.ne_nil {source : Text} {tag : Tag} (h : IsTag source tag) : source ≠ [] := by
  obtain ⟨t, rfl⟩ := h.exists_concat
  exact List.append_ne_nil_of_right_ne_nil _ (List.cons_ne_nil _ _)

/-! ## Lists of segments -/

/-- The segments that some source is cut into. Only a text at the end may end in a brace. -/
inductive Segmented : List Segment → Prop
  | nil : Segmented []
  | last {t : Text} (hne : t ≠ []) (hclear : Text.breakOn opener t = none) : Segmented [.text t]
  | tag {source : Text} {tag : Tag} {later : List Segment} (htag : IsTag source tag)
      (hlater : Segmented later) : Segmented (.tag source tag :: later)
  | between {t source : Text} {tag : Tag} {later : List Segment} (hne : t ≠ [])
      (hclear : Text.breakOn opener (t ++ opener) = some (t, [])) (htag : IsTag source tag)
      (hlater : Segmented later) : Segmented (.text t :: .tag source tag :: later)

namespace Segmented

theorem of_append_right {segs more : List Segment} (h : Segmented (segs ++ more)) :
    Segmented more := by
  induction segs with
  | nil => exact h
  | cons seg segs ih =>
    refine ih ?_
    rw [List.cons_append] at h
    generalize segs ++ more = all at h
    cases h with
    | last => exact .nil
    | tag _ hlater => exact hlater
    | between _ _ htag hlater => exact .tag htag hlater

theorem of_append_left {segs more : List Segment} (h : Segmented (segs ++ more)) :
    Segmented segs := by
  generalize hall : segs ++ more = all at h
  induction h generalizing segs with
  | nil =>
    obtain ⟨rfl, -⟩ := List.append_eq_nil_iff.mp hall
    exact .nil
  | last hne hclear =>
    cases segs with
    | nil => exact .nil
    | cons seg segs =>
      obtain ⟨rfl, hnil⟩ := List.cons.inj hall
      obtain ⟨rfl, -⟩ := List.append_eq_nil_iff.mp hnil
      exact .last hne hclear
  | tag htag _ ih =>
    cases segs with
    | nil => exact .nil
    | cons seg segs =>
      obtain ⟨rfl, hrest⟩ := List.cons.inj hall
      exact .tag htag (ih hrest)
  | between hne hclear htag _ ih =>
    cases segs with
    | nil => exact .nil
    | cons seg segs =>
      obtain ⟨rfl, hrest⟩ := List.cons.inj hall
      cases segs with
      -- The text has become the last segment.
      | nil => exact .last hne (Text.breakOn_eq_none_of_self (by decide) hclear)
      | cons seg segs =>
        obtain ⟨rfl, hmore⟩ := List.cons.inj hrest
        exact .between hne hclear htag (ih hmore)

theorem isTag_of_mem {segs : List Segment} (h : Segmented segs) {source : Text} {tag : Tag}
    (hmem : .tag source tag ∈ segs) : IsTag source tag := by
  induction h with
  | nil => cases hmem
  | last => cases List.mem_singleton.mp hmem
  | tag htag _ ih =>
    obtain heq | hmem := List.mem_cons.mp hmem
    · cases heq
      exact htag
    · exact ih hmem
  | between _ _ htag _ ih =>
    obtain heq | heq | hmem : _ ∨ _ ∨ _ := by simpa only [List.mem_cons] using hmem
    · cases heq
    · cases heq
      exact htag
    · exact ih hmem

theorem textSegment_tag {before source : Text} {tag : Tag} {later : List Segment}
    (hclear : Text.breakOn opener (before ++ opener) = some (before, [])) (htag : IsTag source tag)
    (hlater : Segmented later) : Segmented (textSegment before ++ .tag source tag :: later) := by
  rw [textSegment]
  split
  · exact .tag htag hlater
  · exact .between ‹_› hclear htag hlater

end Segmented

/-! ## Cutting a source -/

theorem segmentsFrom_eq (position : ℕ) (source : Text) :
    segmentsFrom position source =
      match Text.breakOn opener source with
      | none => .ok (textSegment source)
      | some (before, inner) =>
        match cutTag inner with
        | .error fault => .error ⟨position + Text.byteSize before, fault⟩
        | .ok cut =>
          (segmentsFrom (position + Text.byteSize before + Text.byteSize cut.source) cut.rest).map
            (textSegment before ++ .tag cut.source cut.tag :: ·) := by
  -- The matches of the definition depend on their own equations, so these cannot be rewritten in
  -- them.
  rw [segmentsFrom.eq_def]
  split
  · rename_i hnone
    rw [hnone]
  · rename_i before inner hsome
    simp only [hsome]
    split
    · rename_i herror
      simp only [herror]
    · rename_i cut hok
      simp only [hok]
      cases segmentsFrom (position + Text.byteSize before + Text.byteSize cut.source)
        cut.rest <;> rfl

theorem segmentsFrom_text {position : ℕ} {source : Text}
    (hbreak : Text.breakOn opener source = none) :
    segmentsFrom position source = .ok (textSegment source) := by
  rw [segmentsFrom_eq, hbreak]

/-- A text and the tag behind it are cut off, whatever follows. -/
theorem segmentsFrom_tag {before source : Text} {tag : Tag}
    (hclear : Text.breakOn opener (before ++ opener) = some (before, [])) (htag : IsTag source tag)
    (position : ℕ) (rest : Text) :
    segmentsFrom position (before ++ source ++ rest)
      = (segmentsFrom (position + Text.byteSize before + Text.byteSize source) rest).map
          (textSegment before ++ .tag source tag :: ·) := by
  obtain ⟨inner, rfl, hcut⟩ := htag
  have hbreak : Text.breakOn opener (before ++ (opener ++ inner) ++ rest)
      = some (before, inner ++ rest) := by
    have hlong := Text.breakOn_append hclear (inner ++ rest)
    rwa [List.nil_append, ← List.append_assoc, List.append_assoc before] at hlong
  rw [segmentsFrom_eq, hbreak]
  simp only [hcut]

theorem segmentsFrom_append_eq_error_iff {position : ℕ} {s t : Text} {e : ParseError}
    (hbrace : '{' ∉ s) :
    segmentsFrom position (s ++ t) = .error e ↔
      segmentsFrom (position + Text.byteSize s) t = .error e := by
  rw [segmentsFrom_eq, segmentsFrom_eq _ t, opener, Text.breakOn_append_left hbrace]
  cases Text.breakOn ['{', '{'] t with
  | none => simp
  | some cut =>
    obtain ⟨before, inner⟩ := cut
    simp only [Option.map_some, Text.byteSize_append, ← Nat.add_assoc]
    cases cutTag inner with
    | error fault => exact Iff.rfl
    | ok cut =>
      dsimp only
      cases segmentsFrom
        (position + Text.byteSize s + Text.byteSize before + Text.byteSize cut.source)
        cut.rest with
      | error e' => exact Iff.rfl
      | ok later => simp [Except.map]

theorem segmented_of_segmentsFrom {position : ℕ} {source : Text} {segs : List Segment}
    (h : segmentsFrom position source = .ok segs) : Segmented segs := by
  fun_induction segmentsFrom position source generalizing segs with
  | case1 position source hnone =>
    obtain rfl := Except.ok.inj h
    rw [textSegment]
    split
    · exact .nil
    · exact .last ‹_› hnone
  | case2 => cases h
  | case3 => cases h
  | case4 position source before inner hbreak start cut hcut _ later hlater =>
    rename_i ih
    obtain rfl := Except.ok.inj h
    exact .textSegment_tag (Text.breakOn_self (by decide) hbreak) (isTag_of_cutTag hcut)
      (ih hlater)

theorem segmentsFrom_of_segmented {segs : List Segment} (h : Segmented segs) (position : ℕ) :
    segmentsFrom position (segs.flatMap Segment.source) = .ok segs := by
  induction h generalizing position with
  | nil => exact segmentsFrom_text rfl
  | @last t hne hclear =>
    rw [List.flatMap_cons, List.flatMap_nil, Segment.source, List.append_nil,
      segmentsFrom_text hclear, textSegment, if_neg hne]
  | @tag source tag later htag _ ih =>
    have hclear : Text.breakOn opener ([] ++ opener) = some ([], []) := rfl
    have hcut := segmentsFrom_tag hclear htag position (later.flatMap Segment.source)
    rw [List.nil_append] at hcut
    rw [List.flatMap_cons, Segment.source, hcut, ih]
    rfl
  | between hne hclear htag _ ih =>
    rw [List.flatMap_cons, List.flatMap_cons, Segment.source, Segment.source, ← List.append_assoc,
      segmentsFrom_tag hclear htag, ih, textSegment, if_neg hne]
    rfl

/-- **A source is cut into segments that are cut so wherever they stand.** -/
theorem segmentsFrom_eq_ok_iff {position : ℕ} {source : Text} {segs : List Segment} :
    segmentsFrom position source = .ok segs
      ↔ Segmented segs ∧ segs.flatMap Segment.source = source :=
  ⟨fun h ↦ ⟨segmented_of_segmentsFrom h, sources_segmentsFrom h⟩,
    fun ⟨h, hsource⟩ ↦ hsource ▸ segmentsFrom_of_segmented h position⟩

end Template
end SiteClient
