import SiteClient.Template.Layout
import SiteClient.Proofs.Template.Segments

/-!
# Segments as they are laid out

Beside the layout of segments stands what they would be if no tag took its line with it
(`asWritten`). The two are the same where no tag stands alone; in particular behind the first tag of
a source that is all on one line (`layOut_of_not_mem`). Everywhere they have the same tags, and are
the same source when they are put together (`tags_layOut`, `sources_layOut`).
-/

namespace SiteClient.Template

def Segment.piece : Segment → Piece
  | .text t => .text t
  | .tag source t => .tag source t

@[simp] theorem Segment.source_piece (seg : Segment) : seg.piece.source = seg.source := by
  cases seg <;> rfl

/-- The pieces of segments if every tag is a piece of its line. `before` is the text that has been
read since the last tag. -/
def asWritten (before : Text) : List Segment → List Piece
  | [] => textPiece before
  | .text t :: later => asWritten (before ++ t) later
  | .tag source tag :: later => textPiece before ++ .tag source tag :: asWritten [] later

theorem asWritten_eq_map {segs : List Segment} (h : Segmented segs) :
    asWritten [] segs = segs.map Segment.piece := by
  induction h with
  | nil => rfl
  | last hne _ =>
    rw [asWritten, asWritten, List.nil_append, textPiece, if_neg hne]
    rfl
  | tag _ _ ih =>
    rw [asWritten, ih]
    rfl
  | between hne _ _ _ ih =>
    rw [asWritten, asWritten, ih, List.nil_append, textPiece, if_neg hne]
    rfl

/-! ## Lines -/

theorem lastLine?_eq_none_iff {t : Text} : lastLine? t = none ↔ '\n' ∉ t := by
  induction t with
  | nil => simp [lastLine?]
  | cons c t ih =>
    rw [lastLine?]
    cases hlast : lastLine? t with
    | some cut =>
      have hmem : '\n' ∈ t := by
        by_contra hmem
        rw [ih.mpr hmem] at hlast
        cases hlast
      simp [hmem]
    | none => simp [ih.mp hlast, eq_comm]

theorem lastLine?_eq_some_iff {t lines last : Text} :
    lastLine? t = some (lines, last) ↔
      t = lines ++ last ∧ (∃ s, lines = s ++ ['\n']) ∧ '\n' ∉ last := by
  constructor
  · intro h
    induction t generalizing lines with
    | nil => cases h
    | cons c t ih =>
      rw [lastLine?] at h
      cases hlast : lastLine? t with
      | some cut =>
        rw [hlast] at h
        obtain ⟨rfl, rfl⟩ := Prod.mk.inj (Option.some.inj h)
        obtain ⟨rfl, ⟨s, hs⟩, hmem⟩ := ih hlast
        exact ⟨rfl, ⟨c :: s, by rw [hs, List.cons_append]⟩, hmem⟩
      | none =>
        rw [hlast] at h
        obtain ⟨rfl, h⟩ := Option.ite_none_right_eq_some.mp h
        obtain ⟨rfl, rfl⟩ := Prod.mk.inj (Option.some.inj h)
        exact ⟨rfl, ⟨[], rfl⟩, lastLine?_eq_none_iff.mp hlast⟩
  · rintro ⟨rfl, ⟨s, rfl⟩, hmem⟩
    induction s with
    | nil => rw [List.nil_append, List.singleton_append, lastLine?, lastLine?_eq_none_iff.mpr hmem,
        if_pos rfl]
    | cons c s ih => rw [List.cons_append, List.cons_append, lastLine?, ih]

theorem firstLine?_eq_some_iff {t line rest : Text} :
    firstLine? t = some (line, rest) ↔ t = line ++ rest ∧ ∃ s, line = s ++ ['\n'] ∧ '\n' ∉ s := by
  constructor
  · intro h
    obtain ⟨⟨s, rest⟩, hbreak, hcut⟩ := Option.map_eq_some_iff.mp h
    obtain ⟨rfl, rfl⟩ := Prod.mk.inj hcut
    exact ⟨Text.eq_of_breakOn hbreak, s, rfl, Text.not_mem_of_breakOn hbreak⟩
  · rintro ⟨rfl, s, rfl, hmem⟩
    rw [firstLine?, List.append_assoc, List.singleton_append, Text.breakOn_append_cons hmem]
    rfl

theorem firstLine?_eq_none_iff {t : Text} : firstLine? t = none ↔ '\n' ∉ t := by
  constructor
  · intro h hmem
    obtain ⟨s, rest, rfl, hs⟩ := List.eq_append_cons_of_mem hmem
    have hsome : firstLine? (s ++ '\n' :: rest) = some (s ++ ['\n'], rest) :=
      firstLine?_eq_some_iff.mpr ⟨List.append_cons .., s, rfl, hs⟩
    rw [h] at hsome
    cases hsome
  · intro h
    rw [Option.eq_none_iff_forall_ne_some]
    rintro ⟨line, rest⟩ hsome
    obtain ⟨rfl, s, rfl, -⟩ := firstLine?_eq_some_iff.mp hsome
    simp at h

theorem eq_of_indent? {fresh : Bool} {t kept indent : Text}
    (h : indent? fresh t = some (kept, indent)) :
    t = kept ++ indent ∧ Text.allBlank indent = true := by
  rw [indent?] at h
  split at h
  · rename_i hlast
    split at h
    · obtain ⟨rfl, rfl⟩ := Prod.mk.inj (Option.some.inj h)
      exact ⟨(lastLine?_eq_some_iff.mp hlast).1, ‹_›⟩
    · cases h
  · split at h
    · rename_i hblank
      obtain ⟨rfl, rfl⟩ := Prod.mk.inj (Option.some.inj h)
      exact ⟨rfl, (Bool.and_eq_true_iff.mp hblank).2⟩
    · cases h

/-- What is cut off behind a tag is blank, and comes first in what is read next. -/
theorem asWritten_of_lineEnd? {segs later : List Segment} {line : Text}
    (h : lineEnd? segs = some (line, later)) :
    Text.allBlank line = true ∧ asWritten [] segs = asWritten line later := by
  rw [lineEnd?.eq_def] at h
  split at h
  · obtain ⟨rfl, rfl⟩ := Prod.mk.inj (Option.some.inj h)
    exact ⟨rfl, rfl⟩
  · cases h
  · rename_i t more
    rw [asWritten, List.nil_append]
    split at h
    · rename_i line' rest hline
      split at h
      · rename_i hblank
        obtain ⟨rfl, rfl⟩ := Prod.mk.inj (Option.some.inj h)
        obtain ⟨rfl, -⟩ := firstLine?_eq_some_iff.mp hline
        refine ⟨hblank, ?_⟩
        rw [textSegment]
        split
        · rename_i hnil
          rw [hnil, List.append_nil, List.nil_append]
        · rw [List.singleton_append, asWritten]
      · cases h
    · split at h
      · rename_i hblank
        obtain ⟨rfl, rfl⟩ := Prod.mk.inj (Option.some.inj h)
        exact ⟨hblank, rfl⟩
      · cases h
    · cases h

/-! ## What is laid out -/

def Piece.tag? : Piece → Option (Text × Tag)
  | .text _ | .margin _ => none
  | .tag source t => some (source, t)

def Segment.tag? : Segment → Option (Text × Tag)
  | .text _ => none
  | .tag source t => some (source, t)

theorem Segment.tag?_eq_some_iff {seg : Segment} {source : Text} {tag : Tag} :
    seg.tag? = some (source, tag) ↔ seg = .tag source tag := by
  cases seg <;> simp [Segment.tag?]

@[simp] theorem sources_textPiece (t : Text) : (textPiece t).flatMap Piece.source = t := by
  rw [textPiece]
  split <;> simp_all [Piece.source]

@[simp] theorem sources_marginPiece (t : Text) : (marginPiece t).flatMap Piece.source = t := by
  rw [marginPiece]
  split <;> simp_all [Piece.source]

@[simp] theorem tags_textPiece (t : Text) : (textPiece t).filterMap Piece.tag? = [] := by
  rw [textPiece]
  split <;> rfl

@[simp] theorem tags_marginPiece (t : Text) : (marginPiece t).filterMap Piece.tag? = [] := by
  rw [marginPiece]
  split <;> rfl

theorem sources_asWritten (before : Text) (segs : List Segment) :
    (asWritten before segs).flatMap Piece.source = before ++ segs.flatMap Segment.source := by
  fun_induction asWritten before segs with
  | case1 before => simp
  | case2 before t later ih => rw [ih, List.append_assoc, List.flatMap_cons, Segment.source]
  | case3 before source tag later ih => simp [ih, Piece.source, Segment.source]

theorem tags_asWritten (before : Text) (segs : List Segment) :
    (asWritten before segs).filterMap Piece.tag? = segs.filterMap Segment.tag? := by
  fun_induction asWritten before segs with
  | case1 before => simp
  | case2 before t later ih => exact ih
  | case3 before source tag later ih => simp [ih, Piece.tag?, Segment.tag?]

theorem sources_layOut (fresh : Bool) (before : Text) (segs : List Segment) :
    (layOut fresh before segs).flatMap Piece.source = before ++ segs.flatMap Segment.source := by
  fun_induction layOut fresh before segs with
  | case1 fresh before => simp
  | case2 fresh before t later ih => rw [ih, List.append_assoc, List.flatMap_cons, Segment.source]
  | case4 fresh before source tag later kept indent line later' hend hindent _ _ ih =>
    obtain ⟨rfl, -⟩ := eq_of_indent? hindent
    have hlater := congrArg (List.flatMap Piece.source) (asWritten_of_lineEnd? hend).2
    rw [sources_asWritten, sources_asWritten, List.nil_append] at hlater
    simp [ih, hlater, Piece.source, Segment.source]
  | case3 fresh before source tag later kept indent line later' hend hindent hvariable ih
  | case5 fresh before source tag later _ ih =>
    simp [ih, Piece.source, Segment.source]

/-- No tag is left out, and none comes before another that it stands behind. -/
theorem tags_layOut (fresh : Bool) (before : Text) (segs : List Segment) :
    (layOut fresh before segs).filterMap Piece.tag? = segs.filterMap Segment.tag? := by
  fun_induction layOut fresh before segs with
  | case1 fresh before => simp
  | case2 fresh before t later ih => exact ih
  | case4 fresh before source tag later kept indent line later' hend hindent _ _ ih =>
    have hlater := congrArg (List.filterMap Piece.tag?) (asWritten_of_lineEnd? hend).2
    rw [tags_asWritten, tags_asWritten] at hlater
    simp [ih, hlater, Piece.tag?, Segment.tag?]
  | case3 fresh before source tag later kept indent line later' hend hindent hvariable ih
  | case5 fresh before source tag later _ ih =>
    simp [ih, Piece.tag?, Segment.tag?]

theorem pieces_eq_ok_iff {source : Text} {ps : List Piece} :
    pieces source = .ok ps ↔
      ∃ segs, Segmented segs ∧ segs.flatMap Segment.source = source ∧ layOut true [] segs = ps := by
  rw [pieces, segments]
  constructor
  · intro h
    cases hsegs : segmentsFrom 0 source with
    | error e =>
      rw [hsegs] at h
      cases h
    | ok segs =>
      rw [hsegs] at h
      obtain ⟨hsegmented, hsource⟩ := segmentsFrom_eq_ok_iff.mp hsegs
      exact ⟨segs, hsegmented, hsource, Except.ok.inj h⟩
  · rintro ⟨segs, hsegmented, hsource, rfl⟩
    rw [segmentsFrom_eq_ok_iff.mpr ⟨hsegmented, hsource⟩]
    rfl

theorem sources_pieces {source : Text} {ps : List Piece} (h : pieces source = .ok ps) :
    ps.flatMap Piece.source = source := by
  obtain ⟨segs, -, rfl, rfl⟩ := pieces_eq_ok_iff.mp h
  exact sources_layOut true [] segs

/-! ## One tag -/

theorem layOut_textSegment (fresh : Bool) (before : Text) (segs : List Segment) :
    layOut fresh [] (textSegment before ++ segs) = layOut fresh before segs := by
  rw [textSegment]
  split
  · rename_i hnil
    rw [hnil, List.nil_append]
  · rw [List.singleton_append, layOut, List.nil_append]

theorem layOut_alone {fresh : Bool} {before kept indent source line : Text} {tag : Tag}
    {later later' : List Segment} (hvariable : tag.isVariable = false)
    (hindent : indent? fresh before = some (kept, indent))
    (hend : lineEnd? later = some (line, later')) :
    layOut fresh before (.tag source tag :: later)
      = textPiece kept ++ marginPiece indent ++ .tag source tag ::
          (marginPiece line ++ layOut true [] later') := by
  rw [layOut.eq_def]
  dsimp only
  split
  · rename_i hindent' hend'
    obtain ⟨rfl, rfl⟩ := Prod.mk.inj (Option.some.inj (hindent.symm.trans hindent'))
    obtain ⟨rfl, rfl⟩ := Prod.mk.inj (Option.some.inj (hend.symm.trans hend'))
    rw [if_neg (by rw [hvariable]; exact Bool.false_ne_true)]
  · rename_i hnone
    exact absurd hend (hnone _ _ _ _ hindent)

/-! ## Where no tag stands alone -/

theorem layOut_tag {fresh : Bool} {before source : Text} {tag : Tag} {later : List Segment}
    (h : tag.isVariable ∨ indent? fresh before = none ∨ lineEnd? later = none) :
    layOut fresh before (.tag source tag :: later)
      = textPiece before ++ .tag source tag :: layOut false [] later := by
  rw [layOut.eq_def]
  dsimp only
  split
  · rename_i hindent hline
    obtain hvariable | hnone | hnone := h
    · rw [if_pos hvariable]
    · rw [hnone] at hindent; cases hindent
    · rw [hnone] at hline; cases hline
  · rfl

theorem lineEnd?_eq_none {segs : List Segment} (h : ∀ t, .text t ∈ segs → '\n' ∉ t)
    {source : Text} {tag : Tag} (htag : .tag source tag ∈ segs) : lineEnd? segs = none := by
  match segs with
  | [] => cases htag
  | .tag .. :: _ => rfl
  | [.text t] => cases List.mem_singleton.mp htag
  | .text t :: seg :: segs =>
    rw [lineEnd?.eq_def]
    dsimp only
    rw [firstLine?_eq_none_iff.mpr (h t List.mem_cons_self)]

/-- Behind a tag nothing stands alone up to the next line break. -/
theorem layOut_of_not_mem {before : Text} {segs : List Segment} (hbefore : '\n' ∉ before)
    (h : ∀ t, .text t ∈ segs → '\n' ∉ t) : layOut false before segs = asWritten before segs := by
  induction segs generalizing before with
  | nil => rw [layOut, asWritten]
  | cons seg segs ih =>
    obtain hrest : ∀ t, .text t ∈ segs → '\n' ∉ t := fun t ht ↦ h t (List.mem_cons_of_mem _ ht)
    cases seg with
    | text t =>
      rw [layOut, asWritten]
      refine ih ?_ hrest
      simp [hbefore, h t List.mem_cons_self]
    | tag source tag =>
      have hindent : indent? false before = none := by
        rw [indent?, lastLine?_eq_none_iff.mpr hbefore]
        rfl
      rw [layOut_tag (.inr (.inl hindent)), asWritten, ih List.not_mem_nil hrest]

end SiteClient.Template
