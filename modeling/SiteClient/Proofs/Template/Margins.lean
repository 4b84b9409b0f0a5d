import Mathlib.Data.List.Basic
import SiteClient.Proofs.Template.Lines

/-!
# What is written and what is not

A source is its tags, the text between them that is written, and the margins of the tags that stand
alone, which are not. `Placement` lists the tags of a source from left to right, each with the text
in front of it and its margins, and says of each where it begins, that it is a tag, and that it has
margins exactly if it stands alone. The pieces of a source come from such a list, and the source is
what the list is written as (`pieces_placed`): no text is lost, and none is dropped but margins.
-/

namespace SiteClient.Template

/-! ## Tags in their places -/

/-- A tag in its place. -/
structure Placed where
  /-- The text in front of the tag that is written. -/
  text : Text
  /-- The margin in front of the tag. -/
  indent : Text
  source : Text
  tag : Tag
  /-- The margin behind the tag. -/
  line : Text

namespace Placed

/-- The source up to the end of the tag. -/
def through (p : Placed) : Text :=
  p.text ++ p.indent ++ p.source

/-- The source up to the end of the margin behind the tag. -/
def whole (p : Placed) : Text :=
  p.through ++ p.line

/-- The text, the margins and the tag as pieces. What is empty leaves no piece. -/
def pieces (p : Placed) : List Piece :=
  (if p.text = [] then [] else [.text p.text]) ++
    (if p.indent = [] then [] else [.margin p.indent]) ++
    .tag p.source p.tag :: (if p.line = [] then [] else [.margin p.line])

end Placed

/-- The tag is no variable and stands alone on its line, between blanks. The source is `before`, the
tag and `after`, and the last tag before it ends where `earlier` does. -/
structure StandsAlone (earlier before after : Text) (tag : Tag) (indent line : Text) : Prop where
  not_variable : tag.isVariable = false
  isIndent : IsIndent earlier before indent
  isLineEnd : IsLineEnd after line

/-- The tag is in its place between `before` and `after`. -/
structure IsPlaced (earlier before after : Text) (p : Placed) : Prop where
  isTag : IsTag p.source p.tag
  /-- No tag opens between the last one and this one. -/
  opens_first : ∃ since, before = earlier ++ since ∧
    Text.breakOn opener (since ++ opener) = some (since, [])
  /-- The margins are those of a tag that stands alone, or there are none. -/
  margins : StandsAlone earlier before after p.tag p.indent p.line ∨
    (p.indent = [] ∧ p.line = []) ∧
      ∀ indent line, ¬StandsAlone earlier before after p.tag indent line

/-- The tags of a source that are left, each in its place, and the text behind the last. The source
up to the end of the last tag is `earlier`, and all up to here is `read`. -/
inductive Placement : Text → Text → List Placed → Text → Prop
  | last {earlier read last : Text}
      (hclear : ∃ since, read ++ last = earlier ++ since ∧ Text.breakOn opener since = none) :
      Placement earlier read [] last
  | tag {earlier read last : Text} {p : Placed} {tags : List Placed}
      (hplaced : IsPlaced earlier (read ++ (p.text ++ p.indent))
        (p.line ++ (tags.flatMap Placed.whole ++ last)) p)
      (hrest : Placement (read ++ p.through) (read ++ p.whole) tags last) :
      Placement earlier read (p :: tags) last

/-! ## The layout -/

/-- The pieces and the text that is left come from such a list. -/
def Places (earlier read : Text) (ps : List Piece) (left : Text) : Prop :=
  ∃ tags last, Placement earlier read tags last ∧
    ps = tags.flatMap Placed.pieces ++ (if last = [] then [] else [.text last]) ∧
      left = tags.flatMap Placed.whole ++ last

variable {fresh : Bool} {earlier read before source kept indent line : Text} {tag : Tag}
  {segs later : List Segment} {ps : List Piece}

/-- Before this place nothing but a margin stands behind the last tag. -/
def AtMargin (earlier read : Text) : Prop :=
  ∃ margin, read = earlier ++ margin ∧ Text.allBlank margin = true

theorem AtMargin.refl : AtMargin read read :=
  ⟨[], (List.append_nil _).symm, rfl⟩

theorem AtMargin.opens_first (h : AtMargin earlier read)
    (hclear : Text.breakOn opener (before ++ opener) = some (before, [])) :
    ∃ since, read ++ before = earlier ++ since ∧
      Text.breakOn opener (since ++ opener) = some (since, []) := by
  obtain ⟨margin, rfl, hblank⟩ := h
  refine ⟨margin ++ before, List.append_assoc .., ?_⟩
  rw [List.append_assoc, opener, Text.breakOn_append_left (openBrace_not_mem_of_allBlank hblank),
    ← opener, hclear]
  rfl

theorem AtMargin.clear (h : AtMargin earlier read) (hclear : Text.breakOn opener before = none) :
    ∃ since, read ++ before = earlier ++ since ∧ Text.breakOn opener since = none := by
  obtain ⟨margin, rfl, hblank⟩ := h
  refine ⟨margin ++ before, List.append_assoc .., ?_⟩
  rw [opener, Text.breakOn_append_left (openBrace_not_mem_of_allBlank hblank), ← opener, hclear]
  rfl

/-- A tag that does not stand alone is written with all that is in front of it. -/
theorem places_plain (hbehind : Behind fresh earlier read) (hmargin : AtMargin earlier read)
    (hclear : Text.breakOn opener (before ++ opener) = some (before, [])) (htag : IsTag source tag)
    (hlater : Segmented later)
    (hplain : tag.isVariable = true ∨ indent? fresh before = none ∨ lineEnd? later = none)
    (hrest : Places (read ++ (before ++ source)) (read ++ (before ++ source)) ps
      (later.flatMap Segment.source)) :
    Places earlier read (textPiece before ++ .tag source tag :: ps)
      (before ++ (source ++ later.flatMap Segment.source)) := by
  obtain ⟨tags, last, hplacement, rfl, hleft⟩ := hrest
  have halone (indent line : Text) :
      ¬StandsAlone earlier (read ++ before) (later.flatMap Segment.source) tag indent line := by
    rintro ⟨hvariable, hindent, hline⟩
    obtain hplain | hplain | hplain := hplain
    · rw [hplain] at hvariable
      cases hvariable
    · exact (indent?_eq_none_iff hbehind).mp hplain indent hindent
    · exact (lineEnd?_eq_none_iff hlater).mp hplain line hline
  refine ⟨⟨before, [], source, tag, []⟩ :: tags, last, .tag ?_ ?_, ?_, ?_⟩
  · rw [List.append_nil, List.nil_append, ← hleft]
    exact ⟨htag, hmargin.opens_first hclear, .inr ⟨⟨rfl, rfl⟩, halone⟩⟩
  · simpa [Placed.through, Placed.whole] using hplacement
  · simp [Placed.pieces, textPiece]
  · simp [Placed.whole, Placed.through, hleft]

/-- A tag that stands alone is written without the blanks around it. -/
theorem places_alone (hbehind : Behind fresh earlier read) (hmargin : AtMargin earlier read)
    (hclear : Text.breakOn opener (before ++ opener) = some (before, [])) (htag : IsTag source tag)
    (hvariable : tag.isVariable = false) (hindent : indent? fresh before = some (kept, indent))
    {after : Text} (hline : IsLineEnd (line ++ after) line)
    (hrest : Places (read ++ (before ++ source)) (read ++ (before ++ (source ++ line))) ps after) :
    Places earlier read
      (textPiece kept ++ marginPiece indent ++ .tag source tag :: (marginPiece line ++ ps))
      (before ++ (source ++ (line ++ after))) := by
  obtain ⟨tags, last, hplacement, rfl, rfl⟩ := hrest
  obtain ⟨rfl, hisIndent⟩ := (indent?_eq_some_iff hbehind).mp hindent
  refine ⟨⟨kept, indent, source, tag, line⟩ :: tags, last, .tag ?_ ?_, ?_, ?_⟩
  · exact ⟨htag, hmargin.opens_first hclear, .inl ⟨hvariable, hisIndent, hline⟩⟩
  · simpa [Placed.through, Placed.whole] using hplacement
  · simp [Placed.pieces, textPiece, marginPiece]
  · simp [Placed.whole, Placed.through]

theorem Segmented.of_textSegment_tag
    (h : Segmented (textSegment before ++ .tag source tag :: later)) :
    Text.breakOn opener (before ++ opener) = some (before, []) ∧
      IsTag source tag ∧ Segmented later := by
  rw [textSegment] at h
  split at h
  · rename_i hnil
    cases h with
    | tag htag hlater => exact ⟨by rw [hnil]; rfl, htag, hlater⟩
  · cases h with
    | between _ hclear htag hlater => exact ⟨hclear, htag, hlater⟩

theorem Segmented.clear_textSegment (h : Segmented (textSegment before)) :
    Text.breakOn opener before = none := by
  rw [textSegment] at h
  split at h
  · rename_i hnil
    rw [hnil]
    rfl
  · cases h with
    | last _ hclear => exact hclear

theorem Segmented.eq_nil_of_text {t : Text}
    (h : Segmented (textSegment before ++ .text t :: later)) :
    before = [] ∧ textSegment t = [.text t] := by
  rw [textSegment] at h
  split at h
  · rename_i hnil
    cases h with
    | last hne _ => exact ⟨hnil, if_neg hne⟩
    | between hne _ _ _ => exact ⟨hnil, if_neg hne⟩
  · cases h

/-- Every layout is made of tags in their places. -/
theorem places_layOut
    (hbehind : before ++ segs.flatMap Segment.source ≠ [] → Behind fresh earlier read)
    (hmargin : AtMargin earlier read) (hsegs : Segmented (textSegment before ++ segs)) :
    Places earlier read (layOut fresh before segs) (before ++ segs.flatMap Segment.source) := by
  fun_induction layOut fresh before segs generalizing earlier read with
  | case1 fresh before =>
    rw [List.append_nil] at hsegs
    exact ⟨[], before, .last (hmargin.clear hsegs.clear_textSegment), rfl, List.append_nil _⟩
  | case2 fresh before t later ih =>
    obtain ⟨rfl, ht⟩ := hsegs.eq_nil_of_text
    exact ih hbehind hmargin (ht ▸ hsegs)
  | case3 fresh before source tag later kept indent line later' hend hindent hvariable ih =>
    obtain ⟨hclear, htag, hlater⟩ := hsegs.of_textSegment_tag
    exact places_plain (hbehind (by simp [Segment.source, htag.ne_nil])) hmargin hclear htag hlater
      (.inl hvariable)
      (ih (fun _ ↦ .of_tag htag ⟨read ++ before, List.append_assoc ..⟩) .refl hlater)
  | case4 fresh before source tag later kept indent line later' hend hindent hvariable _ ih =>
    obtain ⟨hclear, htag, hlater⟩ := hsegs.of_textSegment_tag
    obtain ⟨hline, hlater', hsources⟩ := spec_of_lineEnd? hlater hend
    rw [List.flatMap_cons, Segment.source, hsources]
    rw [hsources] at hline
    have hassoc : read ++ (before ++ (source ++ line)) = read ++ (before ++ source) ++ line := by
      simp only [List.append_assoc]
    refine places_alone (hbehind (by simp [Segment.source, htag.ne_nil])) hmargin hclear htag
      (Bool.eq_false_iff.mpr hvariable) hindent hline (ih ?_ ⟨line, hassoc, hline.blank⟩ hlater')
    exact fun hrest ↦ hassoc ▸ .of_isLineEnd hline hrest (List.prefix_append ..)
  | case5 fresh before source tag later hnone ih =>
    obtain ⟨hclear, htag, hlater⟩ := hsegs.of_textSegment_tag
    refine places_plain (hbehind (by simp [Segment.source, htag.ne_nil])) hmargin hclear htag hlater
      (.inr ?_) (ih (fun _ ↦ .of_tag htag ⟨read ++ before, List.append_assoc ..⟩) .refl hlater)
    cases hindent : indent? fresh before with
    | none => exact .inl rfl
    | some =>
      cases hend : lineEnd? later with
      | none => exact .inr rfl
      | some => exact absurd hend (hnone _ _ _ _ hindent)

/-- **A source is its tags, what is written between them and the margins of those that stand
alone.** -/
theorem pieces_placed (h : pieces source = .ok ps) :
    ∃ tags last, Placement [] [] tags last ∧
      ps = tags.flatMap Placed.pieces ++ (if last = [] then [] else [.text last]) ∧
      source = tags.flatMap Placed.whole ++ last := by
  obtain ⟨segs, hsegmented, rfl, rfl⟩ := pieces_eq_ok_iff.mp h
  have hsegs : Segmented (textSegment [] ++ segs) := hsegmented
  exact places_layOut (fun _ ↦ .line List.nil_prefix (.inl rfl)) .refl hsegs

/-- A comment on two lines and a closing tag that stand alone, and two tags that share a line. -/
def unevenSource : Text :=
  "é\r\n\u2003".toList ++ opener ++ "! over\ntwo lines".toList ++ closer ++ " \r\n".toList ++
    opener ++ "#s".toList ++ closer ++ [' '] ++ opener ++ ['x'] ++ closer ++ "\n\t".toList ++
    opener ++ "/s".toList ++ closer

def unevenPieces : List Piece :=
  [.text "é\r\n".toList, .margin ['\u2003'],
    .tag (opener ++ "! over\ntwo lines".toList ++ closer) .silent, .margin " \r\n".toList,
    .tag (opener ++ "#s".toList ++ closer) (.openSection ['s'] false), .text [' '],
    .tag (opener ++ ['x'] ++ closer) (.variable ['x'] true), .text ['\n'], .margin ['\t'],
    .tag (opener ++ "/s".toList ++ closer) (.closeSection ['s'])]

theorem pieces_unevenSource : pieces unevenSource = .ok unevenPieces := by
  decide +kernel

theorem pieces_placed_of_uneven :
    ∃ tags last, Placement [] [] tags last ∧
      unevenPieces = tags.flatMap Placed.pieces ++ (if last = [] then [] else [.text last]) ∧
      unevenSource = tags.flatMap Placed.whole ++ last :=
  pieces_placed pieces_unevenSource

end SiteClient.Template
