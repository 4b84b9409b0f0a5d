import Mathlib.Data.List.Basic
import SiteClient.Proofs.Template.Blanks
import SiteClient.Proofs.Template.Layout
import SiteClient.Proofs.Template.Nesting
import SiteClient.Render.Expansion

/-!
# Bodies of sections, read again

A section rule gets the text of a body and reads it as a source of its own. The tags of the body are
cut as they were in the whole source and nest as they did, but its first and its last line are other
lines now, and a tag may stand alone on one reading and not on the other. Two layouts of the same
text are `Alike`: between any two tags they write the same up to blanks. That is kept by nesting
(`nest_alike`), so the body is a template again and the children of the section are its nodes, up to
blanks (`parse_body`).
-/

namespace SiteClient.Template

/-! ## Layouts that differ in blanks -/

/-- Pieces between two tags, which are written as `source` and spell the nodes `left` up to
blanks. -/
structure Between (pieces : List Piece) (source : Text) (left : List Node) : Prop where
  tagless : ∀ source tag, .tag source tag ∉ pieces
  sources_eq : pieces.flatMap Piece.source = source
  nests : ∃ written, Nests pieces written ∧ squeeze written = left

/-- The same tags in the same order and, between any two, the same text in the source and the same
nodes up to blanks. -/
inductive Alike : List Piece → List Piece → Prop
  | nil : Alike [] []
  | tag {source : Text} {t : Tag} {rest rest' : List Piece} (hrest : Alike rest rest') :
      Alike (.tag source t :: rest) (.tag source t :: rest')
  | lines {lines lines' rest rest' : List Piece} {source : Text} {left : List Node}
      (hlines : Between lines source left) (hlines' : Between lines' source left)
      (hrest : Alike rest rest') : Alike (lines ++ rest) (lines' ++ rest')

theorem Between.append {pieces pieces' : List Piece} {source source' : Text}
    {left left' : List Node} (h : Between pieces source left) (h' : Between pieces' source' left') :
    Between (pieces ++ pieces') (source ++ source') (left ++ left') := by
  obtain ⟨written, hnests, rfl⟩ := h.nests
  obtain ⟨written', hnests', rfl⟩ := h'.nests
  refine ⟨fun source tag hmem ↦ ?_, ?_, written ++ written', hnests.append hnests', ?_⟩
  · exact (List.mem_append.mp hmem).elim (h.tagless source tag) (h'.tagless source tag)
  · rw [List.flatMap_append, h.sources_eq, h'.sources_eq]
  · rw [squeeze_append]

theorem between_marginPiece (t : Text) : Between (marginPiece t) t [] := by
  rw [marginPiece]
  split
  · rename_i hnil
    exact ⟨fun _ _ ↦ List.not_mem_nil, hnil.symm, [], .nil, rfl⟩
  · refine ⟨fun _ _ h ↦ ?_, List.append_nil t, [], .leaf (.margin t) rfl .nil, rfl⟩
    cases List.mem_singleton.mp h

theorem between_textPiece (t : Text) : Between (textPiece t) t (squeezedText t) := by
  rw [textPiece]
  split
  · rename_i hnil
    exact ⟨fun _ _ ↦ List.not_mem_nil, hnil.symm, [], .nil, by rw [hnil]; rfl⟩
  · refine ⟨fun _ _ h ↦ ?_, List.append_nil t, [.text t], .leaf (.text t) rfl .nil,
      List.append_nil _⟩
    cases List.mem_singleton.mp h

namespace Alike

variable {pieces pieces' : List Piece}

theorem symm (h : Alike pieces pieces') : Alike pieces' pieces := by
  induction h with
  | nil => exact .nil
  | tag _ ih => exact .tag ih
  | lines hlines hlines' _ ih => exact .lines hlines' hlines ih

theorem sources_eq (h : Alike pieces pieces') :
    pieces.flatMap Piece.source = pieces'.flatMap Piece.source := by
  induction h with
  | nil => rfl
  | tag _ ih => rw [List.flatMap_cons, List.flatMap_cons, ih]
  | lines hlines hlines' _ ih =>
    rw [List.flatMap_append, List.flatMap_append, hlines.sources_eq, hlines'.sources_eq, ih]

theorem split_tag {before after : List Piece} {source : Text} {t : Tag}
    (h : Alike (before ++ .tag source t :: after) pieces') :
    ∃ before' after', pieces' = before' ++ .tag source t :: after' ∧ Alike before before' ∧
      Alike after after' := by
  generalize hpieces : before ++ .tag source t :: after = pieces at h
  induction h generalizing before with
  | nil => simp at hpieces
  | @tag source' t' rest rest' hrest ih =>
    cases before with
    | nil =>
      obtain ⟨htag, rfl⟩ := List.cons.inj hpieces
      exact ⟨[], rest', by rw [htag]; rfl, .nil, hrest⟩
    | cons piece before =>
      obtain ⟨rfl, htail⟩ := List.cons.inj hpieces
      obtain ⟨before', after', rfl, hbefore, hafter⟩ := ih htail
      exact ⟨_, after', rfl, .tag hbefore, hafter⟩
  | @lines lines lines' rest rest' _ _ hlines hlines' _ ih =>
    -- The tag stands behind the pieces without tags.
    obtain ⟨more, rfl, hmore⟩ : ∃ more, before = lines ++ more ∧
        more ++ .tag source t :: after = rest := by
      obtain ⟨more, rfl, hmore⟩ | ⟨more, rfl, hmore⟩ := List.append_eq_append_iff.mp hpieces
      · cases more with
        | nil => exact ⟨[], by simp, by simpa using hmore⟩
        | cons piece more =>
          obtain ⟨rfl, -⟩ := List.cons.inj hmore
          exact absurd (List.mem_append_right _ List.mem_cons_self) (hlines.tagless source t)
      · exact ⟨more, rfl, hmore.symm⟩
    obtain ⟨before', after', rfl, hbefore, hafter⟩ := ih hmore
    exact ⟨lines' ++ before', after', (List.append_assoc ..).symm, .lines hlines hlines' hbefore,
      hafter⟩

end Alike

/-! ## The layout of a source -/

theorem alike_lines {line indent : Text} (kept : Text) (hline : Text.allBlank line = true)
    (hindent : Text.allBlank indent = true) {rest rest' : List Piece} (hrest : Alike rest rest') :
    Alike (marginPiece line ++ textPiece kept ++ marginPiece indent ++ rest)
      (textPiece (line ++ kept ++ indent) ++ rest') := by
  have hlaid := ((between_marginPiece line).append (between_textPiece kept)).append
    (between_marginPiece indent)
  have hleft : [] ++ squeezedText kept ++ [] = squeezedText (line ++ kept ++ indent) := by
    simp [squeezedText, Text.withoutBlanks_eq_nil hline, Text.withoutBlanks_eq_nil hindent]
  rw [hleft] at hlaid
  exact .lines hlaid (between_textPiece _) hrest

/-- A layout and the segments as they are written. A blank line may have been cut off before. -/
theorem alike_layOut {line : Text} (hline : Text.allBlank line = true) (fresh : Bool)
    (before : Text) (segs : List Segment) :
    Alike (marginPiece line ++ layOut fresh before segs) (asWritten (line ++ before) segs) := by
  have hnil : Text.allBlank [] = true := rfl
  -- A tag that does not stand alone.
  have htag {before source : Text} {tag : Tag} {rest rest' : List Piece} {line : Text}
      (hline : Text.allBlank line = true) (hrest : Alike rest rest') :
      Alike (marginPiece line ++ (textPiece before ++ .tag source tag :: rest))
        (textPiece (line ++ before) ++ .tag source tag :: rest') := by
    simpa [marginPiece] using alike_lines before hline hnil (.tag hrest)
  fun_induction layOut fresh before segs generalizing line with
  | case1 fresh before =>
    simpa [marginPiece, asWritten] using
      alike_lines before hline hnil Alike.nil
  | case2 fresh before t later ih =>
    rw [asWritten, List.append_assoc]
    exact ih hline
  | case3 fresh before source tag later kept indent line' later' hend hindent hvariable ih =>
    rw [asWritten]
    exact htag hline (ih hnil)
  | case4 fresh before source tag later kept indent line' later' hend hindent _ _ ih =>
    obtain ⟨rfl, hblank⟩ := eq_of_indent? hindent
    obtain ⟨hline', hlater⟩ := asWritten_of_lineEnd? hend
    have hrest := ih hline'
    rw [List.append_nil, ← hlater] at hrest
    rw [asWritten, ← List.append_assoc line]
    simpa using alike_lines kept hline hblank (.tag hrest)
  | case5 fresh before source tag later _ ih =>
    rw [asWritten]
    exact htag hline (ih hnil)

theorem alike_map_piece {segs : List Segment} (h : Segmented segs) :
    Alike (layOut true [] segs) (segs.map Segment.piece) := by
  have hnil : Text.allBlank [] = true := rfl
  rw [← asWritten_eq_map h]
  exact alike_layOut hnil true [] segs

/-! ## Nesting layouts that differ in blanks -/

/-- Open sections that are the same up to blanks. -/
structure OpenSection.Alike (frame frame' : OpenSection) : Prop where
  name_eq : frame.name = frame'.name
  inverted_eq : frame.inverted = frame'.inverted
  outerBody_eq : frame.outerBody.reverse.flatten = frame'.outerBody.reverse.flatten
  outerNodes_eq : squeeze frame.outerNodes.reverse = squeeze frame'.outerNodes.reverse

theorem nest_alike {pieces pieces' : List Piece} (h : Alike pieces pieces') (position position' : ℕ)
    {body body' : List Text} {acc acc' : List Node} {stack stack' : List OpenSection}
    {template : Template} (hbody : body.reverse.flatten = body'.reverse.flatten)
    (hacc : squeeze acc.reverse = squeeze acc'.reverse)
    (hstack : List.Forall₂ OpenSection.Alike stack stack')
    (hnest : nest position body acc stack pieces = .ok template) :
    ∃ template', nest position' body' acc' stack' pieces' = .ok template' ∧
      squeeze template' = squeeze template := by
  induction h generalizing position position' body body' acc acc' stack stack' with
  | nil =>
    cases hstack with
    | nil => exact ⟨acc'.reverse, rfl, by rw [← hacc, ← Except.ok.inj hnest]⟩
    | cons => cases hnest
  | @lines lines lines' rest rest' source left hlines hlines' hrest ih =>
    obtain ⟨written, hnests, hleft⟩ := hlines.nests
    obtain ⟨written', hnests', hleft'⟩ := hlines'.nests
    obtain ⟨position₁, body₁, hbody₁, hnest₁⟩ := nest_append hnests position body acc stack rest
    obtain ⟨position₂, body₂, hbody₂, hnest₂⟩ :=
      nest_append hnests' position' body' acc' stack' rest'
    rw [hnest₁] at hnest
    rw [hnest₂]
    refine ih _ _ ?_ ?_ hstack hnest
    · rw [hbody₁, hbody₂, hbody, hlines.sources_eq, hlines'.sources_eq]
    · simp only [List.reverse_append, List.reverse_reverse, squeeze_append, hacc, hleft, hleft']
  | @tag source t rest rest' hrest ih =>
    have hflatten : (source :: body).reverse.flatten = (source :: body').reverse.flatten := by
      simp [hbody]
    cases t with
    | silent => exact ih _ _ hflatten hacc hstack hnest
    | «variable» name escaped => exact ih _ _ hflatten (by simp [hacc]) hstack hnest
    | openSection name inverted =>
      have hframe : OpenSection.Alike ⟨name, inverted, position, source :: body, acc⟩
          ⟨name, inverted, position', source :: body', acc'⟩ := ⟨rfl, rfl, hflatten, hacc⟩
      exact ih _ _ rfl rfl (.cons hframe hstack) hnest
    | closeSection name =>
      cases hstack with
      | nil => cases hnest
      | @cons frame frame' stack stack' hframe hstack =>
        rw [nest] at hnest
        split at hnest
        · rename_i hname
          rw [nest, if_pos (hframe.name_eq.symm.trans hname)]
          -- The sections are the same: their bodies to the letter, their children up to blanks.
          refine ih _ _ ?_ ?_ hstack hnest
          · simp [hbody, hframe.outerBody_eq]
          · simp [squeeze, Node.squeeze, hacc, hbody, hframe.outerNodes_eq, hframe.inverted_eq]
        · cases hnest

theorem nests_alike {pieces pieces' : List Piece} (h : Alike pieces pieces') {template : Template}
    (hnests : Nests pieces template) :
    ∃ template', Nests pieces' template' ∧ squeeze template' = squeeze template := by
  obtain ⟨template', hnest, hsqueeze⟩ :=
    nest_alike h 0 0 rfl rfl .nil (nest_eq_ok_iff.mpr hnests)
  exact ⟨template', nest_eq_ok_iff.mp hnest, hsqueeze⟩

/-! ## Sections inside a template -/

mutual

def Node.descendants : Node → List Node
  | .text t => [.text t]
  | .variable name escaped => [.variable name escaped]
  | .section name inverted body children =>
    .section name inverted body children :: descendants children

def descendants : List Node → List Node
  | [] => []
  | node :: rest => node.descendants ++ descendants rest

end

theorem descendants_append (nodes more : List Node) :
    descendants (nodes ++ more) = descendants nodes ++ descendants more := by
  induction nodes with
  | nil => rfl
  | cons node nodes ih => rw [List.cons_append, descendants, descendants, ih, List.append_assoc]

/-- A section at any depth is the pieces between its two tags. -/
theorem exists_pieces_of_section {pieces : List Piece} {template : Template}
    (h : Nests pieces template) {name body : Text} {inverted : Bool} {children : List Node}
    (hsection : .section name inverted body children ∈ descendants template) :
    ∃ before opening inner closing after,
      pieces = before ++ .tag opening (.openSection name inverted) ::
        (inner ++ .tag closing (.closeSection name) :: after) ∧
      Nests inner children ∧ inner.flatMap Piece.source = body := by
  induction h with
  | nil => cases hsection
  | @leaf piece written nodes rest hleaf _ ih =>
    have hrest : .section name inverted body children ∈ descendants nodes := by
      rw [descendants_append, List.mem_append] at hsection
      refine hsection.resolve_left ?_
      rcases piece with t | t | ⟨source, name | name | name | _⟩
      case text | margin | tag.variable | tag.silent =>
        obtain rfl := Option.some.inj hleaf
        simp [descendants, Node.descendants]
      case tag.openSection | tag.closeSection => cases hleaf
    obtain ⟨before, opening, inner, closing, after, rfl, hinner⟩ := ih hrest
    exact ⟨piece :: before, opening, inner, closing, after, rfl, hinner⟩
  | @nested opening closing name' inverted' inner rest children' nodes hinner _ ihinner ih =>
    rw [descendants, Node.descendants, List.cons_append, List.mem_cons, List.mem_append] at hsection
    obtain heq | hchild | hrest := hsection
    · obtain ⟨rfl, rfl, rfl, rfl⟩ := Node.section.inj heq
      exact ⟨[], opening, inner, closing, rest, rfl, hinner, rfl⟩
    · obtain ⟨before, opening', inner', closing', after, rfl, hinner'⟩ := ihinner hchild
      refine ⟨.tag opening (.openSection name' inverted') :: before, opening', inner', closing',
        after ++ .tag closing (.closeSection name') :: rest, ?_, hinner'⟩
      simp
    · obtain ⟨before, opening', inner', closing', after, rfl, hinner'⟩ := ih hrest
      refine ⟨.tag opening (.openSection name' inverted') :: inner ++
        .tag closing (.closeSection name') :: before, opening', inner', closing', after, ?_,
        hinner'⟩
      simp

/-! ## Bodies -/

theorem flatMap_source_map_piece (segs : List Segment) :
    (segs.map Segment.piece).flatMap Piece.source = segs.flatMap Segment.source := by
  rw [List.flatMap_map]
  exact List.flatMap_congr fun seg _ ↦ seg.source_piece

/-- **The body of a section is a template, and its nodes are the children up to blanks.** Whatever
is made of either by section rules differs in blanks only. -/
theorem parse_body {source : Text} {template : Template} (h : parse source = .ok template)
    {name body : Text} {inverted : Bool} {children : List Node}
    (hsection : .section name inverted body children ∈ descendants template) :
    ∃ nodes, parse body = .ok nodes ∧ squeeze nodes = squeeze children ∧
      ∀ {σ : Type} (rules : SectionRules σ), rules.KeepsBlanks → ∀ scope : Scope,
        Text.withoutBlanks <$> renderAll rules scope nodes
          = Text.withoutBlanks <$> renderAll rules scope children := by
  obtain ⟨segs, hsegmented, -, hnests⟩ := parse_eq_ok_iff.mp h
  obtain ⟨before, opening, inner, closing, after, hpieces, hinner, hbody⟩ :=
    exists_pieces_of_section hnests hsection
  -- The segments between the two tags are those of the body.
  have hlaid := alike_map_piece hsegmented
  rw [hpieces] at hlaid
  obtain ⟨before', rest', hsegs, -, hrest⟩ := hlaid.split_tag
  obtain ⟨inner', after', rfl, halike, -⟩ := hrest.split_tag
  obtain ⟨segs₁, segs₂, rfl, -, hsegs₂⟩ := List.map_eq_append_iff.mp hsegs
  obtain ⟨seg, segs₃, rfl, -, hsegs₃⟩ := List.map_eq_cons_iff.mp hsegs₂
  obtain ⟨middle, segs₄, rfl, rfl, -⟩ := List.map_eq_append_iff.mp hsegs₃
  have hmiddle : Segmented middle := by
    rw [List.append_cons] at hsegmented
    exact hsegmented.of_append_right.of_append_left
  -- Both layouts of these segments are alike to what they are written as.
  obtain ⟨nodes', hnests', hsqueeze'⟩ := nests_alike halike hinner
  obtain ⟨nodes, hnodes, hsqueeze⟩ := nests_alike (alike_map_piece hmiddle).symm hnests'
  have hsource : middle.flatMap Segment.source = body := by
    rw [← hbody, halike.sources_eq, flatMap_source_map_piece]
  have hleft : squeeze nodes = squeeze children := hsqueeze.trans hsqueeze'
  exact ⟨nodes, parse_eq_ok_iff.mpr ⟨middle, hmiddle, hsource, hnodes⟩, hleft,
    fun rules hrules scope ↦ renderAll_congr hrules scope hleft⟩

theorem withoutBlanks_guarded (t : Text) :
    Text.withoutBlanks (Placeholder.guarded t) = Placeholder.guarded (Text.withoutBlanks t) := by
  induction t with
  | nil => rfl
  | cons c t ih =>
    have hblank : Placeholder.needsGuard c = true → Text.isBlank c = false := by
      rw [Placeholder.needsGuard, Bool.or_eq_true, beq_iff_eq, beq_iff_eq]
      rintro (rfl | rfl) <;> decide
    have hmark : Text.isBlank Placeholder.guardMark = false := by decide
    simp only [Placeholder.guarded, Text.withoutBlanks] at ih ⊢
    rw [List.flatMap_cons, List.filter_append, ih, List.filter_cons]
    cases hguard : Placeholder.needsGuard c with
    | true => simp [hblank hguard, hmark, hguard]
    | false => cases hc : Text.isBlank c <;> simp [hc, hguard]

/-- Pages are expanded by such rules: a guard stands before no blank. -/
theorem keepsBlanks_rules (style : IconStyle) (expand : Text → Scope → Pass Collected Text) :
    (Expansion.rules style expand).KeepsBlanks where
  filter_nil := rfl
  filter_withoutBlanks t := by
    rw [Expansion.rules, withoutBlanks_guarded, withoutBlanks_guarded,
      Text.withoutBlanks_withoutBlanks]

/-- A comment that stands alone in the body and not in the source. -/
def commentBody : Text :=
  ' ' :: opener ++ "! alone".toList ++ closer ++ [' ']

def commentSource : Text :=
  opener ++ "#js".toList ++ closer ++ commentBody ++ opener ++ "/js".toList ++ closer

theorem parse_commentSource : parse commentSource
    = .ok [.section "js".toList false commentBody [.text [' '], .text [' ']]] := by
  have hpieces : pieces commentSource = .ok [
      .tag (opener ++ "#js".toList ++ closer) (.openSection "js".toList false), .text [' '],
      .tag (opener ++ "! alone".toList ++ closer) .silent, .text [' '],
      .tag (opener ++ "/js".toList ++ closer) (.closeSection "js".toList)] := by
    decide +kernel
  rw [parse, hpieces]
  rfl

theorem parse_body_of_comment :
    ∃ nodes, parse commentBody = .ok nodes ∧ squeeze nodes = squeeze [.text [' '], .text [' ']] ∧
      ∀ style expand scope,
        Text.withoutBlanks <$> renderAll (Expansion.rules style expand) scope nodes
          = Text.withoutBlanks <$> renderAll (Expansion.rules style expand) scope
            [.text [' '], .text [' ']] := by
  obtain ⟨nodes, hparse, hsqueeze, hrender⟩ := parse_body parse_commentSource List.mem_cons_self
  exact ⟨nodes, hparse, hsqueeze, fun style expand ↦ hrender _ (keepsBlanks_rules style expand)⟩

end SiteClient.Template
