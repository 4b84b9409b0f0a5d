import SiteClient.Proofs.Template.Layout
import SiteClient.Proofs.Template.Nesting

/-!
# Spelling templates

A tree of texts, variables and sections can be written down as a source. On one line, with names
that can stand in a tag, the source is a template again, and the same one: its nodes are those of
the tree and the body of each section is what its children are written as (`parse_spell`).

Texts must not hold an open brace and must not follow one another, because a source has no mark
between two texts. Closing braces may stand anywhere in a text.
-/

namespace SiteClient.Template

/-! ## Trees and their spelling -/

/-- A node before it is written down: a section has no body yet. -/
inductive Sketch where
  | text (t : Text)
  | variable (name : Text) (escaped : Bool)
  | section (name : Text) (inverted : Bool) (children : List Sketch)

/-- How a variable is written: an unescaped one between three braces. -/
def variableSource (name : Text) (escaped : Bool) : Text :=
  if escaped then opener ++ name ++ closer else opener ++ '{' :: name ++ tripleCloser

def openingSource (name : Text) (inverted : Bool) : Text :=
  opener ++ (if inverted then '^' else '#') :: name ++ closer

def closingSource (name : Text) : Text :=
  opener ++ '/' :: name ++ closer

mutual

def Sketch.spell : Sketch → Text
  | .text t => t
  | .variable name escaped => variableSource name escaped
  | .section name inverted children =>
    openingSource name inverted ++ spell children ++ closingSource name

def spell : List Sketch → Text
  | [] => []
  | sketch :: rest => sketch.spell ++ spell rest

end

mutual

def Sketch.node : Sketch → Node
  | .text t => .text t
  | .variable name escaped => .variable name escaped
  | .section name inverted children => .section name inverted (spell children) (nodes children)

def nodes : List Sketch → List Node
  | [] => []
  | sketch :: rest => sketch.node :: nodes rest

end

/-- A name that stands in a tag as it is. -/
structure IsName (name : Text) : Prop where
  ne_nil : name ≠ []
  trim_eq : Text.trim name = name
  openBrace_not_mem : '{' ∉ name
  closeBrace_not_mem : '}' ∉ name
  head_not_mem : ∀ c ∈ name.head?, c ∉ marks

/-- A text that is one segment and leaves every line as it is. -/
structure IsPlain (t : Text) : Prop where
  ne_nil : t ≠ []
  openBrace_not_mem : '{' ∉ t
  newline_not_mem : '\n' ∉ t

/-- Trees that can be written on one line and read again. -/
inductive Spellable : List Sketch → Prop
  | nil : Spellable []
  | text {t : Text} {rest : List Sketch} (ht : IsPlain t)
      (hnext : ∀ t', rest.head? ≠ some (.text t'))
      (hrest : Spellable rest) : Spellable (.text t :: rest)
  | value {name : Text} {escaped : Bool} {rest : List Sketch} (hname : IsName name)
      (hrest : Spellable rest) : Spellable (.variable name escaped :: rest)
  | nested {name : Text} {inverted : Bool} {children rest : List Sketch} (hname : IsName name)
      (hchildren : Spellable children) (hrest : Spellable rest) :
      Spellable (.section name inverted children :: rest)

/-! ## Tags -/

namespace IsName

variable {name : Text}

theorem tagName_eq (h : IsName name) : tagName name = .ok name := by
  rw [tagName, h.trim_eq]
  cases name with
  | nil => exact absurd rfl h.ne_nil
  | cons c name => rfl

theorem ofContent_eq (h : IsName name) : Tag.ofContent name = .ok (.variable name true) := by
  have hmark := h.head_not_mem
  rw [Tag.ofContent.eq_def]
  split
  case h_8 => rw [h.tagName_eq]; rfl
  all_goals exact absurd (by decide) (hmark _ rfl)

theorem isTag_variable (h : IsName name) (escaped : Bool) :
    IsTag (variableSource name escaped) (.variable name escaped) := by
  cases escaped with
  | true =>
    refine isTag_of_content ?_ (Text.breakOn_append_of_not_mem h.closeBrace_not_mem) h.ofContent_eq
    exact fun hhead ↦ h.openBrace_not_mem (List.mem_of_mem_head? hhead)
  | false =>
    refine isTag_of_tripleContent (Text.breakOn_append_of_not_mem ?_) h.tagName_eq
    exact List.not_mem_cons_of_ne_of_not_mem (by decide) h.closeBrace_not_mem

theorem isTag_mark (h : IsName name) (mark : Char) {tag : Tag} (hbrace : mark ≠ '{' ∧ mark ≠ '}')
    (htag : Tag.ofContent (mark :: name) = .ok tag) :
    IsTag (opener ++ mark :: name ++ closer) tag := by
  refine isTag_of_content ?_ (Text.breakOn_append_of_not_mem ?_) htag
  · exact fun hhead ↦ hbrace.1 (Option.some.inj hhead)
  · exact List.not_mem_cons_of_ne_of_not_mem hbrace.2.symm h.closeBrace_not_mem

theorem isTag_opening (h : IsName name) (inverted : Bool) :
    IsTag (openingSource name inverted) (.openSection name inverted) := by
  cases inverted with
  | true => exact h.isTag_mark '^' (by decide) (by rw [Tag.ofContent, h.tagName_eq]; rfl)
  | false => exact h.isTag_mark '#' (by decide) (by rw [Tag.ofContent, h.tagName_eq]; rfl)

theorem isTag_closing (h : IsName name) : IsTag (closingSource name) (.closeSection name) :=
  h.isTag_mark '/' (by decide) (by rw [Tag.ofContent, h.tagName_eq]; rfl)

end IsName

/-! ## Segments -/

mutual

def Sketch.segments : Sketch → List Segment
  | .text t => [.text t]
  | .variable name escaped => [.tag (variableSource name escaped) (.variable name escaped)]
  | .section name inverted children =>
    .tag (openingSource name inverted) (.openSection name inverted) ::
      (spelled children ++ [.tag (closingSource name) (.closeSection name)])

/-- The segments that nodes are written as. -/
def spelled : List Sketch → List Segment
  | [] => []
  | sketch :: rest => sketch.segments ++ spelled rest

end

mutual

theorem Sketch.flatMap_source_segments :
    ∀ sketch : Sketch, sketch.segments.flatMap Segment.source = sketch.spell
  | .text t => by simp [Sketch.segments, Sketch.spell, Segment.source]
  | .variable name escaped => by simp [Sketch.segments, Sketch.spell, Segment.source]
  | .section name inverted children => by
    simp [Sketch.segments, Sketch.spell, Segment.source, flatMap_source_spelled children]

theorem flatMap_source_spelled :
    ∀ sketches : List Sketch, (spelled sketches).flatMap Segment.source = spell sketches
  | [] => rfl
  | sketch :: rest => by
    rw [spelled, spell, List.flatMap_append, sketch.flatMap_source_segments,
      flatMap_source_spelled rest]

end

def startsWithText (segs : List Segment) : Prop :=
  ∃ t, segs.head? = some (.text t)

theorem not_startsWithText_nil : ¬startsWithText [] := by
  rintro ⟨t, ⟨⟩⟩

theorem not_startsWithText_tag (source : Text) (tag : Tag) (later : List Segment) :
    ¬startsWithText (.tag source tag :: later) := by
  rintro ⟨t, ⟨⟩⟩

/-- A plain text is cut off from whatever follows it, unless that is a text too. -/
theorem segmented_text {t : Text} (ht : IsPlain t) {later : List Segment}
    (hnext : ¬startsWithText later) (hlater : Segmented later) : Segmented (.text t :: later) := by
  have hclear : Text.breakOn opener (t ++ opener) = some (t, []) :=
    Text.breakOn_append_of_not_mem ht.openBrace_not_mem
  cases hlater with
  | nil => exact .last ht.ne_nil (Text.breakOn_eq_none_of_self (by decide) hclear)
  | tag htag hlater => exact .between ht.ne_nil hclear htag hlater
  | last | between => exact absurd ⟨_, rfl⟩ hnext

theorem not_startsWithText_spelled {sketches : List Sketch} {more : List Segment}
    (h : ∀ t, sketches.head? ≠ some (.text t)) (hmore : ¬startsWithText more) :
    ¬startsWithText (spelled sketches ++ more) := by
  match sketches with
  | [] => exact hmore
  | .text t :: _ => exact absurd rfl (h t)
  | .variable .. :: _ | .section .. :: _ => exact fun ⟨t, ht⟩ ↦ nomatch Option.some.inj ht

theorem segmented_spelled {sketches : List Sketch} (h : Spellable sketches) {more : List Segment}
    (hmore : Segmented more) (hnext : ¬startsWithText more) :
    Segmented (spelled sketches ++ more) := by
  induction h generalizing more with
  | nil => exact hmore
  | text ht hhead _ ih =>
    exact segmented_text ht (not_startsWithText_spelled hhead hnext) (ih hmore hnext)
  | value hname _ ih => exact .tag (hname.isTag_variable _) (ih hmore hnext)
  | @nested name inverted children rest hname _ _ ihchildren ih =>
    rw [spelled, Sketch.segments, List.append_assoc, List.cons_append, List.append_assoc,
      List.singleton_append]
    refine .tag (hname.isTag_opening inverted) ?_
    -- The children stand before the tag that closes their section.
    exact ihchildren (.tag hname.isTag_closing (ih hmore hnext)) (not_startsWithText_tag _ _ _)

theorem newline_not_mem_spelled {sketches : List Sketch} (h : Spellable sketches) {t : Text}
    (ht : .text t ∈ spelled sketches) : '\n' ∉ t := by
  induction h with
  | nil => cases ht
  | text hplain _ _ ih =>
    obtain heq | ht := List.mem_cons.mp ht
    · obtain rfl := Segment.text.inj heq
      exact hplain.newline_not_mem
    · exact ih ht
  | value _ _ ih =>
    obtain heq | ht := List.mem_cons.mp ht
    · cases heq
    · exact ih ht
  | nested _ _ _ ihchildren ih =>
    rw [spelled, Sketch.segments, List.mem_append, List.mem_cons, List.mem_append,
      List.mem_singleton] at ht
    obtain (heq | ht | heq) | ht := ht
    · cases heq
    · exact ihchildren ht
    · cases heq
    · exact ih ht

/-! ## Layout and nesting -/

/-- On one line no tag of a tree stands alone: a section has two. -/
theorem layOut_spelled {sketches : List Sketch} (h : Spellable sketches) (before : Text) :
    layOut true before (spelled sketches) = asWritten before (spelled sketches) := by
  induction h generalizing before with
  | nil => rw [spelled, layOut, asWritten]
  | text _ _ _ ih =>
    rw [spelled, Sketch.segments, List.singleton_append, layOut, asWritten]
    exact ih _
  | value _ hrest _ =>
    rw [spelled, Sketch.segments, List.singleton_append, layOut_tag (.inl rfl), asWritten,
      layOut_of_not_mem List.not_mem_nil fun t ↦ newline_not_mem_spelled hrest]
  | @nested name inverted children rest hname hchildren hrest _ _ =>
    have hline : ∀ t, .text t ∈ spelled (.section name inverted children :: rest) → '\n' ∉ t :=
      fun t ↦ newline_not_mem_spelled (.nested hname hchildren hrest)
    rw [spelled, Sketch.segments, List.cons_append] at hline ⊢
    have hlater := fun t ht ↦ hline t (List.mem_cons_of_mem _ ht)
    -- The line goes on with the tag that closes the section, at the latest.
    have hclosing : .tag (closingSource name) (.closeSection name) ∈
        (spelled children ++ [.tag (closingSource name) (.closeSection name)]) ++ spelled rest :=
      List.mem_append_left _ (List.mem_append_right _ (List.mem_singleton_self _))
    rw [layOut_tag (.inr (.inr (lineEnd?_eq_none hlater hclosing))), asWritten,
      layOut_of_not_mem List.not_mem_nil hlater]

theorem nests_spelled {sketches : List Sketch} (h : Spellable sketches) :
    Nests ((spelled sketches).map Segment.piece) (nodes sketches) := by
  induction h with
  | nil => exact .nil
  | @text t _ _ _ _ ih => exact .leaf (.text t) rfl ih
  | @value name escaped _ _ _ ih =>
    exact .leaf (.tag (variableSource name escaped) (.variable name escaped)) rfl ih
  | @nested name inverted children rest _ _ _ ihchildren ih =>
    have hbody : ((spelled children).map Segment.piece).flatMap Piece.source = spell children := by
      rw [List.flatMap_map, ← flatMap_source_spelled]
      exact List.flatMap_congr fun seg _ ↦ seg.source_piece
    have hsection :=
      Nests.nested (openingSource name inverted) (closingSource name) name inverted ihchildren ih
    rw [hbody] at hsection
    rw [spelled, nodes, Sketch.segments, Sketch.node]
    simpa [Segment.piece] using hsection

/-- **What a tree is written as is a template, and the same tree.** -/
theorem parse_spell {sketches : List Sketch} (h : Spellable sketches) :
    parse (spell sketches) = .ok (nodes sketches) := by
  have hsegmented : Segmented (spelled sketches) := by
    have hnil := segmented_spelled h .nil (fun ⟨t, ht⟩ ↦ nomatch ht)
    rwa [List.append_nil] at hnil
  refine parse_eq_ok_iff.mpr
    ⟨spelled sketches, hsegmented, flatMap_source_spelled sketches, ?_⟩
  rw [layOut_spelled h, asWritten_eq_map hsegmented]
  exact nests_spelled h

/-- A section in an inverted one, around a variable between braces that close nothing. -/
def nestedSketch : List Sketch :=
  [.text " \x7d".toList, .section "a.b".toList true
    [.section "c d".toList false
      [.text "\x7d".toList, .variable "e".toList false, .text "\x7d\x7d ".toList],
    .variable ['.'] true]]

theorem spellable_nestedSketch : Spellable nestedSketch := by
  refine .text ⟨by decide, by decide, by decide⟩ (by simp) ?_
  refine .nested ⟨by decide, by decide, by decide, by decide, by simp [marks]⟩ ?_ .nil
  refine .nested ⟨by decide, by decide, by decide, by decide, by simp [marks]⟩ ?_ (.value ?_ .nil)
  · refine .text ⟨by decide, by decide, by decide⟩ (by simp) ?_
    refine .value ⟨by decide, by decide, by decide, by decide, by simp [marks]⟩ ?_
    exact .text ⟨by decide, by decide, by decide⟩ (by simp) .nil
  · exact ⟨by decide, by decide, by decide, by decide, by simp [marks]⟩

theorem parse_spell_of_nestedSketch :
    Spellable nestedSketch ∧ parse (spell nestedSketch) = .ok (nodes nestedSketch) :=
  ⟨spellable_nestedSketch, parse_spell spellable_nestedSketch⟩

end SiteClient.Template
