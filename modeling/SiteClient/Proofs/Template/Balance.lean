import SiteClient.Proofs.Template.Layout
import SiteClient.Proofs.Template.Nesting
import SiteClient.Template.Render

/-!
# Balanced sources

Which sources are templates can be said without reading them: each tag is closed and allowed
(`Inscribed`, `Inscription.IsSound`), and the sections are `Balanced`. The nodes of a template are
the tokens of its source in their order, the ends of the sections included. A source that is no
template is refused with the position of a tag, be it the one where the reading stopped or the
opening tag of a section that has been left open (`parses`).

Neither the layout nor the stack of the open sections matters to this: the layout keeps all tags
(`tags_layOut`), and that pieces nest depends on nothing but the ends of sections among them
(`exists_nests_iff`).
-/

namespace SiteClient.Template

/-! ## Tags as they are written -/

/-- What is written between the braces of a tag, two or three of them. -/
structure Inscription where
  triple : Bool
  content : Text

namespace Inscription

variable (w : Inscription)

def closer : Text :=
  if w.triple then tripleCloser else Template.closer

/-- The tag with its braces. -/
def source : Text :=
  opener ++ (if w.triple then '{' :: w.content else w.content) ++ w.closer

/-- The mark that tells the kind of the tag. -/
def mark? : Option Char :=
  match w.triple, w.content with
  | false, c :: _ => if c ∈ marks then some c else none
  | _, _ => none

/-- The name in the tag: what is written behind the mark, without the blanks around it. -/
def name : Text :=
  Text.trim (if w.mark?.isSome then w.content.drop 1 else w.content)

/-- What the tag asks for, if it is allowed. -/
def tag : Tag :=
  match w.mark? with
  | some '#' => .openSection w.name false
  | some '^' => .openSection w.name true
  | some '/' => .closeSection w.name
  | some '&' => .variable w.name false
  | some _ => .silent
  | none => .variable w.name (!w.triple)

/-- The closer is the first behind the opener, and three braces close what three have opened. -/
structure IsClosed : Prop where
  closes_first : Text.breakOn w.closer (w.content ++ w.closer) = some (w.content, [])
  brace_of_double : w.triple = false → w.content.head? ≠ some '{'

/-- The tag is allowed: it has a name or is a comment, and does not set other delimiters. -/
@[mk_iff]
structure IsSound : Prop where
  named : w.mark? ≠ some '!' → w.name ≠ []
  not_delimiter : w.mark? ≠ some '='

end Inscription

theorem tagName_eq (content : Text) :
    tagName content =
      if Text.trim content = [] then .error .emptyTag else .ok (Text.trim content) := by
  rw [tagName.eq_def]
  cases Text.trim content <;> rfl

theorem tagName_eq_ok_iff {content name : Text} :
    tagName content = .ok name ↔ Text.trim content ≠ [] ∧ Text.trim content = name := by
  rw [tagName_eq]
  split <;> simp_all

theorem ofContent_eq_ok_iff {content : Text} {tag : Tag} :
    Tag.ofContent content = .ok tag ↔
      (Inscription.mk false content).IsSound ∧ (Inscription.mk false content).tag = tag := by
  rw [Tag.ofContent.eq_def, Inscription.isSound_iff, Inscription.tag, Inscription.name]
  split
  case h_8 =>
    have hmark : (Inscription.mk false content).mark? = none := by
      cases content with
      | nil => rfl
      | cons c rest => simp_all [Inscription.mark?, marks]
    by_cases hname : Text.trim content = [] <;>
      simp [hmark, tagName_eq, hname, bind, Except.bind, pure, Except.pure]
  all_goals
    rename_i rest
    by_cases hname : Text.trim rest = [] <;>
      simp [Inscription.mark?, marks, tagName_eq, hname, bind, Except.bind, pure,
        Except.pure, throw, throwThe, MonadExceptOf.throw]

theorem breakOn_brace_iff {content : Text} :
    Text.breakOn tripleCloser ('{' :: content ++ tripleCloser) = some ('{' :: content, []) ↔
      Text.breakOn tripleCloser (content ++ tripleCloser) = some (content, []) := by
  have hbrace : '}' ∉ ['{'] := by decide
  have hmap : Text.breakOn tripleCloser ('{' :: content ++ tripleCloser)
      = (Text.breakOn tripleCloser (content ++ tripleCloser)).map fun cut ↦ ('{' :: cut.1, cut.2) :=
    Text.breakOn_append_left hbrace (content ++ tripleCloser)
  rw [hmap, Option.map_eq_some_iff]
  constructor
  · rintro ⟨⟨before, after⟩, hbreak, hcut⟩
    obtain ⟨hbefore, rfl⟩ := Prod.mk.inj hcut
    obtain ⟨-, rfl⟩ := List.cons.inj hbefore
    exact hbreak
  · exact fun h ↦ ⟨_, h, rfl⟩

theorem isTag_iff_inscription {source : Text} {tag : Tag} :
    IsTag source tag ↔
      ∃ w : Inscription, w.IsClosed ∧ w.IsSound ∧ w.source = source ∧ w.tag = tag := by
  rw [isTag_iff_written]
  constructor
  · rintro (⟨hbrace, hcloser, htag⟩ | ⟨hcloser, hname⟩)
    case double content =>
      obtain ⟨hsound, rfl⟩ := ofContent_eq_ok_iff.mp htag
      exact ⟨⟨false, content⟩, ⟨hcloser, fun _ ↦ hbrace⟩, hsound, rfl, rfl⟩
    case triple content name =>
      obtain ⟨hblank, rfl⟩ := tagName_eq_ok_iff.mp hname
      exact ⟨⟨true, content⟩, ⟨breakOn_brace_iff.mp hcloser, nofun⟩,
        ⟨fun _ ↦ hblank, nofun⟩, rfl, rfl⟩
  · rintro ⟨⟨triple, content⟩, ⟨hcloser, hbrace⟩, hsound, rfl, rfl⟩
    cases triple with
    | false => exact .double (hbrace rfl) hcloser (ofContent_eq_ok_iff.mpr ⟨hsound, rfl⟩)
    | true =>
      exact .triple (breakOn_brace_iff.mpr hcloser)
        (tagName_eq_ok_iff.mpr ⟨hsound.named nofun, rfl⟩)

/-! ## Sources with their tags -/

/-- The tags of a source from left to right, each up to its closer. -/
inductive Inscribed : Text → List Inscription → Prop
  | last {t : Text} (hclear : Text.breakOn opener t = none) : Inscribed t []
  | tag {before rest : Text} {w : Inscription} {ws : List Inscription}
      (hclear : Text.breakOn opener (before ++ opener) = some (before, [])) (hclosed : w.IsClosed)
      (hrest : Inscribed rest ws) : Inscribed (before ++ (w.source ++ rest)) (w :: ws)

def Inscription.written (w : Inscription) : Text × Tag :=
  (w.source, w.tag)

@[simp] theorem tags_textSegment (t : Text) : (textSegment t).filterMap Segment.tag? = [] := by
  rw [textSegment]
  split <;> rfl

theorem Inscribed.exists_segmented {source : Text} {ws : List Inscription} (h : Inscribed source ws)
    (hsound : ∀ w ∈ ws, w.IsSound) :
    ∃ segs, Segmented segs ∧ segs.flatMap Segment.source = source ∧
      segs.filterMap Segment.tag? = ws.map Inscription.written := by
  induction h with
  | @last t hclear =>
    have hcut : segmentsFrom 0 t = .ok (textSegment t) := segmentsFrom_text hclear
    obtain ⟨hsegmented, hsource⟩ := segmentsFrom_eq_ok_iff.mp hcut
    exact ⟨_, hsegmented, hsource, tags_textSegment t⟩
  | @tag before rest w ws hclear hclosed _ ih =>
    obtain ⟨hw, hws⟩ := List.forall_mem_cons.mp hsound
    obtain ⟨segs, hsegs, rfl, htags⟩ := ih hws
    have htag : IsTag w.source w.tag := isTag_iff_inscription.mpr ⟨w, hclosed, hw, rfl, rfl⟩
    refine ⟨_, .textSegment_tag hclear htag hsegs, ?_, ?_⟩
    · simp [Segment.source]
    · simp [Segment.tag?, htags, Inscription.written]

theorem Segmented.exists_inscribed {segs : List Segment} (h : Segmented segs) :
    ∃ ws, Inscribed (segs.flatMap Segment.source) ws ∧ (∀ w ∈ ws, w.IsSound) ∧
      segs.filterMap Segment.tag? = ws.map Inscription.written := by
  have htagged {before source : Text} {tag : Tag} {later : List Segment}
      (hclear : Text.breakOn opener (before ++ opener) = some (before, []))
      (htag : IsTag source tag)
      (ih : ∃ ws, Inscribed (later.flatMap Segment.source) ws ∧ (∀ w ∈ ws, w.IsSound) ∧
        later.filterMap Segment.tag? = ws.map Inscription.written) :
      ∃ ws, Inscribed (before ++ (source ++ later.flatMap Segment.source)) ws ∧
        (∀ w ∈ ws, w.IsSound) ∧
        (source, tag) :: later.filterMap Segment.tag? = ws.map Inscription.written := by
    obtain ⟨w, hclosed, hsound, rfl, rfl⟩ := isTag_iff_inscription.mp htag
    obtain ⟨ws, hws, hall, htags⟩ := ih
    exact ⟨w :: ws, .tag hclear hclosed hws, List.forall_mem_cons.mpr ⟨hsound, hall⟩, by
      rw [htags, List.map_cons, Inscription.written]⟩
  have hempty : Text.breakOn opener ([] ++ opener) = some ([], []) := rfl
  induction h with
  | nil => exact ⟨[], .last rfl, nofun, rfl⟩
  | @last t hne hclear => exact ⟨[], .last (by simpa [Segment.source] using hclear), nofun, rfl⟩
  | tag htag _ ih => exact htagged hempty htag ih
  | between hne hclear htag _ ih => exact htagged hclear htag ih

/-! ## Sections -/

/-- One end of a section. -/
inductive Bracket where
  | opens (name : Text) (inverted : Bool)
  | closes (name : Text)
  deriving DecidableEq, Repr

/-- The tag that the end of a section is. -/
def Bracket.tag : Bracket → Tag
  | .opens name inverted => .openSection name inverted
  | .closes name => .closeSection name

/-- The end of a section that the tag is. -/
def Tag.bracket? : Tag → Option Bracket
  | .openSection name inverted => some (.opens name inverted)
  | .closeSection name => some (.closes name)
  | .variable .. | .silent => none

/-- Every section is closed by its own name, and the last one opened is the first one closed. -/
inductive Balanced : List Bracket → Prop
  | nil : Balanced []
  | nested (name : Text) (inverted : Bool) {inner rest : List Bracket} (hinner : Balanced inner)
      (hrest : Balanced rest) : Balanced (.opens name inverted :: (inner ++ .closes name :: rest))

/-- The ends of sections among tags. -/
def brackets (tags : List (Text × Tag)) : List Bracket :=
  tags.filterMap fun t ↦ t.2.bracket?

/-- The end of a section that the piece is. -/
def Piece.bracket? (piece : Piece) : Option Bracket :=
  piece.tag?.bind fun t ↦ t.2.bracket?

theorem filterMap_bracket? (ps : List Piece) :
    ps.filterMap Piece.bracket? = brackets (ps.filterMap Piece.tag?) := by
  rw [brackets, List.filterMap_filterMap]
  rfl

theorem bracket?_eq_none_iff {piece : Piece} :
    piece.bracket? = none ↔ ∃ written, piece.leaf? = some written := by
  rcases piece with t | t | ⟨source, name | name | name | _⟩ <;>
    simp [Piece.bracket?, Piece.tag?, Tag.bracket?, Piece.leaf?]

theorem Nests.balanced {ps : List Piece} {nodes : List Node} (h : Nests ps nodes) :
    Balanced (ps.filterMap Piece.bracket?) := by
  induction h with
  | nil => exact .nil
  | leaf piece hleaf _ ih =>
    rw [List.filterMap_cons_none (bracket?_eq_none_iff.mpr ⟨_, hleaf⟩)]
    exact ih
  | nested opening closing name inverted _ _ ihinner ih =>
    simpa [Piece.bracket?, Piece.tag?, Tag.bracket?] using Balanced.nested name inverted ihinner ih

theorem Nests.leaves_append {leaves more : List Piece} {nodes : List Node}
    (hleaves : ∀ piece ∈ leaves, piece.bracket? = none) (hmore : Nests more nodes) :
    ∃ nodes, Nests (leaves ++ more) nodes := by
  induction leaves with
  | nil => exact ⟨nodes, hmore⟩
  | cons piece leaves ih =>
    obtain ⟨hpiece, hleaves⟩ := List.forall_mem_cons.mp hleaves
    obtain ⟨written, hleaf⟩ := bracket?_eq_none_iff.mp hpiece
    obtain ⟨nodes, hnests⟩ := ih hleaves
    exact ⟨written ++ nodes, .leaf piece hleaf hnests⟩

theorem Piece.eq_of_bracket? {piece : Piece} {b : Bracket} (h : piece.bracket? = some b) :
    ∃ source, piece = .tag source b.tag := by
  rcases piece with t | t | ⟨source, name | name | name | _⟩ <;> cases h <;> exact ⟨source, rfl⟩

theorem Balanced.exists_nests {bs : List Bracket} (h : Balanced bs) {ps : List Piece}
    (hps : ps.filterMap Piece.bracket? = bs) : ∃ nodes, Nests ps nodes := by
  induction h generalizing ps with
  | nil =>
    obtain ⟨nodes, hnests⟩ := Nests.nil.leaves_append (List.filterMap_eq_nil_iff.mp hps)
    rw [List.append_nil] at hnests
    exact ⟨nodes, hnests⟩
  | @nested name inverted inner rest _ _ ihinner ih =>
    -- The pieces are those in front of the section, those inside of it and those behind it.
    obtain ⟨before, opening, within, rfl, hbefore, hopening, hwithin⟩ :=
      List.filterMap_eq_cons_iff.mp hps
    obtain ⟨children, more, rfl, hchildren, hmore⟩ := List.filterMap_eq_append_iff.mp hwithin
    obtain ⟨last, closing, after, rfl, hlast, hclosing, hafter⟩ :=
      List.filterMap_eq_cons_iff.mp hmore
    obtain ⟨source, rfl⟩ := Piece.eq_of_bracket? hopening
    obtain ⟨source', rfl⟩ := Piece.eq_of_bracket? hclosing
    have hinner : (children ++ last).filterMap Piece.bracket? = inner := by
      rw [List.filterMap_append, hchildren, List.filterMap_eq_nil_iff.mpr hlast, List.append_nil]
    obtain ⟨nodes, hnodes⟩ := ihinner hinner
    obtain ⟨others, hothers⟩ := ih hafter
    have hsection := Nests.nested source source' name inverted hnodes hothers
    rw [List.append_assoc] at hsection
    exact hsection.leaves_append hbefore

/-- **Pieces nest exactly if their sections are balanced.** -/
theorem exists_nests_iff {ps : List Piece} :
    (∃ nodes, Nests ps nodes) ↔ Balanced (brackets (ps.filterMap Piece.tag?)) := by
  rw [← filterMap_bracket?]
  exact ⟨fun ⟨_, h⟩ ↦ h.balanced, fun h ↦ h.exists_nests rfl⟩

/-! ## Tokens -/

/-- What a piece contributes to the nodes, margins and comments apart. -/
inductive Token where
  | text (t : Text)
  | variable (name : Text) (escaped : Bool)
  | bracket (b : Bracket)
  deriving DecidableEq, Repr

def Piece.token? : Piece → Option Token
  | .text t => some (.text t)
  | .margin _ => none
  | .tag _ (.variable name escaped) => some (.variable name escaped)
  | .tag _ t => t.bracket?.map .bracket

mutual

/-- The tokens of a node: a section has its own ends around what is inside of it. -/
def Node.tokens : Node → List Token
  | .text t => [.text t]
  | .variable name escaped => [.variable name escaped]
  | .section name inverted _ children =>
    .bracket (.opens name inverted) :: (tokensOf children ++ [.bracket (.closes name)])

def tokensOf : List Node → List Token
  | [] => []
  | node :: rest => node.tokens ++ tokensOf rest

end

theorem tokensOf_append (nodes others : List Node) :
    tokensOf (nodes ++ others) = tokensOf nodes ++ tokensOf others := by
  induction nodes with
  | nil => rfl
  | cons node nodes ih => rw [List.cons_append, tokensOf, tokensOf, ih, List.append_assoc]

theorem tokensOf_leaf {piece : Piece} {written : List Node} (h : piece.leaf? = some written) :
    tokensOf written = piece.token?.toList := by
  rcases piece with t | t | ⟨source, name | name | name | _⟩ <;> cases h <;> rfl

/-- No token is lost in the nodes, and none is added. -/
theorem Nests.tokens_eq {ps : List Piece} {nodes : List Node} (h : Nests ps nodes) :
    tokensOf nodes = ps.filterMap Piece.token? := by
  induction h with
  | nil => rfl
  | leaf piece hleaf _ ih =>
    rw [tokensOf_append, tokensOf_leaf hleaf, ih, List.filterMap_cons]
    cases piece.token? <;> rfl
  | nested opening closing name inverted _ _ ihinner ih =>
    simp [tokensOf, Node.tokens, ihinner, ih, Piece.token?, Tag.bracket?]

/-! ## Errors -/

theorem exists_opener_of_segmentsFrom {position : ℕ} {source : Text} {e : ParseError}
    (h : segmentsFrom position source = .error e) :
    ∃ before after, source = before ++ (opener ++ after) ∧
      e.position = position + Text.byteSize before := by
  fun_induction segmentsFrom position source with
  | case1 => cases h
  | case2 position source before inner hbreak start fault hcut =>
    obtain rfl := Except.error.inj h
    exact ⟨before, inner, by rw [Text.eq_of_breakOn hbreak, List.append_assoc], rfl⟩
  | case3 position source before inner hbreak start cut hcut _ e' hlater ih =>
    obtain rfl := Except.error.inj h
    obtain ⟨between, after, hrest, hposition⟩ := ih hlater
    refine ⟨before ++ (cut.source ++ between), after, ?_, ?_⟩
    · rw [Text.eq_of_breakOn hbreak, List.append_assoc, eq_of_cutTag hcut, hrest]
      simp only [List.append_assoc]
    · rw [hposition, Text.byteSize_append, Text.byteSize_append]
      omega
  | case4 => cases h

/-- A tag stands at a position among pieces, the first of which stands at the position given
first. -/
inductive TagAt : ℕ → List Piece → ℕ → Prop
  | here {position : ℕ} {source : Text} {tag : Tag} {rest : List Piece} :
      TagAt position (.tag source tag :: rest) position
  | later {position n : ℕ} {piece : Piece} {rest : List Piece}
      (hrest : TagAt (position + Text.byteSize piece.source) rest n) :
      TagAt position (piece :: rest) n

theorem TagAt.exists_append {position n : ℕ} {ps : List Piece} (h : TagAt position ps n) :
    ∃ before source tag after, ps = before ++ .tag source tag :: after ∧
      n = position + Text.byteSize (before.flatMap Piece.source) := by
  induction h with
  | here => exact ⟨[], _, _, _, rfl, rfl⟩
  | @later position n piece rest _ ih =>
    obtain ⟨before, source, tag, after, rfl, rfl⟩ := ih
    refine ⟨piece :: before, source, tag, after, rfl, ?_⟩
    rw [List.flatMap_cons, Text.byteSize_append, Nat.add_assoc]

/-- Pieces that do not nest go wrong at a tag, maybe at that of a section that has been opened
before. -/
theorem tagAt_of_nest {position : ℕ} {body : List Text} {acc : List Node} {stack : List OpenSection}
    {ps : List Piece} {e : ParseError} (h : nest position body acc stack ps = .error e) :
    (∃ frame ∈ stack, frame.position = e.position) ∨ TagAt position ps e.position := by
  induction ps generalizing position body acc stack with
  | nil =>
    cases stack with
    | nil => cases h
    | cons frame stack =>
      obtain rfl := Except.error.inj h
      exact .inl ⟨frame, List.mem_cons_self, rfl⟩
  | cons piece rest ih =>
    rcases piece with t | t | ⟨source, name | ⟨name, inverted⟩ | name | _⟩
    case text | margin | tag.variable | tag.silent => exact (ih h).imp_right .later
    case tag.openSection =>
      obtain ⟨frame, hframe, hposition⟩ | hrest := ih h
      · obtain rfl | hframe := List.mem_cons.mp hframe
        · exact .inr (hposition ▸ .here)
        · exact .inl ⟨frame, hframe, hposition⟩
      · exact .inr (.later hrest)
    case tag.closeSection =>
      rw [nest.eq_def] at h
      cases stack with
      | nil =>
        obtain rfl := Except.error.inj h
        exact .inr .here
      | cons frame stack =>
        dsimp only at h
        split at h
        · obtain ⟨frame', hframe, hposition⟩ | hrest := ih h
          · exact .inl ⟨frame', List.mem_cons_of_mem _ hframe, hposition⟩
          · exact .inr (.later hrest)
        · obtain rfl := Except.error.inj h
          exact .inr .here

theorem exists_opener_of_parse {source : Text} {e : ParseError} (h : parse source = .error e) :
    ∃ before after, source = before ++ (opener ++ after) ∧ e.position = Text.byteSize before := by
  rw [parse, pieces, segments] at h
  cases hsegs : segmentsFrom 0 source with
  | error e' =>
    rw [hsegs] at h
    obtain rfl := Except.error.inj h
    simpa using exists_opener_of_segmentsFrom hsegs
  | ok segs =>
    rw [hsegs] at h
    obtain ⟨hsegmented, rfl⟩ := segmentsFrom_eq_ok_iff.mp hsegs
    obtain ⟨frame, hframe, -⟩ | htag := tagAt_of_nest h
    · cases hframe
    · obtain ⟨before, source, tag, after, hpieces, hposition⟩ := htag.exists_append
      have hsources := sources_layOut true [] segs
      have hmem : (source, tag) ∈ segs.filterMap Segment.tag? := by
        rw [← tags_layOut true [] segs, hpieces]
        simp [Piece.tag?]
      obtain ⟨seg, hseg, htag⟩ := List.mem_filterMap.mp hmem
      obtain rfl := Segment.tag?_eq_some_iff.mp htag
      obtain ⟨inner, rfl, -⟩ := hsegmented.isTag_of_mem hseg
      refine ⟨before.flatMap Piece.source, inner ++ after.flatMap Piece.source, ?_, ?_⟩
      · rw [← List.nil_append (segs.flatMap Segment.source), ← hsources, hpieces]
        simp [Piece.source]
      · rw [hposition, Nat.zero_add]

/-! ## Reading a source -/

theorem parsed_eq_ok_iff {source : Text} {template : Template} :
    parsed source = .ok template ↔ parse source = .ok template := by
  rw [parsed]
  cases parse source <;> simp [Except.mapError]

theorem parsed_eq_error_iff {source : Text} {e : TemplateError} :
    parsed source = .error e ↔ ∃ error, parse source = .error error ∧ e = .parse error := by
  rw [parsed]
  cases parse source <;> simp [Except.mapError, eq_comm]

theorem exists_parse_iff {source : Text} :
    (∃ template, parse source = .ok template) ↔
      ∃ ws, Inscribed source ws ∧ (∀ w ∈ ws, w.IsSound) ∧
        Balanced (ws.filterMap fun w ↦ w.tag.bracket?) := by
  have hbrackets (ws : List Inscription) :
      brackets (ws.map Inscription.written) = ws.filterMap fun w ↦ w.tag.bracket? := by
    rw [brackets, List.filterMap_map]
    rfl
  constructor
  · rintro ⟨template, h⟩
    obtain ⟨segs, hsegmented, rfl, hnests⟩ := parse_eq_ok_iff.mp h
    obtain ⟨ws, hws, hsound, htags⟩ := hsegmented.exists_inscribed
    refine ⟨ws, hws, hsound, ?_⟩
    rw [← hbrackets, ← htags, ← tags_layOut true []]
    exact exists_nests_iff.mp ⟨template, hnests⟩
  · rintro ⟨ws, hws, hsound, hbalanced⟩
    obtain ⟨segs, hsegmented, hsource, htags⟩ := hws.exists_segmented hsound
    rw [← hbrackets, ← htags, ← tags_layOut true []] at hbalanced
    obtain ⟨template, hnests⟩ := exists_nests_iff.mpr hbalanced
    exact ⟨template, parse_eq_ok_iff.mpr ⟨segs, hsegmented, hsource, hnests⟩⟩

/-- What becomes of a source that is parsed. -/
structure Parses (source : Text) : Prop where
  /-- A template is a source with tags that are closed and allowed, and with balanced sections. -/
  accepts : (∃ template, parsed source = .ok template) ↔
    ∃ ws, Inscribed source ws ∧ (∀ w ∈ ws, w.IsSound) ∧
      Balanced (ws.filterMap fun w ↦ w.tag.bracket?)
  /-- The nodes are the tokens of the source, each in its place. -/
  keeps : ∀ template, parsed source = .ok template →
    ∃ ps, pieces source = .ok ps ∧ tokensOf template = ps.filterMap Piece.token?
  /-- An error is one of syntax, and is found where a tag opens. -/
  locates : ∀ e, parsed source = .error e →
    ∃ position fault before after, e = .parse ⟨position, fault⟩ ∧
      source = before ++ (opener ++ after) ∧ position = Text.byteSize before

/-- **Balanced sources are templates, token by token, and in all others a tag is at fault.** -/
theorem parses (source : Text) : Parses source where
  accepts := by
    simp only [← exists_parse_iff, parsed_eq_ok_iff]
  keeps template h := by
    obtain ⟨segs, hsegmented, hsource, hnests⟩ := parse_eq_ok_iff.mp (parsed_eq_ok_iff.mp h)
    exact ⟨_, pieces_eq_ok_iff.mpr ⟨segs, hsegmented, hsource, rfl⟩, hnests.tokens_eq⟩
  locates e h := by
    obtain ⟨⟨position, fault⟩, hparse, rfl⟩ := parsed_eq_error_iff.mp h
    obtain ⟨before, after, hsource, hposition⟩ := exists_opener_of_parse hparse
    exact ⟨position, fault, before, after, rfl, hsource, hposition⟩

end SiteClient.Template
