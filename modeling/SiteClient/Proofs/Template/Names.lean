import SiteClient.Proofs.Template.Balance

/-!
# The names in a source

What a template says about its contexts it says in its tags, and its nodes have the tags of the
source, in order, those apart that write nothing (`tags_eq`). So what holds of all names in a source
holds of all names in the template, however deep they stand, and the other way round (`names_eq`).
-/

namespace SiteClient.Template

/-! ## Tags -/

def Token.tag? : Token → Option Tag
  | .text _ => none
  | .variable name escaped => some (.variable name escaped)
  | .bracket b => some b.tag

def Node.tags (node : Node) : List Tag :=
  node.tokens.filterMap Token.tag?

def tags (nodes : List Node) : List Tag :=
  (tokensOf nodes).filterMap Token.tag?

theorem tags_cons (node : Node) (rest : List Node) :
    tags (node :: rest) = node.tags ++ tags rest := by
  rw [tags, tokensOf, List.filterMap_append, ← Node.tags, ← tags]

theorem Node.tags_section (name : Text) (inverted : Bool) (body : Text) (children : List Node) :
    (Node.section name inverted body children).tags
      = .openSection name inverted :: (Template.tags children ++ [.closeSection name]) := by
  simp [Node.tags, Template.tags, Node.tokens, Token.tag?, Bracket.tag]

/-- The tags of a source; none if they cannot be cut off. -/
def tagsOf (source : Text) : List Tag :=
  match segments source with
  | .ok segs => (segs.filterMap Segment.tag?).map Prod.snd
  | .error _ => []

theorem token?_bind_tag? (piece : Piece) :
    piece.token?.bind Token.tag? = (piece.tag?.map Prod.snd).filter (· ≠ .silent) := by
  rcases piece with t | t | ⟨source, name | name | name | _⟩ <;> rfl

/-- **The nodes of a template have the tags of its source.** -/
theorem tags_eq {source : Text} {template : Template} (h : parse source = .ok template) :
    tags template = (tagsOf source).filter (· ≠ .silent) := by
  obtain ⟨segs, hsegmented, hsource, hnests⟩ := parse_eq_ok_iff.mp h
  have hsegs : segments source = .ok segs := segmentsFrom_eq_ok_iff.mpr ⟨hsegmented, hsource⟩
  have htags : tagsOf source =
      (layOut true [] segs).filterMap fun piece ↦ piece.tag?.map Prod.snd := by
    rw [tagsOf, hsegs]
    dsimp only
    rw [← tags_layOut true [], List.map_filterMap]
  rw [tags, hnests.tokens_eq, htags, List.filterMap_filterMap, List.filter_filterMap]
  exact List.filterMap_congr fun piece _ ↦ token?_bind_tag? piece

/-! ## Names -/

def Tag.name? : Tag → Option Text
  | .variable name _ => some name
  | .openSection name _ => some name
  | .closeSection name => some name
  | .silent => none

/-- The names of the variables and sections of a source. -/
def namesOf (source : Text) : List Text :=
  (tagsOf source).filterMap Tag.name?

def Node.names (node : Node) : List Text :=
  node.tags.filterMap Tag.name?

def names (nodes : List Node) : List Text :=
  (tags nodes).filterMap Tag.name?

theorem names_cons (node : Node) (rest : List Node) :
    names (node :: rest) = node.names ++ names rest := by
  rw [names, tags_cons, List.filterMap_append, ← Node.names, ← names]

theorem Node.names_variable (name : Text) (escaped : Bool) :
    (Node.variable name escaped).names = [name] := rfl

theorem Node.names_section (name : Text) (inverted : Bool) (body : Text) (children : List Node) :
    (Node.section name inverted body children).names =
      name :: (Template.names children ++ [name]) := by
  rw [Node.names, Node.tags_section, Template.names]
  simp [Tag.name?]

theorem names_eq {source : Text} {template : Template} (h : parse source = .ok template) :
    names template = namesOf source := by
  rw [names, namesOf, tags_eq h, List.filterMap_filter]
  refine List.filterMap_congr fun tag _ ↦ ?_
  cases tag <;> rfl

end SiteClient.Template
