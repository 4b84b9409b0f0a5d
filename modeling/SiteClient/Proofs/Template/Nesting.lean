import SiteClient.Template.Tree
import SiteClient.Proofs.Template.Layout

/-!
# How pieces nest

`nest` reads pieces from left to right and keeps a stack of the sections that are open. `Nests` is
the grammar that it follows, stated without a stack: a section is an opening tag, pieces that nest,
and the closing tag of the same name, and its body is what those pieces are written as. The two
agree (`nest_eq_ok_iff`), so whatever concerns the sections of a template can be shown by induction
over the grammar (`parse_eq_ok_iff`).
-/

namespace SiteClient.Template

/-! ## The grammar -/

/-- The nodes of a piece that stands for itself; none of the tags of a section does. -/
def Piece.leaf? : Piece → Option (List Node)
  | .text t => some [.text t]
  | .margin _ => some []
  | .tag _ (.variable name escaped) => some [.variable name escaped]
  | .tag _ .silent => some []
  | .tag _ (.openSection ..) | .tag _ (.closeSection _) => none

/-- The pieces are well nested and spell the nodes. -/
inductive Nests : List Piece → List Node → Prop
  | nil : Nests [] []
  | leaf (piece : Piece) {written nodes : List Node} {rest : List Piece}
      (hleaf : piece.leaf? = some written) (hrest : Nests rest nodes) :
      Nests (piece :: rest) (written ++ nodes)
  | nested (opening closing name : Text) (inverted : Bool) {inner rest : List Piece}
      {children nodes : List Node} (hinner : Nests inner children) (hrest : Nests rest nodes) :
      Nests (.tag opening (.openSection name inverted) ::
          (inner ++ .tag closing (.closeSection name) :: rest))
        (.section name inverted (inner.flatMap Piece.source) children :: nodes)

theorem Nests.append {pieces more : List Piece} {nodes others : List Node} (h : Nests pieces nodes)
    (hmore : Nests more others) : Nests (pieces ++ more) (nodes ++ others) := by
  induction h with
  | nil => exact hmore
  | leaf piece hleaf _ ih =>
    rw [List.append_assoc]
    exact .leaf piece hleaf ih
  | nested opening closing name inverted hinner _ _ ih =>
    rw [List.cons_append, List.append_assoc, List.cons_append, List.cons_append]
    exact .nested opening closing name inverted hinner ih

/-! ## Reading what the grammar allows -/

theorem nest_leaf {piece : Piece} {written : List Node} (h : piece.leaf? = some written)
    (position : ℕ) (body : List Text) (acc : List Node) (stack : List OpenSection)
    (rest : List Piece) :
    nest position body acc stack (piece :: rest)
      = nest (position + Text.byteSize piece.source) (piece.source :: body) (written.reverse ++ acc)
          stack rest := by
  rcases piece with t | t | ⟨source, name | name | name | _⟩
  case text | margin | tag.variable | tag.silent => obtain rfl := Option.some.inj h; rfl
  case tag.openSection | tag.closeSection => cases h

/-- Pieces that nest are read as a whole, on whatever level they stand. -/
theorem nest_append {pieces : List Piece} {nodes : List Node} (h : Nests pieces nodes)
    (position : ℕ) (body : List Text) (acc : List Node) (stack : List OpenSection)
    (rest : List Piece) :
    ∃ position' body',
      body'.reverse.flatten = body.reverse.flatten ++ pieces.flatMap Piece.source ∧
      nest position body acc stack (pieces ++ rest)
        = nest position' body' (nodes.reverse ++ acc) stack rest := by
  induction h generalizing position body acc stack rest with
  | nil => exact ⟨position, body, (List.append_nil _).symm, rfl⟩
  | @leaf piece written nodes more hleaf _ ih =>
    obtain ⟨position', body', hbody, hnest⟩ := ih (position + Text.byteSize piece.source)
      (piece.source :: body) (written.reverse ++ acc) stack rest
    refine ⟨position', body', ?_, ?_⟩
    · rw [hbody, List.reverse_cons, List.flatten_append, List.flatten_singleton, List.append_assoc]
      rfl
    · rw [List.cons_append, nest_leaf hleaf, hnest, List.reverse_append, List.append_assoc]
  | @nested opening closing name inverted inner more children nodes _ _ ihinner ih =>
    let frame : OpenSection := ⟨name, inverted, position, opening :: body, acc⟩
    obtain ⟨position₁, body₁, hbody₁, hnest₁⟩ :=
      ihinner (position + Text.byteSize opening) [] [] (frame :: stack)
        (.tag closing (.closeSection name) :: (more ++ rest))
    obtain ⟨position₂, body₂, hbody₂, hnest₂⟩ :=
      ih (position₁ + Text.byteSize closing) (closing :: body₁.reverse.flatten :: opening :: body)
        (.section name inverted body₁.reverse.flatten children :: acc) stack rest
    rw [List.reverse_nil, List.flatten_nil, List.nil_append] at hbody₁
    refine ⟨position₂, body₂, ?_, ?_⟩
    · simp [hbody₂, hbody₁, Piece.source]
    · rw [List.cons_append, List.append_assoc, List.cons_append]
      refine hnest₁.trans ?_
      -- The closing tag finds its own section on the stack.
      rw [nest, if_pos rfl, List.append_nil, List.reverse_reverse]
      rw [hbody₁] at hnest₂ ⊢
      rw [List.reverse_cons, List.append_assoc, List.singleton_append]
      exact hnest₂

/-! ## Reading nothing else -/

/-- What has been read, by the state of the reading: pieces that nest, behind the opening tag of
each section that is open. -/
inductive HasRead : List Piece → List Text → List Node → List OpenSection → Prop
  | outermost {pieces : List Piece} {body : List Text} {nodes : List Node}
      (hnests : Nests pieces nodes) (hbody : body.reverse.flatten = pieces.flatMap Piece.source) :
      HasRead pieces body nodes.reverse []
  | inside {outer pieces : List Piece} {body outerBody : List Text} {nodes outerNodes : List Node}
      {stack : List OpenSection} {opening name : Text} {inverted : Bool} {position : ℕ}
      (houter : HasRead outer outerBody outerNodes stack) (hnests : Nests pieces nodes)
      (hbody : body.reverse.flatten = pieces.flatMap Piece.source) :
      HasRead (outer ++ .tag opening (.openSection name inverted) :: pieces) body nodes.reverse
        (⟨name, inverted, position, opening :: outerBody, outerNodes⟩ :: stack)

theorem HasRead.append {pieces more : List Piece} {body body' : List Text}
    {acc others : List Node} {stack : List OpenSection} (h : HasRead pieces body acc stack)
    (hmore : Nests more others)
    (hbody' : body'.reverse.flatten = body.reverse.flatten ++ more.flatMap Piece.source) :
    HasRead (pieces ++ more) body' (others.reverse ++ acc) stack := by
  cases h with
  | outermost hnests hbody =>
    rw [← List.reverse_append]
    exact .outermost (hnests.append hmore) (by rw [hbody', hbody, List.flatMap_append])
  | inside houter hnests hbody =>
    rw [← List.reverse_append, List.append_assoc, List.cons_append]
    exact .inside houter (hnests.append hmore) (by rw [hbody', hbody, List.flatMap_append])

theorem nests_of_nest {read rest : List Piece} {position : ℕ} {body : List Text} {acc : List Node}
    {stack : List OpenSection} {template : Template} (hread : HasRead read body acc stack)
    (h : nest position body acc stack rest = .ok template) : Nests (read ++ rest) template := by
  induction rest generalizing read position body acc stack with
  | nil =>
    rw [List.append_nil]
    cases hread with
    | outermost hnests _ =>
      rw [nest, List.reverse_reverse] at h
      exact Except.ok.inj h ▸ hnests
    | inside => cases h
  | cons piece rest ih =>
    -- Each piece joins what has been read.
    rw [List.append_cons]
    have hleaf {written : List Node} (hleaf : piece.leaf? = some written) :
        Nests (read ++ [piece] ++ rest) template := by
      rw [nest_leaf hleaf] at h
      refine ih (hread.append (.leaf piece hleaf .nil) ?_) (by rwa [List.append_nil])
      simp
    rcases piece with t | t | ⟨source, name | ⟨name, inverted⟩ | name | _⟩
    case text | margin | tag.variable | tag.silent => exact hleaf rfl
    case tag.openSection => exact ih (.inside hread .nil rfl) h
    case tag.closeSection =>
      cases hread with
      | outermost => cases h
      | @inside outer inner _ outerBody children outerNodes stack opening opened inverted _
          houter hinner hbody =>
        rw [nest] at h
        split at h
        · rename_i hname
          obtain rfl : opened = name := hname
          rw [List.reverse_reverse] at h
          -- The section is complete, and belongs to the level around it.
          have hsection := Nests.nested opening source opened inverted hinner .nil
          have hall : (source :: body.reverse.flatten :: opening :: outerBody).reverse.flatten
              = outerBody.reverse.flatten ++ (.tag opening (.openSection opened inverted) ::
                  (inner ++ [.tag source (.closeSection opened)])).flatMap Piece.source := by
            simp [hbody, Piece.source]
          have hread := houter.append hsection hall
          rw [← hbody] at hread
          simpa using ih hread h
        · cases h

/-- **Pieces are read to their end exactly if they nest.** -/
theorem nest_eq_ok_iff {position : ℕ} {pieces : List Piece} {template : Template} :
    nest position [] [] [] pieces = .ok template ↔ Nests pieces template := by
  constructor
  · exact nests_of_nest (.outermost .nil rfl)
  · intro h
    obtain ⟨position', body', -, hnest⟩ := nest_append h position [] [] [] []
    rw [List.append_nil, List.append_nil] at hnest
    rw [hnest, nest, List.reverse_reverse]

theorem parse_eq_ok_iff {source : Text} {template : Template} :
    parse source = .ok template
      ↔ ∃ segs, Segmented segs ∧ segs.flatMap Segment.source = source ∧
          Nests (layOut true [] segs) template := by
  rw [parse]
  constructor
  · intro h
    cases hpieces : pieces source with
    | error e =>
      rw [hpieces] at h
      cases h
    | ok ps =>
      rw [hpieces] at h
      obtain ⟨segs, hsegmented, hsource, rfl⟩ := pieces_eq_ok_iff.mp hpieces
      exact ⟨segs, hsegmented, hsource, nest_eq_ok_iff.mp h⟩
  · rintro ⟨segs, hsegmented, hsource, hnests⟩
    rw [pieces_eq_ok_iff.mpr ⟨segs, hsegmented, hsource, rfl⟩]
    exact nest_eq_ok_iff.mpr hnests

end SiteClient.Template
