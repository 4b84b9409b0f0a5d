import Mathlib.Data.List.Infix
import SiteClient.Proofs.Template.Contexts

/-!
# What is taken from a source

Names of variables and sections stand in the source as they are, and so do the texts that section
rules expand in their turn. Nothing that is searched for or parsed comes from a context.
-/

namespace SiteClient

namespace Text

theorem trim_infix (t : Text) : trim t <:+: t := by
  have hstart : trimStart t <:+ t := List.dropWhile_suffix isBlank
  have hend : (trim t).reverse <:+ (trimStart t).reverse := by
    rw [trim, trimEnd, List.reverse_reverse]
    exact List.dropWhile_suffix isBlank
  exact (List.reverse_suffix.mp hend).isInfix.trans hstart.isInfix

end Text

namespace Template

/-! ## Names -/

theorem Scope.key_prefix (name : Text) : key name <+: name := by
  have hname : List.intercalate ['.'] (name.splitOn '.') = name := List.intercalate_splitOn '.'
  rw [key]
  cases hsplit : name.splitOn '.' with
  | nil => exact absurd hsplit (List.splitOn_ne_nil '.' name)
  | cons first more =>
    rw [hsplit] at hname
    cases more with
    | nil => exact ⟨[], by simpa using hname⟩
    | cons second more =>
      rw [List.intercalate_cons_cons, List.append_assoc] at hname
      exact ⟨_, hname⟩

theorem Inscription.eq_name_of_tag {w : Inscription} {name : Text} (h : w.tag.name? = some name) :
    name = w.name := by
  rw [Inscription.tag] at h
  split at h <;> cases h <;> rfl

theorem IsTag.infix_of_name? {source name : Text} {tag : Tag} (h : IsTag source tag)
    (hname : tag.name? = some name) : name <:+: source := by
  obtain ⟨w, -, -, rfl, rfl⟩ := isTag_iff_inscription.mp h
  obtain rfl := Inscription.eq_name_of_tag hname
  have hcontent : w.content <:+: w.source := by
    refine List.IsInfix.trans ?_ (List.infix_append _ _ _)
    split
    · exact (List.suffix_cons _ _).isInfix
    · exact List.infix_rfl
  refine (Text.trim_infix _).trans (List.IsInfix.trans ?_ hcontent)
  split
  · exact (List.drop_suffix 1 w.content).isInfix
  · exact List.infix_rfl

theorem infix_of_mem_namesOf {source name : Text} (h : name ∈ namesOf source) :
    name <:+: source := by
  obtain ⟨tag, htag, hname⟩ := List.mem_filterMap.mp h
  rw [tagsOf] at htag
  cases hsegs : segments source with
  | error e =>
    rw [hsegs] at htag
    cases htag
  | ok segs =>
    rw [hsegs] at htag
    obtain ⟨⟨written, _⟩, hmem, rfl⟩ := List.mem_map.mp htag
    obtain ⟨seg, hseg, heq⟩ := List.mem_filterMap.mp hmem
    obtain rfl := Segment.tag?_eq_some_iff.mp heq
    obtain ⟨hsegmented, rfl⟩ := segmentsFrom_eq_ok_iff.mp hsegs
    refine ((hsegmented.isTag_of_mem hseg).infix_of_name? hname).trans ?_
    obtain ⟨before, after, rfl⟩ := List.append_of_mem hseg
    rw [List.flatMap_append, List.flatMap_cons, ← List.append_assoc]
    exact List.infix_append _ _ _

/-! ## Bodies -/

theorem sections_append (nodes more : List Node) :
    sections (nodes ++ more) = sections nodes ++ sections more := by
  induction nodes with
  | nil => rfl
  | cons node nodes ih => rw [List.cons_append, sections, sections, ih, List.append_assoc]

theorem sections_leaf {piece : Piece} {written : List Node} (h : piece.leaf? = some written) :
    sections written = [] := by
  rcases piece with t | t | ⟨source, name | name | name | _⟩ <;> cases h <;> rfl

theorem Nests.infix_of_mem_sections {ps : List Piece} {nodes : List Node} (h : Nests ps nodes)
    {s : Text × Text} (hs : s ∈ sections nodes) : s.2 <:+: ps.flatMap Piece.source := by
  induction h with
  | nil => cases hs
  | @leaf piece written nodes rest hleaf _ ih =>
    rw [sections_append, sections_leaf hleaf, List.nil_append] at hs
    rw [List.flatMap_cons]
    exact (ih hs).trans (List.suffix_append _ _).isInfix
  | @nested opening closing name inverted inner rest children nodes _ _ ihinner ih =>
    have hsource : (Piece.tag opening (.openSection name inverted) ::
        (inner ++ Piece.tag closing (.closeSection name) :: rest)).flatMap Piece.source
          = opening ++ inner.flatMap Piece.source ++ (closing ++ rest.flatMap Piece.source) := by
      simp [Piece.source]
    have hinner : inner.flatMap Piece.source <:+:
        opening ++ inner.flatMap Piece.source ++ (closing ++ rest.flatMap Piece.source) :=
      List.infix_append _ _ _
    rw [hsource]
    rw [sections, List.mem_append] at hs
    obtain hs | hs := hs
    · cases inverted with
      | true => exact (ihinner hs).trans hinner
      | false =>
        obtain rfl | hs := List.mem_cons.mp hs
        · exact hinner
        · exact (ihinner hs).trans hinner
    · refine (ih hs).trans (List.IsSuffix.isInfix ?_)
      exact (List.suffix_append _ _).trans (List.suffix_append _ _)

theorem infix_of_mem_sections {source : Text} {template : Template}
    (h : parse source = .ok template)
    {s : Text × Text} (hs : s ∈ sections template) : s.2 <:+: source := by
  obtain ⟨segs, -, rfl, hnests⟩ := parse_eq_ok_iff.mp h
  have hinfix := hnests.infix_of_mem_sections hs
  rwa [sources_layOut, List.nil_append] at hinfix

end Template

end SiteClient
