import SiteClient.Proofs.Template.Nesting
import SiteClient.Proofs.Template.Offsets

/-!
# All offsets are boundaries

The reading by offsets comes to the template that the source spells, whatever the source
(`parse?_eq_some`). So it always has a value: each slice that it takes lies between two boundaries
of characters in their order, each indent that it removes is part of the text in front of the tag,
and the body of each section ends behind the place where it starts.

What carries the turns is what is known where one begins: no text has been collected, and the cursor
is at the start of a line or right behind a tag (`Behind`). A turn keeps that, be the tag alone on
its line or not (`Agrees.plain`, `Agrees.alone`). What carries the sections is that an open one
starts where the source up to its opening tag ends (`InStep`).
-/

namespace SiteClient.Template.Offsets

open Text

/-! ## One turn -/

variable {read rest before inner : Text} {cut : CutTag}

theorem append_eq_of_cutTag (hbreak : breakOn opener rest = some (before, inner))
    (hcut : cutTag inner = .ok cut) :
    read ++ rest = read ++ before ++ (cut.source ++ cut.rest) := by
  rw [eq_of_breakOn hbreak, List.append_assoc before, eq_of_cutTag hcut, List.append_assoc]

theorem turn?_last (hclear : breakOn opener rest = none) :
    turn? (read ++ rest) ⟨[], byteSize read, byteSize read⟩ =
      some (.done (.ok (textToken rest))) := by
  simp [turn?, drop?_append, find?, hclear]

/-- The tag that the turn comes to is cut off, and then it is a matter of the line that it stands
on. -/
theorem turn?_tag (hbreak : breakOn opener rest = some (before, inner)) :
    turn? (read ++ rest) ⟨[], byteSize read, byteSize read⟩ =
      match cutTag inner with
      | .error fault => some (.done (.error ⟨byteSize (read ++ before), fault⟩))
      | .ok cut =>
        let start := byteSize (read ++ before)
        let stop := byteSize (read ++ before ++ cut.source)
        let token := tokenOf start stop cut.tag
        (if cut.tag.isVariable then some none
          else nextLine? (read ++ rest) start stop (byteSize read)).bind fun
          | none => some (.next (textToken before ++ token.toList) ⟨[], stop, stop⟩)
          | some cursor => (dedent? (read ++ rest) before start).bind fun kept ↦
            some (.next (textToken kept ++ token.toList) ⟨[], cursor, cursor⟩) := by
  have hrest : rest = before ++ (opener ++ inner) := by rw [eq_of_breakOn hbreak, List.append_assoc]
  have hslice := slice?_append read before (opener ++ inner)
  have htag := readTag?_eq (read ++ before) inner
  rw [List.append_assoc, ← hrest] at htag
  rw [← hrest] at hslice
  simp only [byteSize_append] at htag
  cases hcut : cutTag inner with
  | error fault => simp [turn?, drop?_append, find?, hbreak, hslice, htag, hcut, Except.map]
  | ok cut =>
    simp only [turn?, drop?_append, find?, hbreak, hslice, htag, hcut, Except.map,
      any_isVariable_tokenOf, Option.bind_eq_bind, Option.bind_some, Option.pure_def,
      Option.map_some, List.nil_append, byteSize_append]
    split <;> rfl

theorem turn?_plain (hbreak : breakOn opener rest = some (before, inner))
    (hcut : cutTag inner = .ok cut) (hplain : cut.tag.isVariable = true ∨
      ∀ indent line, IsIndent read (read ++ before) indent → ¬IsLineEnd cut.rest line) :
    turn? (read ++ rest) ⟨[], byteSize read, byteSize read⟩ = some (.next
      (textToken before ++
        (tokenOf (byteSize (read ++ before)) (byteSize (read ++ before ++ cut.source))
          cut.tag).toList)
      ⟨[], byteSize (read ++ before ++ cut.source), byteSize (read ++ before ++ cut.source)⟩) := by
  have hline : (if cut.tag.isVariable then some none
      else nextLine? (read ++ rest) (byteSize (read ++ before))
        (byteSize (read ++ before ++ cut.source)) (byteSize read)) = some none := by
    split
    · rfl
    · rename_i hvariable
      rw [append_eq_of_cutTag hbreak hcut]
      exact nextLine?_plain (List.prefix_append read before)
        (hplain.resolve_left hvariable) cut.source
  rw [turn?_tag hbreak, hcut]
  simp only [hline]
  rfl

theorem turn?_alone {kept indent line : Text}
    (hbreak : breakOn opener rest = some (kept ++ indent, inner)) (hcut : cutTag inner = .ok cut)
    (hvariable : cut.tag.isVariable = false)
    (hindent : IsIndent read (read ++ (kept ++ indent)) indent)
    (hline : IsLineEnd cut.rest line) :
    turn? (read ++ rest) ⟨[], byteSize read, byteSize read⟩ = some (.next
      (textToken kept ++ (tokenOf (byteSize (read ++ (kept ++ indent)))
        (byteSize (read ++ (kept ++ indent) ++ cut.source)) cut.tag).toList)
      ⟨[], byteSize (read ++ (kept ++ indent) ++ cut.source ++ line),
        byteSize (read ++ (kept ++ indent) ++ cut.source ++ line)⟩) := by
  have hnext := nextLine?_alone hindent hline cut.source
  obtain ⟨-, hmem, lines, hlines, hstart, -⟩ := hindent
  rw [← List.append_assoc] at hlines
  obtain rfl := List.append_cancel_right hlines
  have hkept := dedent?_eq hstart hmem (cut.source ++ cut.rest)
  rw [← append_eq_of_cutTag hbreak hcut] at hnext hkept
  rw [turn?_tag hbreak, hcut]
  simp only [hvariable, hnext, hkept]
  rw [byteSize_append _ line]
  rfl

/-! ## All turns -/

def tokenAt (position : ℕ) : Piece → Option Token
  | .text t => some (.text t)
  | .margin _ => none
  | .tag source tag => tokenOf position (position + byteSize source) tag

/-- The tokens of pieces, the first of which stands at an offset. -/
def tokensAt (position : ℕ) : List Piece → List Token
  | [] => []
  | piece :: rest =>
      (tokenAt position piece).toList ++ tokensAt (position + byteSize piece.source) rest

theorem tokensAt_append (position : ℕ) (ps more : List Piece) :
    tokensAt position (ps ++ more)
      = tokensAt position ps ++ tokensAt (position + byteSize (ps.flatMap Piece.source)) more := by
  induction ps generalizing position with
  | nil => rfl
  | cons piece ps ih =>
    rw [List.cons_append, tokensAt, tokensAt, ih, List.append_assoc, List.flatMap_cons,
      byteSize_append, Nat.add_assoc]

@[simp] theorem tokensAt_textPiece (position : ℕ) (t : Text) :
    tokensAt position (textPiece t) = textToken t := by
  rw [textPiece, textToken]
  split <;> rfl

@[simp] theorem tokensAt_marginPiece (position : ℕ) (t : Text) :
    tokensAt position (marginPiece t) = [] := by
  rw [marginPiece]
  split <;> rfl

theorem tokensAt_tag (read kept indent source line : Text) (tag : Tag) (ps : List Piece) :
    tokensAt (byteSize read)
        (textPiece kept ++ marginPiece indent ++ .tag source tag :: (marginPiece line ++ ps))
      = textToken kept ++ (tokenOf (byteSize (read ++ (kept ++ indent)))
          (byteSize (read ++ (kept ++ indent) ++ source)) tag).toList ++
          tokensAt (byteSize (read ++ (kept ++ indent) ++ source ++ line)) ps := by
  simp [tokensAt_append, tokensAt, tokenAt, Piece.source, Nat.add_assoc]

theorem tokens?_next {source : Text} {s later : State} {tokens : List Token}
    (hturn : turn? source s = some (.next tokens later)) (hcursor : s.cursor < later.cursor)
    (hle : later.cursor ≤ byteSize source) :
    tokens? source s = (tokens? source later).map (·.map (tokens ++ ·)) := by
  rw [tokens?, hturn]
  exact if_pos ⟨hcursor, hle⟩

variable {fresh : Bool}

/-- The turns that are left come to the tokens of the rest as it is laid out. -/
def Agrees (fresh : Bool) (read rest : Text) : Prop :=
  tokens? (read ++ rest) ⟨[], byteSize read, byteSize read⟩
    = some ((segmentsFrom (byteSize read) rest).map fun segs ↦
        tokensAt (byteSize read) (layOut fresh [] segs))

theorem segmentsFrom_cut (hbreak : breakOn opener rest = some (before, inner))
    (hcut : cutTag inner = .ok cut) :
    segmentsFrom (byteSize read) rest
      = (segmentsFrom (byteSize (read ++ before ++ cut.source)) cut.rest).map
          (textSegment before ++ .tag cut.source cut.tag :: ·) := by
  rw [segmentsFrom_eq, hbreak]
  simp only [hcut, byteSize_append]

theorem Agrees.last (hclear : breakOn opener rest = none) : Agrees fresh read rest := by
  rw [Agrees, tokens?, turn?_last hclear, segmentsFrom_text hclear]
  have hlayout := layOut_textSegment fresh rest []
  rw [List.append_nil, layOut] at hlayout
  simp [Except.map, hlayout]

theorem Agrees.fault {fault : ParseFault} (hbreak : breakOn opener rest = some (before, inner))
    (hcut : cutTag inner = .error fault) : Agrees fresh read rest := by
  rw [Agrees, tokens?, turn?_tag hbreak, hcut, segmentsFrom_eq, hbreak]
  simp only [hcut, byteSize_append]
  rfl

/-- Beyond a tag the reading has got further, but not past the end of the source. -/
theorem cursor_bounds {source stop more after : Text} (hsource : source = stop ++ after)
    (hstop : stop = read ++ more) (hmore : more ≠ []) :
    byteSize read < byteSize stop ∧ byteSize stop ≤ byteSize source := by
  have hpos := byteSize_eq_zero_iff.not.mpr hmore
  simp only [hsource, hstop, byteSize_append]
  omega

theorem Agrees.plain (hbehind : Behind fresh read read)
    (hbreak : breakOn opener rest = some (before, inner)) (hcut : cutTag inner = .ok cut)
    (hplain : cut.tag.isVariable = true ∨
      ∀ indent line, IsIndent read (read ++ before) indent → ¬IsLineEnd cut.rest line)
    (hrest : Agrees false (read ++ before ++ cut.source) cut.rest) : Agrees fresh read rest := by
  have hsource : read ++ rest = read ++ before ++ cut.source ++ cut.rest := by
    rw [append_eq_of_cutTag hbreak hcut, List.append_assoc (read ++ before)]
  have hmore : before ++ cut.source ≠ [] := by simp [(isTag_of_cutTag hcut).ne_nil]
  obtain ⟨hcursor, hle⟩ := cursor_bounds hsource (List.append_assoc ..) hmore
  rw [Agrees, tokens?_next (turn?_plain hbreak hcut hplain) hcursor hle, hsource, hrest,
    segmentsFrom_cut hbreak hcut]
  cases hlater : segmentsFrom (byteSize (read ++ before ++ cut.source)) cut.rest with
  | error e => rfl
  | ok later =>
    obtain ⟨hsegmented, hrest⟩ := segmentsFrom_eq_ok_iff.mp hlater
    rw [← hrest] at hplain
    have hlaid : layOut fresh before (.tag cut.source cut.tag :: later)
        = textPiece before ++ .tag cut.source cut.tag :: layOut false [] later :=
      layOut_tag (hplain.imp_right (indent?_or_lineEnd?_eq_none hbehind hsegmented))
    have htokens := tokensAt_tag read before [] cut.source [] cut.tag (layOut false [] later)
    simp only [marginPiece, if_true, List.append_nil, List.nil_append] at htokens
    simp [Except.map, layOut_textSegment, hlaid, htokens]

theorem Agrees.alone {kept indent line after : Text} (hbehind : Behind fresh read read)
    (hbreak : breakOn opener rest = some (kept ++ indent, inner)) (hcut : cutTag inner = .ok cut)
    (hvariable : cut.tag.isVariable = false)
    (hindent : IsIndent read (read ++ (kept ++ indent)) indent)
    (hline : IsLineEnd cut.rest line) (hafter : cut.rest = line ++ after)
    (hrest : Agrees true (read ++ (kept ++ indent) ++ cut.source ++ line) after) :
    Agrees fresh read rest := by
  have hsource : read ++ rest = read ++ (kept ++ indent) ++ cut.source ++ line ++ after := by
    rw [append_eq_of_cutTag hbreak hcut, hafter, List.append_assoc _ line,
      List.append_assoc (read ++ (kept ++ indent))]
  have hmore : kept ++ indent ++ cut.source ++ line ≠ [] := by simp [(isTag_of_cutTag hcut).ne_nil]
  have hstop : read ++ (kept ++ indent) ++ cut.source ++ line
      = read ++ (kept ++ indent ++ cut.source ++ line) := by simp only [List.append_assoc]
  obtain ⟨hcursor, hle⟩ := cursor_bounds hsource hstop hmore
  rw [Agrees, tokens?_next (turn?_alone hbreak hcut hvariable hindent hline) hcursor hle,
    hsource, hrest, segmentsFrom_cut hbreak hcut]
  -- The line that is skipped holds no tag, so what is at fault behind it is at fault with it.
  have herror {e : ParseError} :
      segmentsFrom (byteSize (read ++ (kept ++ indent) ++ cut.source)) cut.rest = .error e ↔
        segmentsFrom (byteSize (read ++ (kept ++ indent) ++ cut.source ++ line)) after =
          .error e := by
    rw [hafter, segmentsFrom_append_eq_error_iff (openBrace_not_mem_of_allBlank hline.blank),
      ← byteSize_append]
  cases hsegs : segmentsFrom (byteSize (read ++ (kept ++ indent) ++ cut.source)) cut.rest with
  | error e =>
    rw [herror.mp hsegs]
    rfl
  | ok segs =>
    obtain ⟨hsegmented, hsources⟩ := segmentsFrom_eq_ok_iff.mp hsegs
    rw [← hsources] at hline hafter
    obtain ⟨later, hend⟩ := exists_of_isLineEnd hsegmented hline
    obtain ⟨-, hlater, hsources'⟩ := spec_of_lineEnd? hsegmented hend
    obtain rfl := List.append_cancel_left (hafter.symm.trans hsources')
    rw [segmentsFrom_of_segmented hlater]
    have hlaid : layOut fresh (kept ++ indent) (.tag cut.source cut.tag :: segs)
        = textPiece kept ++ marginPiece indent ++ .tag cut.source cut.tag ::
            (marginPiece line ++ layOut true [] later) :=
      layOut_alone hvariable ((indent?_eq_some_iff hbehind).mpr ⟨rfl, hindent⟩) hend
    simp only [Except.map, Option.map_some]
    rw [layOut_textSegment, hlaid, tokensAt_tag, List.append_assoc]

/-- The turns agree with the layout from wherever a line starts or a tag has ended. -/
theorem agrees (hbehind : rest ≠ [] → Behind fresh read read) : Agrees fresh read rest := by
  induction hlength : rest.length using Nat.strong_induction_on generalizing fresh read rest with
  | h n ih =>
  cases hbreak : breakOn opener rest with
  | none => exact .last hbreak
  | some cutOff =>
    obtain ⟨before, inner⟩ := cutOff
    cases hcut : cutTag inner with
    | error fault => exact .fault hbreak hcut
    | ok cut =>
      have hlt : cut.rest.length < n := by
        have := length_lt_of_breakOn hbreak (by decide)
        have := length_rest_lt_of_cutTag hcut
        omega
      have hbehind : Behind fresh read read := by
        refine hbehind ?_
        rintro rfl
        cases hbreak
      by_cases halone : cut.tag.isVariable = false ∧
          ∃ indent line, IsIndent read (read ++ before) indent ∧ IsLineEnd cut.rest line
      · obtain ⟨hvariable, indent, line, hindent, hline⟩ := halone
        obtain ⟨kept, rfl⟩ := hindent.exists_kept hbehind
        obtain ⟨-, after, hafter, -⟩ := id hline
        refine .alone hbehind hbreak hcut hvariable hindent hline hafter (ih _ ?_ ?_ rfl)
        · rw [hafter, List.length_append] at hlt
          omega
        · exact fun hne ↦ .of_isLineEnd (hafter ▸ hline) hne List.prefix_rfl
      · refine .plain hbehind hbreak hcut ?_
          (ih _ hlt (fun _ ↦ .of_tag (isTag_of_cutTag hcut) (List.suffix_append ..)) rfl)
        rw [or_iff_not_imp_left, Bool.not_eq_true]
        exact fun hvariable indent line hindent hline ↦
          halone ⟨hvariable, indent, line, hindent, hline⟩

theorem tokens?_eq (source : Text) :
    tokens? source ⟨[], 0, 0⟩ = some ((pieces source).map (tokensAt 0)) := by
  have h : Agrees true [] source := agrees fun _ ↦ .line List.nil_prefix (.inl rfl)
  rw [Agrees, List.nil_append, byteSize_nil] at h
  rw [h, pieces, segments]
  cases segmentsFrom 0 source <;> rfl

/-! ## Sections -/

/-- The two ways to keep what has been read: an open section with the text of its body, and with the
offset at which it starts. -/
inductive InStep : Text → List Text → List Node → List OpenSection → List Node → List Frame → Prop
  | outermost {read : Text} {body : List Text} {nodes : List Node} :
      InStep read body nodes [] nodes.reverse []
  | inside {outer : Text} {body outerBody : List Text} {nodes outerNodes root : List Node}
      {stack : List OpenSection} {frames : List Frame} {name : Text} {inverted : Bool}
      {position : ℕ}
      (houter : InStep outer outerBody outerNodes stack root frames) :
      InStep (outer ++ body.reverse.flatten) body nodes
        (⟨name, inverted, position, outerBody, outerNodes⟩ :: stack) root
        (⟨name, inverted, byteSize outer, position, nodes.reverse⟩ :: frames)

variable {body : List Text} {nodes root : List Node} {stack : List OpenSection}
  {frames : List Frame}

theorem InStep.append (h : InStep read body nodes stack root frames) (t : Text) :
    InStep (read ++ t) (t :: body) nodes stack root frames := by
  cases h with
  | outermost => exact .outermost
  | @inside outer _ _ _ _ _ _ _ _ _ _ houter =>
    have hbody : outer ++ body.reverse.flatten ++ t = outer ++ (t :: body).reverse.flatten := by
      simp
    rw [hbody]
    exact .inside houter

theorem InStep.push (h : InStep read body nodes stack root frames) (node : Node) :
    InStep read body (node :: nodes) stack (push node root frames).1 (push node root frames).2 := by
  cases h with
  | outermost =>
    rw [Offsets.push, ← List.reverse_cons]
    exact .outermost
  | inside houter =>
    rw [Offsets.push]
    simp only [← List.reverse_cons]
    exact .inside houter

theorem build?_tokensAt {source : Text} {ps : List Piece}
    (h : InStep read body nodes stack root frames)
    (hsource : source = read ++ ps.flatMap Piece.source) :
    build? source root frames (tokensAt (byteSize read) ps)
      = some (nest (byteSize read) body nodes stack ps) := by
  induction ps generalizing read body nodes stack root frames with
  | nil =>
    cases h with
    | outermost => rfl
    | inside => rfl
  | cons piece rest ih =>
    have hnext : source = read ++ piece.source ++ rest.flatMap Piece.source := by
      rw [hsource, List.flatMap_cons, List.append_assoc]
    have hstep := h.append piece.source
    rw [tokensAt, ← byteSize_append]
    rcases piece with t | t | ⟨written, ⟨name, escaped⟩ | ⟨name, inverted⟩ | name | _⟩
    case text =>
      rw [nest_leaf rfl, ← byteSize_append]
      exact ih (hstep.push (.text t)) hnext
    case margin =>
      rw [nest_leaf rfl, ← byteSize_append]
      exact ih hstep hnext
    case tag.variable =>
      rw [nest_leaf rfl, ← byteSize_append]
      exact ih (hstep.push (.variable name escaped)) hnext
    case tag.silent =>
      rw [nest_leaf rfl, ← byteSize_append]
      exact ih hstep hnext
    case tag.openSection =>
      have hopen : InStep (read ++ written ++ ([] : List Text).reverse.flatten) [] []
          (⟨name, inverted, byteSize read, written :: body, nodes⟩ :: stack) root
          (⟨name, inverted, byteSize (read ++ written), byteSize read, []⟩ :: frames) :=
            .inside hstep
      rw [List.reverse_nil, List.flatten_nil, List.append_nil] at hopen
      rw [nest, ← byteSize_append]
      exact byteSize_append read written ▸ ih hopen hnext
    case tag.closeSection =>
      cases h with
      | outermost => rfl
      | @inside outer _ outerBody _ outerNodes _ stack frames opened inverted position houter =>
        rw [nest, ← byteSize_append]
        dsimp only [tokenAt, tokenOf]
        rw [Option.toList_some, List.singleton_append, build?]
        split
        · rename_i hname
          obtain rfl : opened = name := hname
          have hbody : slice? source (byteSize outer) (byteSize (outer ++ body.reverse.flatten))
              = some body.reverse.flatten := by
            rw [hnext, List.append_assoc, List.append_assoc, byteSize_append]
            exact slice?_append ..
          have hclosed := ((houter.append body.reverse.flatten).append written).push
            (.section opened inverted body.reverse.flatten nodes.reverse)
          rw [hbody]
          exact ih hclosed hnext
        · rfl

/-- **The template that a source spells is read by offsets, and none of them is at fault.** -/
theorem parse?_eq_some (source : Text) : parse? source = some (parse source) := by
  rw [parse?, tokens?_eq, parse]
  cases hpieces : pieces source with
  | error e => rfl
  | ok ps =>
    have hstart : InStep [] [] [] [] [] [] := .outermost
    exact build?_tokensAt hstart (sources_pieces hpieces).symm

end SiteClient.Template.Offsets
