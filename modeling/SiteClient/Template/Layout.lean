import SiteClient.Template.Tag
/-!
# The layout of a source

A tag that is not a variable and stands alone on its line takes the line with it: the blanks before
it, the blanks after it and the line break are not written. A line starts at the start of the source
and after a line break; blanks do not count as alone if a part of an earlier tag stands before them
on the line.

The layout of a source is the list of its pieces, dropped margins included, so that the pieces put
together are again the source.
-/

namespace SiteClient.Template

/-- A part of a source as it is laid out. -/
inductive Piece where
  /-- Text that is written. -/
  | text (t : Text)
  /-- Blanks beside a tag that stands alone, which are not written. -/
  | margin (t : Text)
  | tag (source : Text) (tag : Tag)
  deriving DecidableEq, Repr

def Piece.source : Piece → Text
  | .text t => t
  | .margin t => t
  | .tag source _ => source

/-- Whether the tag writes a value. Such a tag never takes its line with it. -/
def Tag.isVariable : Tag → Bool
  | .variable .. => true
  | _ => false

/-- Cuts a text behind its last line break: the lines before and what stands on the last line. No
line break, no cut. -/
def lastLine? (t : Text) : Option (Text × Text) :=
  match t with
  | [] => none
  | c :: rest =>
    match lastLine? rest with
    | some (lines, last) => some (c :: lines, last)
    | none => if c = '\n' then some ([c], rest) else none

/-- Cuts the text before a tag into the part that stays and the indent of the tag, if the indent is
blank and starts its line. `fresh` tells that a line starts where the text does. -/
def indent? (fresh : Bool) (t : Text) : Option (Text × Text) :=
  match lastLine? t with
  | some (kept, last) => if Text.allBlank last then some (kept, last) else none
  | none => if fresh && Text.allBlank t then some ([], t) else none

/-- Cuts a text behind its first line break. No line break, no cut. -/
def firstLine? (t : Text) : Option (Text × Text) :=
  (Text.breakOn ['\n'] t).map fun (line, rest) ↦ (line ++ ['\n'], rest)

/-- Cuts the blank rest of the line, with its line break, off the segments after a tag. The last
line of a source needs no line break. -/
def lineEnd? : List Segment → Option (Text × List Segment)
  | [] => some ([], [])
  | .tag .. :: _ => none
  | .text t :: later =>
    match firstLine? t, later with
    | some (line, rest), later =>
      if Text.allBlank line then some (line, textSegment rest ++ later) else none
    | none, [] => if Text.allBlank t then some (t, []) else none
    | none, _ :: _ => none

theorem length_lineEnd?_le {segs later : List Segment} {line : Text}
    (h : lineEnd? segs = some (line, later)) : later.length ≤ segs.length := by
  unfold lineEnd? at h
  split at h
  · simp_all
  · simp at h
  · split at h
    · split at h
      · simp only [Option.some.injEq, Prod.mk.injEq] at h
        rw [← h.2]
        unfold textSegment
        split <;> simp
      · simp at h
    · split at h <;> simp_all
    · simp at h

/-- A written text; an empty one leaves no piece. -/
def textPiece (t : Text) : List Piece :=
  if t = [] then [] else [.text t]

/-- A margin; an empty one leaves no piece. -/
def marginPiece (t : Text) : List Piece :=
  if t = [] then [] else [.margin t]

/-- The pieces of segments. `fresh` tells that a line starts where the segments do, and `before` is
the text that has been read since the last tag. -/
def layOut (fresh : Bool) (before : Text) (segs : List Segment) : List Piece :=
  match segs with
  | [] => textPiece before
  | .text t :: later => layOut fresh (before ++ t) later
  | .tag source tag :: later =>
    match indent? fresh before, hline : lineEnd? later with
    | some (kept, indent), some (line, later') =>
      if tag.isVariable then textPiece before ++ .tag source tag :: layOut false [] later
      else
        have := length_lineEnd?_le hline
        textPiece kept ++ marginPiece indent ++ .tag source tag ::
          (marginPiece line ++ layOut true [] later')
    | _, _ => textPiece before ++ .tag source tag :: layOut false [] later
termination_by segs.length
decreasing_by all_goals simp only [List.length_cons]; omega

/-- The pieces of a source. -/
def pieces (source : Text) : Except ParseError (List Piece) :=
  (segments source).map (layOut true [])

end SiteClient.Template
