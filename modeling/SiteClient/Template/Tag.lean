import SiteClient.Text.Blank
import SiteClient.Text.Quoted
/-!
# Tags

A template source is text with tags in double braces. `segments` cuts a source into the text between
tags and the tags themselves; put together again, the segments are the source
(`sources_segments`). A triple brace opens an unescaped variable and closes with a triple brace.
-/

namespace SiteClient.Template

/-- What a tag asks for. -/
inductive Tag where
  | variable (name : Text) (escaped : Bool)
  | openSection (name : Text) (inverted : Bool)
  | closeSection (name : Text)
  /-- A comment or the call of another template: nothing is written. -/
  | silent
  deriving DecidableEq, Repr

/-- Why a source is no template. -/
inductive ParseFault where
  | unclosedTag
  | emptyTag
  | setDelimiter
  | unopenedSection (name : Text)
  | unclosedSection (name : Text)
  | crossedSection (opened closed : Text)
  deriving DecidableEq, Repr

def ParseFault.message : ParseFault → Text
  | .unclosedTag => "unclosed tag".toList
  | .emptyTag => "empty tag".toList
  | .setDelimiter => "set delimiter tags are not supported".toList
  | .unopenedSection name => "unopened section ".toList ++ Text.quoted name
  | .unclosedSection name => "unclosed section ".toList ++ Text.quoted name
  | .crossedSection opened closed =>
    "unclosed section ".toList ++ Text.quoted opened ++ ", found ".toList ++ Text.quoted closed

/-- A fault and the number of bytes of the source before the tag at fault. -/
structure ParseError where
  position : Nat
  fault : ParseFault
  deriving DecidableEq, Repr

/-! ## One tag -/

def opener : Text := ['{', '{']

def closer : Text := ['}', '}']

/-- What closes a tag that was opened by three braces. -/
def tripleCloser : Text := ['}', '}', '}']

/-- The name in a tag: its text without the blanks around it, and not empty. -/
def tagName (content : Text) : Except ParseFault Text :=
  match Text.trim content with
  | [] => .error .emptyTag
  | name => .ok name

/-- The tag with the given content. Its first character, if it is a mark, tells the kind. -/
def Tag.ofContent (content : Text) : Except ParseFault Tag :=
  match content with
  | '#' :: rest => do return .openSection (← tagName rest) false
  | '^' :: rest => do return .openSection (← tagName rest) true
  | '/' :: rest => do return .closeSection (← tagName rest)
  | '&' :: rest => do return .variable (← tagName rest) false
  | '>' :: rest => do
    let _ ← tagName rest
    return .silent
  | '!' :: _ => .ok .silent
  | '=' :: rest => do
    let _ ← tagName rest
    throw .setDelimiter
  | content => do return .variable (← tagName content) true

/-- A tag, how it was written, and the text after it. -/
structure CutTag where
  source : Text
  tag : Tag
  rest : Text

/-- Cuts a tag off a text that stood after `opener`. -/
def cutTag (inner : Text) : Except ParseFault CutTag :=
  match inner with
  | '{' :: _ =>
    match Text.breakOn tripleCloser inner with
    | none => .error .unclosedTag
    | some (content, rest) => do
      let name ← tagName (content.drop 1)
      return ⟨opener ++ content ++ tripleCloser, .variable name false, rest⟩
  | _ =>
    match Text.breakOn closer inner with
    | none => .error .unclosedTag
    | some (content, rest) => do
      let tag ← Tag.ofContent content
      return ⟨opener ++ content ++ closer, tag, rest⟩

theorem eq_of_cutTag {inner : Text} {c : CutTag} (h : cutTag inner = .ok c) :
    opener ++ inner = c.source ++ c.rest := by
  unfold cutTag at h
  split at h
  · split at h
    · simp at h
    · rename_i hb
      simp only [bind, Except.bind, pure, Except.pure] at h
      split at h
      · simp at h
      · simp only [Except.ok.injEq] at h
        subst h
        simp [Text.eq_of_breakOn hb]
  · split at h
    · simp at h
    · rename_i hb
      simp only [bind, Except.bind, pure, Except.pure] at h
      split at h
      · simp at h
      · simp only [Except.ok.injEq] at h
        subst h
        simp [Text.eq_of_breakOn hb]

theorem length_rest_lt_of_cutTag {inner : Text} {c : CutTag} (h : cutTag inner = .ok c) :
    c.rest.length < inner.length := by
  unfold cutTag at h
  split at h
  all_goals
    split at h
    · simp at h
    · rename_i hb
      have hlen := Text.length_lt_of_breakOn hb (by decide)
      simp only [bind, Except.bind, pure, Except.pure] at h
      split at h
      · simp at h
      · simp only [Except.ok.injEq] at h
        subst h
        exact hlen

/-! ## Segments -/

/-- A part of a source: text without tags, or one tag. -/
inductive Segment where
  | text (t : Text)
  | tag (source : Text) (tag : Tag)
  deriving DecidableEq, Repr

def Segment.source : Segment → Text
  | .text t => t
  | .tag source _ => source

/-- The segments of a text without tags: none if it is empty. -/
def textSegment (t : Text) : List Segment :=
  if t = [] then [] else [.text t]

/-- The segments of a source, of which `position` bytes have been cut before. The first tag at fault
is reported with its position. -/
def segmentsFrom (position : Nat) (source : Text) : Except ParseError (List Segment) :=
  match hbreak : Text.breakOn opener source with
  | none => .ok (textSegment source)
  | some (before, inner) =>
    let start := position + Text.byteSize before
    match htag : cutTag inner with
    | .error fault => .error ⟨start, fault⟩
    | .ok cut =>
      have : cut.rest.length < source.length :=
        Nat.lt_trans (length_rest_lt_of_cutTag htag) (Text.length_lt_of_breakOn hbreak (by decide))
      match segmentsFrom (start + Text.byteSize cut.source) cut.rest with
      | .error e => .error e
      | .ok later => .ok (textSegment before ++ .tag cut.source cut.tag :: later)
termination_by source.length

/-- The segments of a source. -/
def segments (source : Text) : Except ParseError (List Segment) :=
  segmentsFrom 0 source

@[simp] theorem flatMap_source_textSegment (t : Text) :
    (textSegment t).flatMap Segment.source = t := by
  unfold textSegment
  split <;> simp_all [Segment.source]

theorem sources_segmentsFrom {position : Nat} {source : Text} {segs : List Segment}
    (h : segmentsFrom position source = .ok segs) : segs.flatMap Segment.source = source := by
  fun_induction segmentsFrom position source generalizing segs with
  | case1 =>
    simp only [Except.ok.injEq] at h
    simp [← h]
  | case2 => simp_all
  | case3 => simp_all
  | case4 position source before inner hbreak start cut htag _ later hlater =>
    rename_i ih
    simp only [Except.ok.injEq] at h
    subst h
    have hcut := eq_of_cutTag htag
    have hsrc := Text.eq_of_breakOn hbreak
    rw [List.append_assoc, hcut] at hsrc
    simp [Segment.source, ih hlater, hsrc]

/-- Nothing of a source is lost. -/
theorem sources_segments {source : Text} {segs : List Segment} (h : segments source = .ok segs) :
    segs.flatMap Segment.source = source :=
  sources_segmentsFrom h

end SiteClient.Template
