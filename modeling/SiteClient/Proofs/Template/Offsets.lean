import Mathlib.Data.List.DropRight
import SiteClient.Proofs.Template.Balance
import SiteClient.Proofs.Template.Lines
import SiteClient.Proofs.Template.Slices
import SiteClient.Template.Tree

/-!
# Reading a source by offsets

A source can be read in one pass that keeps offsets into it and little else. The pass takes slices
of the source, looks back for the start of a line and ahead for its end, and cuts the indent off the
text that it has collected in front of a tag; the body of a section is a slice between the offsets
of two tags. Every step that could fail is checked: a slice that is none, a difference below zero
and a turn that comes no further have no value, and neither has the reading then (`parse?`).

Here the steps are shown to have values and what values these are: for the tag at an offset
(`readTag?_eq`), for the line that it stands on (`nextLine?_alone`, `nextLine?_plain`) and for the
text in front of it (`dedent?_eq`).
-/

namespace SiteClient.Template.Offsets

open Text

/-! ## The reading -/

/-- A token of a source. A section knows where its body starts, and its end knows where the body
stops. -/
inductive Token where
  | text (t : Text)
  | variable (name : Text) (escaped : Bool)
  | opens (name : Text) (inverted : Bool) (bodyStart position : ℕ)
  | closes (name : Text) (bodyEnd position : ℕ)
  deriving DecidableEq, Repr

/-- The inside of a tag, and where the tag stops. -/
structure Inside where
  content : Text
  stop : ℕ
  triple : Bool

/-- The inside of the tag that opens at an offset. -/
def inside? (source : Text) (start : ℕ) : Option (Except ParseFault Inside) := do
  let innerStart := start + byteSize opener
  let inner ← drop? source innerStart
  if inner.head? = some '{' then
    match find? tripleCloser inner with
    | none => return .error .unclosedTag
    | some close =>
      let content ← slice? source (innerStart + 1) (innerStart + close)
      return .ok ⟨content, innerStart + close + byteSize tripleCloser, true⟩
  else
    match find? closer inner with
    | none => return .error .unclosedTag
    | some close =>
      let content ← slice? source innerStart (innerStart + close)
      return .ok ⟨content, innerStart + close + byteSize closer, false⟩

def name? (content : Text) (mark : Option Char) : Option Text :=
  match mark with
  | some '#' | some '^' | some '/' | some '&' | some '>' | some '!' | some '=' =>
    (drop? content 1).map trim
  | _ => some (trim content)

/-- The token of a tag that opens at `start`; a comment has none. -/
def token? (inside : Inside) (start : ℕ) : Option (Except ParseFault (Option Token)) := do
  let mark := if inside.triple then none else inside.content.head?
  let name ← name? inside.content mark
  if name = [] ∧ mark ≠ some '!' then return .error .emptyTag
  else
    match mark with
    | some '=' => return .error .setDelimiter
    | some '!' | some '>' => return .ok none
    | some '&' => return .ok (some (.variable name false))
    | some '#' => return .ok (some (.opens name false inside.stop start))
    | some '^' => return .ok (some (.opens name true inside.stop start))
    | some '/' => return .ok (some (.closes name start start))
    | _ => return .ok (some (.variable name (!inside.triple)))

/-- The tag that opens at an offset: its token, and where it stops. -/
def readTag? (source : Text) (start : ℕ) : Option (Except ParseFault (Option Token × ℕ)) := do
  match ← inside? source start with
  | .error fault => return .error fault
  | .ok inside => return (← token? inside start).map fun token ↦ (token, inside.stop)

/-- The offset at which the last line of a text starts. -/
def lineStart (before : Text) : ℕ :=
  (rfind? '\n' before).elim 0 (· + 1)

/-- The offset at which the first line of a text stops. -/
def lineStop (rest : Text) : ℕ :=
  (find? ['\n'] rest).elim (byteSize rest) (· + 1)

/-- The offset at which the next line starts, if the tag between two offsets stands alone. -/
def nextLine? (source : Text) (start stop lastTagEnd : ℕ) : Option (Option ℕ) := do
  let before ← take? source start
  if lineStart before < lastTagEnd then return none
  else
    let indent ← slice? source (lineStart before) start
    if trim indent = [] then
      let rest ← drop? source stop
      let line ← take? rest (lineStop rest)
      return if trim line = [] then some (stop + lineStop rest) else none
    else return none

/-- The text in front of a tag without the indent of the tag. -/
def dedent? (source text : Text) (start : ℕ) : Option Text := do
  let before ← take? source start
  let indent ← start.psub (lineStart before)
  let length ← (byteSize text).psub indent
  truncate? text length

/-- How far a source has been read, and the text since the last tag. -/
structure State where
  text : Text
  cursor : ℕ
  lastTagEnd : ℕ

/-- What becomes of the reading in one turn. -/
inductive Turn where
  | done (result : Except ParseError (List Token))
  | next (tokens : List Token) (state : State)

def textToken (t : Text) : List Token :=
  if t = [] then [] else [.text t]

def Token.isVariable : Token → Bool
  | .variable .. => true
  | _ => false

/-- Reads up to the end of the next tag and, if it stands alone, of its line. -/
def turn? (source : Text) (s : State) : Option Turn := do
  let rest ← drop? source s.cursor
  match find? opener rest with
  | none => return .done (.ok (textToken (s.text ++ rest)))
  | some offset =>
    let start := s.cursor + offset
    let text := s.text ++ (← slice? source s.cursor start)
    match ← readTag? source start with
    | .error fault => return .done (.error ⟨start, fault⟩)
    | .ok (token, stop) =>
      let line ← if token.any Token.isVariable then some none
        else nextLine? source start stop s.lastTagEnd
      match line with
      | none => return .next (textToken text ++ token.toList) ⟨[], stop, stop⟩
      | some cursor =>
        let kept ← dedent? source text start
        return .next (textToken kept ++ token.toList) ⟨[], cursor, cursor⟩

/-- The tokens of a source from a state on. There is none without progress. -/
def tokens? (source : Text) (s : State) : Option (Except ParseError (List Token)) :=
  match turn? source s with
  | none => none
  | some (.done result) => some result
  | some (.next tokens later) =>
    if s.cursor < later.cursor ∧ later.cursor ≤ byteSize source then
      (tokens? source later).map (·.map (tokens ++ ·))
    else none
termination_by byteSize source - s.cursor
decreasing_by omega

/-- A section that is open. -/
structure Frame where
  name : Text
  inverted : Bool
  bodyStart : ℕ
  position : ℕ
  nodes : List Node

/-- The nodes of the source and its open sections, with a node more on the innermost level. -/
def push (node : Node) (root : List Node) : List Frame → List Node × List Frame
  | [] => (root ++ [node], [])
  | frame :: frames => (root, { frame with nodes := frame.nodes ++ [node] } :: frames)

/-- Builds the nodes of tokens. -/
def build? (source : Text) (root : List Node) (frames : List Frame) :
    List Token → Option (Except ParseError Template)
  | [] =>
    match frames with
    | [] => some (.ok root)
    | frame :: _ => some (.error ⟨frame.position, .unclosedSection frame.name⟩)
  | .text t :: rest =>
    let (root, frames) := push (.text t) root frames
    build? source root frames rest
  | .variable name escaped :: rest =>
    let (root, frames) := push (.variable name escaped) root frames
    build? source root frames rest
  | .opens name inverted bodyStart position :: rest =>
    build? source root (⟨name, inverted, bodyStart, position, []⟩ :: frames) rest
  | .closes name bodyEnd position :: rest =>
    match frames with
    | [] => some (.error ⟨position, .unopenedSection name⟩)
    | frame :: frames =>
      if frame.name = name then
        (slice? source frame.bodyStart bodyEnd).bind fun body ↦
          let (root, frames) := push (.section name frame.inverted body frame.nodes) root frames
          build? source root frames rest
      else some (.error ⟨position, .crossedSection frame.name name⟩)

/-- The template that a source spells. -/
def parse? (source : Text) : Option (Except ParseError Template) := do
  match ← tokens? source ⟨[], 0, 0⟩ with
  | .error e => return .error e
  | .ok tokens => build? source [] [] tokens

/-! ## One tag -/

/-- The token of a tag between two offsets. -/
def tokenOf (start stop : ℕ) : Tag → Option Token
  | .variable name escaped => some (.variable name escaped)
  | .openSection name inverted => some (.opens name inverted stop start)
  | .closeSection name => some (.closes name start start)
  | .silent => none

theorem any_isVariable_tokenOf (start stop : ℕ) (tag : Tag) :
    (tokenOf start stop tag).any Token.isVariable = tag.isVariable := by
  cases tag <;> rfl

theorem drop?_mark {c : Char} (h : c ∈ marks) (t : Text) : drop? (c :: t) 1 = some t := by
  have hsize : byteSize [c] = 1 := by
    obtain rfl | rfl | rfl | rfl | rfl | rfl | rfl :
        c = '#' ∨ c = '^' ∨ c = '/' ∨ c = '&' ∨ c = '>' ∨ c = '!' ∨ c = '=' := by
      simpa only [marks, List.mem_cons, List.not_mem_nil, or_false] using h
    all_goals decide
  exact hsize ▸ drop?_append [c] t

theorem token?_triple (content : Text) (start stop : ℕ) :
    token? ⟨content, stop, true⟩ start
      = some ((tagName content).map fun name ↦ tokenOf start stop (.variable name false)) := by
  rw [tagName_eq]
  by_cases hname : trim content = [] <;> simp [token?, name?, hname, tokenOf, Except.map]

theorem token?_double (content : Text) (start stop : ℕ) :
    token? ⟨content, stop, false⟩ start
      = some ((Tag.ofContent content).map (tokenOf start stop)) := by
  rw [Tag.ofContent.eq_def]
  split
  case h_8 =>
    cases content with
    | nil =>
        simp [token?, name?, tagName_eq, trim, trimStart, trimEnd, Except.map, bind, Except.bind]
    | cons c rest =>
      obtain ⟨h₁, h₂, h₃, h₄, h₅, h₆, h₇⟩ :
          c ≠ '#' ∧ c ≠ '^' ∧ c ≠ '/' ∧ c ≠ '&' ∧ c ≠ '>' ∧ c ≠ '!' ∧ c ≠ '=' := by simp_all
      by_cases hname : trim (c :: rest) = []
      all_goals
        simp [token?, name?, hname, h₁, h₂, h₃, h₄, h₅, h₆, h₇, tagName_eq, tokenOf,
          Except.map, bind, Except.bind, pure, Except.pure]
  all_goals
    rename_i rest
    by_cases hname : trim rest = []
    all_goals
      simp (disch := decide) [token?, name?, drop?_mark, hname, tagName_eq, tokenOf,
        Except.map, bind, Except.bind, pure, Except.pure, throw, throwThe, MonadExceptOf.throw]

theorem drop?_inner (read inner : Text) :
    drop? (read ++ (opener ++ inner)) (byteSize read + byteSize opener) = some inner := by
  rw [← List.append_assoc, ← byteSize_append]
  exact drop?_append ..

theorem inside?_triple {read tail content rest : Text}
    (hbreak : breakOn tripleCloser ('{' :: tail) = some ('{' :: content, rest)) :
    inside? (read ++ (opener ++ '{' :: tail)) (byteSize read) =
      some (.ok ⟨content,
        byteSize read + byteSize (opener ++ '{' :: content ++ tripleCloser), true⟩) := by
  have htail : '{' :: tail = ['{'] ++ (content ++ (tripleCloser ++ rest)) := by
    simpa using eq_of_breakOn hbreak
  have hbrace : '{'.utf8Size = 1 := by decide
  have hcontent := slice?_append (read ++ opener ++ ['{']) content (tripleCloser ++ rest)
  rw [List.append_assoc _ ['{'], ← htail] at hcontent
  simp only [byteSize_append, byteSize_cons, byteSize_nil, hbrace, List.append_assoc, Nat.add_zero,
    ← Nat.add_assoc] at hcontent
  simp [inside?, drop?_inner, find?, hbreak, hbrace, ← Nat.add_assoc, hcontent]

theorem inside?_double {read inner content rest : Text} (hbrace : inner.head? ≠ some '{')
    (hbreak : breakOn closer inner = some (content, rest)) :
    inside? (read ++ (opener ++ inner)) (byteSize read) =
      some (.ok ⟨content, byteSize read + byteSize (opener ++ content ++ closer), false⟩) := by
  have hinner : inner = content ++ (closer ++ rest) := by
    rw [eq_of_breakOn hbreak, List.append_assoc]
  have hcontent := slice?_append (read ++ opener) content (closer ++ rest)
  rw [← hinner, byteSize_append, List.append_assoc] at hcontent
  simp [inside?, drop?_inner, find?, hbreak, hbrace, ← Nat.add_assoc, hcontent]

theorem readTag?_eq (read inner : Text) :
    readTag? (read ++ (opener ++ inner)) (byteSize read) = some ((cutTag inner).map fun cut ↦
      (tokenOf (byteSize read) (byteSize read + byteSize cut.source) cut.tag,
        byteSize read + byteSize cut.source)) := by
  rw [cutTag.eq_def]
  split
  · rename_i tail
    cases hbreak : breakOn tripleCloser ('{' :: tail) with
    | none => simp [readTag?, inside?, drop?_inner, find?, hbreak, Except.map]
    | some cut =>
      obtain ⟨content, rest⟩ := cut
      cases content with
      | nil => cases eq_of_breakOn hbreak
      | cons c content =>
        obtain rfl : '{' = c := (List.cons.inj (eq_of_breakOn hbreak)).1
        rw [readTag?, inside?_triple hbreak]
        simp only [Option.pure_def, Option.bind_eq_bind, Option.bind_some, token?_triple,
          List.drop_succ_cons, List.drop_zero]
        cases tagName content <;> rfl
  · rename_i hbrace
    have hhead : inner.head? ≠ some '{' := by
      intro hhead
      obtain ⟨tail, rfl⟩ := List.head?_eq_some_iff.mp hhead
      exact hbrace tail rfl
    cases hbreak : breakOn closer inner with
    | none => simp [readTag?, inside?, drop?_inner, hhead, find?, hbreak, Except.map]
    | some cut =>
      obtain ⟨content, rest⟩ := cut
      rw [readTag?, inside?_double hhead hbreak]
      simp only [Option.pure_def, Option.bind_eq_bind, Option.bind_some, token?_double]
      cases Tag.ofContent content <;> rfl

/-! ## Lines -/

theorem trim_eq_nil_iff {t : Text} : trim t = [] ↔ allBlank t = true := by
  rw [trim, trimEnd, List.reverse_eq_nil_iff, List.dropWhile_eq_nil_iff]
  simp only [List.mem_reverse]
  rw [← List.dropWhile_eq_nil_iff, trimStart, List.dropWhile_idempotent, List.dropWhile_eq_nil_iff,
    allBlank, List.all_eq_true]

variable {earlier lines indent kept tag line rest : Text}

theorem lineStart_append (hlines : StartsLine lines) (hmem : '\n' ∉ indent) :
    lineStart (lines ++ indent) = byteSize lines := by
  obtain rfl | ⟨s, rfl⟩ := hlines
  · rw [List.nil_append, lineStart, rfind?_eq_none hmem]
    rfl
  · rw [List.append_assoc, List.singleton_append, lineStart, rfind?_append s hmem, byteSize_append]
    rfl

theorem lineStop_append (hline : StopsLine line rest) :
    lineStop (line ++ rest) = byteSize line := by
  obtain ⟨s, rfl, hmem⟩ | ⟨rfl, hmem⟩ := hline
  · rw [lineStop, find?, List.append_assoc, List.singleton_append, breakOn_append_cons hmem]
    exact (byteSize_append s ['\n']).symm
  · rw [List.append_nil, lineStop, find?,
      Option.map_eq_none_iff.mpr (Option.map_eq_none_iff.mp (firstLine?_eq_none_iff.mpr hmem))]
    rfl

/-- Whether a tag stands alone, from the lines in front of it and behind it. -/
theorem nextLine?_eq (hlines : StartsLine lines) (hindent : '\n' ∉ indent)
    (hline : StopsLine line rest) (lastTagEnd : ℕ) :
    nextLine? (lines ++ indent ++ (tag ++ (line ++ rest))) (byteSize (lines ++ indent))
        (byteSize (lines ++ indent ++ tag)) lastTagEnd =
      some (if lastTagEnd ≤ byteSize lines ∧ allBlank indent ∧ allBlank line then
        some (byteSize (lines ++ indent ++ tag) + byteSize line) else none) := by
  have hslice := slice?_append lines indent (tag ++ (line ++ rest))
  have hdrop := drop?_append (lines ++ indent ++ tag) (line ++ rest)
  rw [← List.append_assoc, ← byteSize_append] at hslice
  rw [List.append_assoc] at hdrop
  rw [nextLine?, take?_append]
  simp only [Option.bind_eq_bind, Option.bind_some, Option.pure_def,
    lineStart_append hlines hindent, hslice, hdrop, lineStop_append hline, take?_append,
    trim_eq_nil_iff, ← Nat.not_le, ite_not, ite_and]
  split_ifs <;> rfl

theorem nextLine?_alone {front after : Text} (hindent : IsIndent earlier front indent)
    (hline : IsLineEnd after line) (tag : Text) :
    nextLine? (front ++ (tag ++ after)) (byteSize front) (byteSize (front ++ tag))
        (byteSize earlier)
      = some (some (byteSize (front ++ tag) + byteSize line)) := by
  obtain ⟨hblank, hmem, lines, rfl, hlines, more, rfl⟩ := hindent
  obtain ⟨hblank', rest, rfl, hstop⟩ := hline
  have hearlier : byteSize earlier ≤ byteSize (earlier ++ more) := by
    rw [byteSize_append]
    exact Nat.le_add_right ..
  rw [nextLine?_eq hlines hmem hstop, if_pos ⟨hearlier, hblank, hblank'⟩]

theorem nextLine?_plain {front after : Text} (hearlier : earlier <+: front)
    (h : ∀ indent line, IsIndent earlier front indent → ¬IsLineEnd after line) (tag : Text) :
    nextLine? (front ++ (tag ++ after)) (byteSize front) (byteSize (front ++ tag))
        (byteSize earlier)
      = some none := by
  obtain ⟨lines, indent, rfl, hlines, hmem⟩ := exists_lines front
  obtain ⟨line, rest, rfl, hstop⟩ := exists_line after
  rw [nextLine?_eq hlines hmem hstop, if_neg]
  rintro ⟨hle, hblank, hblank'⟩
  have hprefix := (isPrefix_iff_byteSize_le hearlier (List.prefix_append lines indent)).mpr hle
  exact h indent line ⟨hblank, hmem, lines, rfl, hlines, hprefix⟩ ⟨hblank', rest, rfl, hstop⟩

theorem dedent?_eq (hlines : StartsLine (earlier ++ kept)) (hindent : '\n' ∉ indent) (more : Text) :
    dedent? (earlier ++ (kept ++ indent) ++ more) (kept ++ indent)
      (byteSize (earlier ++ (kept ++ indent))) = some kept := by
  have hstart : lineStart (earlier ++ (kept ++ indent)) = byteSize (earlier ++ kept) := by
    rw [← List.append_assoc, lineStart_append hlines hindent]
  have hindent' : (byteSize (earlier ++ (kept ++ indent))).psub (byteSize (earlier ++ kept))
      = some (byteSize indent) := by
    rw [Nat.psub_eq_some]
    simp only [byteSize_append]
    omega
  have hlength : (byteSize (kept ++ indent)).psub (byteSize indent) = some (byteSize kept) := by
    rw [Nat.psub_eq_some, byteSize_append]
  simp only [dedent?, take?_append, Option.bind_eq_bind, Option.bind_some, hstart,
    hindent', hlength, truncate?_append]

end SiteClient.Template.Offsets
