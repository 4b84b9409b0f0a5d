import SiteClient.Json.Numeral
/-!
# JSON tokens

The lexical half of reading JSON. A text is cut into tokens from left to right, up to the first
symbol that begins no token.

A value can be read for itself or only skipped, when nobody wants it, and the two ask for different
things: a skipped string may hold half of a surrogate pair and a skipped number may be too large. A
token therefore keeps its value as a result that may be an error, and a token that breaks off keeps
the problem as a reader (`typed`) and as a skipper (`skipped`) sees it.
-/

namespace SiteClient

/-- A token of JSON. -/
inductive Token where
  | openArray
  | closeArray
  | openObject
  | closeObject
  | comma
  | colon
  | null
  | bool (b : Bool)
  | number (value : Except ReadError Number)
  | string (value : Except ReadError Text)
  /-- A string that does not end. -/
  | brokenString (typed skipped : ReadError)
  /-- A literal or a number that does not end as it should. -/
  | brokenScalar (typed skipped : ReadError)
  /-- A symbol that begins no token. -/
  | other

namespace Token

/-! ## Strings -/

/-- What follows an opening quotation mark: a string and the rest of the text, or a string that
breaks off. -/
inductive StringScan where
  | closed (value : Except ReadError Text) (rest : List Symbol)
  | broken (typed skipped : ReadError)

namespace StringScan

/-- A break that a reader and a skipper see alike. -/
def cut (e : ReadError) : StringScan :=
  .broken e e

/-- Puts a character in front. -/
def push (c : Char) : StringScan → StringScan
  | .closed value rest => .closed (value.map (c :: ·)) rest
  | .broken typed skipped => .broken typed skipped

/-- Records a problem in front that a skipper does not mind. -/
def flaw (e : ReadError) : StringScan → StringScan
  | .closed _ rest => .closed (.error e) rest
  | .broken _ skipped => .broken e skipped

/-- Puts a stray byte in front. It counts only once the string has been read to its end without
another problem. -/
def stray : StringScan → StringScan
  | .closed (.ok _) rest => .closed (.error .invalidCodePoint) rest
  | scan => scan

end StringScan

def symbolSize : Symbol → Nat
  | .char c => c.utf8Size
  | .stray _ => 1

/-- The number spelled by the four hexadecimal digits at the start of the text. -/
def fourHexDigits (s : List Symbol) : Except ReadError Nat :=
  match s with
  | .char a :: .char b :: .char c :: .char d :: _ =>
    match Text.hexValue? a, Text.hexValue? b, Text.hexValue? c, Text.hexValue? d with
    | some a, some b, some c, some d => .ok (((a * 16 + b) * 16 + c) * 16 + d)
    | _, _, _, _ => .error .invalidEscape
  | _ =>
      .error (if (s.take 4).foldl (fun n x ↦ n + symbolSize x) 0 < 4 then .endInString
        else .invalidEscape)

/-- The first half of a surrogate pair. -/
def isHighSurrogate (n : Nat) : Bool :=
  0xD800 ≤ n && n ≤ 0xDBFF

/-- The second half of a surrogate pair. -/
def isLowSurrogate (n : Nat) : Bool :=
  0xDC00 ≤ n && n ≤ 0xDFFF

/-- The character that two surrogates stand for. -/
def pairedChar (high low : Nat) : Char :=
  Char.ofNat ((high - 0xD800) * 0x400 + (low - 0xDC00) + 0x10000)

def shortEscape? : Char → Option Char
  | '"' => some '"'
  | '\\' => some '\\'
  | '/' => some '/'
  | 'b' => some '\x08'
  | 'f' => some '\x0c'
  | 'n' => some '\n'
  | 'r' => some '\r'
  | 't' => some '\t'
  | _ => none

theorem length_lt_of_drop_eq {rest more : List Symbol} {n : Nat} {a b : Symbol}
    (h : rest.drop n = a :: b :: more) : more.length < rest.length := by
  have := congrArg List.length h
  simp only [List.length_drop, List.length_cons] at this
  omega

/-- A string from after its opening quotation mark. -/
def scanString : List Symbol → StringScan
  | [] => .cut .endInString
  | .stray _ :: rest => (scanString rest).stray
  | .char '"' :: rest => .closed (.ok []) rest
  | .char '\\' :: .char 'u' :: rest =>
    match fourHexDigits rest with
    | .error e => .cut e
    | .ok n =>
      if isLowSurrogate n then (scanString (rest.drop 4)).flaw .loneSurrogate
      else if isHighSurrogate n then
        match h : rest.drop 4 with
        | .char '\\' :: .char 'u' :: more =>
          have : more.length < rest.length := length_lt_of_drop_eq h
          match fourHexDigits more with
          | .error e => .cut e
          | .ok m =>
            if isLowSurrogate m then (scanString (more.drop 4)).push (pairedChar n m)
            else (scanString (more.drop 4)).flaw .loneSurrogate
        | [] | [.char '\\'] => .cut .endInString
        | _ => (scanString (rest.drop 4)).flaw .unpairedSurrogate
      else (scanString (rest.drop 4)).push (Char.ofNat n)
  | .char '\\' :: .char c :: rest =>
    match shortEscape? c with
    | some c => (scanString rest).push c
    | none => .cut .invalidEscape
  | .char '\\' :: .stray _ :: _ => .cut .invalidEscape
  | [.char '\\'] => .cut .endInString
  | .char c :: rest => if c.toNat < 0x20 then .cut .controlCharacter else (scanString rest).push c
termination_by s => s.length
decreasing_by all_goals simp only [List.length_cons, List.length_drop]; omega

/-- The symbols after a string, none if it breaks off. -/
def StringScan.rest : StringScan → List Symbol
  | .closed _ rest => rest
  | .broken .. => []

@[simp] theorem StringScan.rest_push (c : Char) (scan : StringScan) :
    (scan.push c).rest = scan.rest := by
  cases scan <;> rfl

@[simp] theorem StringScan.rest_flaw (e : ReadError) (scan : StringScan) :
    (scan.flaw e).rest = scan.rest := by
  cases scan <;> rfl

@[simp] theorem StringScan.rest_stray (scan : StringScan) : scan.stray.rest = scan.rest := by
  rcases scan with ⟨_ | _, _⟩ | _ <;> rfl

@[simp] theorem StringScan.rest_closed (value : Except ReadError Text) (rest : List Symbol) :
    (StringScan.closed value rest).rest = rest := rfl

@[simp] theorem StringScan.rest_cut (e : ReadError) : (StringScan.cut e).rest = [] := rfl

theorem length_rest_scanString_le (s : List Symbol) : (scanString s).rest.length ≤ s.length := by
  fun_induction scanString s <;> simp_all <;> omega

/-! ## Texts -/

/-- The blanks that may stand between tokens. -/
def isSpace (c : Char) : Bool :=
  c == ' ' || c == '\n' || c == '\t' || c == '\r'

/-- Whether the text goes on with the letters of a word. -/
def word : Text → List Symbol → Except ReadError (List Symbol)
  | [], rest => .ok rest
  | _ :: _, [] => .error .endInValue
  | c :: more, s :: rest => if s = .char c then word more rest else .error .expectedLiteral

/-- What a break in a numeral is to a reader. -/
def numeralError : Numeral.Fault → ReadError
  | .ended => .endInValue
  | .unexpected => .invalidNumber

/-- The token of a literal whose first letter has been read, and the text after it. -/
def literal (letters : Text) (token : Token) (rest : List Symbol) : Token × List Symbol :=
  match word letters rest with
  | .ok rest => (token, rest)
  | .error e => (.brokenScalar e e, [])

/-- The token of a string whose opening quotation mark has been read, and the text after it. -/
def quotedString (rest : List Symbol) : Token × List Symbol :=
  match scanString rest with
  | .closed value rest => (.string value, rest)
  | .broken typed skipped => (.brokenString typed skipped, [])

def numeral (s : List Symbol) : Token × List Symbol :=
  match Numeral.scan s with
  | .ok (numeral, rest) => (.number numeral.value, rest)
  | .error fault => (.brokenScalar (numeralError fault) .invalidNumber, [])

/-- The first token of a text that starts with `c`, and the text after it; no text after it if the
token breaks off or is none. -/
def first (c : Char) (rest : List Symbol) : Token × List Symbol :=
  match c with
  | '[' => (.openArray, rest)
  | ']' => (.closeArray, rest)
  | '{' => (.openObject, rest)
  | '}' => (.closeObject, rest)
  | ',' => (.comma, rest)
  | ':' => (.colon, rest)
  | 'n' => literal ['u', 'l', 'l'] .null rest
  | 't' => literal ['r', 'u', 'e'] (.bool true) rest
  | 'f' => literal ['a', 'l', 's', 'e'] (.bool false) rest
  | '"' => quotedString rest
  | c => if c = '-' ∨ c.isDigit then numeral (.char c :: rest) else (.other, [])

theorem length_le_of_word {letters : Text} {s rest : List Symbol} (h : word letters s = .ok rest) :
    rest.length ≤ s.length := by
  induction letters generalizing s with
  | nil => simp_all [word]
  | cons c more ih =>
    cases s with
    | nil => simp [word] at h
    | cons d s =>
      rw [word] at h
      split at h
      · exact Nat.le_succ_of_le (ih h)
      · simp at h

theorem length_literal_le (letters : Text) (token : Token) (rest : List Symbol) :
    (literal letters token rest).2.length ≤ rest.length := by
  unfold literal
  split
  · exact length_le_of_word ‹_›
  · exact Nat.zero_le _

theorem length_quotedString_le (rest : List Symbol) :
    (quotedString rest).2.length ≤ rest.length := by
  have h := length_rest_scanString_le rest
  unfold quotedString
  split
  · rwa [‹scanString rest = _›] at h
  · exact Nat.zero_le _

theorem length_numeral_lt (c : Char) (rest : List Symbol) :
    (numeral (.char c :: rest)).2.length ≤ rest.length := by
  unfold numeral
  split
  · exact Nat.le_of_lt_succ (Numeral.length_lt_of_scan ‹_›)
  · exact Nat.zero_le _

theorem length_first_le (c : Char) (rest : List Symbol) :
    (first c rest).2.length ≤ rest.length := by
  unfold first
  split
  all_goals first
    | exact Nat.le_refl _
    | exact length_literal_le _ _ _
    | exact length_quotedString_le _
    | skip
  split
  · exact length_numeral_lt _ _
  · exact Nat.zero_le _

/-- The tokens of a text. -/
def scan : List Symbol → List Token
  | [] => []
  | .stray _ :: _ => [.other]
  | .char c :: rest =>
    if isSpace c then scan rest
    else
      have := length_first_le c rest
      (first c rest).1 :: scan (first c rest).2
termination_by s => s.length
decreasing_by all_goals simp only [List.length_cons]; omega

end Token
end SiteClient
