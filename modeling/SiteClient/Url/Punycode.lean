import SiteClient.Text.Basic
/-!
# Punycode

A label of a domain name in ASCII. Its ASCII characters come first; behind a hyphen follow numbers,
one for each other character in ascending order, that say how many possible insertions to skip
before the next one. A number is written in base 36, the lowest digit first, and ends with the first
digit below a threshold that adapts to the numbers written so far.
-/

namespace SiteClient.Punycode

def digit (n : Nat) : Char :=
  if n < 26 then Char.ofNat (97 + n) else Char.ofNat (22 + n)

/-- The threshold of the digit at position `k`, which counts in steps of 36. -/
def threshold (bias k : Nat) : Nat :=
  min 26 (max 1 (k - bias))

theorem threshold_bounds (bias k : Nat) : 1 ≤ threshold bias k ∧ threshold bias k ≤ 26 := by
  unfold threshold
  omega

/-- A number, with its lowest digit at position `k`. -/
def number (bias k n : Nat) : Text :=
  let t := threshold bias k
  if n < t then [digit n]
  else digit (t + (n - t) % (36 - t)) :: number bias (k + 36) ((n - t) / (36 - t))
termination_by n
decreasing_by
  have := threshold_bounds bias k
  have := Nat.div_le_self (n - threshold bias k) (36 - threshold bias k)
  omega

/-- The bias that suits a number scaled down. -/
def settle (bias n : Nat) : Nat :=
  if h : 455 < n then settle (bias + 36) (n / 35) else bias + 36 * n / (n + 38)
termination_by n
decreasing_by omega

/-- The bias after a number, when so many characters are in place. -/
def adapt (n count : Nat) (first : Bool) : Nat :=
  let n := if first then n / 700 else n / 2
  settle 0 (n + n / count)

/-- The numbers written so far, and how the next one stands. -/
structure Progress where
  numbers : Text
  /-- The insertions skipped since the last number. -/
  skipped : Nat
  bias : Nat
  /-- The characters in place. -/
  placed : Nat
  first : Bool

/-- Passes one character of the label while the characters with code point `n` are inserted. -/
def pass (n : Nat) (p : Progress) (c : Char) : Progress :=
  if c.toNat < n then { p with skipped := p.skipped + 1 }
  else if c.toNat = n then
    { numbers := p.numbers ++ number p.bias 36 p.skipped
      skipped := 0
      bias := adapt p.skipped (p.placed + 1) p.first
      placed := p.placed + 1
      first := false }
  else p

/-- Inserts the characters with the given code points, in ascending order; those below `n` are in
place. -/
def insertAll (label : Text) : (n : Nat) → List Nat → Progress → Progress
  | _, [], p => p
  | n, next :: more, p =>
    let p := { p with skipped := p.skipped + (next - n) * (p.placed + 1) }
    let p := label.foldl (pass next) p
    insertAll label (next + 1) more { p with skipped := p.skipped + 1 }

/-- The code points beyond ASCII in a label, ascending, each once. -/
def codePoints (label : Text) : List Nat :=
  ((label.map Char.toNat).filter (0x80 ≤ ·)).eraseDups.mergeSort

def encode (label : Text) : Text :=
  let basic := label.filter fun c ↦ c.toNat < 0x80
  let progress := insertAll label 0x80 (codePoints label) ⟨[], 0, 72, basic.length, true⟩
  basic ++ (if basic = [] then [] else ['-']) ++ progress.numbers

/-! ## Reading -/

/-- The number below 36 that a digit is. -/
def value? (c : Char) : Option Nat :=
  if c.isDigit then some (c.toNat - 22)
  else if 'a' ≤ c ∧ c ≤ 'z' then some (c.toNat - 97)
  else none

/-- Numbers stay below this bound. -/
def bound : Nat := UInt32.size

/-- Reads a number that has its lowest digit at position `k`, where a digit counts `weight`: the
number and the text behind it. -/
def readNumber (bias k weight : Nat) : Text → Option (Nat × Text)
  | [] => none
  | c :: rest =>
    match value? c with
    | none => none
    | some d =>
      let t := threshold bias k
      if d < t then some (d * weight, rest)
      else if bound ≤ weight * (36 - t) then none
      else (readNumber bias (k + 36) (weight * (36 - t)) rest).map fun (n, rest) ↦
        (d * weight + n, rest)

theorem length_readNumber_lt {bias k weight n : Nat} {t rest : Text}
    (h : readNumber bias k weight t = some (n, rest)) : rest.length < t.length := by
  induction t generalizing k weight n with
  | nil => simp [readNumber] at h
  | cons c t ih =>
    rw [readNumber] at h
    split at h
    · simp at h
    · simp only at h
      split at h
      · simp only [Option.some.injEq, Prod.mk.injEq] at h
        simp [← h.2]
      · split at h
        · simp at h
        · simp only [Option.map_eq_some_iff, Prod.mk.injEq, Prod.exists] at h
          obtain ⟨m, r, hr, -, rfl⟩ := h
          have := ih hr
          simp only [List.length_cons]
          omega

/-- Reads the numbers behind a label and inserts a character for each. `n` is the least code point
that can come next, and `skipped` counts the places that are behind it already. -/
def insertRead (n bias skipped : Nat) (first : Bool) (label numbers : Text) : Option Text :=
  if numbers = [] then some label
  else match h : readNumber bias 36 1 numbers with
    | none => none
    | some (number, rest) =>
      have := length_readNumber_lt h
      let count := label.length + 1
      let place := (skipped + number) % count
      let n := n + (skipped + number) / count
      if skipped + number < bound ∧ n.isValidChar then
        insertRead n (adapt number count first) (place + 1) false
          (label.insertIdx place (Char.ofNat n)) rest
      else none
termination_by numbers.length

/-- The label that a text in ASCII spells, without the mark in front of it. The last hyphen stands
behind the ASCII characters of the label. -/
def decode (t : Text) : Option Text :=
  match Text.breakOn ['-'] t.reverse with
  | some (numbers, basic) =>
    if basic = [] then none else insertRead 0x80 72 0 true basic.reverse numbers.reverse
  | none => insertRead 0x80 72 0 true [] t

end SiteClient.Punycode
