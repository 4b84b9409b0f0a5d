/-!
# Text

A text is the list of its characters. Everything the library reads or writes is text in this sense;
bytes appear only where a body leaves or enters (`SiteClient.Text.Utf8`). Positions that are shown
to a person count bytes of UTF-8, hence `byteSize`.

`breakOn` is the one way in which a text is cut at a mark: it takes the first occurrence, and its
two parts and the mark make up the text again (`eq_of_breakOn`).
-/

namespace SiteClient

/-- A text, as the list of its characters. -/
abbrev Text := List Char

namespace Text

/-- The number of bytes that the text takes in UTF-8. -/
def byteSize : Text → Nat
  | [] => 0
  | c :: t => c.utf8Size + byteSize t

@[simp] theorem byteSize_nil : byteSize [] = 0 := rfl

@[simp] theorem byteSize_cons (c : Char) (t : Text) : byteSize (c :: t) = c.utf8Size + byteSize t :=
  rfl

@[simp] theorem byteSize_append (s t : Text) : byteSize (s ++ t) = byteSize s + byteSize t := by
  induction s with
  | nil => simp
  | cons c s ih => simp [ih, Nat.add_assoc]

/-! ## Cutting at a mark -/

/-- Cuts the text at the first occurrence of `mark`: what stands before it and what follows it. -/
def breakOn (mark : Text) : Text → Option (Text × Text)
  | [] => none
  | c :: t =>
    match mark.isPrefixOf? (c :: t) with
    | some after => some ([], after)
    | none => (breakOn mark t).map fun (before, after) ↦ (c :: before, after)

theorem eq_append_of_isPrefixOf? {s t r : Text} (h : s.isPrefixOf? t = some r) : t = s ++ r := by
  induction s generalizing t with
  | nil => exact Option.some.inj h
  | cons c s ih =>
    cases t with
    | nil => exact absurd h (Option.some_ne_none r).symm
    | cons d t =>
      change (if c == d then s.isPrefixOf? t else none) = some r at h
      split at h
      · rename_i hcd
        rw [beq_iff_eq.1 hcd, ih h, List.cons_append]
      · simp at h

/-- Nothing is lost in a cut. -/
theorem eq_of_breakOn {mark t before after : Text} (h : breakOn mark t = some (before, after)) :
    t = before ++ mark ++ after := by
  induction t generalizing before with
  | nil => simp [breakOn] at h
  | cons c t ih =>
    rw [breakOn] at h
    split at h
    · rename_i r hr
      simp only [Option.some.injEq, Prod.mk.injEq] at h
      rw [← h.1, ← h.2, List.nil_append, eq_append_of_isPrefixOf? hr]
    · simp only [Option.map_eq_some_iff, Prod.mk.injEq, Prod.exists] at h
      obtain ⟨b, a, hba, rfl, rfl⟩ := h
      rw [ih hba, List.cons_append, List.cons_append]

theorem length_lt_of_breakOn {mark t before after : Text}
    (h : breakOn mark t = some (before, after)) (hm : mark ≠ []) : after.length < t.length := by
  have := List.length_pos_iff.2 hm
  rw [eq_of_breakOn h, List.length_append, List.length_append]
  omega

/-- The parts of a text between marks; a text without a mark is one part. -/
def cutAt (isMark : Char → Bool) : Text → List Text
  | [] => [[]]
  | c :: t =>
    if isMark c then [] :: cutAt isMark t
    else match cutAt isMark t with
      | [] => [[c]]
      | part :: parts => (c :: part) :: parts

/-- Every occurrence of `old`, read from left to right without overlap, replaced by `new`. -/
def replaceAll (old new : Text) (t : Text) : Text :=
  if hold : old = [] then t
  else match h : breakOn old t with
    | none => t
    | some (before, after) =>
      have := length_lt_of_breakOn h hold
      before ++ new ++ replaceAll old new after
termination_by t.length

def trimStartOf (c : Char) (t : Text) : Text :=
  t.dropWhile (· == c)

def trimEndOf (c : Char) (t : Text) : Text :=
  (t.reverse.dropWhile (· == c)).reverse

/-! ## Numbers -/

/-- A natural number in decimal digits. -/
def ofNat (n : Nat) : Text :=
  Nat.toDigits 10 n

/-- An integer in decimal digits, with a leading minus sign if it is negative. -/
def ofInt : Int → Text
  | .ofNat n => ofNat n
  | .negSucc n => '-' :: ofNat (n + 1)

/-- The digit of a number below sixteen, lower case. -/
def hexDigit (n : Nat) : Char :=
  Nat.digitChar n

def hex (n : Nat) : Text :=
  Nat.toDigits 16 n

/-- The value of a hexadecimal digit of either case. -/
def hexValue? (c : Char) : Option Nat :=
  if '0' ≤ c ∧ c ≤ '9' then some (c.toNat - 48)
  else if 'a' ≤ c ∧ c ≤ 'f' then some (c.toNat - 87)
  else if 'A' ≤ c ∧ c ≤ 'F' then some (c.toNat - 55)
  else none

end Text
end SiteClient
