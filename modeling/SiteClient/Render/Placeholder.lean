import SiteClient.Text.Basic
/-!
# Placeholders for strings

While a template is expanded, its localized strings are not known yet. In the place of string `n`
the output holds the placeholder `{{_sn}}`, and any other brace that is written, wherever it comes
from, has a guard in front of it. So a placeholder in the output is one that the expansion emitted,
and `substitute` can put the strings in their places and take the guards away in one scan. What it
has put in is never scanned.
-/

namespace SiteClient.Placeholder

/-- Stands before a character that is to be taken as it is. -/
def guardMark : Char := '\uE000'

/-- Whether a character needs a guard. -/
def needsGuard (c : Char) : Bool :=
  c == '{' || c == guardMark

/-- The text with a guard before every character that needs one. -/
def guarded (t : Text) : Text :=
  t.flatMap fun c ↦ if needsGuard c then [guardMark, c] else [c]

def opening : Text := ['{', '{', '_', 's']

def closing : Text := ['}', '}']

def placeholder (index : Nat) : Text :=
  opening ++ Text.ofNat index ++ closing

/-- The index of the placeholder that the text starts with and the text after it. The index is below
`count` and written as `placeholder` writes it, without leading zeros. -/
def placeholderAt? (count : Nat) (t : Text) : Option (Nat × Text) :=
  match opening.isPrefixOf? t with
  | none => none
  | some after =>
    let digits := after.takeWhile Char.isDigit
    let index := Nat.ofDigitChars 10 digits 0
    match closing.isPrefixOf? (after.dropWhile Char.isDigit) with
    | none => none
    | some rest => if index < count ∧ Text.ofNat index = digits then some (index, rest) else none

theorem eq_of_placeholderAt? {count index : Nat} {t rest : Text}
    (h : placeholderAt? count t = some (index, rest)) :
    index < count ∧ t = placeholder index ++ rest := by
  unfold placeholderAt? at h
  split at h
  · simp at h
  · rename_i after hopen
    simp only at h
    split at h
    · simp at h
    · rename_i hclose
      split at h
      · rename_i hd
        simp only [Option.some.injEq, Prod.mk.injEq] at h
        obtain ⟨rfl, rfl⟩ := h
        refine ⟨hd.1, ?_⟩
        have := Text.eq_append_of_isPrefixOf? hopen
        have hrest := Text.eq_append_of_isPrefixOf? hclose
        rw [placeholder, hd.2, this, List.append_assoc, List.append_assoc, ← hrest,
          List.takeWhile_append_dropWhile]
      · simp at h

/-- Puts strings in the place of their placeholders and drops guards. Only the first placeholder of
an index counts; `used` are the indices that have been met. -/
def substituteFrom (strings : List Text) (used : List Nat) : Text → Text
  | [] => []
  | c :: t =>
    if c = guardMark then
      match t with
      | [] => []
      | d :: t => d :: substituteFrom strings used t
    else if c = '{' then
      match h : placeholderAt? strings.length (c :: t) with
      | some (index, rest) =>
        if index ∈ used then c :: substituteFrom strings used t
        else
          have : rest.length < t.length + 1 := by
            have := congrArg List.length (eq_of_placeholderAt? h).2
            simp only [placeholder, opening, List.length_append, List.length_cons] at this
            omega
          strings.getD index [] ++ substituteFrom strings (index :: used) rest
      | none => c :: substituteFrom strings used t
    else c :: substituteFrom strings used t
termination_by t => t.length

/-- The text with its strings in place. -/
def substitute (t : Text) (strings : List Text) : Text :=
  substituteFrom strings [] t

end SiteClient.Placeholder
