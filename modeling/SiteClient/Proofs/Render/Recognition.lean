import SiteClient.Proofs.Decimal.Numerals
import SiteClient.Proofs.Render.Parts
import SiteClient.Proofs.Template.Slices

/-!
# Which texts start with a placeholder

A placeholder is recognized where one was written and nowhere else (`placeholderAt?_exact`). An
index has one placeholder, for a number is written in one way; so a text that starts with other
digits of the same number, with more zeros, say, does not start with a placeholder.

That is what `placeholderAt?` asks: are the digits those of their number? One can find out without
writing the number (`scannedAt?`): leading zeros are refused at sight, and the number is held in a
word of 64 bits, which is enough, for an index is below the number of strings, and that is a word.
-/

namespace SiteClient.Placeholder

variable {count index length : ℕ} {t rest : Text}

theorem placeholderAt?_eq_some_iff :
    placeholderAt? count t = some (index, rest) ↔
      index < count ∧ t = placeholder index ++ rest := by
  refine ⟨eq_of_placeholderAt?, ?_⟩
  rintro ⟨hcount, rfl⟩
  exact placeholderAt?_placeholder hcount rest

/-! ## The bytes of a placeholder -/

/-- The placeholder that the text starts with: its index, and the bytes that it takes. -/
def measuredAt? (count : ℕ) (t : Text) : Option (ℕ × ℕ) :=
  (placeholderAt? count t).map fun (index, rest) ↦ (index, t.byteSize - rest.byteSize)

theorem measuredAt?_eq_some_iff :
    measuredAt? count t = some (index, length) ↔
      index < count ∧ placeholder index <+: t ∧ length = (placeholder index).byteSize := by
  simp only [measuredAt?, Option.map_eq_some_iff, Prod.exists, Prod.mk.injEq,
    placeholderAt?_eq_some_iff]
  constructor
  · rintro ⟨index, rest, ⟨hcount, rfl⟩, rfl, rfl⟩
    refine ⟨hcount, List.prefix_append _ _, ?_⟩
    rw [Text.byteSize_append, Nat.add_sub_cancel]
  · rintro ⟨hcount, ⟨rest, rfl⟩, rfl⟩
    refine ⟨index, rest, ⟨hcount, rfl⟩, rfl, ?_⟩
    rw [Text.byteSize_append, Nat.add_sub_cancel]

theorem measuredAt?_eq_none_iff :
    measuredAt? count t = none ↔ ∀ index < count, ¬placeholder index <+: t := by
  rw [Option.eq_none_iff_forall_ne_some]
  constructor
  · exact fun h index hcount hstart ↦ h _ (measuredAt?_eq_some_iff.mpr ⟨hcount, hstart, rfl⟩)
  · rintro h ⟨index, length⟩ hsome
    obtain ⟨hcount, hstart, -⟩ := measuredAt?_eq_some_iff.mp hsome
    exact h index hcount hstart

/-! ## Without writing the number -/

/-- The index of the placeholder that the text starts with and the bytes that it takes, from left to
right: there are digits, and a zero does not come first unless it is alone; the end of a placeholder
follows; and the number fits a word. -/
def scannedAt? (count : ℕ) (t : Text) : Option (ℕ × ℕ) :=
  match opening.isPrefixOf? t with
  | none => none
  | some after =>
    let digits := after.takeWhile Char.isDigit
    if digits = [] ∨ 1 < digits.length ∧ after.head? = some '0' then none
    else match closing.isPrefixOf? (after.drop digits.length) with
      | none => none
      | some _ => ((Numeral.word? digits).filter (· < count)).map fun index ↦
        (index, opening.length + digits.length + closing.length)

/-- What is refused at sight are the digits that are not written for a number. -/
theorem refused_iff (after : Text) :
    (after.takeWhile Char.isDigit = [] ∨
        1 < (after.takeWhile Char.isDigit).length ∧ after.head? = some '0') ↔
      ¬Numeral.IsWhole (after.takeWhile Char.isDigit) := by
  cases after with
  | nil => simp [Numeral.IsWhole, Numeral.IsDigits]
  | cons c after =>
    by_cases hc : c.isDigit = true
    · have hdigits : ∀ d ∈ after.takeWhile Char.isDigit, d.isDigit = true :=
        List.all_eq_true.mp List.all_takeWhile
      rw [List.takeWhile_cons_of_pos hc, Numeral.isWhole_cons_iff hc hdigits, Classical.not_imp,
        List.length_cons, Nat.lt_add_left_iff_pos, List.length_pos_iff, and_comm]
      simp
    · rw [List.takeWhile_cons_of_neg hc]
      simp [Numeral.IsWhole, Numeral.IsDigits]

theorem byteSize_ofNat (index : ℕ) : (Text.ofNat index).byteSize = (Text.ofNat index).length := by
  refine Text.byteSize_of_ascii fun c hc ↦ ?_
  have hbounds := Numeral.toNat_of_isDigit (Text.isDigit_of_mem_ofNat hc)
  omega

theorem byteSize_placeholder (index : ℕ) :
    (placeholder index).byteSize = opening.length + (Text.ofNat index).length + closing.length := by
  rw [placeholder, Text.byteSize_append, Text.byteSize_append, byteSize_ofNat]
  rfl

theorem drop_length_takeWhile (after : Text) :
    after.drop (after.takeWhile Char.isDigit).length = after.dropWhile Char.isDigit := by
  calc after.drop (after.takeWhile Char.isDigit).length
      = (after.takeWhile Char.isDigit ++ after.dropWhile Char.isDigit).drop
          (after.takeWhile Char.isDigit).length := by rw [List.takeWhile_append_dropWhile]
    _ = after.dropWhile Char.isDigit := List.drop_left

/-- All indices fit a word, and no larger number becomes one of them. -/
theorem filter_word? (hword : count ≤ UInt64.size) (digits : Text) :
    (Numeral.word? digits).filter (· < count) =
      if Nat.ofDigitChars 10 digits 0 < count then some (Nat.ofDigitChars 10 digits 0)
      else none := by
  split
  · rename_i hcount
    rw [Numeral.word?_eq_some_iff.mpr ⟨rfl, Nat.lt_of_lt_of_le hcount hword⟩]
    exact Option.filter_some_pos (decide_eq_true hcount)
  · rename_i hcount
    refine Option.filter_eq_none_iff.mpr fun index hindex ↦ ?_
    rw [← (Numeral.word?_eq_some_iff.mp hindex).1]
    simpa using hcount

theorem eq_placeholder_append {after : Text} (hopen : opening.isPrefixOf? t = some after)
    (hwhole : Numeral.IsWhole (after.takeWhile Char.isDigit))
    (hclose : closing.isPrefixOf? (after.dropWhile Char.isDigit) = some rest) :
    t = placeholder (Nat.ofDigitChars 10 (after.takeWhile Char.isDigit) 0) ++ rest := by
  rw [placeholder, Numeral.ofNat_ofDigitChars hwhole, List.append_assoc, List.append_assoc,
    ← Text.eq_append_of_isPrefixOf? hclose, List.takeWhile_append_dropWhile,
    ← Text.eq_append_of_isPrefixOf? hopen]

/-- **The number need not be written** to find out which placeholder stands at the start. -/
theorem scannedAt?_eq (hword : count ≤ UInt64.size) (t : Text) :
    scannedAt? count t = measuredAt? count t := by
  rw [scannedAt?, measuredAt?, placeholderAt?]
  cases hopen : opening.isPrefixOf? t with
  | none => rfl
  | some after =>
    dsimp only
    rw [drop_length_takeWhile, filter_word? hword]
    by_cases hwhole : Numeral.IsWhole (after.takeWhile Char.isDigit)
    · rw [if_neg (mt (refused_iff after).mp (not_not_intro hwhole))]
      cases hclose : closing.isPrefixOf? (after.dropWhile Char.isDigit) with
      | none => rfl
      | some rest =>
        have hwritten := Numeral.ofNat_ofDigitChars hwhole
        have hsize : t.byteSize - Text.byteSize rest =
            opening.length + (after.takeWhile Char.isDigit).length + closing.length := by
          rw [eq_placeholder_append hopen hwhole hclose, Text.byteSize_append, Nat.add_sub_cancel,
            byteSize_placeholder, hwritten]
        dsimp only
        by_cases hcount : Nat.ofDigitChars 10 (after.takeWhile Char.isDigit) 0 < count
        · rw [if_pos hcount, if_pos ⟨hcount, hwritten⟩, Option.map_some, Option.map_some, hsize]
        · rw [if_neg hcount, if_neg fun h ↦ hcount h.1]
          rfl
    · -- The other reader refuses the digits, too, but only when it compares them.
      rw [if_pos ((refused_iff after).mpr hwhole)]
      cases hclose : closing.isPrefixOf? (after.dropWhile Char.isDigit) with
      | none => rfl
      | some rest =>
        dsimp only
        rw [if_neg fun h ↦ hwhole (Numeral.ofNat_ofDigitChars_eq_iff.mp h.2)]
        rfl

/-! ## Recognition -/

theorem placeholderAt?_eq_some_iff_drop? :
    placeholderAt? count t = some (index, rest) ↔
      ∃ length, measuredAt? count t = some (index, length) ∧ Text.drop? t length = some rest := by
  simp only [placeholderAt?_eq_some_iff, measuredAt?_eq_some_iff]
  constructor
  · rintro ⟨hcount, rfl⟩
    exact ⟨_, ⟨hcount, List.prefix_append _ _, rfl⟩, Text.drop?_append _ _⟩
  · rintro ⟨_, ⟨hcount, ⟨more, rfl⟩, rfl⟩, hdrop⟩
    rw [Text.drop?_append] at hdrop
    exact ⟨hcount, congrArg _ (Option.some.inj hdrop)⟩

/-- **Exactly the placeholders are recognized.** The index and the bytes that are found at the start
of a text are those of a placeholder that stands there, and nothing is found if none does, whatever
digits there are. What is left of the text follows those bytes, and the same is found without
writing a number. -/
theorem placeholderAt?_exact (count : ℕ) (t : Text) :
    (∀ index length, measuredAt? count t = some (index, length) ↔
      index < count ∧ placeholder index <+: t ∧ length = (placeholder index).byteSize) ∧
    (measuredAt? count t = none ↔ ∀ index < count, ¬placeholder index <+: t) ∧
    (∀ index rest, placeholderAt? count t = some (index, rest) ↔
      ∃ length, measuredAt? count t = some (index, length) ∧ Text.drop? t length = some rest) ∧
    (count ≤ UInt64.size → scannedAt? count t = measuredAt? count t) :=
  ⟨fun _ _ ↦ measuredAt?_eq_some_iff, measuredAt?_eq_none_iff,
    fun _ _ ↦ placeholderAt?_eq_some_iff_drop?, fun hword ↦ scannedAt?_eq hword t⟩

/-- Like the placeholder of a number that is one in the arithmetic of words. -/
def largeNumber : Text :=
  opening ++ "18446744073709551617".toList ++ closing

/-- The number is too large; it is not taken for one. -/
theorem placeholderAt?_exact_of_largeNumber :
    2 ≤ UInt64.size ∧ (∀ index < 2, ¬placeholder index <+: largeNumber) ∧
      measuredAt? 2 largeNumber = none ∧ scannedAt? 2 largeNumber = none ∧
      measuredAt? 2 (placeholder 1 ++ largeNumber) = some (1, 7) := by
  obtain ⟨-, hnone, -, hscanned⟩ := placeholderAt?_exact 2 largeNumber
  obtain ⟨hsome, -⟩ := placeholderAt?_exact 2 (placeholder 1 ++ largeNumber)
  have hword : 2 ≤ UInt64.size := by decide
  have hother : ∀ index < 2, ¬placeholder index <+: largeNumber := by decide
  refine ⟨hword, hother, hnone.mpr hother, (hscanned hword).trans (hnone.mpr hother), ?_⟩
  exact (hsome 1 7).mpr ⟨by decide, List.prefix_append _ _, by decide⟩

end SiteClient.Placeholder
