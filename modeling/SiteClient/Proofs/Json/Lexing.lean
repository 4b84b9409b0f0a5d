import SiteClient.Json.Printer
import SiteClient.Proofs.Json.Grammar
import SiteClient.Proofs.Text.Bytes
/-!
# What is written is spelled as the grammar has it

What is written for a string stands in the grammar for a string with the same text
(`Token.starts_stringText`), and what is written for an integer for a number with the same value
(`Token.starts_ofInt`), whatever text follows.
-/

namespace SiteClient

/-! ## Strings -/

theorem Text.hexValue?_hexDigit : ∀ n < 16, hexValue? (hexDigit n) = some n := by
  decide

namespace Token

open Json (escapedChar stringText)

variable {s : List Symbol} {v : Except ReadError Text}

theorem stringBody_controlEscape {c : Char} (hc : c.toNat < 0x20) (hs : StringBody s v) :
    StringBody (Text.symbols
      ['\\', 'u', '0', '0', Text.hexDigit (c.toNat / 16), Text.hexDigit (c.toNat % 16)] ++ s)
      (v.map (c :: ·)) := by
  have hzero : Text.hexValue? '0' = some 0 := rfl
  have hhigh := Text.hexValue?_hexDigit (c.toNat / 16) (by omega)
  have hlow := Text.hexValue?_hexDigit (c.toNat % 16) (by omega)
  have hcode := IsCode.mk hzero hzero hhigh hlow
  have hvalue : ((0 * 16 + 0) * 16 + c.toNat / 16) * 16 + c.toNat % 16 = c.toNat := by omega
  rw [hvalue] at hcode
  have hbody := hs.code hcode
    (by rw [isLowSurrogate, Bool.and_eq_false_iff, decide_eq_false_iff_not]; omega)
    (by rw [isHighSurrogate, Bool.and_eq_false_iff, decide_eq_false_iff_not]; omega)
  rwa [Char.ofNat_toNat] at hbody

/-- **One character.** What is written for a character in a string stands for that character. -/
theorem stringBody_escapedChar (c : Char) (hs : StringBody s v) :
    StringBody ((escapedChar c).symbols ++ s) (v.map (c :: ·)) := by
  unfold escapedChar
  split
  case h_1 | h_2 | h_3 | h_4 | h_5 | h_6 | h_7 => exact .short rfl hs
  case h_8 hquote hbackslash _ _ _ _ _ =>
    -- No character with a short escape: a control character, or one that stands for itself.
    by_cases hprintable : c.toNat < 0x20
    · rw [if_pos hprintable]
      exact stringBody_controlEscape hprintable hs
    · rw [if_neg hprintable]
      exact .plain hquote hbackslash (Nat.le_of_not_lt hprintable) hs

theorem stringBody_flatMap_escapedChar (t : Text) :
    StringBody (Text.symbols (t.flatMap escapedChar)) (.ok t) := by
  induction t with
  | nil => exact .empty
  | cons c t ih =>
    rw [List.flatMap_cons, Text.symbols_append]
    exact stringBody_escapedChar c ih

/-- **String round trip.** -/
theorem starts_stringText (t : Text) (rest : List Symbol) :
    Starts (.string (.ok t)) ((stringText t).symbols ++ rest) rest := by
  simp only [stringText, List.cons_append, Text.symbols_cons, Text.symbols_append, Text.symbols_nil,
    List.append_assoc, List.nil_append]
  exact .string (stringBody_flatMap_escapedChar t) rest

end Token

/-! ## Integers -/

theorem Text.ofNat_ne_zero_cons {n : Nat} (hn : n ≠ 0) (t : Text) : Text.ofNat n ≠ '0' :: t := by
  induction n using Nat.strongRecOn generalizing t with
  | ind n ih =>
    rw [Text.ofNat]
    obtain hlt | hle := Nat.lt_or_ge n 10
    · rw [Nat.toDigits_of_lt_base hlt]
      have hdigit : ∀ m < 10, m ≠ 0 → Nat.digitChar m ≠ '0' := by decide
      intro h
      exact hdigit n hlt hn (List.cons.inj h).1
    · rw [Nat.toDigits_of_base_le (by decide) hle]
      obtain ⟨c, more, hmore⟩ :=
        List.exists_cons_of_ne_nil (Nat.toDigits_ne_nil (n := n / 10) (b := 10))
      intro h
      rw [hmore, List.cons_append, List.cons.injEq] at h
      refine ih (n / 10) (Nat.div_lt_self (Nat.pos_of_ne_zero hn) (by decide)) (by omega) more ?_
      rw [Text.ofNat, hmore, h.1]

theorem Text.isDigit_of_mem_ofNat {n : Nat} {c : Char} (h : c ∈ Text.ofNat n) : c.isDigit :=
  Nat.isDigit_of_mem_toDigits (by decide) (by decide) h

theorem Text.ofNat_ne_nil (n : Nat) : Text.ofNat n ≠ [] :=
  Nat.toDigits_ne_nil

namespace Numeral

theorem isWhole_ofNat (n : Nat) : IsWhole (Text.ofNat n) := by
  refine ⟨⟨Text.ofNat_ne_nil n, fun c hc ↦ Text.isDigit_of_mem_ofNat hc⟩, ?_⟩
  intro more hmore
  by_cases hn : n = 0
  · subst hn
    exact (List.cons.inj hmore).2.symm
  · exact absurd hmore (Text.ofNat_ne_zero_cons hn more)

/-- **An integer is one numeral.** -/
theorem spells_ofInt (n : Int) :
    Spells ⟨decide (n < 0), Text.ofNat n.natAbs, none, none⟩ (Text.ofInt n) := by
  have h := Spells.mk (decide (n < 0)) (isWhole_ofNat n.natAbs) .absent .absent
  rw [List.append_nil, List.append_nil] at h
  have htext : Text.ofInt n = signText (decide (n < 0)) ++ Text.ofNat n.natAbs := by
    cases n with
    | ofNat n => rfl
    | negSucc n => simp [Text.ofInt, signText, Int.negSucc_lt_zero]
  rwa [htext]

/-! ### Values -/

theorem le_ofDigitChars (n : Nat) (t : Text) : n ≤ Nat.ofDigitChars 10 t n := by
  induction t generalizing n with
  | nil => exact Nat.le_refl n
  | cons c t ih =>
    rw [Nat.ofDigitChars_cons]
    exact Nat.le_trans (by omega) (ih _)

theorem absorb_eq {bound n : Nat} {t : Text} (h : Nat.ofDigitChars 10 t n < bound) :
    absorb bound n t = (Nat.ofDigitChars 10 t n, []) := by
  induction t generalizing n with
  | nil => rfl
  | cons c t ih =>
    rw [Nat.ofDigitChars_cons] at h ⊢
    have hvalue : digitValue c = c.toNat - '0'.toNat := rfl
    rw [absorb, hvalue, if_pos (Nat.lt_of_le_of_lt (le_ofDigitChars _ t) h), ih h]

theorem value_ofInt {n : Int} (h : -0x8000000000000000 ≤ n ∧ n < 0x10000000000000000) :
    value ⟨decide (n < 0), Text.ofNat n.natAbs, none, none⟩ = .ok (.integer n h) := by
  have habsorb : absorb UInt64.size 0 (Text.ofNat n.natAbs) = (n.natAbs, []) := by
    have hdigits : Nat.ofDigitChars 10 (Text.ofNat n.natAbs) 0 = n.natAbs :=
      Nat.ofDigitChars_ten_toDigits
    rw [absorb_eq, hdigits]
    rw [hdigits]
    simp only [UInt64.size]
    omega
  have hcandidate : (if decide (n < 0) = true then -(n.natAbs : Int) else n.natAbs) = n := by
    simp only [decide_eq_true_eq]
    split <;> omega
  -- A negative zero would be a double.
  have hzero : (decide (n < 0) && n.natAbs == 0) = false := by
    rw [Bool.and_eq_false_iff, decide_eq_false_iff_not, beq_eq_false_iff_ne]
    omega
  rw [value, habsorb]
  simp only [hcandidate, hzero, Bool.false_eq_true, if_false, Number.ofInt?, dif_pos h]

end Numeral

/-- **Integer round trip.** -/
theorem Token.starts_ofInt {n : Int} (h : -0x8000000000000000 ≤ n ∧ n < 0x10000000000000000)
    {rest : List Symbol} (hrest : Numeral.Ends rest) :
    Starts (.number (.ok (.integer n h))) ((Text.ofInt n).symbols ++ rest) rest := by
  rw [← Numeral.value_ofInt h]
  exact .number (Numeral.spells_ofInt n) hrest

end SiteClient
