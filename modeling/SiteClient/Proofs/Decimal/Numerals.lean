import Mathlib.Data.List.Induction
import SiteClient.Proofs.Json.Lexing

/-!
# Digits and the numbers they spell

A number is written in one way: its digits without a leading zero. So digits are written for the
number they spell if and only if they have none (`Numeral.ofNat_ofDigitChars_eq_iff`), however many
they are. Read into a word of 64 bits they give that number if it fits, and nothing if it does not
(`Numeral.word?_eq_some_iff`): no number wraps around to another one.
-/

namespace SiteClient.Numeral

variable {t : Text} {n m : ℕ}

/-! ## One way to write a number -/

theorem toNat_of_isDigit {c : Char} (h : c.isDigit = true) : 48 ≤ c.toNat ∧ c.toNat ≤ 57 := by
  simp only [Char.isDigit, Bool.and_eq_true, decide_eq_true_eq, UInt32.le_iff_toNat_le] at h
  exact h

theorem digitChar_digitValue {c : Char} (h : c.isDigit = true) : (digitValue c).digitChar = c := by
  obtain ⟨hlow, hhigh⟩ := toNat_of_isDigit h
  have hvalue : digitValue c = c.toNat - 48 := rfl
  refine Char.toNat_inj.mp ?_
  rw [hvalue, Nat.toNat_digitChar_of_lt_ten (by omega)]
  omega

theorem digitValue_lt {c : Char} (h : c.isDigit = true) : digitValue c < 10 := by
  rw [← digitChar_digitValue h, Nat.isDigit_digitChar] at h
  exact of_decide_eq_true h

theorem isWhole_cons_iff {c : Char} (hc : c.isDigit = true) (ht : ∀ d ∈ t, d.isDigit = true) :
    IsWhole (c :: t) ↔ (c = '0' → t = []) := by
  constructor
  · rintro ⟨-, hzero⟩ rfl
    exact hzero t rfl
  · intro h
    refine ⟨⟨List.cons_ne_nil c t, List.forall_mem_cons.mpr ⟨hc, ht⟩⟩, ?_⟩
    rintro more hmore
    obtain ⟨rfl, rfl⟩ := List.cons.inj hmore
    exact h rfl

theorem isWhole_of_concat {c : Char} (h : IsWhole (t ++ [c])) (ht : t ≠ []) :
    IsWhole t ∧ t ≠ ['0'] := by
  obtain ⟨⟨-, hdigits⟩, hzero⟩ := h
  have hlead (more : Text) : t ≠ '0' :: more := by
    rintro rfl
    exact absurd (hzero _ rfl) (by simp)
  exact ⟨⟨⟨ht, fun d hd ↦ hdigits d (List.mem_append_left _ hd)⟩,
    fun more hmore ↦ absurd hmore (hlead more)⟩, hlead []⟩

/-- **Digits without a leading zero are written for the number they spell.** -/
theorem ofNat_ofDigitChars (h : IsWhole t) : Text.ofNat (Nat.ofDigitChars 10 t 0) = t := by
  induction t using List.reverseRecOn with
  | nil => exact absurd rfl h.1.1
  | append_singleton t c ih =>
    have hc : c.isDigit = true := h.1.2 c (List.mem_append_right _ List.mem_cons_self)
    have hlast : Nat.toDigits 10 (digitValue c) = [c] := by
      rw [Nat.toDigits_of_lt_base (digitValue_lt hc), digitChar_digitValue hc]
    have hvalue : Nat.ofDigitChars 10 (t ++ [c]) 0 =
        10 * Nat.ofDigitChars 10 t 0 + digitValue c := by
      rw [Nat.ofDigitChars_append, Nat.ofDigitChars_cons, Nat.ofDigitChars_nil]
      rfl
    rw [hvalue]
    by_cases ht : t = []
    · subst ht
      rw [Nat.ofDigitChars_nil, Nat.mul_zero, Nat.zero_add]
      exact hlast
    · obtain ⟨hwhole, hzero⟩ := isWhole_of_concat h ht
      -- The digits in front are not zero, for zero is written differently.
      have hpos : 0 < Nat.ofDigitChars 10 t 0 := by
        refine Nat.pos_of_ne_zero fun hvalue ↦ hzero ?_
        rw [← ih hwhole, hvalue]
        rfl
      calc Text.ofNat (10 * Nat.ofDigitChars 10 t 0 + digitValue c)
          = Nat.toDigits 10 (Nat.ofDigitChars 10 t 0) ++ Nat.toDigits 10 (digitValue c) :=
            (Nat.toDigits_append_toDigits (by decide) hpos (digitValue_lt hc)).symm
        _ = t ++ [c] := congrArg₂ (· ++ ·) (ih hwhole) hlast

theorem ofNat_ofDigitChars_eq_iff : Text.ofNat (Nat.ofDigitChars 10 t 0) = t ↔ IsWhole t :=
  ⟨fun h ↦ h ▸ isWhole_ofNat _, ofNat_ofDigitChars⟩

/-! ## Words -/

/-- The number that digits spell, if it fits a word of 64 bits at every digit. -/
def word? (digits : Text) : Option ℕ :=
  match absorb UInt64.size 0 digits with
  | (n, []) => some n
  | (_, _ :: _) => none

theorem eq_of_absorb {bound : ℕ} (h : absorb bound n t = (m, [])) (hn : n < bound) :
    Nat.ofDigitChars 10 t n = m ∧ m < bound := by
  induction t generalizing n with
  | nil =>
    obtain rfl : n = m := congrArg Prod.fst h
    exact ⟨Nat.ofDigitChars_nil, hn⟩
  | cons c t ih =>
    rw [absorb] at h
    split at h
    · rw [Nat.ofDigitChars_cons]
      exact ih h ‹_›
    · cases h

theorem word?_eq_some_iff : word? t = some n ↔ Nat.ofDigitChars 10 t 0 = n ∧ n < UInt64.size := by
  rw [word?]
  constructor
  · intro h
    split at h
    · obtain rfl := Option.some.inj h
      exact eq_of_absorb ‹_› (by decide)
    · cases h
  · rintro ⟨rfl, hlt⟩
    rw [absorb_eq hlt]

end SiteClient.Numeral
