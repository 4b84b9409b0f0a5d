import Mathlib.Data.Nat.Cast.Order.Ring
import SiteClient.Json.Number

/-!
# Integers as doubles

A natural number that is too long for a double is cut down to the fifty-three bits of a mantissa,
rounded, and cut once more if the carry has added a bit. `roundWithAccuracy_of_log2` says what these
steps leave: a full mantissa, and an exponent that is the number of bits cut off or one more.
`Binary.ofFloat` reads that mantissa and exponent back from the bits of the double (`ofFloat_pack`).

So rounding does not cross a power of two: a word of sixty-four bits that no signed word holds has a
double that none holds either (`le_truncate_ofFloat`), although it may be less than the word.
-/

namespace SiteClient.Binary

open Float.Model Float.Model.UnpackedFloat

/-! ## Cutting bits off -/

theorem log2_eq {n k : ℕ} (h : 2 ^ k ≤ n) (h' : n < 2 ^ (k + 1)) : n.log2 = k :=
  (Nat.log2_eq_iff (Nat.ne_of_gt ((Nat.two_pow_pos k).trans_le h))).mpr ⟨h, h'⟩

theorem shiftRight_mantissa (em : ExtendedMantissa) (k : ℕ) :
    (em >>> k).mantissa = em.mantissa / 2 ^ k := by
  induction k with
  | zero => exact (Nat.div_one _).symm
  | succ k ih =>
    change (em >>> k).mantissa / 2 = _
    rw [ih, Nat.div_div_eq_div_mul, Nat.pow_succ]

theorem ofMantissaAndAccuracy_mantissa (m : ℕ) (accuracy : Accuracy) :
    (ExtendedMantissa.ofMantissaAndAccuracy m accuracy).mantissa = m := by
  cases accuracy with
  | exact => rfl
  | inexact order => cases order <;> rfl

theorem roundedMantissa_bounds (em : ExtendedMantissa) :
    em.mantissa ≤ em.roundedMantissa ∧ em.roundedMantissa ≤ em.mantissa + 1 := by
  obtain ⟨m, round, sticky⟩ := em
  have hodd : m % 2 < 2 := Nat.mod_lt m (by decide)
  cases round <;> cases sticky <;>
    simp only [ExtendedMantissa.roundedMantissa, ExtendedMantissa.accuracy,
      Accuracy.roundToNearestEven] <;>
    omega

theorem targetExponent_of_log2 {m : ℕ} {e : ℤ} {k : ℕ} (hm : m.log2 = 52 + k) (he : 0 ≤ e + k) :
    Format.binary64.targetExponent (totalExponent m e) = e + k := by
  have hbits : Format.binary64.mantissaBits = 53 := rfl
  simp only [Format.targetExponent, totalExponent, hbits, Format.minExponent, hm]
  omega

theorem shiftToTargetExponent_of_log2 {m : ℕ} {e : ℤ} {k : ℕ} (hm : m.log2 = 52 + k)
    (he : 0 ≤ e + k) (accuracy : Accuracy) :
    shiftToTargetExponent Format.binary64 m e accuracy =
      (ExtendedMantissa.ofMantissaAndAccuracy m accuracy >>> k, e + k) := by
  simp only [shiftToTargetExponent, shiftToExponent, targetExponent_of_log2 hm he]
  rw [show (e + k - e).toNat = k by omega]

/-- Rounding leaves a full mantissa, and an exponent that is higher by the number of bits cut
off. -/
theorem roundWithAccuracy_of_log2 {m : ℕ} {e : ℤ} {k : ℕ} (hm : m.log2 = 52 + k) (he : 0 ≤ e + k)
    (sign : Sign) (accuracy : Accuracy) :
    ∃ r e' hr, roundWithAccuracy Format.binary64 sign m e accuracy = .finite sign r e' hr ∧
      2 ^ 52 ≤ r ∧ r < 2 ^ 53 ∧ e + k ≤ e' ∧ e' ≤ e + k + 1 := by
  obtain ⟨em, hem⟩ : ∃ em, em = ExtendedMantissa.ofMantissaAndAccuracy m accuracy >>> k := ⟨_, rfl⟩
  have hmantissa : em.mantissa = m / 2 ^ k := by
    rw [hem, shiftRight_mantissa, ofMantissaAndAccuracy_mantissa]
  have hne : m ≠ 0 := by
    rintro rfl
    rw [Nat.log2_zero] at hm
    omega
  have hlow : 2 ^ 52 ≤ em.mantissa := by
    rw [hmantissa, Nat.le_div_iff_mul_le (Nat.two_pow_pos k), ← Nat.pow_add, ← hm]
    exact Nat.log2_self_le hne
  have hhigh : em.mantissa < 2 ^ 53 := by
    rw [hmantissa, Nat.div_lt_iff_lt_mul (Nat.two_pow_pos k), ← Nat.pow_add,
      Nat.add_right_comm 52 1 k, ← hm]
    exact Nat.lt_log2_self
  obtain ⟨hle, hge⟩ := roundedMantissa_bounds em
  -- The bits that are cut off after rounding: none, or the one that the carry has added.
  obtain ⟨j, hj, hlog, hr, hr'⟩ : ∃ j ≤ 1, em.roundedMantissa.log2 = 52 + j ∧
      2 ^ 52 ≤ em.roundedMantissa / 2 ^ j ∧ em.roundedMantissa / 2 ^ j < 2 ^ 53 := by
    rcases Nat.lt_or_ge em.roundedMantissa (2 ^ 53) with hlt | hcarry
    · exact ⟨0, by decide, log2_eq (hlow.trans hle) hlt, by omega, by omega⟩
    · exact ⟨1, by decide, log2_eq hcarry (by omega), by omega, by omega⟩
  have hfinal : (ExtendedMantissa.ofMantissaAndAccuracy em.roundedMantissa .exact >>> j).mantissa =
      em.roundedMantissa / 2 ^ j := by
    rw [shiftRight_mantissa, ofMantissaAndAccuracy_mantissa]
  rw [← hfinal] at hr hr'
  have hpos := (Nat.two_pow_pos 52).trans_le hr
  refine ⟨_, e + k + j, hpos, ?_, hr, hr', by omega, by omega⟩
  rw [roundWithAccuracy, shiftToTargetExponent_of_log2 hm he, ← hem]
  dsimp only
  rw [shiftToTargetExponent_of_log2 hlog (show 0 ≤ e + k + j by omega)]
  exact dif_neg (Nat.ne_of_gt hpos)

/-! ## The bits of a double -/

theorem toNat_packComponents (exponent : BitVec 11) (mantissa : BitVec 52) :
    (packComponents Format.binary64 .positive exponent mantissa).toNat =
      exponent.toNat * 2 ^ 52 + mantissa.toNat := by
  rw [packComponents, BitVec.toNat_append, BitVec.toNat_append,
    ← Nat.shiftLeft_add_eq_or_of_lt mantissa.isLt, ← Nat.shiftLeft_add_eq_or_of_lt exponent.isLt,
    Nat.shiftLeft_eq, Nat.shiftLeft_eq]
  change (0 * _ + _) * _ + _ = _
  rw [Nat.zero_mul, Nat.zero_add]

/-- A full mantissa is packed without its leading bit, unless the exponent is too great. -/
theorem pack_normal {spec : Format} {sign : Sign} {m : ℕ} {e : ℤ} {hm : 0 < m}
    (hexponent : ¬2 ^ spec.exponentBits ≤
      (e + spec.exponentBias + spec.mantissaBitsWithoutImplicit).toNat + 1)
    (hfull : m.log2 + 1 = spec.mantissaBits) :
    UnpackedFloat.pack spec (.finite sign m e hm) =
      packComponents spec sign
        (BitVec.ofNat _ (e + spec.exponentBias + spec.mantissaBitsWithoutImplicit).toNat)
        (BitVec.ofNat _ m) :=
  (if_neg hexponent).trans (if_pos hfull)

theorem toNat_toBits_pack {r e : ℕ} {hr : 0 < r} (h : 2 ^ 52 ≤ r) (h' : r < 2 ^ 53) (he : e < 900) :
    (Float.Model.pack (.finite .positive r e hr)).toBits.toNat =
      (e + 1075) * 2 ^ 52 + (r - 2 ^ 52) := by
  have hlog : r.log2 = 52 := log2_eq h h'
  have hbiased : ((e : ℤ) + Format.binary64.exponentBias +
      Format.binary64.mantissaBitsWithoutImplicit).toNat = e + 1075 := by
    change ((e : ℤ) + 1023 + 52).toNat = _
    omega
  have hpack : UnpackedFloat.pack Format.binary64 (.finite .positive r e hr) =
      packComponents Format.binary64 .positive (BitVec.ofNat _ (e + 1075)) (BitVec.ofNat _ r) := by
    have hexponents : 2 ^ Format.binary64.exponentBits = 2048 := rfl
    rw [pack_normal (by rw [hexponents, hbiased]; omega) (by rw [hlog]; rfl), hbiased]
  have hexponent : (e + 1075) % 2 ^ 11 = e + 1075 := Nat.mod_eq_of_lt (by omega)
  have hfraction : r % 2 ^ 52 = r - 2 ^ 52 := by omega
  rw [Float.Model.pack, UInt64.toNat_ofBitVec, hpack, toNat_packComponents, BitVec.toNat_ofNat,
    BitVec.toNat_ofNat, hexponent, hfraction]

theorem ofFloat_of_toBits {x : Float} {r e : ℕ} (h : 2 ^ 52 ≤ r) (h' : r < 2 ^ 53) (he : e < 900)
    (hbits : x.toBits.toNat = (e + 1075) * 2 ^ 52 + (r - 2 ^ 52)) : ofFloat x = ⟨false, r, e⟩ := by
  have hlead : leadingBit = 2 ^ 52 := rfl
  have hfield : ((e + 1075) * 2 ^ 52 + (r - 2 ^ 52)) / 2 ^ 52 % 0x800 = e + 1075 := by omega
  have hfraction : ((e + 1075) * 2 ^ 52 + (r - 2 ^ 52)) % 2 ^ 52 = r - 2 ^ 52 := by omega
  have hsign : ((e + 1075) * 2 ^ 52 + (r - 2 ^ 52)) >>> 63 = 0 := by
    rw [Nat.shiftRight_eq_div_pow]
    omega
  have hnormal : e + 1075 ≠ 0 := by omega
  simp only [ofFloat, hbits, hlead, hfield, hfraction, hsign, if_neg hnormal, ne_eq, not_true,
    decide_false]
  have hmantissa : 2 ^ 52 + (r - 2 ^ 52) = r := by omega
  have hexponent : ((e + 1075 : ℕ) : ℤ) - 1075 = e := by omega
  rw [hmantissa, hexponent]

theorem ofFloat_pack {r e : ℕ} {hr : 0 < r} (h : 2 ^ 52 ≤ r) (h' : r < 2 ^ 53) (he : e < 900) :
    ofFloat ⟨Float.Model.pack (.finite .positive r e hr)⟩ = ⟨false, r, e⟩ :=
  ofFloat_of_toBits h h' he (toNat_toBits_pack h h' he)

/-! ## Long words -/

/-- **A word that no signed word holds has a double that none holds.** -/
theorem le_truncate_ofFloat {n : ℕ} (h : 2 ^ 63 ≤ n) (h' : n < 2 ^ 64) :
    2 ^ 63 ≤ (ofFloat (Float.ofNat n)).truncate := by
  have hfloat : Float.ofNat n = ⟨Float.Model.ofScientific n 0⟩ := by
    change Float.ofScientific n false 0 = _
    rw [Float.ofScientific, dif_neg (by omega)]
    rfl
  have hlog : (n <<< 53 * 10 ^ 0).log2 = 52 + 64 := by
    rw [Nat.shiftLeft_eq]
    exact log2_eq (by omega) (by omega)
  obtain ⟨r, e, hr, hround, hlow, hhigh, hle, hge⟩ :=
    roundWithAccuracy_of_log2 hlog (show (0 : ℤ) ≤ -53 + (64 : ℕ) by omega) .positive .exact
  obtain ⟨e, rfl⟩ := Int.eq_ofNat_of_zero_le (show 0 ≤ e by omega)
  have hmodel : Float.Model.ofScientific n 0 = Float.Model.pack (.finite .positive r e hr) := by
    rw [← hround, Float.Model.ofScientific, UnpackedFloat.ofScientific, dif_neg (by omega),
      if_neg (by decide), if_neg (show ¬(0 : ℤ) < -(2 ^ 11 + n.log2) by omega), if_pos (by decide)]
    rfl
  have hpower : 2 ^ 11 ≤ 2 ^ e := Nat.pow_le_pow_right (by decide) (by omega)
  have hinteger : integerPart ⟨false, r, e⟩ = r * 2 ^ e := Nat.shiftLeft_eq r e
  rw [hfloat, hmodel, ofFloat_pack hlow hhigh (by omega), truncate,
    if_neg Bool.false_ne_true, hinteger]
  exact_mod_cast Nat.mul_le_mul hlow hpower

end SiteClient.Binary
