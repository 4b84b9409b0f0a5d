import Mathlib.Data.Nat.PSub
import SiteClient.Proofs.Template.Segments

/-!
# Slices by byte offsets

An offset into a text counts the bytes in front of it, and not every number is one: the text may end
before it, and a character may lie across it. A slice between two numbers has a value exactly if
they are in order and both are boundaries of characters (`isSome_slice?_iff`), and then it is the
text between them (`slice?_eq_some_iff`).
-/

namespace SiteClient.Text

variable {s t a b : Text} {i j n : ℕ}

/-! ## Sizes -/

theorem byteSize_eq_zero_iff : byteSize t = 0 ↔ t = [] := by
  cases t with
  | nil => simp
  | cons c t =>
    have := c.utf8Size_pos
    simp only [byteSize_cons, reduceCtorEq, iff_false]
    omega

/-- Of two texts that another starts with, the one that takes fewer bytes comes first. -/
theorem isPrefix_iff_byteSize_le (ha : a <+: t) (hb : b <+: t) :
    a <+: b ↔ byteSize a ≤ byteSize b := by
  constructor
  · rintro ⟨more, rfl⟩
    rw [byteSize_append]
    exact Nat.le_add_right ..
  · intro hsize
    obtain hprefix | ⟨more, rfl⟩ := List.prefix_or_prefix_of_prefix ha hb
    · exact hprefix
    · rw [byteSize_append] at hsize
      have hmore : more = [] := byteSize_eq_zero_iff.mp (by omega)
      simp only [hmore, List.append_nil, List.prefix_rfl]

/-! ## One cut -/

/-- The offset has nothing but whole characters in front of it. -/
def IsBoundary (t : Text) (n : ℕ) : Prop :=
  ∃ a b, t = a ++ b ∧ byteSize a = n

/-- A cut at an offset. There is none past the end of the text or inside of a character. -/
def splitAtByte? : Text → ℕ → Option (Text × Text)
  | t, 0 => some ([], t)
  | [], _ + 1 => none
  | c :: t, n + 1 =>
    if c.utf8Size ≤ n + 1 then
      (splitAtByte? t (n + 1 - c.utf8Size)).map fun cut ↦ (c :: cut.1, cut.2)
    else none

theorem splitAtByte?_eq_some_iff : splitAtByte? t n = some (a, b) ↔
    t = a ++ b ∧ byteSize a = n := by
  constructor
  · intro h
    fun_induction splitAtByte? t n generalizing a with
    | case1 t =>
      obtain ⟨rfl, rfl⟩ := Prod.mk.inj (Option.some.inj h)
      exact ⟨rfl, rfl⟩
    | case2 => cases h
    | case3 c t n hle ih =>
      obtain ⟨⟨a, b⟩, hcut, hab⟩ := Option.map_eq_some_iff.mp h
      obtain ⟨rfl, rfl⟩ := Prod.mk.inj hab
      obtain ⟨rfl, hsize⟩ := ih hcut
      refine ⟨rfl, ?_⟩
      rw [byteSize_cons, hsize]
      omega
    | case4 => cases h
  · rintro ⟨rfl, rfl⟩
    induction a with
    | nil => rw [List.nil_append, byteSize_nil, splitAtByte?]
    | cons c a ih =>
      obtain ⟨n, hn⟩ := Nat.exists_eq_add_one.mpr (Nat.add_pos_left c.utf8Size_pos (byteSize a))
      rw [byteSize_cons, List.cons_append, hn, splitAtByte?, if_pos (by omega),
        show n + 1 - c.utf8Size = byteSize a by omega, ih]
      rfl

/-! ## Slices -/

/-- The text between two offsets. -/
def slice? (t : Text) (i j : ℕ) : Option Text :=
  if i ≤ j then (splitAtByte? t i).bind fun cut ↦ (splitAtByte? cut.2 (j - i)).map Prod.fst
  else none

theorem slice?_append (a s b : Text) :
    slice? (a ++ (s ++ b)) (byteSize a) (byteSize a + byteSize s) = some s := by
  rw [slice?, if_pos (Nat.le_add_right ..), splitAtByte?_eq_some_iff.mpr ⟨rfl, rfl⟩,
    Option.bind_some, Nat.add_sub_cancel_left, splitAtByte?_eq_some_iff.mpr ⟨rfl, rfl⟩]
  rfl

theorem slice?_eq_some_iff :
    slice? t i j = some s ↔
      ∃ a b, t = a ++ (s ++ b) ∧ byteSize a = i ∧ byteSize a + byteSize s = j := by
  constructor
  · intro h
    obtain ⟨hij, h⟩ := Option.ite_none_right_eq_some.mp h
    obtain ⟨⟨a, rest⟩, ha, hs⟩ := Option.bind_eq_some_iff.mp h
    obtain ⟨⟨s, b⟩, hb, rfl⟩ := Option.map_eq_some_iff.mp hs
    obtain ⟨rfl, rfl⟩ := splitAtByte?_eq_some_iff.mp ha
    obtain ⟨rfl, hsize⟩ := splitAtByte?_eq_some_iff.mp hb
    exact ⟨a, b, rfl, rfl, by rw [hsize]; omega⟩
  · rintro ⟨a, b, rfl, rfl, rfl⟩
    exact slice?_append a s b

/-- **A slice is taken between two boundaries of characters, in their order and not past the
end.** -/
theorem isSome_slice?_iff :
    (slice? t i j).isSome ↔ i ≤ j ∧ j ≤ byteSize t ∧ IsBoundary t i ∧ IsBoundary t j := by
  rw [Option.isSome_iff_exists]
  constructor
  · rintro ⟨s, h⟩
    obtain ⟨a, b, rfl, rfl, rfl⟩ := slice?_eq_some_iff.mp h
    refine ⟨Nat.le_add_right .., ?_, ⟨a, _, rfl, rfl⟩, ⟨a ++ s, b, by simp, byteSize_append a s⟩⟩
    rw [byteSize_append, byteSize_append, ← Nat.add_assoc]
    exact Nat.le_add_right ..
  · rintro ⟨hij, -, ⟨a, b, rfl, rfl⟩, ⟨c, d, hcd, rfl⟩⟩
    have hc : c <+: a ++ b := ⟨d, hcd.symm⟩
    obtain ⟨s, rfl⟩ := (isPrefix_iff_byteSize_le (List.prefix_append a b) hc).mpr hij
    exact ⟨s, slice?_eq_some_iff.mpr ⟨a, d, by rw [hcd, List.append_assoc], rfl,
      (byteSize_append a s).symm⟩⟩

example : slice? ['é', 'a'] 0 2 = some ['é'] ∧ slice? ['é', 'a'] 1 3 = none := by decide

def drop? (t : Text) (i : ℕ) : Option Text :=
  slice? t i (byteSize t)

def take? (t : Text) (j : ℕ) : Option Text :=
  slice? t 0 j

theorem drop?_append (a b : Text) : drop? (a ++ b) (byteSize a) = some b := by
  have h := slice?_append a b []
  rwa [List.append_nil, ← byteSize_append] at h

theorem take?_append (a b : Text) : take? (a ++ b) (byteSize a) = some a := by
  have h := slice?_append [] a b
  rwa [byteSize_nil, List.nil_append, Nat.zero_add] at h

/-- The text cut short at an offset. Nothing happens past its end. -/
def truncate? (t : Text) (n : ℕ) : Option Text :=
  if byteSize t < n then some t else take? t n

theorem truncate?_append (a b : Text) : truncate? (a ++ b) (byteSize a) = some a := by
  rw [truncate?, if_neg (by simp), take?_append]

/-! ## Offsets of marks -/

/-- The offset of the first mark. -/
def find? (mark t : Text) : Option ℕ :=
  (breakOn mark t).map fun cut ↦ byteSize cut.1

def rfind? (c : Char) : Text → Option ℕ
  | [] => none
  | d :: t =>
    match rfind? c t with
    | some n => some (d.utf8Size + n)
    | none => if d = c then some 0 else none

theorem rfind?_eq_none {c : Char} (h : c ∉ t) : rfind? c t = none := by
  induction t with
  | nil => rfl
  | cons d t ih =>
    obtain ⟨hd, ht⟩ := List.ne_and_not_mem_of_not_mem_cons h
    rw [rfind?, ih ht, if_neg hd.symm]

theorem rfind?_append {c : Char} (a : Text) (h : c ∉ b) :
    rfind? c (a ++ c :: b) = some (byteSize a) := by
  induction a with
  | nil => rw [List.nil_append, rfind?, rfind?_eq_none h, if_pos rfl, byteSize_nil]
  | cons d a ih => rw [List.cons_append, rfind?, ih, byteSize_cons]

end SiteClient.Text
