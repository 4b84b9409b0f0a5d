import SiteClient.Json.Token
/-!
# The lexical grammar of JSON

Which text is a numeral, a string or another token, and which text is a sequence of tokens with
blanks between them, said without a scanner (`Token.Lexed`). The scanner of the library reads
exactly such texts (`Token.lexed_iff`); of any other text it makes a token that is broken or none.

A numeral is as long as it can be, so whether a text may be cut behind one depends on what follows
(`Numeral.Ends`). That condition is part of the grammar, which leaves every text at most one
reading.

A string that nobody reads is not looked at beyond its escapes and its closing mark. The grammar
therefore gives each string a value or the reason why it has none: half a surrogate pair, or a byte
of no character.
-/

namespace SiteClient

namespace Text

@[simp] theorem symbols_nil : symbols [] = [] := rfl

@[simp] theorem symbols_cons (c : Char) (t : Text) : symbols (c :: t) = .char c :: symbols t := rfl

@[simp] theorem symbols_append (s t : Text) : symbols (s ++ t) = symbols s ++ symbols t :=
  List.map_append

end Text

/-! ## Numerals -/

namespace Numeral

def IsDigits (t : Text) : Prop :=
  t ≠ [] ∧ ∀ c ∈ t, c.isDigit

/-- The digits before the point: a zero stands alone. -/
def IsWhole (t : Text) : Prop :=
  IsDigits t ∧ ∀ more, t = '0' :: more → more = []

/-- The point and the digits after it. -/
inductive SpellsFraction : Option Text → Text → Prop
  | absent : SpellsFraction none []
  | digits {t : Text} (ht : IsDigits t) : SpellsFraction (some t) ('.' :: t)

/-- The exponent, whose sign may be left out. -/
inductive SpellsExponent : Option (Bool × Text) → Text → Prop
  | absent : SpellsExponent none []
  | unsigned {e : Char} {t : Text} (he : e = 'e' ∨ e = 'E') (ht : IsDigits t) :
      SpellsExponent (some (false, t)) (e :: t)
  | plus {e : Char} {t : Text} (he : e = 'e' ∨ e = 'E') (ht : IsDigits t) :
      SpellsExponent (some (false, t)) (e :: '+' :: t)
  | minus {e : Char} {t : Text} (he : e = 'e' ∨ e = 'E') (ht : IsDigits t) :
      SpellsExponent (some (true, t)) (e :: '-' :: t)

def signText (negative : Bool) : Text :=
  if negative then ['-'] else []

/-- The texts of a numeral. -/
inductive Spells : Numeral → Text → Prop
  | mk (negative : Bool) {whole : Text} {fraction : Option Text} {exponent : Option (Bool × Text)}
      {u v : Text} (hwhole : IsWhole whole) (hfraction : SpellsFraction fraction u)
      (hexponent : SpellsExponent exponent v) :
      Spells ⟨negative, whole, fraction, exponent⟩ (signText negative ++ whole ++ u ++ v)

def NoDigit (rest : List Symbol) : Prop :=
  ∀ c more, rest = .char c :: more → c.isDigit = false

/-- A numeral ends here: the text does not go on with a digit, a point or an exponent. -/
def Ends (rest : List Symbol) : Prop :=
  ∀ c more, rest = .char c :: more → c.isDigit = false ∧ c ≠ '.' ∧ c ≠ 'e' ∧ c ≠ 'E'

variable {s rest : List Symbol} {t : Text}

theorem Ends.noDigit (h : Ends rest) : NoDigit rest :=
  fun c more hrest ↦ (h c more hrest).1

theorem Ends.nil : Ends [] :=
  fun _ _ h ↦ absurd h (by simp)

theorem Ends.cons {c : Char} (hdigit : c.isDigit = false) (hc : c ∉ ['.', 'e', 'E'])
    (rest : List Symbol) : Ends (.char c :: rest) := by
  intro d more h
  obtain rfl := Symbol.char.inj (List.cons.inj h).1
  simp only [List.mem_cons, List.not_mem_nil, or_false, not_or] at hc
  exact ⟨hdigit, hc⟩

theorem NoDigit.cons {c : Char} (hc : c.isDigit = false) (rest : List Symbol) :
    NoDigit (.char c :: rest) := by
  intro d more h
  obtain rfl := Symbol.char.inj (List.cons.inj h).1
  exact hc

/-! ### Digits -/

theorem digits_append (ht : ∀ c ∈ t, c.isDigit) (hrest : NoDigit rest) :
    digits (t.symbols ++ rest) = (t, rest) := by
  induction t with
  | nil =>
    rw [Text.symbols_nil, List.nil_append, digits.eq_def]
    split
    · rename_i c more
      rw [if_neg (by simp [hrest c more rfl])]
    · rfl
  | cons c t ih =>
    rw [Text.symbols_cons, List.cons_append, digits, if_pos (ht c List.mem_cons_self),
      ih fun d hd ↦ ht d (List.mem_cons_of_mem c hd)]

theorem digits_spec (s : List Symbol) :
    s = (digits s).1.symbols ++ (digits s).2 ∧ (∀ c ∈ (digits s).1, c.isDigit) ∧
      NoDigit (digits s).2 := by
  fun_induction digits s with
  | case1 c rest hc more rest' hdigits ih =>
    rw [hdigits] at ih
    obtain ⟨hsplit, hall, hend⟩ := ih
    refine ⟨?_, ?_, hend⟩
    · rw [Text.symbols_cons, List.cons_append, ← hsplit]
    · exact List.forall_mem_cons.mpr ⟨hc, hall⟩
  | case2 c rest hc =>
    have hnone : ∀ c ∈ ([] : Text), c.isDigit := fun _ h ↦ absurd h List.not_mem_nil
    exact ⟨rfl, hnone, .cons (eq_false_of_ne_true hc) rest⟩
  | case3 s hs =>
    refine ⟨rfl, fun _ h ↦ absurd h List.not_mem_nil, fun c more h ↦ ?_⟩
    exact absurd h (hs c more)

theorem someDigits_eq_ok_iff :
    someDigits s = .ok (t, rest) ↔ IsDigits t ∧ NoDigit rest ∧ s = t.symbols ++ rest := by
  constructor
  · intro h
    obtain ⟨hsplit, hall, hend⟩ := digits_spec s
    rw [someDigits] at h
    split at h
    · cases h
    · cases h
    · rename_i hnil hcons
      rw [Except.ok.inj h] at hsplit hall hend hnil hcons
      refine ⟨⟨?_, hall⟩, hend, hsplit⟩
      rintro rfl
      cases rest with
      | nil => exact hnil rfl
      | cons c more => exact hcons c more rfl
  · rintro ⟨⟨hne, hall⟩, hend, rfl⟩
    rw [someDigits, digits_append hall hend]
    obtain ⟨c, more, rfl⟩ := List.exists_cons_of_ne_nil hne
    rfl

/-! ### The parts of a numeral -/

theorem wholeDigits_eq_ok_iff :
    wholeDigits s = .ok (t, rest) ↔ IsWhole t ∧ NoDigit rest ∧ s = t.symbols ++ rest := by
  rw [wholeDigits]
  constructor
  · intro h
    rcases hdigits : someDigits s with e | ⟨u, r⟩
    · rw [hdigits] at h
      cases h
    · rw [hdigits] at h
      dsimp only [bind, Except.bind] at h
      split at h
      · cases h
      · rename_i hzero
        cases h
        obtain ⟨ht, hrest, hsplit⟩ := someDigits_eq_ok_iff.mp hdigits
        refine ⟨⟨ht, fun more hmore ↦ ?_⟩, hrest, hsplit⟩
        cases more with
        | nil => rfl
        | cons d more => exact absurd hmore (hzero d more)
  · rintro ⟨⟨ht, hwhole⟩, hrest, hsplit⟩
    rw [someDigits_eq_ok_iff.mpr ⟨ht, hrest, hsplit⟩]
    dsimp only [bind, Except.bind]
    split
    · rename_i d more
      exact absurd (hwhole (d :: more) rfl) (List.cons_ne_nil d more)
    · rfl

theorem fractionDigits_append {fraction : Option Text} (ht : SpellsFraction fraction t)
    (hrest : NoDigit rest) (hpoint : ∀ more, rest ≠ .char '.' :: more) :
    fractionDigits (t.symbols ++ rest) = .ok (fraction, rest) := by
  cases ht with
  | absent =>
    rw [Text.symbols_nil, List.nil_append, fractionDigits.eq_def]
    split
    · exact absurd rfl (hpoint _)
    · rfl
  | digits ht =>
    rw [Text.symbols_cons, List.cons_append, fractionDigits,
      someDigits_eq_ok_iff.mpr ⟨ht, hrest, rfl⟩]
    rfl

theorem exists_of_fractionDigits {fraction : Option Text} (hs : NoDigit s)
    (h : fractionDigits s = .ok (fraction, rest)) :
    ∃ t, SpellsFraction fraction t ∧ NoDigit rest ∧ s = t.symbols ++ rest := by
  rw [fractionDigits.eq_def] at h
  split at h
  · rename_i more
    rcases hdigits : someDigits more with e | ⟨t, r⟩
    · rw [hdigits] at h
      cases h
    · rw [hdigits] at h
      obtain ⟨rfl, rfl⟩ := Prod.mk.inj (Except.ok.inj h)
      obtain ⟨ht, hrest, rfl⟩ := someDigits_eq_ok_iff.mp hdigits
      exact ⟨'.' :: t, .digits ht, hrest, rfl⟩
  · obtain ⟨rfl, rfl⟩ := Prod.mk.inj (Except.ok.inj h)
    exact ⟨[], .absent, hs, rfl⟩

theorem sign_of_isDigits (ht : IsDigits t) (rest : List Symbol) :
    sign (t.symbols ++ rest) = (false, t.symbols ++ rest) := by
  obtain ⟨hne, hall⟩ := ht
  obtain ⟨c, more, rfl⟩ := List.exists_cons_of_ne_nil hne
  have hc : c.isDigit := hall c List.mem_cons_self
  have hplus : c ≠ '+' := by
    rintro rfl
    exact absurd hc (by decide)
  have hminus : c ≠ '-' := by
    rintro rfl
    exact absurd hc (by decide)
  simp [sign, hplus, hminus]

theorem exponentDigits_append {exponent : Option (Bool × Text)} (ht : SpellsExponent exponent t)
    (hrest : Ends rest) : exponentDigits (t.symbols ++ rest) = .ok (exponent, rest) := by
  have hdigits {t : Text} (ht : IsDigits t) : someDigits (t.symbols ++ rest) = .ok (t, rest) :=
    someDigits_eq_ok_iff.mpr ⟨ht, hrest.noDigit, rfl⟩
  cases ht with
  | absent =>
    rw [Text.symbols_nil, List.nil_append, exponentDigits.eq_def]
    split
    · rename_i c more
      rw [if_neg]
      exact not_or.mpr (hrest c more rfl).2.2
    · rfl
  | unsigned he ht =>
    rw [Text.symbols_cons, List.cons_append, exponentDigits, if_pos he, sign_of_isDigits ht]
    simp only [bind, Except.bind, hdigits ht]
  | plus he ht | minus he ht =>
    rw [Text.symbols_cons, Text.symbols_cons, List.cons_append, List.cons_append, exponentDigits,
      if_pos he, sign]
    simp only [bind, Except.bind, hdigits ht]

theorem sign_cases (s : List Symbol) :
    (∃ more, s = .char '+' :: more ∧ sign s = (false, more)) ∨
      (∃ more, s = .char '-' :: more ∧ sign s = (true, more)) ∨ sign s = (false, s) := by
  rw [sign.eq_def]
  split
  · exact .inl ⟨_, rfl, rfl⟩
  · exact .inr (.inl ⟨_, rfl, rfl⟩)
  · exact .inr (.inr rfl)

theorem exists_of_exponentDigits {exponent : Option (Bool × Text)} (hs : NoDigit s)
    (h : exponentDigits s = .ok (exponent, rest)) :
    ∃ t, SpellsExponent exponent t ∧ NoDigit rest ∧ s = t.symbols ++ rest := by
  rw [exponentDigits.eq_def] at h
  split at h
  · rename_i e more
    split at h
    · rename_i he
      rcases hdigits : someDigits (sign more).2 with e | ⟨t, r⟩
      · simp [bind, Except.bind, hdigits] at h
      · simp only [bind, Except.bind, hdigits, Except.ok.injEq, Prod.mk.injEq] at h
        obtain ⟨rfl, rfl⟩ := h
        obtain ⟨ht, hrest, hsplit⟩ := someDigits_eq_ok_iff.mp hdigits
        rcases sign_cases more with ⟨more, rfl, hsign⟩ | ⟨more, rfl, hsign⟩ | hsign
        all_goals
          rw [hsign] at hsplit ⊢
          obtain rfl := hsplit
        · exact ⟨e :: '+' :: t, .plus he ht, hrest, rfl⟩
        · exact ⟨e :: '-' :: t, .minus he ht, hrest, rfl⟩
        · exact ⟨e :: t, .unsigned he ht, hrest, rfl⟩
    · obtain ⟨rfl, rfl⟩ := Prod.mk.inj (Except.ok.inj h)
      exact ⟨[], .absent, hs, rfl⟩
  · obtain ⟨rfl, rfl⟩ := Prod.mk.inj (Except.ok.inj h)
    exact ⟨[], .absent, hs, rfl⟩

/-! ### Whole numerals -/

theorem minus_append (negative : Bool) (ht : IsDigits t) (rest : List Symbol) :
    minus ((signText negative).symbols ++ (t.symbols ++ rest)) = (negative, t.symbols ++ rest) := by
  cases negative with
  | true => rfl
  | false =>
    obtain ⟨hne, hall⟩ := ht
    obtain ⟨c, more, rfl⟩ := List.exists_cons_of_ne_nil hne
    have hc : c.isDigit := hall c List.mem_cons_self
    have hminus : c ≠ '-' := by
      rintro rfl
      exact absurd hc (by decide)
    simp [signText, minus, hminus]

theorem minus_spec (s : List Symbol) : s = (signText (minus s).1).symbols ++ (minus s).2 := by
  rw [minus.eq_def]
  split <;> rfl

/-- What may follow a point begins no exponent, and what may follow the whole digits no point. -/
theorem SpellsExponent.head {exponent : Option (Bool × Text)} (ht : SpellsExponent exponent t)
    (hrest : Ends rest) :
    NoDigit (t.symbols ++ rest) ∧ ∀ more, t.symbols ++ rest ≠ .char '.' :: more := by
  have hmark {e : Char} (he : e = 'e' ∨ e = 'E') (more : List Symbol) :
      NoDigit (.char e :: more) ∧ ∀ more', Symbol.char e :: more ≠ .char '.' :: more' := by
    rcases he with rfl | rfl
    · exact ⟨.cons rfl more, fun _ h ↦ absurd h (by simp)⟩
    · exact ⟨.cons rfl more, fun _ h ↦ absurd h (by simp)⟩
  cases ht with
  | absent => exact ⟨hrest.noDigit, fun more h ↦ (hrest '.' more h).2.1 rfl⟩
  | unsigned he _ | plus he _ | minus he _ => exact hmark he _

/-- **A numeral is read as far as it goes.** -/
theorem scan_append {n : Numeral} (ht : Spells n t) (hrest : Ends rest) :
    scan (t.symbols ++ rest) = .ok (n, rest) := by
  obtain ⟨negative, hwhole, hfraction, hexponent⟩ := ht
  rename_i whole fraction exponent u v
  obtain ⟨hdigit, hpoint⟩ := hexponent.head hrest
  have hbehind : NoDigit (u.symbols ++ (v.symbols ++ rest)) := by
    cases hfraction with
    | absent => exact hdigit
    | digits => exact .cons rfl _
  simp only [Text.symbols_append, List.append_assoc]
  rw [scan, minus_append negative hwhole.1]
  simp only [bind, Except.bind, wholeDigits_eq_ok_iff.mpr ⟨hwhole, hbehind, rfl⟩,
    fractionDigits_append hfraction hdigit hpoint, exponentDigits_append hexponent hrest]

theorem exists_of_scan {n : Numeral} (h : scan s = .ok (n, rest)) :
    ∃ t, Spells n t ∧ NoDigit rest ∧ s = t.symbols ++ rest := by
  rw [scan] at h
  rcases hwhole : wholeDigits (minus s).2 with e | ⟨whole, s₁⟩
  · simp [bind, Except.bind, hwhole] at h
  rcases hfraction : fractionDigits s₁ with e | ⟨fraction, s₂⟩
  · simp [bind, Except.bind, hwhole, hfraction] at h
  rcases hexponent : exponentDigits s₂ with e | ⟨exponent, s₃⟩
  · simp [bind, Except.bind, hwhole, hfraction, hexponent] at h
  simp only [bind, Except.bind, hwhole, hfraction, hexponent, Except.ok.injEq, Prod.mk.injEq] at h
  obtain ⟨rfl, rfl⟩ := h
  obtain ⟨hw, hend₁, hsplit₁⟩ := wholeDigits_eq_ok_iff.mp hwhole
  obtain ⟨u, hu, hend₂, rfl⟩ := exists_of_fractionDigits hend₁ hfraction
  obtain ⟨v, hv, hend₃, rfl⟩ := exists_of_exponentDigits hend₂ hexponent
  refine ⟨_, .mk (minus s).1 hw hu hv, hend₃, ?_⟩
  have hminus := minus_spec s
  rw [hsplit₁] at hminus
  simpa only [Text.symbols_append, List.append_assoc] using hminus

end Numeral

/-! ## Strings -/

namespace Token

/-- Four hexadecimal digits and the number they spell. -/
inductive IsCode : Text → Nat → Prop
  | mk {a b c d : Char} {w x y z : Nat} (ha : Text.hexValue? a = some w)
      (hb : Text.hexValue? b = some x) (hc : Text.hexValue? c = some y)
      (hd : Text.hexValue? d = some z) :
      IsCode [a, b, c, d] (((w * 16 + x) * 16 + y) * 16 + z)

/-- A byte of no character leaves a string without a value, unless something else does. -/
def withStray : Except ReadError Text → Except ReadError Text
  | .ok _ => .error .invalidCodePoint
  | .error e => .error e

/-- What stands between the marks of a string, and the value of the string. -/
inductive StringBody : List Symbol → Except ReadError Text → Prop
  | empty : StringBody [] (.ok [])
  | plain {c : Char} {s : List Symbol} {v : Except ReadError Text} (hquote : c ≠ '"')
      (hbackslash : c ≠ '\\') (hprintable : 0x20 ≤ c.toNat) (hs : StringBody s v) :
      StringBody (.char c :: s) (v.map (c :: ·))
  | short {c d : Char} {s : List Symbol} {v : Except ReadError Text} (hc : shortEscape? c = some d)
      (hs : StringBody s v) : StringBody (.char '\\' :: .char c :: s) (v.map (d :: ·))
  | code {t : Text} {n : Nat} {s : List Symbol} {v : Except ReadError Text} (ht : IsCode t n)
      (hlow : isLowSurrogate n = false) (hhigh : isHighSurrogate n = false) (hs : StringBody s v) :
      StringBody (.char '\\' :: .char 'u' :: t.symbols ++ s) (v.map (Char.ofNat n :: ·))
  | pair {t u : Text} {n m : Nat} {s : List Symbol} {v : Except ReadError Text} (ht : IsCode t n)
      (hu : IsCode u m) (hhigh : isHighSurrogate n) (hlow : isLowSurrogate m)
      (hs : StringBody s v) :
      StringBody (.char '\\' :: .char 'u' :: t.symbols ++ .char '\\' :: .char 'u' :: u.symbols ++ s)
        (v.map (pairedChar n m :: ·))
  /-- A second half without a first. -/
  | lowAlone {t : Text} {n : Nat} {s : List Symbol} {v : Except ReadError Text} (ht : IsCode t n)
      (hlow : isLowSurrogate n) (hs : StringBody s v) :
      StringBody (.char '\\' :: .char 'u' :: t.symbols ++ s) (.error .loneSurrogate)
  /-- A first half and the code of something else. -/
  | mismatch {t u : Text} {n m : Nat} {s : List Symbol} {v : Except ReadError Text}
      (ht : IsCode t n)
      (hu : IsCode u m) (hhigh : isHighSurrogate n) (hlow : isLowSurrogate m = false)
      (hs : StringBody s v) :
      StringBody (.char '\\' :: .char 'u' :: t.symbols ++ .char '\\' :: .char 'u' :: u.symbols ++ s)
        (.error .loneSurrogate)
  /-- A first half and no code. -/
  | highAlone {t : Text} {n : Nat} {s : List Symbol} {v : Except ReadError Text} (ht : IsCode t n)
      (hhigh : isHighSurrogate n) (hnext : ∀ more, s ≠ .char '\\' :: .char 'u' :: more)
      (hs : StringBody s v) :
      StringBody (.char '\\' :: .char 'u' :: t.symbols ++ s) (.error .unpairedSurrogate)
  | stray (b : UInt8) {s : List Symbol} {v : Except ReadError Text} (hs : StringBody s v) :
      StringBody (.stray b :: s) (withStray v)

variable {s rest : List Symbol} {t u : Text} {n m : Nat} {v : Except ReadError Text}

theorem fourHexDigits_append (ht : IsCode t n) (rest : List Symbol) :
    fourHexDigits (t.symbols ++ rest) = .ok n := by
  obtain ⟨ha, hb, hc, hd⟩ := ht
  simp [fourHexDigits, ha, hb, hc, hd]

theorem IsCode.drop_append (ht : IsCode t n) (rest : List Symbol) :
    (t.symbols ++ rest).drop 4 = rest := by
  obtain ⟨ha, hb, hc, hd⟩ := ht
  rfl

theorem not_low_of_high (h : isHighSurrogate n) : isLowSurrogate n = false := by
  simp only [isHighSurrogate, Bool.and_eq_true, decide_eq_true_eq] at h
  rw [isLowSurrogate, Bool.and_eq_false_iff, decide_eq_false_iff_not]
  omega

theorem exists_of_fourHexDigits (h : fourHexDigits s = .ok n) :
    ∃ t, IsCode t n ∧ s = t.symbols ++ s.drop 4 := by
  rw [fourHexDigits.eq_def] at h
  split at h
  · rename_i a b c d more
    split at h
    · rename_i ha hb hc hd
      obtain rfl := Except.ok.inj h
      exact ⟨_, .mk ha hb hc hd, rfl⟩
    · cases h
  · cases h

/-- A first half of a surrogate pair looks at the code behind it. -/
theorem scanString_high_code (ht : IsCode t n) (hhigh : isHighSurrogate n) (rest : List Symbol) :
    scanString (.char '\\' :: .char 'u' :: (t.symbols ++ .char '\\' :: .char 'u' :: rest)) =
      match fourHexDigits rest with
      | .error e => .cut e
      | .ok m =>
        if isLowSurrogate m then (scanString (rest.drop 4)).push (pairedChar n m)
        else (scanString (rest.drop 4)).flaw .loneSurrogate := by
  have hdrop := ht.drop_append (.char '\\' :: .char 'u' :: rest)
  rw [scanString, fourHexDigits_append ht]
  simp only [hhigh, if_true, not_low_of_high hhigh, Bool.false_eq_true, if_false]
  split
  · rename_i more hmore
    obtain rfl : rest = more := by simpa using hdrop.symm.trans hmore
    rfl
  · rename_i hnil
    cases hdrop.symm.trans hnil
  · rename_i hone
    cases hdrop.symm.trans hone
  · rename_i hcode _ _
    exact absurd hdrop (hcode rest)

theorem scanString_high (ht : IsCode t n) (hhigh : isHighSurrogate n)
    (hcode : ∀ more, rest ≠ .char '\\' :: .char 'u' :: more) (hnil : rest ≠ [])
    (hone : rest ≠ [.char '\\']) :
    scanString (.char '\\' :: .char 'u' :: (t.symbols ++ rest)) =
      (scanString rest).flaw .unpairedSurrogate := by
  have hdrop := ht.drop_append rest
  rw [scanString, fourHexDigits_append ht]
  simp only [hhigh, if_true, not_low_of_high hhigh, Bool.false_eq_true, if_false]
  split
  · exact absurd (hdrop.symm.trans ‹_›) (hcode _)
  · exact absurd (hdrop.symm.trans ‹_›) hnil
  · exact absurd (hdrop.symm.trans ‹_›) hone
  · rw [hdrop]

/-- **A string is read up to its closing mark.** -/
theorem scanString_append (hs : StringBody s v) (rest : List Symbol) :
    scanString (s ++ .char '"' :: rest) = .closed v rest := by
  induction hs with
  | empty => rw [List.nil_append, scanString]
  | plain hquote hbackslash hprintable hs ih =>
    rw [List.cons_append, scanString]
    · rw [if_neg (Nat.not_lt.mpr hprintable), ih]
      rfl
    · exact hquote
    all_goals
      intros
      exact hbackslash ‹_›
  | short hc hs ih =>
    rw [List.cons_append, List.cons_append, scanString]
    · rw [hc, ih]
      rfl
    · rintro rfl
      cases hc
  | code ht hlow hhigh hs ih =>
    simp only [List.cons_append, List.append_assoc]
    rw [scanString, fourHexDigits_append ht]
    simp only [hlow, hhigh, ht.drop_append, Bool.false_eq_true, if_false, ih]
    rfl
  | lowAlone ht hlow hs ih =>
    simp only [List.cons_append, List.append_assoc]
    rw [scanString, fourHexDigits_append ht]
    simp only [hlow, ht.drop_append, if_true, ih]
    rfl
  | pair ht hu hhigh hlow hs ih =>
    simp only [List.cons_append, List.append_assoc]
    rw [scanString_high_code ht hhigh, fourHexDigits_append hu]
    simp only [hlow, hu.drop_append, if_true, ih]
    rfl
  | mismatch ht hu hhigh hlow hs ih =>
    simp only [List.cons_append, List.append_assoc]
    rw [scanString_high_code ht hhigh, fourHexDigits_append hu]
    simp only [hlow, hu.drop_append, Bool.false_eq_true, if_false, ih]
    rfl
  | @highAlone t n s v ht hhigh hnext hs ih =>
    simp only [List.cons_append, List.append_assoc]
    have hcode (more : List Symbol) :
        s ++ .char '"' :: rest ≠ .char '\\' :: .char 'u' :: more := by
      rcases s with _ | ⟨a, _ | ⟨b, s⟩⟩
      · simp
      · simp
      · intro h
        simp only [List.cons_append, List.cons.injEq] at h
        obtain ⟨rfl, rfl, -⟩ := h
        exact hnext s rfl
    have hone : s ++ .char '"' :: rest ≠ [.char '\\'] := by
      rcases s with _ | ⟨a, s⟩ <;> simp
    rw [scanString_high ht hhigh hcode (by simp) hone, ih]
    rfl
  | stray b hs ih =>
    rw [List.cons_append, scanString, ih]
    rename_i v
    cases v <;> rfl

namespace StringScan

variable {scan : StringScan}

theorem exists_of_push {c : Char} (h : scan.push c = .closed v rest) :
    ∃ w, scan = .closed w rest ∧ w.map (c :: ·) = v := by
  cases scan with
  | closed w more =>
    obtain ⟨rfl, rfl⟩ := StringScan.closed.inj h
    exact ⟨w, rfl, rfl⟩
  | broken => cases h

theorem exists_of_flaw {e : ReadError} (h : scan.flaw e = .closed v rest) :
    ∃ w, scan = .closed w rest ∧ .error e = v := by
  cases scan with
  | closed w more =>
    obtain ⟨rfl, rfl⟩ := StringScan.closed.inj h
    exact ⟨w, rfl, rfl⟩
  | broken => cases h

theorem exists_of_stray (h : scan.stray = .closed v rest) :
    ∃ w, scan = .closed w rest ∧ withStray w = v := by
  cases scan with
  | closed w more =>
    cases w <;>
      obtain ⟨rfl, rfl⟩ := StringScan.closed.inj h <;>
      exact ⟨_, rfl, rfl⟩
  | broken => cases h

end StringScan

open StringScan in
/-- **What is read as a string is one.** -/
theorem exists_of_scanString (h : scanString s = .closed v rest) :
    ∃ body, StringBody body v ∧ s = body ++ .char '"' :: rest := by
  fun_induction scanString s generalizing v with
  | case1 | case4 | case6 | case9 | case10 | case14 | case15 | case16 | case17 => cases h
  | case2 b s ih =>
    obtain ⟨w, hw, rfl⟩ := exists_of_stray h
    obtain ⟨body, hbody, rfl⟩ := ih hw
    exact ⟨.stray b :: body, .stray b hbody, rfl⟩
  | case3 s =>
    obtain ⟨rfl, rfl⟩ := StringScan.closed.inj h
    exact ⟨[], .empty, rfl⟩
  | case5 s n hn hlow ih =>
    obtain ⟨w, hw, rfl⟩ := exists_of_flaw h
    obtain ⟨body, hbody, hsplit⟩ := ih hw
    obtain ⟨t, ht, hs⟩ := exists_of_fourHexDigits hn
    refine ⟨_, .lowAlone ht hlow hbody, ?_⟩
    rw [hs, hsplit]
    simp
  | case7 s n hn _ hhigh more hmore _ m hm hlow ih =>
    obtain ⟨w, hw, rfl⟩ := exists_of_push h
    obtain ⟨body, hbody, hsplit⟩ := ih hw
    obtain ⟨t, ht, hs⟩ := exists_of_fourHexDigits hn
    obtain ⟨u, hu, hs'⟩ := exists_of_fourHexDigits hm
    refine ⟨_, .pair ht hu hhigh hlow hbody, ?_⟩
    rw [hs, hmore, hs', hsplit]
    simp
  | case8 s n hn _ hhigh more hmore _ m hm hlow ih =>
    obtain ⟨w, hw, rfl⟩ := exists_of_flaw h
    obtain ⟨body, hbody, hsplit⟩ := ih hw
    obtain ⟨t, ht, hs⟩ := exists_of_fourHexDigits hn
    obtain ⟨u, hu, hs'⟩ := exists_of_fourHexDigits hm
    refine ⟨_, .mismatch ht hu hhigh (eq_false_of_ne_true hlow) hbody, ?_⟩
    rw [hs, hmore, hs', hsplit]
    simp
  | case11 s n hn _ hhigh hnext _ _ ih =>
    obtain ⟨w, hw, rfl⟩ := exists_of_flaw h
    obtain ⟨body, hbody, hsplit⟩ := ih hw
    obtain ⟨t, ht, hs⟩ := exists_of_fourHexDigits hn
    refine ⟨_, .highAlone ht hhigh ?_ hbody, ?_⟩
    · rintro more rfl
      exact hnext _ hsplit
    · rw [hs, hsplit]
      simp
  | case12 s n hn hlow hhigh ih =>
    obtain ⟨w, hw, rfl⟩ := exists_of_push h
    obtain ⟨body, hbody, hsplit⟩ := ih hw
    obtain ⟨t, ht, hs⟩ := exists_of_fourHexDigits hn
    refine ⟨_, .code ht (eq_false_of_ne_true hlow) (eq_false_of_ne_true hhigh) hbody, ?_⟩
    rw [hs, hsplit]
    simp
  | case13 c s _ d hc ih =>
    obtain ⟨w, hw, rfl⟩ := exists_of_push h
    obtain ⟨body, hbody, rfl⟩ := ih hw
    exact ⟨_, .short hc hbody, rfl⟩
  | case18 c s hquote hu hescape hstray hend hprintable ih =>
    obtain ⟨w, hw, rfl⟩ := exists_of_push h
    obtain ⟨body, hbody, rfl⟩ := ih hw
    -- A backslash has been met in each of its forms before.
    have hbackslash : c ≠ '\\' := by
      intro hc
      rcases hs : body ++ .char '"' :: rest with _ | ⟨a | b, more⟩
      · exact hend hs hc
      · exact hescape a more hs hc
      · exact hstray b more hs hc
    exact ⟨_, .plain hquote hbackslash (Nat.le_of_not_lt hprintable) hbody, rfl⟩

/-! ## Texts -/

/-- The text starts with the token, and the rest of it follows. -/
inductive Starts : Token → List Symbol → List Symbol → Prop
  | openArray (rest : List Symbol) : Starts .openArray (.char '[' :: rest) rest
  | closeArray (rest : List Symbol) : Starts .closeArray (.char ']' :: rest) rest
  | openObject (rest : List Symbol) : Starts .openObject (.char '{' :: rest) rest
  | closeObject (rest : List Symbol) : Starts .closeObject (.char '}' :: rest) rest
  | comma (rest : List Symbol) : Starts .comma (.char ',' :: rest) rest
  | colon (rest : List Symbol) : Starts .colon (.char ':' :: rest) rest
  | null (rest : List Symbol) : Starts .null (Text.symbols ['n', 'u', 'l', 'l'] ++ rest) rest
  | false (rest : List Symbol) :
      Starts (.bool false) (Text.symbols ['f', 'a', 'l', 's', 'e'] ++ rest) rest
  | true (rest : List Symbol) : Starts (.bool true) (Text.symbols ['t', 'r', 'u', 'e'] ++ rest) rest
  | number {n : Numeral} {t : Text} {rest : List Symbol} (ht : n.Spells t)
      (hrest : Numeral.Ends rest) : Starts (.number n.value) (t.symbols ++ rest) rest
  | string {body : List Symbol} {v : Except ReadError Text} (hbody : StringBody body v)
      (rest : List Symbol) : Starts (.string v) (.char '"' :: (body ++ .char '"' :: rest)) rest

/-- The text is these tokens, with blanks anywhere around them. -/
inductive Lexed : List Symbol → List Token → Prop
  | nil : Lexed [] []
  | blank {c : Char} {s : List Symbol} {tokens : List Token} (hc : isSpace c)
      (hs : Lexed s tokens) : Lexed (.char c :: s) tokens
  | token {t : Token} {s rest : List Symbol} {tokens : List Token} (ht : Starts t s rest)
      (hrest : Lexed rest tokens) : Lexed s (t :: tokens)

/-- The token is one of JSON and not the place where a text breaks off. -/
def IsWhole : Token → Prop
  | .brokenString .. | .brokenScalar .. | .other => False
  | _ => True

/-! ### What is written is scanned -/

theorem first_of_numeral {c : Char} (hc : c = '-' ∨ c.isDigit) (rest : List Symbol) :
    first c rest = numeral (.char c :: rest) := by
  unfold first
  split
  case h_11 => rw [if_pos hc]
  all_goals exact absurd hc (by decide)

theorem isSpace_of_numeral {c : Char} (hc : c = '-' ∨ c.isDigit) : isSpace c = false := by
  rw [Bool.eq_false_iff]
  intro hspace
  simp only [isSpace, Bool.or_eq_true, beq_iff_eq] at hspace
  rcases hspace with ((rfl | rfl) | rfl) | rfl
  all_goals exact absurd hc (by decide)

theorem exists_cons_of_spells {n : Numeral} (ht : n.Spells t) :
    ∃ c more, t = c :: more ∧ (c = '-' ∨ c.isDigit) := by
  obtain ⟨negative, hwhole, hfraction, hexponent⟩ := ht
  rename_i whole fraction exponent u v
  obtain ⟨⟨hne, hall⟩, -⟩ := hwhole
  obtain ⟨c, more, rfl⟩ := List.exists_cons_of_ne_nil hne
  cases negative with
  | true => exact ⟨'-', _, rfl, .inl rfl⟩
  | false => exact ⟨c, _, rfl, .inr (hall c List.mem_cons_self)⟩

/-- **A token is scanned.** -/
theorem scan_of_starts {token : Token} (h : Starts token s rest) : scan s = token :: scan rest := by
  cases h with
  | openArray | closeArray | openObject | closeObject | comma | colon =>
    rw [scan]
    rfl
  | null | false | true =>
    simp only [Text.symbols_cons, Text.symbols_nil, List.cons_append, List.nil_append]
    rw [scan]
    rfl
  | number ht hrest =>
    obtain ⟨c, more, rfl, hc⟩ := exists_cons_of_spells ht
    have hscan := Numeral.scan_append ht hrest
    rw [Text.symbols_cons, List.cons_append] at hscan ⊢
    rw [scan, if_neg (by simp [isSpace_of_numeral hc]), first_of_numeral hc, numeral, hscan]
  | @string body v hbody =>
    have hfirst : first '"' (body ++ .char '"' :: rest) = (.string v, rest) := by
      change quotedString _ = _
      rw [quotedString, scanString_append hbody]
    have hspace : isSpace '"' = false := rfl
    rw [scan, hspace, if_neg (by decide), hfirst]

theorem isWhole_of_starts {token : Token} (h : Starts token s rest) : token.IsWhole := by
  cases h <;> trivial

/-! ### What is scanned is written -/

theorem eq_of_word {letters : Text} (h : word letters s = .ok rest) :
    s = letters.symbols ++ rest := by
  induction letters generalizing s with
  | nil => exact Except.ok.inj h
  | cons c more ih =>
    cases s with
    | nil => cases h
    | cons a s =>
      rw [word] at h
      split at h
      · rename_i ha
        rw [ha, ih h]
        rfl
      · cases h

theorem starts_literal {c : Char} {letters : Text} {token : Token}
    (hstarts : ∀ rest, Starts token (Text.symbols (c :: letters) ++ rest) rest)
    (hwhole : (literal letters token s).1.IsWhole) :
    Starts (literal letters token s).1 (.char c :: s) (literal letters token s).2 := by
  rw [literal] at hwhole ⊢
  split
  · rename_i hword
    rw [eq_of_word hword]
    exact hstarts _
  · rename_i hword
    rw [hword] at hwhole
    exact hwhole.elim

theorem starts_quotedString (hwhole : (quotedString s).1.IsWhole) :
    Starts (quotedString s).1 (.char '"' :: s) (quotedString s).2 := by
  rw [quotedString] at hwhole ⊢
  split
  · rename_i hscan
    obtain ⟨body, hbody, rfl⟩ := exists_of_scanString hscan
    exact .string hbody _
  · rename_i hscan
    rw [hscan] at hwhole
    exact hwhole.elim

theorem ends_of_scan (hdigit : Numeral.NoDigit rest) (h : ∀ token ∈ scan rest, token.IsWhole) :
    Numeral.Ends rest := by
  intro c more hrest
  subst hrest
  have hother {c : Char} (hc : first c more = (.other, [])) (hspace : isSpace c = false) :
      ¬ ∀ token ∈ scan (.char c :: more), token.IsWhole := by
    rw [scan, if_neg (by simp [hspace]), hc]
    exact fun h ↦ h .other List.mem_cons_self
  refine ⟨hdigit c more rfl, ?_, ?_, ?_⟩
  all_goals
    rintro rfl
    exact hother rfl rfl h

theorem starts_numeral (hwhole : (numeral s).1.IsWhole)
    (hrest : ∀ token ∈ scan (numeral s).2, token.IsWhole) :
    Starts (numeral s).1 s (numeral s).2 := by
  rw [numeral] at hwhole hrest ⊢
  split
  · rename_i hscan
    rw [hscan] at hrest
    obtain ⟨t, ht, hdigit, rfl⟩ := Numeral.exists_of_scan hscan
    exact .number ht (ends_of_scan hdigit hrest)
  · rename_i hscan
    rw [hscan] at hwhole
    exact hwhole.elim

theorem starts_first {c : Char} (hwhole : (first c s).1.IsWhole)
    (hrest : ∀ token ∈ scan (first c s).2, token.IsWhole) :
    Starts (first c s).1 (.char c :: s) (first c s).2 := by
  revert hwhole hrest
  unfold first
  split
  case h_7 => exact fun hwhole _ ↦ starts_literal .null hwhole
  case h_8 => exact fun hwhole _ ↦ starts_literal .true hwhole
  case h_9 => exact fun hwhole _ ↦ starts_literal .false hwhole
  case h_10 => exact fun hwhole _ ↦ starts_quotedString hwhole
  case h_11 =>
    split
    · exact starts_numeral
    · exact fun hwhole _ ↦ hwhole.elim
  all_goals
    intro _ _
    constructor

/-- **The scanner reads the grammar.** A text is these tokens and blanks exactly if they are what
the scanner finds in it and none of them is broken. -/
theorem lexed_iff {tokens : List Token} :
    Lexed s tokens ↔ scan s = tokens ∧ ∀ token ∈ tokens, token.IsWhole := by
  constructor
  · intro h
    induction h with
    | nil => exact ⟨scan.eq_def [], fun _ h ↦ absurd h List.not_mem_nil⟩
    | blank hc hs ih =>
      rw [scan, if_pos hc]
      exact ih
    | token ht hrest ih =>
      obtain ⟨hscan, hwhole⟩ := ih
      rw [scan_of_starts ht, hscan]
      exact ⟨rfl, List.forall_mem_cons.mpr ⟨isWhole_of_starts ht, hwhole⟩⟩
  · rintro ⟨rfl, h⟩
    fun_induction scan s with
    | case1 => exact .nil
    | case2 b s => exact (h .other List.mem_cons_self).elim
    | case3 c s hc ih => exact .blank hc (ih h)
    | case4 c s hc _ ih =>
      obtain ⟨hwhole, hrest⟩ := List.forall_mem_cons.mp h
      exact .token (starts_first hwhole hrest) (ih hrest)

end Token
end SiteClient
