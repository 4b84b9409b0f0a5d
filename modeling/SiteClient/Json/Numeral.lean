import SiteClient.Text.Utf8
import SiteClient.Json.ReadError
/-!
# Numerals

The spelling of a number: a sign, whole digits, digits after a point, an exponent. `Numeral.scan`
cuts a numeral from a text; `Numeral.value` gives the number it stands for.

Digits are collected into a 64-bit significand. A numeral without point and exponent whose value
fits an integer is one; every other numeral is a double, computed as the significand times or
divided by a power of ten, each step rounded. Digits beyond the significand count only for their
place.
-/

namespace SiteClient

/-- A numeral of JSON. -/
structure Numeral where
  negative : Bool
  whole : Text
  fraction : Option Text
  exponent : Option (Bool × Text)
  deriving DecidableEq, Repr

namespace Numeral

/-- Why no numeral could be cut: the text ends, or goes on with something else. -/
inductive Fault where
  | ended
  | unexpected

def digits : List Symbol → Text × List Symbol
  | .char c :: rest =>
    if c.isDigit then
      let (more, rest) := digits rest
      (c :: more, rest)
    else ([], .char c :: rest)
  | rest => ([], rest)

/-- One digit or more. -/
def someDigits (s : List Symbol) : Except Fault (Text × List Symbol) :=
  match digits s with
  | ([], []) => .error .ended
  | ([], _ :: _) => .error .unexpected
  | found => .ok found

/-- A sign and whether it is a minus; no sign counts as plus. -/
def sign : List Symbol → Bool × List Symbol
  | .char '+' :: rest => (false, rest)
  | .char '-' :: rest => (true, rest)
  | rest => (false, rest)

/-- The digits before the point: a zero stands alone. -/
def wholeDigits (s : List Symbol) : Except Fault (Text × List Symbol) := do
  let (whole, rest) ← someDigits s
  match whole with
  | '0' :: _ :: _ => .error .unexpected
  | _ => .ok (whole, rest)

/-- The point and the digits after it, if there is a point. -/
def fractionDigits : List Symbol → Except Fault (Option Text × List Symbol)
  | .char '.' :: rest => do
    let (found, rest) ← someDigits rest
    .ok (some found, rest)
  | rest => .ok (none, rest)

/-- The exponent, if there is one. -/
def exponentDigits : List Symbol → Except Fault (Option (Bool × Text) × List Symbol)
  | .char c :: rest =>
    if c = 'e' ∨ c = 'E' then do
      let (negative, rest) := sign rest
      let (found, rest) ← someDigits rest
      .ok (some (negative, found), rest)
    else .ok (none, .char c :: rest)
  | rest => .ok (none, rest)

/-- Whether the text starts with a minus sign, and the text after it. -/
def minus : List Symbol → Bool × List Symbol
  | .char '-' :: rest => (true, rest)
  | rest => (false, rest)

/-- Cuts a numeral from the start of a text. -/
def scan (s : List Symbol) : Except Fault (Numeral × List Symbol) := do
  let (negative, s) := minus s
  let (whole, s) ← wholeDigits s
  let (fraction, s) ← fractionDigits s
  let (exponent, s) ← exponentDigits s
  .ok (⟨negative, whole, fraction, exponent⟩, s)

/-! ## Length

A numeral takes at least one symbol, so a reader that cuts numerals comes to an end. -/

theorem length_digits (s : List Symbol) : (digits s).1.length + (digits s).2.length = s.length := by
  fun_induction digits s <;> simp_all
  omega

theorem length_lt_of_someDigits {s rest : List Symbol} {t : Text}
    (h : someDigits s = .ok (t, rest)) : rest.length < s.length := by
  have hlen := length_digits s
  unfold someDigits at h
  split at h
  · simp at h
  · simp at h
  · rename_i hne₁ hne₂
    simp only [Except.ok.injEq] at h
    rw [h] at hlen hne₁ hne₂
    cases t with
    | nil => cases rest <;> simp_all
    | cons c t => simp only [List.length_cons] at hlen ⊢; omega

theorem length_lt_of_wholeDigits {s rest : List Symbol} {t : Text}
    (h : wholeDigits s = .ok (t, rest)) : rest.length < s.length := by
  unfold wholeDigits at h
  cases hd : someDigits s with
  | error e => simp [hd, bind, Except.bind] at h
  | ok found =>
    obtain ⟨u, r⟩ := found
    simp only [hd, bind, Except.bind] at h
    split at h <;> simp at h
    rw [← h.2]
    exact length_lt_of_someDigits hd

theorem length_le_of_fractionDigits {s rest : List Symbol} {t : Option Text}
    (h : fractionDigits s = .ok (t, rest)) : rest.length ≤ s.length := by
  unfold fractionDigits at h
  split at h
  · rename_i s
    cases hd : someDigits s with
    | error e => simp [hd, bind, Except.bind] at h
    | ok found =>
      simp only [hd, bind, Except.bind, Except.ok.injEq, Prod.mk.injEq] at h
      have := length_lt_of_someDigits hd
      rw [← h.2, List.length_cons]
      omega
  · simp_all

theorem length_sign_le (s : List Symbol) : (sign s).2.length ≤ s.length := by
  unfold sign
  split <;> simp

theorem length_le_of_exponentDigits {s rest : List Symbol} {t : Option (Bool × Text)}
    (h : exponentDigits s = .ok (t, rest)) : rest.length ≤ s.length := by
  unfold exponentDigits at h
  split at h
  · split at h
    · rename_i c s _
      have hsign := length_sign_le s
      cases hd : someDigits (sign s).2 with
      | error e => simp [hd, bind, Except.bind] at h
      | ok found =>
        simp only [hd, bind, Except.bind, Except.ok.injEq, Prod.mk.injEq] at h
        have := length_lt_of_someDigits hd
        rw [← h.2, List.length_cons]
        omega
    · simp_all
  · simp_all

theorem length_lt_of_scan {s rest : List Symbol} {n : Numeral} (h : scan s = .ok (n, rest)) :
    rest.length < s.length := by
  have hminus : (minus s).2.length ≤ s.length := by
    unfold minus
    split <;> simp
  unfold scan at h
  cases hw : wholeDigits (minus s).2 with
  | error e => simp [hw, bind, Except.bind] at h
  | ok whole =>
    have h₁ := length_lt_of_wholeDigits hw
    cases hf : fractionDigits whole.2 with
    | error e => simp [hw, hf, bind, Except.bind] at h
    | ok fraction =>
      have h₂ := length_le_of_fractionDigits hf
      cases he : exponentDigits fraction.2 with
      | error e => simp [hw, hf, he, bind, Except.bind] at h
      | ok exponent =>
        have h₃ := length_le_of_exponentDigits he
        simp only [hw, hf, he, bind, Except.bind, Except.ok.injEq, Prod.mk.injEq] at h
        rw [← h.2]
        omega

/-! ## Value -/

def digitValue (c : Char) : Nat :=
  c.toNat - 48

/-- Appends digits to a number as long as it stays below `bound`: the number reached and the digits
left over. -/
def absorb (bound : Nat) (n : Nat) : Text → Nat × Text
  | [] => (n, [])
  | c :: t =>
      if 10 * n + digitValue c < bound then absorb bound (10 * n + digitValue c) t
      else (n, c :: t)

/-- Divides by `10 ^ 308` until the exponent that remains is within reach of one more division. -/
def scaleDown (x : Float) (exponent : Int) : Float :=
  if h : exponent < -308 then
    if x == 0.0 then x else scaleDown (x / 1e308) (exponent + 308)
  else x / Float.ofScientific 1 false exponent.natAbs
termination_by exponent.natAbs
decreasing_by omega

/-- `significand · 10 ^ exponent` as a double. -/
def scale (significand : Nat) (exponent : Int) : Except ReadError Float :=
  let x := significand.toUInt64.toFloat
  if 0 ≤ exponent then
    if 308 < exponent then if x == 0.0 then .ok x else .error .numberOutOfRange
    else
      let y := x * Float.ofScientific 1 false exponent.toNat
      if y.isInf then .error .numberOutOfRange else .ok y
  else .ok (scaleDown x exponent)

/-- The number that a numeral stands for. An exponent of ten digits or so needs no evaluation: the
result is zero or out of range. -/
def value (n : Numeral) : Except ReadError Number :=
  let signed (x : Float) : Number := .double (if n.negative then -x else x)
  let (significand, beyond) := absorb UInt64.size 0 n.whole
  match n.fraction, n.exponent, beyond with
  | none, none, [] =>
    let magnitude : Int := significand
    let candidate := if n.negative then -magnitude else magnitude
    if n.negative && significand == 0 then .ok (signed 0.0)
    else match Number.ofInt? candidate with
      | some number => .ok number
      | none => .ok (signed significand.toUInt64.toFloat)
  | fraction, exponent, beyond => do
    let decimals := fraction.getD []
    let (significand, unread) := absorb UInt64.size significand decimals
    let place : Int := beyond.length - (decimals.length - unread.length)
    match exponent with
    | none => return signed (← scale significand place)
    | some (negative, power) =>
      match absorb 0x80000000 0 power with
      | (power, []) =>
          return signed (← scale significand (if negative then place - power else place + power))
      | (_, _ :: _) =>
        if significand ≠ 0 ∧ !negative then throw .numberOutOfRange else return signed 0.0

end Numeral
end SiteClient
