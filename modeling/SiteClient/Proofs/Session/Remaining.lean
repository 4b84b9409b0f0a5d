import SiteClient.Proofs.Decimal.Rounding
import SiteClient.Proofs.Session.Intervals
import SiteClient.Proofs.Session.Recording

/-!
# How long a session lasts, by its site

A site may answer with any number. An integer that no signed word holds is read by way of a double,
which may be another number, but never one that a signed word holds; so it counts as the most
seconds that one holds, as it would if it were cut off at once (`Session.wholeSeconds_integer`).
What is negative is no time.

So the number of seconds grows with the answer and a check warns whenever it would have warned for
more (`Session.remaining_time_clamped`).
-/

namespace SiteClient.Session

variable {ω : Type} {env : Surroundings ω} {settings : KeepaliveSettings} {s s' : ω}
  {payload : Json}

/-- An integer counts as so many seconds, within the range of a signed word and not below zero. -/
theorem wholeSeconds_integer (n : ℤ) (inRange) :
    (wholeSeconds (.integer n inRange) : ℤ) = max 0 (min n (2 ^ 63 - 1)) := by
  rw [wholeSeconds, Number.toInt64?]
  by_cases hfits : n < 0x8000000000000000
  · rw [if_pos hfits, Option.getD_some]
    omega
  · obtain ⟨k, rfl⟩ := Int.eq_ofNat_of_zero_le (show 0 ≤ n by omega)
    have hdouble : 2 ^ 63 ≤ (Binary.ofFloat (Number.toFloat (.integer k inRange))).truncate :=
      Binary.le_truncate_ofFloat (by omega) (by omega)
    rw [if_neg hfits, Option.getD_none, Binary.saturate]
    omega

/-! ## Where the number stands -/

/-- The value stands where the payload should have the number: it is the payload, or a field of
it. -/
def Gives (payload v : Json) : Prop :=
  payload = v ∨ ∃ fields, payload = .object fields ∧
    Fields.get? fields "timeremaining".toList = some v

theorem remainingSeconds_of_gives {n : Number} (h : Gives payload (.number n)) :
    remainingSeconds payload = .ok (wholeSeconds n) := by
  rcases h with rfl | ⟨fields, rfl, hget⟩
  · rfl
  · rw [remainingSeconds, hget]

/-- The error for a payload without the number. -/
def payloadError (payload : Json) : RemoteError :=
  .serialization ("unexpected time remaining payload: ".toList ++ payload.text)

theorem remainingSeconds_of_not_gives (h : ∀ n, ¬Gives payload (.number n)) :
    remainingSeconds payload = .error (payloadError payload) := by
  cases payload with
  | number n => exact absurd (.inl rfl) (h n)
  | object fields =>
    cases hget : Fields.get? fields "timeremaining".toList with
    | none =>
      rw [remainingSeconds, hget]
      rfl
    | some v =>
      cases v with
      | number n => exact absurd (.inr ⟨fields, rfl, hget⟩) (h n)
      | null | bool b | string t | array items | object inner =>
        rw [remainingSeconds, hget]
        rfl
  | null | bool b | string t | array items => rfl

theorem reading_of_gives {n : ℤ} {inRange} (h : Gives payload (.number (.integer n inRange))) :
    ∃ d, reading (.ok payload) = .ok d ∧
      (d.seconds : ℤ) = max 0 (min n (2 ^ 63 - 1)) ∧ d.nanos = 0 := by
  have hseconds := wholeSeconds_integer n inRange
  have hfits : wholeSeconds (.integer n inRange) < UInt64.size := by
    change _ < 18446744073709551616
    omega
  refine ⟨⟨wholeSeconds (.integer n inRange), 0, hfits, by decide⟩, ?_, hseconds, rfl⟩
  rw [reading, Except.bind, remainingSeconds_of_gives h]
  exact congrArg Except.ok (dif_pos hfits)

theorem reading_of_not_gives (h : ∀ n, ¬Gives payload (.number n)) :
    reading (.ok payload) = .error (payloadError payload) := by
  rw [reading, Except.bind, remainingSeconds_of_not_gives h]
  rfl

/-! ## Checks -/

/-- The check finds too little time left: after the call that asks for it, it offers to extend the
session. -/
def Warns (env : Surroundings ω) (settings : KeepaliveSettings) (s : ω) : Prop :=
  ∃ answer offer, Offers offer ∧
    (check env.recorded settings (s, [])).2.2 = .called remainingCall answer :: offer

theorem check_of_reading (settings : KeepaliveSettings) {result : CallResult}
    (hcall : env.call remainingCall s = (result, s')) {remaining : Duration}
    (hreading : reading result = .ok remaining) :
    (settings.warningLimit ≤ remaining → ∀ acts, check env.recorded settings (s, acts) =
      (.ok settings.checkFrequency, s', acts ++ [.called remainingCall result])) ∧
    (¬settings.warningLimit ≤ remaining → ∃ offer, Offers offer ∧ ∀ acts,
      check env.recorded settings (s, acts) =
        (.ok settings.warningLimit, offerExtension env s',
          acts ++ .called remainingCall result :: offer)) := by
  refine ⟨fun hle acts ↦ ?_, fun hlt ↦ ?_⟩
  · exact Keepalive.pollOnce_of_le (Surroundings.recorded_call acts hcall) hreading hle
  · obtain ⟨offer, hoffer, hrecorded⟩ := offerExtension_recorded env s'
    refine ⟨offer, hoffer, fun acts ↦ ?_⟩
    have hcheck := Keepalive.pollOnce_of_not_le (Surroundings.recorded_call acts hcall) hreading hlt
    rw [hrecorded, List.append_assoc] at hcheck
    exact hcheck

theorem Offers.ne_nil {offer : List Act} (h : Offers offer) : offer ≠ [] := by
  cases h <;> exact List.cons_ne_nil _ _

theorem warns_iff {result : CallResult} (hcall : env.call remainingCall s = (result, s'))
    {remaining : Duration} (hreading : reading result = .ok remaining) :
    Warns env settings s ↔ ¬settings.warningLimit ≤ remaining := by
  obtain ⟨hspared, hwarned⟩ := check_of_reading settings hcall hreading
  constructor
  · rintro ⟨answer, offer, hoffer, hacts⟩ hle
    rw [hspared hle] at hacts
    exact hoffer.ne_nil (List.cons.inj hacts).2.symm
  · intro hlt
    obtain ⟨offer, hoffer, hcheck⟩ := hwarned hlt
    refine ⟨result, offer, hoffer, ?_⟩
    rw [hcheck]
    rfl

theorem warns_iff_of_gives {n : ℤ} {inRange} (hcall : env.call remainingCall s = (.ok payload, s'))
    (h : Gives payload (.number (.integer n inRange))) :
    Warns env settings s ↔
      max 0 (min n (2 ^ 63 - 1)) * nanosPerSecond < settings.warningLimit.total := by
  obtain ⟨d, hreading, hseconds, hnanos⟩ := reading_of_gives h
  have htotal : (d.total : ℤ) = max 0 (min n (2 ^ 63 - 1)) * nanosPerSecond := by
    rw [Duration.total, hnanos, Nat.add_zero, ← hseconds, Int.natCast_mul]
  rw [warns_iff hcall hreading, Duration.le_iff_total_le, Nat.not_le, ← htotal, Int.ofNat_lt]

/-- **Remaining time is clamped, never wrapped.** Let the site answer the question how long the
session lasts. If the answer gives an integer, bare or in a record, the time is exactly so many
seconds, within the range from zero to the greatest signed word, and a check warns if and only if
that is below the limit; so it warns for every lower integer as well. An answer that gives no number
at all is an error, after which a check does nothing more. -/
theorem remaining_time_clamped (env : Surroundings ω) (settings : KeepaliveSettings) {s s' : ω}
    {payload : Json} (hcall : env.call remainingCall s = (.ok payload, s')) :
    (∀ n inRange, Gives payload (.number (.integer n inRange)) →
      let left := max 0 (min n (2 ^ 63 - 1))
      (∃ d, timeRemaining env s = (.ok d, s') ∧ (d.seconds : ℤ) = left ∧ d.nanos = 0) ∧
      (Warns env settings s ↔ left * nanosPerSecond < settings.warningLimit.total) ∧
      (Warns env settings s → ∃ offer, Offers offer ∧ ∀ acts,
        check env.recorded settings (s, acts) = (.ok settings.warningLimit, offerExtension env s',
          acts ++ .called remainingCall (.ok payload) :: offer)) ∧
      (¬Warns env settings s → ∀ acts, check env.recorded settings (s, acts) =
        (.ok settings.checkFrequency, s', acts ++ [.called remainingCall (.ok payload)])) ∧
      ∀ (ω' : Type) (env' : Surroundings ω') (t t' : ω') (payload' : Json) (lower : ℤ) (inRange'),
        lower ≤ n → env'.call remainingCall t = (.ok payload', t') →
          Gives payload' (.number (.integer lower inRange')) →
          Warns env settings s → Warns env' settings t) ∧
    ((∀ n, ¬Gives payload (.number n)) →
      timeRemaining env s = (.error (payloadError payload), s') ∧
      ∀ acts, check env.recorded settings (s, acts) =
        (.error (payloadError payload), s', acts ++ [.called remainingCall (.ok payload)])) := by
  refine ⟨fun n inRange h ↦ ?_, fun h ↦ ?_⟩
  · obtain ⟨d, hreading, hseconds, hnanos⟩ := reading_of_gives h
    obtain ⟨hspared, hwarned⟩ := check_of_reading settings hcall hreading
    have hlimit : Warns env settings s ↔ _ := warns_iff hcall hreading
    refine ⟨⟨d, ?_, hseconds, hnanos⟩, warns_iff_of_gives hcall h, fun hwarns ↦ ?_,
      fun hwarns ↦ ?_, ?_⟩
    · rw [timeRemaining_of_call hcall, hreading]
    · exact hwarned (hlimit.mp hwarns)
    · exact hspared (not_not.mp (mt hlimit.mpr hwarns))
    · intro ω' env' t t' payload' lower inRange' hle hcall' h' hwarns
      rw [warns_iff_of_gives hcall h] at hwarns
      rw [warns_iff_of_gives hcall' h']
      have hseconds : max 0 (min lower (2 ^ 63 - 1)) ≤ max 0 (min n (2 ^ 63 - 1)) := by omega
      exact (Int.mul_le_mul_of_nonneg_right hseconds (Int.natCast_nonneg _)).trans_lt hwarns
  · have hreading := reading_of_not_gives h
    refine ⟨?_, fun acts ↦ ?_⟩
    · rw [timeRemaining_of_call hcall, hreading]
    · rw [check, timeRemaining_of_call (Surroundings.recorded_call acts hcall), hreading]

/-- A site with one answer to everything, and a user who agrees to nothing. -/
def answering (payload : Json) : Surroundings Unit where
  call _ s := (.ok payload, s)
  strings _ s := (.ok ["Inactive".toList, "Stay?".toList], s)
  confirm _ s := (false, s)
  report _ s := s
  setClock _ s := s

theorem remaining_time_clamped_of_answering :
    (∃ d, timeRemaining (answering (.number (.ofUInt64 18446744073709551615))) () = (.ok d, ()) ∧
      (d.seconds : ℤ) = 9223372036854775807 ∧ d.nanos = 0) ∧
    Warns (answering (.object [("timeremaining".toList, .number (.ofInt64 (-5)))]))
      (.ofSessionTimeout .zero) () ∧
    (timeRemaining (answering (.string "soon".toList)) ()).1 =
      .error (payloadError (.string "soon".toList)) := by
  obtain ⟨hmost, -⟩ := remaining_time_clamped (answering (.number (.ofUInt64 18446744073709551615)))
    (.ofSessionTimeout .zero) (show _ = (_, ()) from rfl)
  obtain ⟨hnegative, -⟩ := remaining_time_clamped
    (answering (.object [("timeremaining".toList, .number (.ofInt64 (-5)))]))
      (.ofSessionTimeout .zero)
    (show _ = (_, ()) from rfl)
  obtain ⟨-, htext⟩ := remaining_time_clamped (answering (.string "soon".toList))
    (.ofSessionTimeout .zero) (show _ = (_, ()) from rfl)
  obtain ⟨hclamped, -⟩ := hmost 18446744073709551615 (by decide) (.inl rfl)
  obtain ⟨-, hwarns, -⟩ := hnegative (-5) (by decide) (.inr ⟨_, rfl, rfl⟩)
  obtain ⟨herror, -⟩ := htext (by
    rintro n (h | ⟨fields, h, -⟩) <;> cases h)
  exact ⟨hclamped, hwarns.mpr (by decide), congrArg Prod.fst herror⟩

end SiteClient.Session
