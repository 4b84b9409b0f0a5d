import Mathlib.Order.MinMax
import SiteClient.Session.Settings

/-!
# The lengths of intervals

What the operations on durations do to lengths in nanoseconds. So whatever is said of intervals is a
fact about natural numbers, and no proof looks at seconds and nanoseconds apart.

The main statement is that the settings for a session suit its length, whatever it is
(`KeepaliveSettings.settings_suit`): nothing is lost but what a tenth is rounded down by, and
nothing overflows, for two tenths are far from the longest duration.
-/

namespace SiteClient

namespace Duration

variable {d e : Duration}

theorem total_lt (d : Duration) : d.total < UInt64.size * nanosPerSecond := by
  have hseconds := d.seconds_lt
  have hnanos := d.nanos_lt
  rw [total]
  unfold nanosPerSecond at *
  omega

theorem seconds_eq (d : Duration) : d.seconds = d.total / nanosPerSecond := by
  have hnanos := d.nanos_lt
  rw [total]
  unfold nanosPerSecond at *
  omega

theorem nanos_eq (d : Duration) : d.nanos = d.total % nanosPerSecond := by
  rw [total, Nat.mul_add_mod_of_lt d.nanos_lt]

theorem total_ofSeconds {n : ℕ} (h : n < UInt64.size) :
    (ofSeconds n).total = n * nanosPerSecond := by
  rw [ofSeconds, dif_pos h, total, Nat.add_zero]

theorem total_tenth (d : Duration) : d.tenth.total = d.total / 10 := by
  simp only [total, tenth]
  unfold nanosPerSecond
  omega

theorem exists_double (h : 2 * d.total < UInt64.size * nanosPerSecond) :
    ∃ e, d.double? = some e ∧ e.total = 2 * d.total := by
  have hfits : 2 * d.seconds + 2 * d.nanos / nanosPerSecond < UInt64.size := by
    rw [total] at h
    unfold nanosPerSecond at *
    omega
  refine ⟨_, dif_pos hfits, ?_⟩
  simp only [total]
  unfold nanosPerSecond
  omega

/-- Twice a tenth of a duration always fits. -/
theorem exists_double_tenth (d : Duration) :
    ∃ e, d.tenth.double? = some e ∧ e.total = 2 * (d.total / 10) := by
  have hlt := d.total_lt
  rw [← total_tenth]
  refine exists_double ?_
  rw [total_tenth]
  omega

theorem total_max (d e : Duration) : (d.max e).total = Max.max d.total e.total := by
  by_cases h : d ≤ e
  · rw [max, if_pos h, Nat.max_eq_right (le_iff_total_le.mp h)]
  · rw [max, if_neg h, Nat.max_eq_left (Nat.le_of_not_le (mt le_iff_total_le.mpr h))]

end Duration

namespace KeepaliveSettings

theorem total_leastWarning : leastWarning.total = 900 * nanosPerSecond :=
  Duration.total_ofSeconds (by decide)

theorem total_checkFrequency (timeout : Duration) :
    (ofSessionTimeout timeout).checkFrequency.total = timeout.total / 10 :=
  timeout.total_tenth

theorem total_warningLimit (timeout : Duration) :
    (ofSessionTimeout timeout).warningLimit.total =
      max (2 * (timeout.total / 10)) leastWarning.total := by
  obtain ⟨double, hdouble, htotal⟩ := timeout.exists_double_tenth
  rw [ofSessionTimeout, hdouble, Option.getD_some, Duration.total_max, htotal]

/-- The settings are what sessions of `t` nanoseconds need. -/
structure Suits (settings : KeepaliveSettings) (t : ℕ) : Prop where
  /-- A check comes after a tenth of the session, rounded down to a nanosecond. -/
  seconds_checkFrequency : settings.checkFrequency.seconds = t / 10 / nanosPerSecond
  nanos_checkFrequency : settings.checkFrequency.nanos = t / 10 % nanosPerSecond
  /-- Twice the time between two checks is a duration, too: nothing overflows. -/
  double_checkFrequency : ∃ double, settings.checkFrequency.double? = some double ∧
    double.total = 2 * (t / 10)
  /-- The user is warned two checks ahead, but no later than a quarter of an hour. -/
  warningLimit_eq : settings.warningLimit.total = max (2 * (t / 10)) (15 * 60 * nanosPerSecond)
  /-- After a warning the next check takes longer to come. -/
  checkFrequency_lt : settings.checkFrequency.total < settings.warningLimit.total
  /-- No session of a quarter of an hour or more is too short for its warning. -/
  warningLimit_le : 15 * 60 * nanosPerSecond ≤ t → settings.warningLimit.total ≤ t

theorem suits_ofSessionTimeout (timeout : Duration) :
    (ofSessionTimeout timeout).Suits timeout.total := by
  have hfrequency := total_checkFrequency timeout
  have hlimit := total_warningLimit timeout
  rw [total_leastWarning] at hlimit
  have hquarter : 0 < 900 * nanosPerSecond := by decide
  exact {
    seconds_checkFrequency := by rw [Duration.seconds_eq, hfrequency]
    nanos_checkFrequency := by rw [Duration.nanos_eq, hfrequency]
    double_checkFrequency := timeout.exists_double_tenth
    warningLimit_eq := hlimit
    checkFrequency_lt := by
      -- A tenth is less than two tenths, or it is nothing and there is still the quarter of an
      -- hour.
      rw [hfrequency, hlimit, lt_max_iff]
      omega
    warningLimit_le := fun hlong ↦ by
      rw [hlimit, max_le_iff]
      exact ⟨by omega, hlong⟩ }

/-- **The intervals are exact**, from no time at all up to the longest duration, and those of a site
are the ones for its seconds. -/
theorem settings_suit :
    (∀ timeout, (ofSessionTimeout timeout).Suits timeout.total) ∧
      ∀ config, (ofConfig config).Suits (config.sessionTimeout.toNat * nanosPerSecond) := by
  refine ⟨suits_ofSessionTimeout, fun config ↦ ?_⟩
  rw [← Duration.total_ofSeconds config.sessionTimeout.toNat_lt]
  exact suits_ofSessionTimeout _

/-- The longest duration is one nanosecond short of what fits, and twice a tenth of it fits. -/
theorem settings_suit_of_longest :
    15 * 60 * nanosPerSecond ≤ Duration.longest.total ∧
      (ofSessionTimeout .longest).checkFrequency.double? =
        some (ofSessionTimeout .longest).warningLimit ∧
      (ofSessionTimeout .longest).warningLimit.total = 3689348814741910323199999998 ∧
      (ofSessionTimeout .longest).warningLimit.total ≤ Duration.longest.total := by
  have hlong : 15 * 60 * nanosPerSecond ≤ Duration.longest.total := by decide
  have hsuits := settings_suit.1 .longest
  exact ⟨hlong, by decide, hsuits.warningLimit_eq.trans (by decide), hsuits.warningLimit_le hlong⟩

end KeepaliveSettings
end SiteClient
