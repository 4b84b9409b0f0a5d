/-!
# Durations

A duration is a number of whole seconds below `2 ^ 64` and a number of nanoseconds below a second,
so every duration has one form. `Duration.total` is its length in nanoseconds, on which all laws are
stated.
-/

namespace SiteClient

def nanosPerSecond : Nat := 1000000000

/-- A length of time. -/
structure Duration where
  seconds : Nat
  nanos : Nat
  seconds_lt : seconds < UInt64.size
  nanos_lt : nanos < nanosPerSecond
  deriving DecidableEq, Repr

namespace Duration

/-- The length in nanoseconds. -/
def total (d : Duration) : Nat :=
  d.seconds * nanosPerSecond + d.nanos

/-- The duration of so many nanoseconds, if that many fit. -/
def ofNanos? (n : Nat) : Option Duration :=
  if h : n / nanosPerSecond < UInt64.size then
    some ⟨n / nanosPerSecond, n % nanosPerSecond, h, Nat.mod_lt _ (by decide)⟩
  else none

def zero : Duration := ⟨0, 0, by decide, by decide⟩

def longest : Duration := ⟨UInt64.size - 1, nanosPerSecond - 1, by decide, by decide⟩

/-- So many whole seconds; the longest duration if they do not fit. -/
def ofSeconds (n : Nat) : Duration :=
  if h : n < UInt64.size then ⟨n, 0, h, by decide⟩ else longest

/-- So many thousandths of a second; the longest duration if they do not fit. -/
def ofMillis (n : Nat) : Duration :=
  (ofNanos? (n * 1000000)).getD longest

/-- A tenth, rounded down: the seconds that ten does not divide are carried into the nanoseconds. -/
def tenth (d : Duration) : Duration where
  seconds := d.seconds / 10
  nanos := (d.seconds % 10 * nanosPerSecond + d.nanos) / 10
  seconds_lt := by have := d.seconds_lt; omega
  nanos_lt := by have := d.nanos_lt; unfold nanosPerSecond at *; omega

/-- Twice the duration, if that fits. -/
def double? (d : Duration) : Option Duration :=
  let carry := 2 * d.nanos / nanosPerSecond
  if h : 2 * d.seconds + carry < UInt64.size then
    some ⟨2 * d.seconds + carry, 2 * d.nanos % nanosPerSecond, h, Nat.mod_lt _ (by decide)⟩
  else none

instance : LE Duration where
  le d e := d.seconds < e.seconds ∨ (d.seconds = e.seconds ∧ d.nanos ≤ e.nanos)

instance (d e : Duration) : Decidable (d ≤ e) :=
  inferInstanceAs (Decidable (d.seconds < e.seconds ∨ (d.seconds = e.seconds ∧ d.nanos ≤ e.nanos)))

theorem le_iff_total_le {d e : Duration} : d ≤ e ↔ d.total ≤ e.total := by
  have hd := d.nanos_lt
  have he := e.nanos_lt
  change (d.seconds < e.seconds ∨ (d.seconds = e.seconds ∧ d.nanos ≤ e.nanos)) ↔ _
  unfold total
  unfold nanosPerSecond at *
  omega

def max (d e : Duration) : Duration :=
  if d ≤ e then e else d

end Duration
end SiteClient
