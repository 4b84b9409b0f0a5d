import Mathlib.Order.Bounds.Basic
import SiteClient.Proofs.Session.History

/-!
# The life of a keepalive

Whatever happens to a keepalive, it has at most one loop that has not ended, and that one is the
loop that counts as running; a start changes nothing while it is running and starts one loop while
it is stopped; a stopped loop never polls again (`Keepalive.lifecycle`).

The first poll comes an interval after the start, at a moment at which polls can take place: the
interval is rounded up to the next tick of the clock (`IsDue`). An interval that is no whole number
of ticks is therefore longer than asked for (`first_poll_of_tick_and_half`).
-/

namespace SiteClient.Keepalive

open Session

variable {ω : Type}

/-! ## Moments -/

/-- What is due an interval after `start` takes place at the first whole thousandth of a second,
counted in nanoseconds, at which the interval is over. -/
def IsDue (start : ℕ) (interval : Duration) (moment : ℕ) : Prop :=
  IsLeast {m | 1000000 ∣ m ∧ start + interval.total ≤ m} moment

theorem isDue_pollTime (start : ℕ) (interval : Duration) :
    IsDue start interval (pollTime start interval) := by
  constructor
  · refine ⟨Nat.dvd_mul_left _ _, ?_⟩
    rw [pollTime, tick]
    omega
  · rintro moment ⟨hdvd, hle⟩
    rw [pollTime, tick]
    omega

/-- The interval before the first poll of a loop. -/
inductive FirstInterval (settings : KeepaliveSettings) : KeepaliveMode → Duration → Prop
  | touch (frequency : Duration) : FirstInterval settings (.touch frequency) frequency
  | check : FirstInterval settings .check settings.checkFrequency

theorem firstInterval_firstDelay (settings : KeepaliveSettings) (mode : KeepaliveMode) :
    FirstInterval settings mode (firstDelay settings mode) := by
  cases mode with
  | touch frequency => exact .touch frequency
  | check => exact .check

/-! ## The first poll -/

theorem history_of_singleton {env : Surroundings ω} {settings : KeepaliveSettings} {k : Keepalive}
    {poll : Poll} (h : k.pending = [poll]) (s : ω) (limit polls : ℕ) :
    (history env settings limit (polls + 1) k s).head?.map PastPoll.toPoll =
      if poll.moment ≤ limit then some poll else none := by
  have hnext := nextPoll_of_singleton h limit
  by_cases hle : poll.moment ≤ limit
  · rw [if_pos hle] at hnext ⊢
    rw [history_of_some hnext]
    rfl
  · rw [if_neg hle] at hnext ⊢
    rw [history_of_none hnext]
    rfl

theorem status_eq_none {k : Keepalive} : k.status = none ↔ k.running = none :=
  Option.map_eq_none_iff

theorem status_eq_some {k : Keepalive} {mode : KeepaliveMode} (h : k.status = some mode) :
    ∃ place, k.running = some (mode, place) := by
  obtain ⟨⟨mode', place⟩, hrunning, rfl⟩ := Option.map_eq_some_iff.mp h
  exact ⟨place, hrunning⟩

/-- The loop that `k` starts is the only one that has not ended. -/
def StartsAlone (settings : KeepaliveSettings) (mode : KeepaliveMode) (k : Keepalive) : Prop :=
  (k.start settings mode).2.pending = [k.firstPoll settings mode]

theorem Coherent.startsAlone {settings : KeepaliveSettings} {mode : KeepaliveMode} {k : Keepalive}
    (h : k.Coherent) (hstopped : k.running = none) :
    k.StartsAlone settings mode := by
  rw [StartsAlone, pending_start settings mode hstopped, h.pending_eq_nil hstopped, List.nil_append]

/-- **The life of a keepalive.** After any events:

* at most one loop has not ended, and the keepalive is running in the mode of that loop;
* a request to start a loop while the keepalive is running is told its mode and changes nothing,
  whether the loop has ended or not;
* a request while it is stopped starts one loop, which polls first at the first tick at which its
  interval is over;
* a stop tells whether the keepalive was running, and from then on only loops that are started later
  poll.
-/
theorem lifecycle (env : Surroundings ω) (settings : KeepaliveSettings) (now : ℕ) (s₀ : ω)
    (events : List (Event ω)) :
    let k := (run env settings events { now } s₀).2.1
    let s := (run env settings events { now } s₀).2.2
    (k.pending.length ≤ 1 ∧ ∀ poll ∈ k.pending, k.status = some poll.mode) ∧
    (∀ (request : Request) (mode : KeepaliveMode), k.status = some mode →
      k.start settings request.mode = (.alreadyRunning mode, k)) ∧
    (∀ request : Request, k.status = none →
      let k' := (k.start settings request.mode).2
      k.start settings request.mode = (.started request.mode, k') ∧
      k'.status = some request.mode ∧ k'.loops.length = k.loops.length + 1 ∧
      ∃ interval first, FirstInterval settings request.mode interval ∧ IsDue k.now interval first ∧
        k'.pending = [⟨k.loops.length, request.mode, first⟩] ∧
        ∀ limit polls, (history env settings limit (polls + 1) k' s).head?.map PastPoll.toPoll =
          if first ≤ limit then some ⟨k.loops.length, request.mode, first⟩ else none) ∧
    (k.stop.1 = true ↔ k.status ≠ none) ∧
    ∀ (later : List (Event ω)) (s' : ω), ∀ r ∈ (run env settings later k.stop.2 s').1,
      k.loops.length ≤ r.place := by
  intro k s
  have hcoherent : k.Coherent := coherent_run env settings events now s₀
  refine ⟨⟨hcoherent.length_pending_le, ?_⟩, ?_, ?_, ?_, ?_⟩
  · intro poll hpoll
    rw [status, hcoherent poll hpoll]
    rfl
  · intro request mode hstatus
    obtain ⟨place, hrunning⟩ := status_eq_some hstatus
    exact start_of_running settings request.mode hrunning
  · intro request hstatus
    have hstopped := status_eq_none.mp hstatus
    have halone : k.StartsAlone settings request.mode := hcoherent.startsAlone hstopped
    have hstart := start_of_stopped settings request.mode hstopped
    refine ⟨?_, ?_, ?_, _, _, firstInterval_firstDelay settings request.mode,
      isDue_pollTime _ _, halone, history_of_singleton halone s⟩
    · rw [hstart]
    · rw [hstart]
      rfl
    · rw [hstart]
      exact List.length_append
  · rcases hrunning : k.running with - | running
    · rw [stop_of_stopped hrunning, status, hrunning]
      simp
    · rw [stop_of_running hrunning, status, hrunning]
      simp
  · intro later s' r hr
    rw [← length_loops_stop k]
    exact le_of_mem_run env settings later hcoherent.pending_stop s' hr

/-! ## A site that does not answer -/

def silence : Surroundings Unit where
  call _ _ := (.error .dropped, ())
  strings _ _ := (.error .dropped, ())
  confirm _ _ := (false, ())
  report _ _ := ()
  setClock _ _ := ()

/-- Sessions of fifteen thousandths of a second are checked every tick and a half. -/
def briefSettings : KeepaliveSettings :=
  .ofSessionTimeout (.ofMillis 15)

/-- The session is extended every second. -/
def everySecond : KeepaliveMode := .touch (.ofSeconds 1)

/-- A loop is started, and its first poll fails. -/
def failedPoll : List (Event Unit) := [.start (.start everySecond), .poll nanosPerSecond 1]

/-- The keepalive still counts as running after its loop has ended, until it is stopped. -/
theorem lifecycle_of_failedPoll :
    let k := (run silence briefSettings failedPoll {} ()).2.1
    let stopped := (run silence briefSettings (failedPoll ++ [.stop]) {} ()).2.1
    k.pending = [] ∧ k.status = some everySecond ∧
      k.start briefSettings .check = (.alreadyRunning everySecond, k) ∧ k.stop.1 = true ∧
      stopped.status = none ∧ (stopped.start briefSettings .check).1 = .started .check := by
  obtain ⟨-, hrunning, -, hstop, -⟩ := lifecycle silence briefSettings 0 () failedPoll
  obtain ⟨-, -, hstopped, -⟩ := lifecycle silence briefSettings 0 () (failedPoll ++ [.stop])
  refine ⟨rfl, rfl, hrunning .init everySecond rfl, hstop.mpr (by decide), rfl, ?_⟩
  exact congrArg Prod.fst (hstopped .init rfl).1

/-- An interval of a tick and a half is over in the middle of a tick, and the poll takes place at
its end. -/
theorem first_poll_of_tick_and_half :
    let moments :=
      (run silence briefSettings [.start .init, .poll (2 * tick) 1] {} ()).1.map (·.moment)
    moments = [2 * tick] ∧ moments ≠ [0 + briefSettings.checkFrequency.total] := by
  decide

end SiteClient.Keepalive
