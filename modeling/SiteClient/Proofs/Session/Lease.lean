import SiteClient.Proofs.Session.Consent
import SiteClient.Proofs.Session.Remaining
import SiteClient.Proofs.Session.Timetable

/-!
# Whether a session outlasts the checks

Let the site give a session so much time whenever it is extended, and let the user always agree to
extend it (`Session.Lease`). The intervals are derived from the same length. Then the checks come in
time for ever if the length is more than a quarter of an hour, and already the second one comes too
late if it is not (`session_outlasts_checks_iff`).

## Why a quarter of an hour

A session is checked after a tenth of its length, and extended if less than
`KeepaliveSettings.warningLimit` is left of it. The next check then waits as long as that limit,
which is never below a quarter of an hour, while the session has its full length again, however
short that is. For a longer session both delays end before it does:

* a check that finds enough time left comes again after a tenth, and enough is at least two tenths
  and at least a quarter of an hour, so a second lost in the answer does not matter;
* after an extension it is two tenths of the length or a quarter of an hour. The latter is a whole
  number of ticks, so nothing is added to it, and a session that is longer by a nanosecond is still
  there.
-/

namespace SiteClient

open Session

variable {ω : Type} {env : Surroundings ω} {settings : KeepaliveSettings} {s s' : ω}

namespace Session

/-! ## The site and the user -/

/-- The payload tells a number of seconds, as such or in a record. -/
def Tells (payload : Json) (seconds : ℕ) : Prop :=
  ∃ inRange, payload = .number (.integer seconds inRange) ∨
    ∃ fields, payload = .object fields ∧
      Fields.get? fields "timeremaining".toList = some (.number (.integer seconds inRange))

/-- The session has a length of `timeout`, and the user always agrees to extend it. In a state of
the surroundings it is the moment `clock`, and the session ends at the moment `ends`. -/
structure Lease (env : Surroundings ω) (timeout : ℕ) (clock ends : ω → ℕ) : Prop where
  clock_setClock : ∀ now s, clock (env.setClock now s) = now
  ends_setClock : ∀ now s, ends (env.setClock now s) = ends s
  /-- The site tells to the second how long the session lasts. -/
  remaining : ∀ s, clock s < ends s → ends s ≤ clock s + timeout →
    ∃ seconds payload s', env.call remainingCall s = (.ok payload, s') ∧ Tells payload seconds ∧
      seconds * nanosPerSecond < ends s - clock s + nanosPerSecond ∧
      ends s - clock s < (seconds + 1) * nanosPerSecond ∧ clock s' = clock s ∧ ends s' = ends s
  /-- An extension gives the session its full length again. -/
  touch : ∀ s, clock s < ends s →
    ∃ payload s', env.call touchCall s = (.ok payload, s') ∧ ends s' = clock s + timeout
  strings : ∀ s, ∃ title question s', env.strings promptStrings s = (.ok [title, question], s') ∧
    clock s' = clock s ∧ ends s' = ends s
  confirm : ∀ prompt s, ∃ s', env.confirm prompt s = (true, s') ∧ clock s' = clock s ∧
    ends s' = ends s

theorem reading_of_tells {payload : Json} {seconds : ℕ} (h : Tells payload seconds) :
    ∃ remaining, reading (.ok payload) = .ok remaining ∧
      remaining.total ≤ seconds * nanosPerSecond := by
  obtain ⟨inRange, hpayload⟩ := h
  obtain ⟨remaining, hreading, hseconds, hnanos⟩ :=
    reading_of_gives (show Gives payload (.number (.integer seconds inRange)) from hpayload)
  refine ⟨remaining, hreading, ?_⟩
  rw [Duration.total, hnanos, Nat.add_zero]
  exact Nat.mul_le_mul_right _ (by omega)

namespace Lease

variable {timeout : ℕ} {clock ends : ω → ℕ}

/-- An offer to extend a session that lasts takes its course: the user is asked and agrees, and the
session has its full length again. -/
theorem offer (h : Lease env timeout clock ends) (hlt : clock s < ends s) :
    ∃ title question payload s₁ s₂ s₃, env.strings promptStrings s = (.ok [title, question], s₁) ∧
      env.confirm (extendPrompt title question) s₁ = (true, s₂) ∧
      env.call touchCall s₂ = (.ok payload, s₃) ∧ ends s₃ = clock s + timeout := by
  obtain ⟨title, question, s₁, hstrings, hclock₁, hends₁⟩ := h.strings s
  obtain ⟨s₂, hasked, hclock₂, hends₂⟩ := h.confirm (extendPrompt title question) s₁
  have hlt₂ : clock s₂ < ends s₂ := by rwa [hclock₂, hclock₁, hends₂, hends₁]
  obtain ⟨payload, s₃, htouch, hends₃⟩ := h.touch s₂ hlt₂
  rw [hclock₂, hclock₁] at hends₃
  exact ⟨title, question, payload, s₁, s₂, s₃, hstrings, hasked, htouch, hends₃⟩

/-- A check of a session that lasts goes on in one of two ways: there is enough time left, but for a
second perhaps, or the session is extended. -/
theorem pollOnce_check (h : Lease env timeout clock ends) (settings : KeepaliveSettings)
    (hlt : clock s < ends s) (hle : ends s ≤ clock s + timeout) :
    ∃ s', Keepalive.pollOnce env settings .check s = (.ok settings.checkFrequency, s') ∧
        settings.warningLimit.total < ends s - clock s + nanosPerSecond ∧ ends s' = ends s ∨
      Keepalive.pollOnce env settings .check s = (.ok settings.warningLimit, s') ∧
        ends s' = clock s + timeout := by
  obtain ⟨seconds, payload, s₁, hcall, htells, hseconds, -, hclock, hends⟩ := h.remaining s hlt hle
  obtain ⟨remaining, hreading, htotal⟩ := reading_of_tells htells
  by_cases hlimit : settings.warningLimit ≤ remaining
  · refine ⟨s₁, .inl ⟨Keepalive.pollOnce_of_le hcall hreading hlimit, ?_, hends⟩⟩
    exact (Duration.le_iff_total_le.mp hlimit).trans_lt (htotal.trans_lt hseconds)
  · refine ⟨_, .inr ⟨Keepalive.pollOnce_of_not_le hcall hreading hlimit, ?_⟩⟩
    obtain ⟨title, question, payload', s₂, s₃, s₄, hstrings, hasked, htouch, hends₄⟩ :=
      h.offer (s := s₁) (by rwa [hclock, hends])
    rw [offerExtension_of_extended hstrings hasked htouch, hends₄, hclock]

end Lease

end Session

/-- The poll asked the user, who agreed, and extended the session. -/
def PastPoll.Extended (r : PastPoll ω) : Prop :=
  ∃ title question payload, r.acts = [.called remainingCall r.answer,
    .lookedUp promptStrings (.ok [title, question]), .asked (extendPrompt title question) true,
    .called touchCall (.ok payload)]

namespace Keepalive

variable {k : Keepalive} {poll : Poll} {timeout : Duration} {clock ends : ω → ℕ}

theorem history_of_ok {delay : Duration} (h : k.pending = [poll]) {limit : ℕ}
    (hle : poll.moment ≤ limit) (polls : ℕ)
    (hpoll : pollOnce env settings poll.mode (env.setClock poll.moment s) = (.ok delay, s')) :
    (k.settle poll (.ok delay)).pending = [⟨poll.place, poll.mode, pollTime poll.moment delay⟩] ∧
      history env settings limit (polls + 1) k s = pastPoll env settings k poll s ::
        history env settings limit polls (k.settle poll (.ok delay)) s' := by
  have hmade : makePoll env settings k poll s = (k.settle poll (.ok delay), s') := by
    rw [makePoll, runPoll_of_ok hpoll]
    rfl
  have hnext : k.nextPoll limit = some poll := by
    rw [nextPoll_of_singleton h, if_pos hle]
  refine ⟨pending_settle h (.ok delay), ?_⟩
  rw [history_of_some hnext, hmade]

theorem acts_pastPoll {delay : Duration} {acts : List Act} (k : Keepalive)
    (h : pollOnce env.recorded settings poll.mode (env.recorded.setClock poll.moment (s, [])) =
      (.ok delay, s', acts)) : (pastPoll env settings k poll s).acts = acts := by
  rw [pastPoll, makePoll, runPoll_of_ok h]

/-- A check in time that finds too little time left extends the session. -/
theorem extended_pastPoll {timeout : ℕ} (h : Lease env timeout clock ends) (k : Keepalive)
    (hmode : poll.mode = .check) (hlt : poll.moment < ends s) (hle : ends s ≤ poll.moment + timeout)
    (hlittle : (pastPoll env settings k poll s).FoundLittle settings) :
    (pastPoll env settings k poll s).Extended := by
  have hclock₀ := h.clock_setClock poll.moment s
  have hends₀ := h.ends_setClock poll.moment s
  obtain ⟨seconds, payload, s₁, hcall, htells, -, -, hclock₁, hends₁⟩ :=
    h.remaining (env.setClock poll.moment s) (by rwa [hclock₀, hends₀]) (by rwa [hclock₀, hends₀])
  obtain ⟨remaining, hreading, -⟩ := reading_of_tells htells
  have hcall' := Surroundings.recorded_call [] hcall
  by_cases hlimit : settings.warningLimit ≤ remaining
  · -- The poll would have found enough.
    have hpoll := pollOnce_of_le hcall' hreading hlimit
    rw [← hmode] at hpoll
    have hacts := acts_pastPoll k hpoll
    have hanswer : (pastPoll env settings k poll s).answer = .ok payload := by
      rw [PastPoll.answer, hacts]
      rfl
    exact absurd hlittle (PastPoll.not_foundLittle_of_le (hanswer ▸ hreading) hlimit)
  · obtain ⟨title, question, payload', s₂, s₃, s₄, hstrings, hasked, htouch, -⟩ :=
      h.offer (s := s₁) (by rwa [hclock₁, hclock₀, hends₁, hends₀])
    have hpoll := pollOnce_of_not_le hcall' hreading hlimit
    rw [offerExtension_of_extended (Surroundings.recorded_strings _ hstrings)
      (Surroundings.recorded_confirm _ hasked) (Surroundings.recorded_call _ htouch),
      ← hmode] at hpoll
    have hacts := acts_pastPoll k hpoll
    refine ⟨title, question, payload', ?_⟩
    rw [PastPoll.answer, hacts]
    rfl

theorem pollTime_lt (start : ℕ) (interval : Duration) :
    pollTime start interval < start + interval.total + tick := by
  rw [pollTime, tick]
  omega

/-! ## Long sessions -/

theorem pollTime_warningLimit_lt (hlong : KeepaliveSettings.leastWarning.total < timeout.total)
    {moment : ℕ} (hdvd : tick ∣ moment) :
    pollTime moment (KeepaliveSettings.ofSessionTimeout timeout).warningLimit <
      moment + timeout.total := by
  have hlimit := KeepaliveSettings.total_warningLimit timeout
  rw [KeepaliveSettings.total_leastWarning] at hlimit hlong
  rcases Nat.le_total (2 * (timeout.total / 10)) (900 * nanosPerSecond) with hle | hle
  · rw [Nat.max_eq_right hle] at hlimit
    have hmoment :
        tick ∣ moment + (KeepaliveSettings.ofSessionTimeout timeout).warningLimit.total :=
      Nat.dvd_add hdvd (hlimit ▸ by decide)
    rw [pollTime_of_dvd hmoment]
    omega
  · rw [Nat.max_eq_left hle] at hlimit
    have hmoment := pollTime_lt moment (KeepaliveSettings.ofSessionTimeout timeout).warningLimit
    unfold nanosPerSecond at *
    unfold tick at hmoment
    omega

theorem pollTime_checkFrequency_lt {moment stop : ℕ} (hlt : moment < stop)
    (h : (KeepaliveSettings.ofSessionTimeout timeout).warningLimit.total <
      stop - moment + nanosPerSecond) :
    pollTime moment (KeepaliveSettings.ofSessionTimeout timeout).checkFrequency < stop := by
  have hmoment := pollTime_lt moment (KeepaliveSettings.ofSessionTimeout timeout).checkFrequency
  have htenth := KeepaliveSettings.total_checkFrequency timeout
  have hlimit := KeepaliveSettings.total_warningLimit timeout
  rw [KeepaliveSettings.total_leastWarning] at hlimit
  unfold nanosPerSecond at *
  unfold tick at hmoment
  omega

theorem le_pollTime (start : ℕ) (interval : Duration) : start ≤ pollTime start interval :=
  (Nat.le_add_right _ _).trans (add_le_pollTime start interval)

theorem pollOnce_in_time (h : Lease env timeout.total clock ends)
    (hlong : KeepaliveSettings.leastWarning.total < timeout.total) (hdvd : tick ∣ clock s)
    (hlt : clock s < ends s) (hle : ends s ≤ clock s + timeout.total) :
    ∃ delay s', pollOnce env (.ofSessionTimeout timeout) .check s = (.ok delay, s') ∧
      pollTime (clock s) delay < ends s' ∧ ends s' ≤ pollTime (clock s) delay + timeout.total := by
  obtain ⟨s', ⟨hpoll, hlimit, hends⟩ | ⟨hpoll, hends⟩⟩ :=
    h.pollOnce_check (.ofSessionTimeout timeout) hlt hle
  · refine ⟨_, s', hpoll, ?_, ?_⟩
    · rw [hends]
      exact pollTime_checkFrequency_lt hlt hlimit
    · rw [hends]
      exact hle.trans (Nat.add_le_add_right (le_pollTime _ _) _)
  · refine ⟨_, s', hpoll, ?_, ?_⟩
    · rw [hends]
      exact pollTime_warningLimit_lt hlong hdvd
    · rw [hends]
      exact Nat.add_le_add_right (le_pollTime _ _) _

/-- If the first poll comes in time and the session has no more than its length left, all polls come
in time, and extend the session where there is too little left. -/
theorem in_time_of_mem_history (h : Lease env timeout.total clock ends)
    (hlong : KeepaliveSettings.leastWarning.total < timeout.total) {limit polls : ℕ}
    (hpending : k.pending = [poll]) (hmode : poll.mode = .check) (hdvd : tick ∣ poll.moment)
    (hlt : poll.moment < ends s) (hle : ends s ≤ poll.moment + timeout.total) :
    ∀ r ∈ history env (.ofSessionTimeout timeout) limit polls k s, r.moment < ends r.before ∧
      (r.FoundLittle (.ofSessionTimeout timeout) → r.Extended) := by
  induction polls generalizing k poll s with
  | zero => exact fun r hr ↦ absurd hr List.not_mem_nil
  | succ polls ih =>
    by_cases hdue : poll.moment ≤ limit
    · have hclock := h.clock_setClock poll.moment s
      have hends := h.ends_setClock poll.moment s
      obtain ⟨delay, s', hpoll, hlt', hle'⟩ := pollOnce_in_time h hlong
        (s := env.setClock poll.moment s) (by rwa [hclock]) (by rwa [hclock, hends])
        (by rwa [hclock, hends])
      rw [← hmode] at hpoll
      rw [hclock] at hlt' hle'
      obtain ⟨hnext, hhistory⟩ := history_of_ok hpending hdue polls hpoll
      rw [hhistory]
      intro r hr
      rcases List.mem_cons.mp hr with rfl | hr
      · exact ⟨hlt.trans_eq hends.symm, extended_pastPoll h k hmode hlt hle⟩
      · exact ih hnext hmode (tick_dvd_pollTime _ _) hlt' hle' r hr
    · have hnone := nextPoll_of_singleton hpending limit
      rw [if_neg hdue] at hnone
      rw [history_of_none hnone]
      exact fun r hr ↦ absurd hr List.not_mem_nil

/-! ## Short sessions -/

/-- The first check of a short session extends it, and the second one comes when it has ended
again. -/
theorem exists_ends_le (h : Lease env timeout.total clock ends)
    (hsecond : nanosPerSecond ≤ timeout.total)
    (hshort : timeout.total ≤ KeepaliveSettings.leastWarning.total) {start : ℕ}
    (hpending : k.pending = [poll]) (hmode : poll.mode = .check)
    (hmoment : poll.moment = pollTime start
      (KeepaliveSettings.ofSessionTimeout timeout).checkFrequency)
    (hends : ends s = start + timeout.total) :
    ∃ limit, ∃ r ∈ history env (.ofSessionTimeout timeout) limit 2 k s,
      ends r.before ≤ r.moment := by
  have htenth := KeepaliveSettings.total_checkFrequency timeout
  have hlimit := KeepaliveSettings.total_warningLimit timeout
  have hle := add_le_pollTime start (KeepaliveSettings.ofSessionTimeout timeout).checkFrequency
  have hlt := pollTime_lt start (KeepaliveSettings.ofSessionTimeout timeout).checkFrequency
  rw [← hmoment, htenth] at hle hlt
  rw [KeepaliveSettings.total_leastWarning] at hlimit hshort
  have hclock := h.clock_setClock poll.moment s
  have hends' := h.ends_setClock poll.moment s
  obtain ⟨s', hpoll⟩ := h.pollOnce_check (.ofSessionTimeout timeout)
    (s := env.setClock poll.moment s)
    (by unfold nanosPerSecond at *; unfold tick at hlt; omega) (by omega)
  rw [hclock, hends', hends, ← hmode] at hpoll
  rcases hpoll with ⟨-, henough, -⟩ | ⟨hpoll, hextended⟩
  · -- A tenth of the session is over, so it has no quarter of an hour left.
    unfold nanosPerSecond at *
    omega
  let second := pollTime poll.moment (KeepaliveSettings.ofSessionTimeout timeout).warningLimit
  have hwait : poll.moment + timeout.total ≤ second := by
    have hle :=
      add_le_pollTime poll.moment (KeepaliveSettings.ofSessionTimeout timeout).warningLimit
    omega
  obtain ⟨hnext, hhistory⟩ :=
    history_of_ok hpending (show poll.moment ≤ second from le_pollTime _ _) 1 hpoll
  have hdue := nextPoll_of_singleton hnext second
  rw [if_pos (Nat.le_refl _)] at hdue
  rw [history_of_some hdue] at hhistory
  refine ⟨second, _, hhistory ▸ List.mem_cons_of_mem _ List.mem_cons_self, ?_⟩
  exact ((h.ends_setClock second s').trans hextended).trans_le hwait

/-- **When a session outlasts the checks.** Let a keepalive that is stopped start to watch a session
of at least a second, after any events, and let the user agree to every extension. Then the session
still lasts at every check, however many there are, and every check that finds too little of it left
extends it, if and only if it is longer than a quarter of an hour. -/
theorem session_outlasts_checks_iff (env : Surroundings ω) (timeout : Duration) (clock ends : ω → ℕ)
    (hlease : Lease env timeout.total clock ends) (hsecond : nanosPerSecond ≤ timeout.total)
    (now : ℕ)
    (s₀ : ω) (events : List (Event ω)) :
    let settings := KeepaliveSettings.ofSessionTimeout timeout
    let k := (run env settings events { now } s₀).2.1
    let s := (run env settings events { now } s₀).2.2
    k.status = none → ends s = k.now + timeout.total →
      ((∀ limit polls, ∀ r ∈ history env settings limit polls (k.start settings .check).2 s,
        r.moment < ends r.before ∧ (r.FoundLittle settings → r.Extended)) ↔
          KeepaliveSettings.leastWarning.total < timeout.total) := by
  intro settings k s hstopped hends
  have hrunning := status_eq_none.mp hstopped
  have halone : k.StartsAlone settings .check :=
    (coherent_run env settings events now s₀).startsAlone hrunning
  constructor
  · intro hlasts
    by_contra hshort
    obtain ⟨limit, r, hr, hover⟩ :=
      exists_ends_le hlease hsecond (Nat.le_of_not_lt hshort) halone rfl rfl hends
    exact Nat.not_lt_of_le hover (hlasts limit 2 r hr).1
  · intro hlong limit polls
    have hle := le_pollTime k.now settings.checkFrequency
    have hlt := pollTime_lt k.now settings.checkFrequency
    rw [KeepaliveSettings.total_checkFrequency] at hlt
    refine in_time_of_mem_history hlease hlong halone rfl (tick_dvd_pollTime _ _) ?_ ?_
    · rw [hends]
      unfold nanosPerSecond at hsecond
      unfold tick at hlt
      exact hlt.trans_le (by omega)
    · rw [hends]
      exact Nat.add_le_add_right hle _

/-! ## A site that counts the time -/

/-- A site that knows the moment and the end of the session, and a user who agrees to everything. -/
def leasedSite (timeout : Duration) : Surroundings (ℕ × ℕ) where
  call call s :=
    if call.method = touchMethod then (.ok (.bool true), (s.1, s.1 + timeout.total))
    else match Number.ofInt? ((s.2 - s.1) / nanosPerSecond : ℕ) with
      | some seconds => (.ok (.number seconds), s)
      | none => (.error .dropped, s)
  strings _ s := (.ok ["Inactive".toList, "Stay?".toList], s)
  confirm _ s := (true, s)
  report _ s := s
  setClock now s := (now, s.2)

theorem ofInt?_natCast {n : ℕ} (h : n < UInt64.size) :
    ∃ inRange, Number.ofInt? n = some (.integer n inRange) := by
  change n < 18446744073709551616 at h
  exact ⟨by omega, dif_pos _⟩

theorem lease_leasedSite (timeout : Duration) :
    Lease (leasedSite timeout) timeout.total Prod.fst Prod.snd where
  clock_setClock _ _ := rfl
  ends_setClock _ _ := rfl
  remaining s hlt hle := by
    have hfits : (s.2 - s.1) / nanosPerSecond < UInt64.size :=
      Nat.div_lt_of_lt_mul ((Nat.sub_le_of_le_add (Nat.add_comm .. ▸ hle)).trans_lt
        (Nat.mul_comm .. ▸ timeout.total_lt))
    have hseconds := Nat.div_add_mod' (s.2 - s.1) nanosPerSecond
    have hrest := Nat.mod_lt (s.2 - s.1) (show 0 < nanosPerSecond by decide)
    obtain ⟨inRange, hnumber⟩ := ofInt?_natCast hfits
    refine ⟨(s.2 - s.1) / nanosPerSecond, _, s, ?_, ⟨inRange, .inl rfl⟩, ?_, ?_, rfl, rfl⟩
    · simp only [leasedSite, if_neg (show remainingCall.method ≠ touchMethod by decide), hnumber]
    · omega
    · rw [Nat.succ_mul]
      omega
  touch s _ := by
    refine ⟨.bool true, (s.1, s.1 + timeout.total), ?_, rfl⟩
    simp only [leasedSite, if_pos (show touchCall.method = touchMethod from rfl)]
  strings s := ⟨_, _, s, rfl, rfl, rfl⟩
  confirm _ s := ⟨s, rfl, rfl, rfl⟩

/-- The checks of a session of so many seconds that starts with its loop. -/
def checksOf (seconds limit polls : ℕ) : List (PastPoll (ℕ × ℕ)) :=
  let timeout := Duration.ofSeconds seconds
  let settings := KeepaliveSettings.ofSessionTimeout timeout
  history (leasedSite timeout) settings limit polls (({} : Keepalive).start settings .check).2
    (0, timeout.total)

/-- A session of twenty minutes outlasts the checks. One of ten minutes ends five minutes before its
second check. -/
theorem session_outlasts_checks_iff_of_leasedSite :
    (∀ limit polls, ∀ r ∈ checksOf 1200 limit polls, r.moment < r.before.2) ∧
      (checksOf 600 (960 * nanosPerSecond) 2).map (fun r ↦ (r.moment, r.before.2)) =
        [(60 * nanosPerSecond, 600 * nanosPerSecond),
          (960 * nanosPerSecond, 660 * nanosPerSecond)] ∧
      ¬∀ limit polls, ∀ r ∈ checksOf 600 limit polls, r.moment < r.before.2 ∧
        (r.FoundLittle (.ofSessionTimeout (.ofSeconds 600)) → r.Extended) := by
  have hiff (seconds : ℕ) (hsecond : nanosPerSecond ≤ (Duration.ofSeconds seconds).total) :=
    session_outlasts_checks_iff (leasedSite (.ofSeconds seconds)) (.ofSeconds seconds) _ _
      (lease_leasedSite _) hsecond 0 (0, (Duration.ofSeconds seconds).total) [] rfl
        (Nat.zero_add _).symm
  refine ⟨fun limit polls r hr ↦ ?_, by decide, ?_⟩
  · exact ((hiff 1200 (by decide)).mpr (by decide) limit polls r hr).1
  · exact mt (hiff 600 (by decide)).mp (by decide)

end Keepalive
end SiteClient
