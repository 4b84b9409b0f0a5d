import SiteClient.Proofs.Session.Lifecycle

/-!
# When a loop polls

The polls of a loop that nothing disturbs form a chain: the first comes an interval after the start,
each further one when the answer to the one before asks for it, and one that fails ends the chain
(`Timely`). The chain is read off the polls themselves, so the site and the user may behave in any
way at any time.

From the chain follows the timetable of a started loop (`polls_on_schedule`): no poll is missed,
none comes between two others, and after the poll that fails nothing is done any more, whatever
happens later. A loop that extends the session polls at equal distances, which are the interval
itself if it is a whole number of ticks (`moment_of_touch`).
-/

namespace SiteClient.Keepalive

open Session

variable {ω : Type} {env : Surroundings ω} {settings : KeepaliveSettings} {mode : KeepaliveMode}
  {poll : Poll} {past : List (PastPoll ω)} {next : Option Poll}

/-! ## Distances between polls -/

theorem pollTime_of_dvd {start : ℕ} {interval : Duration} (h : tick ∣ start + interval.total) :
    pollTime start interval = start + interval.total :=
  (isDue_pollTime start interval).unique ⟨⟨h, Nat.le_refl _⟩, fun _ hmoment ↦ hmoment.2⟩

theorem tick_dvd_pollTime (start : ℕ) (interval : Duration) : tick ∣ pollTime start interval :=
  (isDue_pollTime start interval).1.1

theorem add_le_pollTime (start : ℕ) (interval : Duration) :
    start + interval.total ≤ pollTime start interval :=
  (isDue_pollTime start interval).1.2

/-- From one poll to the next it is the interval, rounded up to a whole number of ticks. -/
theorem pollTime_of_tick_dvd {start : ℕ} (h : tick ∣ start) (interval : Duration) :
    pollTime start interval = start + pollTime 0 interval := by
  obtain ⟨ticks, rfl⟩ := h
  rw [pollTime, pollTime, tick]
  omega

/-- No interval of the loop is zero. -/
def Spaced (settings : KeepaliveSettings) : KeepaliveMode → Prop
  | .touch frequency => 0 < frequency.total
  | .check => 0 < settings.checkFrequency.total ∧ 0 < settings.warningLimit.total

theorem Spaced.firstDelay_pos (h : Spaced settings mode) :
    0 < (firstDelay settings mode).total := by
  rcases mode with frequency | -
  · exact h
  · exact h.1

theorem verdict_touch {frequency delay : Duration} {result : CallResult}
    (h : verdict settings (.touch frequency) result = .ok delay) : delay = frequency := by
  rcases result with e | payload
  · cases h
  · exact (Except.ok.inj h).symm

theorem Spaced.delay_pos (h : Spaced settings mode) {result : CallResult} {delay : Duration}
    (hverdict : verdict settings mode result = .ok delay) : 0 < delay.total := by
  rcases mode with frequency | -
  · rw [verdict_touch hverdict]
    exact h
  · rcases hreading : reading result with e | remaining
    · rw [verdict, hreading] at hverdict
      cases hverdict
    · rw [verdict_check settings hreading] at hverdict
      rw [← Except.ok.inj hverdict]
      split
      · exact h.1
      · exact h.2

/-! ## The chain of the polls of a loop -/

/-- The polls of one loop, from `poll` on. The poll that is to come after them is `next`; there is
none if the last one has failed. -/
inductive Timely (settings : KeepaliveSettings) : Poll → List (PastPoll ω) → Option Poll → Prop
  | nil (poll : Poll) : Timely settings poll [] (some poll)
  | failed {r : PastPoll ω} {e : RemoteError} (h : r.verdict settings = .error e) :
      Timely settings r.toPoll [r] none
  | cons {r : PastPoll ω} {delay : Duration} {past : List (PastPoll ω)} {next : Option Poll}
      (h : r.verdict settings = .ok delay)
      (hrest : Timely settings ⟨r.place, r.mode, pollTime r.moment delay⟩ past next) :
      Timely settings r.toPoll (r :: past) next

theorem pending_settle {k : Keepalive} (h : k.pending = [poll])
    (verdict : Except RemoteError Duration) : (k.settle poll verdict).pending =
      (nextDue poll.moment verdict).toList.map (⟨poll.place, poll.mode, ·⟩) := by
  have hpoll : poll ∈ k.pending := h ▸ List.mem_cons_self
  have hmem (poll' : Poll) : poll' ∈ (k.settle poll verdict).pending ↔ poll'.place = poll.place ∧
      poll'.mode = poll.mode ∧ nextDue poll.moment verdict = some poll'.moment := by
    rw [mem_pending_settle hpoll, h, List.mem_singleton]
    refine or_iff_right ?_
    rintro ⟨rfl, hne⟩
    exact hne rfl
  rcases hdue : nextDue poll.moment verdict with - | due
  · refine List.eq_nil_iff_forall_not_mem.mpr fun poll' hpoll' ↦ ?_
    have hnone := ((hmem poll').mp hpoll').2.2
    rw [hdue] at hnone
    cases hnone
  · have hnext : (⟨poll.place, poll.mode, due⟩ : Poll) ∈ (k.settle poll verdict).pending :=
      (hmem _).mpr ⟨rfl, rfl, hdue⟩
    exact pending_eq_singleton hnext fun poll' hpoll' ↦ ((hmem poll').mp hpoll').1

/-- The polls that a loop makes while it is alone are a chain. No poll that is due is left out, if
there may be as many. -/
theorem timely_history (env : Surroundings ω) (settings : KeepaliveSettings) (limit polls : ℕ)
    {k : Keepalive} (h : k.pending = [poll]) (s : ω) :
    ∃ next, Timely settings poll (history env settings limit polls k s) next ∧
      (pollUntil env settings limit polls k s).1.pending = next.toList ∧
      (∀ r ∈ history env settings limit polls k s, r.moment ≤ limit) ∧
      ((history env settings limit polls k s).length < polls →
        ∀ poll ∈ next, limit < poll.moment) := by
  induction polls generalizing k poll s with
  | zero =>
    exact ⟨some poll, .nil poll, h, fun r hr ↦ absurd hr List.not_mem_nil,
      fun hlt ↦ absurd hlt (Nat.not_lt_zero _)⟩
  | succ polls ih =>
    have hnext := nextPoll_of_singleton h limit
    by_cases hle : poll.moment ≤ limit
    · rw [if_pos hle] at hnext
      obtain ⟨-, hsettle, -⟩ := makePoll_spec env settings k poll s
      have hpending := pending_settle h ((pastPoll env settings k poll s).verdict settings)
      rw [← hsettle] at hpending
      rw [history_of_some hnext, pollUntil_of_some hnext]
      rcases hverdict : (pastPoll env settings k poll s).verdict settings with e | delay
      · rw [hverdict] at hpending
        rw [history_of_nil hpending, pollUntil_of_nil hpending]
        refine ⟨none, .failed hverdict, hpending, fun r hr ↦ ?_, fun _ _ hpoll ↦ nomatch hpoll⟩
        rw [List.mem_singleton.mp hr]
        exact hle
      · rw [hverdict] at hpending
        obtain ⟨next, htimely, hafter, hlimit, hcomplete⟩ :=
          ih hpending (makePoll env settings k poll s).2
        refine ⟨next, .cons hverdict htimely, hafter, fun r hr ↦ ?_, fun hlt ↦ ?_⟩
        · rcases List.mem_cons.mp hr with rfl | hr
          · exact hle
          · exact hlimit r hr
        · exact hcomplete (Nat.lt_of_succ_lt_succ hlt)
    · rw [if_neg hle] at hnext
      rw [history_of_none hnext, pollUntil_of_none hnext]
      refine ⟨some poll, .nil poll, h, fun r hr ↦ absurd hr List.not_mem_nil,
        fun _ poll' hpoll' ↦ ?_⟩
      obtain rfl := Option.some.inj hpoll'
      exact Nat.lt_of_not_le hle

namespace Timely

theorem own (h : Timely settings poll past next) :
    ∀ r ∈ past, r.place = poll.place ∧ r.mode = poll.mode := by
  induction h with
  | nil poll => exact fun r hr ↦ absurd hr List.not_mem_nil
  | failed _ =>
    intro r hr
    rw [List.mem_singleton.mp hr]
    exact ⟨rfl, rfl⟩
  | cons _ _ ih =>
    intro r hr
    rcases List.mem_cons.mp hr with rfl | hr
    · exact ⟨rfl, rfl⟩
    · exact ih r hr

theorem first (h : Timely settings poll past next) {r : PastPoll ω} (hr : past[0]? = some r) :
    r.toPoll = poll := by
  rcases h with - | hverdict | ⟨hverdict, hrest⟩
  · cases hr
  · rw [← Option.some.inj hr]
  · rw [← Option.some.inj hr]

theorem next_moment (h : Timely settings poll past next) {i : ℕ} {r r' : PastPoll ω}
    (hr : past[i]? = some r) (hr' : past[i + 1]? = some r') :
    ∃ delay, r.verdict settings = .ok delay ∧ r'.moment = pollTime r.moment delay := by
  induction h generalizing i with
  | nil poll => cases hr
  | failed _ => cases hr'
  | cons hverdict hrest ih =>
    rcases i with - | i
    · obtain rfl := Option.some.inj hr
      exact ⟨_, hverdict, congrArg Poll.moment (hrest.first hr')⟩
    · exact ih hr hr'

theorem next_of_nil (h : Timely settings poll ([] : List (PastPoll ω)) next) :
    next = some poll := by
  rcases h
  rfl

theorem next_eq (h : Timely settings poll past next) {r : PastPoll ω}
    (hr : past.getLast? = some r) :
    next.map Poll.moment = nextDue r.moment (r.verdict settings) := by
  induction h with
  | nil poll => cases hr
  | failed hverdict =>
    obtain rfl := Option.some.inj (List.getLast?_singleton.symm.trans hr)
    rw [hverdict]
    rfl
  | @cons r' delay past next hverdict hrest ih =>
    rcases past with - | ⟨second, past⟩
    · obtain rfl := Option.some.inj (List.getLast?_singleton.symm.trans hr)
      rw [hrest.next_of_nil, hverdict]
      rfl
    · rw [List.getLast?_cons_cons] at hr
      exact ih hr

theorem last_of_error (h : Timely settings poll past next) {r : PastPoll ω} (hr : r ∈ past)
    {e : RemoteError} (hverdict : r.verdict settings = .error e) :
    past.getLast? = some r ∧ next = none := by
  induction h with
  | nil poll => exact absurd hr List.not_mem_nil
  | failed _ =>
    rw [List.mem_singleton.mp hr]
    exact ⟨rfl, rfl⟩
  | @cons r' delay past next hok hrest ih =>
    rcases List.mem_cons.mp hr with rfl | hr
    · rw [hok] at hverdict
      cases hverdict
    · obtain ⟨hlast, hnext⟩ := ih hr
      rcases past with - | ⟨second, past⟩
      · cases hlast
      · exact ⟨(List.getLast?_cons_cons ..).trans hlast, hnext⟩

theorem exists_before (h : Timely settings poll past next) {i : ℕ} {r : PastPoll ω}
    (hr : past[i + 1]? = some r) :
    ∃ before delay, past[i]? = some before ∧
      Session.verdict settings poll.mode before.answer = .ok delay ∧
      r.moment = pollTime before.moment delay := by
  obtain ⟨hlt, -⟩ := List.getElem?_eq_some_iff.mp hr
  have hbefore := List.getElem?_eq_getElem (Nat.lt_of_succ_lt hlt)
  obtain ⟨delay, hverdict, hmoment⟩ := h.next_moment hbefore hr
  rw [PastPoll.verdict, (h.own _ (List.mem_of_getElem? hbefore)).2] at hverdict
  exact ⟨_, delay, hbefore, hverdict, hmoment⟩

theorem tick_dvd_moment (h : Timely settings poll past next)
    (hfirst : ∃ start interval, poll.moment = pollTime start interval) {i : ℕ} {r : PastPoll ω}
    (hr : past[i]? = some r) : tick ∣ r.moment := by
  rcases i with - | i
  · obtain ⟨start, interval, hmoment⟩ := hfirst
    rw [h.first hr, hmoment]
    exact tick_dvd_pollTime start interval
  · obtain ⟨before, delay, -, -, hmoment⟩ := h.exists_before hr
    rw [hmoment]
    exact tick_dvd_pollTime _ _

theorem moment_of_touch {frequency : Duration} {start : ℕ} (h : Timely settings poll past next)
    (hmode : poll.mode = .touch frequency) (hfirst : poll.moment = pollTime start frequency) {i : ℕ}
    {r : PastPoll ω} (hr : past[i]? = some r) :
    r.moment = pollTime start frequency + i * pollTime 0 frequency := by
  induction i generalizing r with
  | zero => rw [h.first hr, hfirst, Nat.zero_mul, Nat.add_zero]
  | succ i ih =>
    obtain ⟨before, delay, hbefore, hverdict, hmoment⟩ := h.exists_before hr
    rw [hmode] at hverdict
    have hdvd := h.tick_dvd_moment ⟨_, _, hfirst⟩ hbefore
    rw [hmoment, verdict_touch hverdict, pollTime_of_tick_dvd hdvd, ih hbefore, Nat.succ_mul,
      Nat.add_assoc]

/-- Polls that no zero interval brings together are so many nanoseconds late at least as there are
polls. -/
theorem add_lt_moment (h : Timely settings poll past next) (hspaced : Spaced settings poll.mode)
    {start : ℕ} (hfirst : start < poll.moment) {i : ℕ} {r : PastPoll ω} (hr : past[i]? = some r) :
    start + i < r.moment := by
  induction i generalizing r with
  | zero => rwa [h.first hr]
  | succ i ih =>
    obtain ⟨before, delay, hbefore, hverdict, hmoment⟩ := h.exists_before hr
    have hpos := hspaced.delay_pos hverdict
    have hle := add_le_pollTime before.moment delay
    have hstep := ih hbefore
    omega

end Timely

/-! ## The timetable of a loop -/

/-- The polls that a loop at `place` makes up to the moment `limit`, but at most `polls` of them, if
it is started at the moment `start` and nothing disturbs it. -/
structure OnSchedule (settings : KeepaliveSettings) (mode : KeepaliveMode)
    (place start limit polls : ℕ) (past : List (PastPoll ω)) : Prop where
  /-- The loop makes all of them, and each does what polls do. -/
  own : ∀ r ∈ past, r.place = place ∧ r.mode = mode ∧ r.moment ≤ limit ∧ r.Faithful settings
  /-- The first one comes an interval after the start, exactly so if the interval ends at a tick. -/
  first : ∀ r, past[0]? = some r → ∃ interval, FirstInterval settings mode interval ∧
    IsDue start interval r.moment ∧
    (1000000 ∣ start + interval.total → r.moment = start + interval.total)
  /-- Each further one comes after the delay that the answer to the one before asks for, exactly so
  if the delay is a whole number of ticks. -/
  next : ∀ (i : ℕ) (r r' : PastPoll ω), past[i]? = some r → past[i + 1]? = some r' →
    ∃ delay, r.verdict settings = .ok delay ∧ IsDue r.moment delay r'.moment ∧
      (1000000 ∣ delay.total → r'.moment = r.moment + delay.total)
  /-- The first one is missing only if it comes after `limit`. -/
  missing : past = [] → 0 < polls → ∃ interval first, FirstInterval settings mode interval ∧
    IsDue start interval first ∧ limit < first
  /-- They end with a poll that fails or whose next one comes after `limit`. -/
  complete : past.length < polls → ∀ r, past.getLast? = some r → ∀ delay,
    r.verdict settings = .ok delay → ∃ next, IsDue r.moment delay next ∧ limit < next

section Started

variable {k : Keepalive}

theorem StartsAlone.onSchedule (h : k.StartsAlone settings mode) (env : Surroundings ω) (s : ω)
    (limit polls : ℕ) :
    OnSchedule settings mode k.loops.length k.now limit polls
      (history env settings limit polls (k.start settings mode).2 s) := by
  obtain ⟨next, htimely, -, hlimit, hcomplete⟩ := timely_history env settings limit polls h s
  have hspec := (moves_pollUntil env settings limit polls (k.start settings mode).2 s).spec
  constructor
  case own =>
    intro r hr
    obtain ⟨hplace, hmode⟩ := htimely.own r hr
    exact ⟨hplace, hmode, hlimit r hr, (hspec r hr).2⟩
  case first =>
    intro r hr
    have hmoment : r.moment = pollTime k.now (firstDelay settings mode) :=
      congrArg Poll.moment (htimely.first hr)
    exact ⟨_, firstInterval_firstDelay settings mode, hmoment ▸ isDue_pollTime _ _,
      fun hdvd ↦ hmoment.trans (pollTime_of_dvd hdvd)⟩
  case next =>
    intro i r r' hr hr'
    obtain ⟨delay, hverdict, hmoment⟩ := htimely.next_moment hr hr'
    refine ⟨delay, hverdict, hmoment ▸ isDue_pollTime _ _,
      fun hdvd ↦ hmoment.trans (pollTime_of_dvd ?_)⟩
    exact Nat.dvd_add (htimely.tick_dvd_moment ⟨_, _, rfl⟩ hr) hdvd
  case missing =>
    intro hnil hpos
    rw [hnil] at htimely hcomplete
    exact ⟨_, _, firstInterval_firstDelay settings mode, isDue_pollTime _ _,
      hcomplete hpos _ htimely.next_of_nil⟩
  case complete =>
    intro hlt r hr delay hverdict
    have hnext := htimely.next_eq hr
    rw [hverdict] at hnext
    obtain ⟨poll, hpoll, hmoment⟩ := Option.map_eq_some_iff.mp hnext
    exact ⟨_, isDue_pollTime _ _, hmoment ▸ hcomplete hlt poll hpoll⟩

theorem StartsAlone.length_history_le (h : k.StartsAlone settings mode)
    (hspaced : Spaced settings mode) (env : Surroundings ω) (s : ω) (time : ℕ) :
    (history env settings (k.now + time) (time + 1) (k.start settings mode).2 s).length ≤ time := by
  obtain ⟨next, htimely, -, hlimit, -⟩ := timely_history env settings (k.now + time) (time + 1) h s
  by_contra hlong
  have hlast := List.getElem?_eq_getElem (Nat.lt_of_not_le hlong)
  have hfirst : k.now < (k.firstPoll settings mode).moment :=
    Nat.lt_of_lt_of_le (Nat.lt_add_of_pos_right hspaced.firstDelay_pos)
      (add_le_pollTime k.now (firstDelay settings mode))
  have hlate := htimely.add_lt_moment hspaced hfirst hlast
  have hdue := hlimit _ (List.mem_of_getElem? hlast)
  omega

/-- A poll that fails is reported once and is the last one, and leaves no poll to come. -/
theorem StartsAlone.last_of_error (h : k.StartsAlone settings mode) {s : ω} {limit polls : ℕ}
    {r : PastPoll ω} (hr : r ∈ history env settings limit polls (k.start settings mode).2 s)
    {e : RemoteError} (hverdict : r.verdict settings = .error e) :
    (history env settings limit polls (k.start settings mode).2 s).getLast? = some r ∧
      r.acts = [.called (opening mode) r.answer, .reported e] ∧
      (pollUntil env settings limit polls (k.start settings mode).2 s).1.pending = [] := by
  obtain ⟨next, htimely, hafter, -, -⟩ := timely_history env settings limit polls h s
  obtain ⟨hlast, rfl⟩ := htimely.last_of_error hr hverdict
  obtain ⟨rest, hacts, hfollow⟩ :=
    ((moves_pollUntil env settings limit polls (k.start settings mode).2 s).spec r hr).2
  refine ⟨hlast, ?_, hafter⟩
  rw [hacts, hfollow.eq_of_error hverdict, (htimely.own r hr).2]
  rfl

theorem StartsAlone.moment_of_touch {frequency : Duration}
    (h : k.StartsAlone settings (.touch frequency)) {s : ω} {limit polls i : ℕ} {r : PastPoll ω}
    (hr : (history env settings limit polls (k.start settings (.touch frequency)).2 s)[i]? =
      some r) :
    (∃ first period, IsDue k.now frequency first ∧ IsDue 0 frequency period ∧
        r.moment = first + i * period) ∧
      (1000000 ∣ k.now → 1000000 ∣ frequency.total →
        r.moment = k.now + (i + 1) * frequency.total) := by
  obtain ⟨next, htimely, -, -, -⟩ := timely_history env settings limit polls h s
  have hmoment := htimely.moment_of_touch rfl rfl hr
  refine ⟨⟨_, _, isDue_pollTime _ _, isDue_pollTime _ _, hmoment⟩, fun hnow hfrequency ↦ ?_⟩
  have hperiod : pollTime 0 frequency = frequency.total :=
    (pollTime_of_dvd ((Nat.zero_add _).symm ▸ hfrequency)).trans (Nat.zero_add _)
  rw [hmoment, pollTime_of_tick_dvd hnow, hperiod, Nat.succ_mul, Nat.add_assoc,
    Nat.add_comm frequency.total]

theorem place_ne_of_mem_run (hstopped : k.running = none) {s s' : ω} {limit polls : ℕ}
    (hafter : (pollUntil env settings limit polls (k.start settings mode).2 s).1.pending = [])
    (later : List (Event ω)) {r : PastPoll ω}
    (hr : r ∈ (run env settings later
      (pollUntil env settings limit polls (k.start settings mode).2 s).1 s').1) :
    r.place ≠ k.loops.length := by
  have hlength : (k.start settings mode).2.loops.length = k.loops.length + 1 := by
    rw [start_of_stopped settings mode hstopped]
    exact List.length_append
  have hadded :=
    (moves_pollUntil env settings limit polls (k.start settings mode).2 s).later.length_le.trans
    (le_of_mem_run env settings later hafter s' hr)
  rw [hlength] at hadded
  exact Nat.ne_of_gt hadded

end Started

/-- **The timetable of a loop**, whatever the site and the user do. Let a keepalive that is stopped
start a loop, after any events, and let nothing disturb it.

* Its polls keep to the timetable. All that are due take place while time passes, if no interval is
  zero.
* A poll whose answer is an error is reported once, does nothing else, and is the last one: whatever
  happens later, the loop does not poll again.
* A loop that extends the session polls at equal distances, and exactly at the multiples of the
  frequency if it is started at a tick and the frequency is a whole number of ticks.
-/
theorem polls_on_schedule (env : Surroundings ω) (settings : KeepaliveSettings) (now : ℕ) (s₀ : ω)
    (events : List (Event ω)) (mode : KeepaliveMode)
    (hstopped : (run env settings events { now } s₀).2.1.status = none) :
    let k := (run env settings events { now } s₀).2.1
    let s := (run env settings events { now } s₀).2.2
    let started := (k.start settings mode).2
    (∀ limit polls, OnSchedule settings mode k.loops.length k.now limit polls
      (history env settings limit polls started s)) ∧
    (Spaced settings mode → ∀ time,
      (history env settings (k.now + time) (time + 1) started s).length ≤ time) ∧
    (∀ limit polls, ∀ r ∈ history env settings limit polls started s, ∀ e,
      r.verdict settings = .error e →
        (history env settings limit polls started s).getLast? = some r ∧
        r.acts = [.called (opening mode) r.answer, .reported e] ∧
        ∀ (later : List (Event ω)) (s' : ω),
          ∀ r' ∈ (run env settings later (pollUntil env settings limit polls started s).1 s').1,
            r'.place ≠ k.loops.length) ∧
    ∀ frequency, mode = .touch frequency → ∀ limit polls i r,
      (history env settings limit polls started s)[i]? = some r →
        (∃ first period, IsDue k.now frequency first ∧ IsDue 0 frequency period ∧
          r.moment = first + i * period) ∧
        (1000000 ∣ k.now → 1000000 ∣ frequency.total →
          r.moment = k.now + (i + 1) * frequency.total) := by
  intro k s started
  have hrunning := status_eq_none.mp hstopped
  have halone : k.StartsAlone settings mode :=
    (coherent_run env settings events now s₀).startsAlone hrunning
  refine ⟨halone.onSchedule env s, fun hspaced ↦ halone.length_history_le hspaced env s, ?_, ?_⟩
  · intro limit polls r hr e hverdict
    obtain ⟨hlast, hacts, hafter⟩ := halone.last_of_error hr hverdict
    exact ⟨hlast, hacts, fun later s' r' hr' ↦ place_ne_of_mem_run hrunning hafter later hr'⟩
  · rintro frequency rfl limit polls i r hr
    exact halone.moment_of_touch hr

/-! ## A site that tires -/

/-- A site that answers so many calls and fails all others. -/
def tiringSite : Surroundings ℕ where
  call _ left := match left with
    | 0 => (.error .dropped, 0)
    | left + 1 => (.ok .null, left)
  strings _ left := (.error .dropped, left)
  confirm _ left := (false, left)
  report _ left := left
  setClock _ left := left

theorem polls_on_schedule_of_tiringSite :
    let started := (({} : Keepalive).start briefSettings everySecond).2
    let past := history tiringSite briefSettings (0 + 10 * nanosPerSecond)
      (10 * nanosPerSecond + 1) started 2
    past.map (·.moment) = [nanosPerSecond, 2 * nanosPerSecond, 3 * nanosPerSecond] ∧
      (∀ i r, past[i]? = some r → r.moment = 0 + (i + 1) * nanosPerSecond) ∧
      past.length ≤ 10 * nanosPerSecond ∧
      ∀ r ∈ past, ∀ e, r.verdict briefSettings = .error e → past.getLast? = some r := by
  obtain ⟨-, hlength, hfailed, hmoment⟩ :=
    polls_on_schedule tiringSite briefSettings 0 2 [] everySecond rfl
  refine ⟨by decide, fun i r hr ↦ ?_, hlength (show 0 < nanosPerSecond by decide) _,
    fun r hr e he ↦ ?_⟩
  · exact (hmoment (.ofSeconds 1) rfl _ _ i r hr).2 (by decide) (by decide)
  · exact (hfailed _ _ r hr e he).1

/-- A session that lasts long enough for ever. -/
def lastingSession : Surroundings Unit where
  call _ _ := (.ok (.number (.integer 100000 (by decide))), ())
  strings _ _ := (.error .dropped, ())
  confirm _ _ := (false, ())
  report _ _ := ()
  setClock _ _ := ()

/-- Checks that are asked for every tick and a half take place every two ticks. -/
theorem checks_of_lastingSession :
    let started := (({} : Keepalive).start briefSettings .check).2
    let moments := (history lastingSession briefSettings (10 * tick) 5 started ()).map (·.moment)
    moments = [2 * tick, 4 * tick, 6 * tick, 8 * tick, 10 * tick] ∧
      moments.head? ≠ some (0 + briefSettings.checkFrequency.total) := by
  decide

end SiteClient.Keepalive
