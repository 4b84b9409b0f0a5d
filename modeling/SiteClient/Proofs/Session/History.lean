import Mathlib.Data.List.Nodup
import Mathlib.Order.Nat
import SiteClient.Proofs.Session.Recording

/-!
# What happens to a keepalive

A keepalive is started and stopped, time passes, and the surroundings change as they like: that is a
list of `Keepalive.Event`s. `Keepalive.run` lets them happen and gives the polls that took place,
each with the loop that made it, its moment and what it did (`PastPoll`).

## Loops do not come back

Loops go on by themselves, whatever the keepalive remembers of them. Two facts about them carry
everything else. Each kind of event keeps them, so they hold after every run.

* A loop that has not ended is the one that counts as running (`Coherent`).
* A loop that has ended stays so, and loops are only added (`Later`). So the polls of a run are made
  by loops that had not ended before it and by loops that it starts (`Moves.spec`).
-/

namespace SiteClient

open Session

variable {ω : Type}

/-- A poll that has taken place. -/
structure PastPoll (ω : Type) extends Poll where
  /-- The surroundings as the poll found them. -/
  before : ω
  /-- What the poll did, in order. -/
  acts : List Act

namespace PastPoll

/-- The result of the call with which the poll began. -/
def answer (r : PastPoll ω) : CallResult :=
  match r.acts with
  | .called _ result :: _ => result
  | _ => .error .dropped

/-- What the poll means for its loop. -/
def verdict (settings : KeepaliveSettings) (r : PastPoll ω) : Except RemoteError Duration :=
  Session.verdict settings r.mode r.answer

/-- The poll did what polls do. -/
def Faithful (settings : KeepaliveSettings) (r : PastPoll ω) : Prop :=
  ∃ rest, r.acts = .called (opening r.mode) r.answer :: rest ∧
    FollowUp settings r.mode r.answer rest

end PastPoll

namespace Keepalive

variable {env : Surroundings ω} {settings : KeepaliveSettings} {k k' k'' : Keepalive} {poll : Poll}
  {s : ω} {limit polls : ℕ}

/-! ## Polls that are to come -/

theorem mem_pending : poll ∈ k.pending ↔
    k.loops[poll.place]? = some ⟨poll.mode, some poll.moment⟩ := by
  obtain ⟨place, mode, moment⟩ := poll
  rw [pending, List.mem_filterMap]
  constructor
  · rintro ⟨⟨⟨mode', due⟩, place'⟩, hloop, hpoll⟩
    obtain ⟨moment', rfl, hpoll⟩ := Option.map_eq_some_iff.mp hpoll
    cases hpoll
    exact List.mem_zipIdx_iff_getElem?.mp hloop
  · intro hloop
    exact ⟨(⟨mode, some moment⟩, place), List.mem_zipIdx_iff_getElem?.mpr hloop, rfl⟩

theorem lt_of_mem_pending (h : poll ∈ k.pending) : poll.place < k.loops.length :=
  (List.getElem?_eq_some_iff.mp (mem_pending.mp h)).1

theorem pairwise_pending (k : Keepalive) :
    k.pending.Pairwise fun poll poll' ↦ poll.place ≠ poll'.place := by
  have hplaces : k.loops.zipIdx.Pairwise fun loop loop' ↦ loop.2 ≠ loop'.2 := by
    refine List.pairwise_map.mp ?_
    rw [List.zipIdx_map_snd]
    exact List.nodup_range' 1
  refine hplaces.filterMap _ fun loop loop' hne poll hpoll poll' hpoll' ↦ ?_
  obtain ⟨_, -, rfl⟩ := Option.map_eq_some_iff.mp hpoll
  obtain ⟨_, -, rfl⟩ := Option.map_eq_some_iff.mp hpoll'
  exact hne

theorem mem_of_nextPoll (h : k.nextPoll limit = some poll) :
    poll ∈ k.pending ∧ poll.moment ≤ limit := by
  obtain ⟨hmin, hle⟩ := Option.filter_eq_some_iff.mp h
  exact ⟨List.minOn?_mem hmin, of_decide_eq_true hle⟩

theorem nextPoll_of_nil (h : k.pending = []) (limit : ℕ) : k.nextPoll limit = none := by
  rw [nextPoll, h]
  rfl

theorem nextPoll_of_singleton (h : k.pending = [poll]) (limit : ℕ) :
    k.nextPoll limit = if poll.moment ≤ limit then some poll else none := by
  rw [nextPoll, h]
  simp [Option.filter]

/-- The loops that have not ended are none, or the one that counts as running. -/
def Coherent (k : Keepalive) : Prop :=
  ∀ poll ∈ k.pending, k.running = some (poll.mode, poll.place)

theorem pending_eq_singleton (hmem : poll ∈ k.pending)
    (h : ∀ poll' ∈ k.pending, poll'.place = poll.place) : k.pending = [poll] := by
  have hpairwise := k.pairwise_pending
  rcases hpending : k.pending with _ | ⟨first, _ | ⟨second, rest⟩⟩
  · rw [hpending] at hmem
    exact absurd hmem List.not_mem_nil
  · rw [hpending] at hmem
    rw [List.mem_singleton.mp hmem]
  · rw [hpending] at hpairwise h
    have hne := List.rel_of_pairwise_cons hpairwise List.mem_cons_self
    exact absurd ((h first List.mem_cons_self).trans
      (h second (List.mem_cons_of_mem _ List.mem_cons_self)).symm) hne

theorem Coherent.pending_eq (h : k.Coherent) (hmem : poll ∈ k.pending) : k.pending = [poll] := by
  refine pending_eq_singleton hmem fun poll' hmem' ↦ ?_
  have hrunning := (h poll' hmem').symm.trans (h poll hmem)
  exact congrArg Prod.snd (Option.some.inj hrunning)

theorem Coherent.length_pending_le (h : k.Coherent) : k.pending.length ≤ 1 := by
  rcases hpending : k.pending with _ | ⟨poll, rest⟩
  · exact Nat.zero_le 1
  · have hsingle := h.pending_eq (hpending ▸ List.mem_cons_self)
    rw [← hpending, hsingle]
    exact Nat.le_refl 1

theorem Coherent.pending_eq_nil (h : k.Coherent) (hstopped : k.running = none) :
    k.pending = [] := by
  refine List.eq_nil_iff_forall_not_mem.mpr fun poll hmem ↦ ?_
  have hrunning := h poll hmem
  rw [hstopped] at hrunning
  cases hrunning

/-! ## One poll -/

/-- The keepalive after a poll, by what the poll means for its loop. -/
def settle (k : Keepalive) (poll : Poll) (verdict : Except RemoteError Duration) : Keepalive :=
  { k with
    now := poll.moment
    loops := k.loops.set poll.place ⟨poll.mode, nextDue poll.moment verdict⟩ }

/-- What there is to say of a poll once it has been made. -/
def pastPoll (env : Surroundings ω) (settings : KeepaliveSettings) (k : Keepalive)
    (poll : Poll) (s : ω) : PastPoll ω where
  toPoll := poll
  before := env.setClock poll.moment s
  acts := (makePoll env.recorded settings k poll (s, [])).2.2

/-- A poll does what polls do, and settles its loop by the answer to its opening call. The record of
it is added to what has been recorded before and changes nothing. -/
theorem makePoll_spec (env : Surroundings ω) (settings : KeepaliveSettings)
    (k : Keepalive) (poll : Poll) (s : ω) :
    (pastPoll env settings k poll s).Faithful settings ∧
      (makePoll env settings k poll s).1 =
        k.settle poll ((pastPoll env settings k poll s).verdict settings) ∧
      ∀ acts, makePoll env.recorded settings k poll (s, acts) =
        ((makePoll env settings k poll s).1, (makePoll env settings k poll s).2,
          acts ++ (pastPoll env settings k poll s).acts) := by
  obtain ⟨result, rest, s', hfollow, hrun, hrecorded⟩ :=
    runPoll_recorded env settings poll.mode poll.moment s
  have hmade : makePoll env settings k poll s =
      (k.settle poll (verdict settings poll.mode result), s') := by
    rw [makePoll, hrun]
    rfl
  have hmade' (acts : List Act) : makePoll env.recorded settings k poll (s, acts) =
      (k.settle poll (verdict settings poll.mode result), s',
        acts ++ .called (opening poll.mode) result :: rest) := by
    rw [makePoll, hrecorded]
    rfl
  have hacts : (pastPoll env settings k poll s).acts = .called (opening poll.mode) result :: rest :=
    congrArg (·.2.2) (hmade' [])
  have hanswer : (pastPoll env settings k poll s).answer = result := by
    rw [PastPoll.answer, hacts]
  refine ⟨⟨rest, ?_, ?_⟩, ?_, fun acts ↦ ?_⟩
  · rw [hacts, hanswer]
    rfl
  · rw [hanswer]
    exact hfollow
  · rw [hmade, PastPoll.verdict, hanswer]
    rfl
  · rw [hmade', hmade, hacts]

/-! ## Polls one after the other -/

/-- The polls that `pollUntil` makes. -/
def history (env : Surroundings ω) (settings : KeepaliveSettings) (limit : ℕ) :
    (polls : ℕ) → Keepalive → ω → List (PastPoll ω)
  | 0, _, _ => []
  | polls + 1, k, s =>
    match k.nextPoll limit with
    | none => []
    | some poll =>
      pastPoll env settings k poll s ::
        history env settings limit polls (makePoll env settings k poll s).1
          (makePoll env settings k poll s).2

theorem history_of_none (h : k.nextPoll limit = none) :
    history env settings limit (polls + 1) k s = [] := by
  rw [history, h]

theorem history_of_some (h : k.nextPoll limit = some poll) :
    history env settings limit (polls + 1) k s =
      pastPoll env settings k poll s ::
        history env settings limit polls (makePoll env settings k poll s).1
          (makePoll env settings k poll s).2 := by
  rw [history, h]

theorem pollUntil_of_none (h : k.nextPoll limit = none) :
    pollUntil env settings limit (polls + 1) k s = (k, s) := by
  rw [pollUntil, h]

theorem pollUntil_of_some (h : k.nextPoll limit = some poll) :
    pollUntil env settings limit (polls + 1) k s =
      pollUntil env settings limit polls (makePoll env settings k poll s).1
        (makePoll env settings k poll s).2 := by
  rw [pollUntil, h]

theorem history_of_nil (h : k.pending = []) (env : Surroundings ω) (settings : KeepaliveSettings)
    (limit polls : ℕ) (s : ω) : history env settings limit polls k s = [] := by
  rcases polls with - | polls
  · rfl
  · exact history_of_none (nextPoll_of_nil h limit)

theorem pollUntil_of_nil (h : k.pending = []) (env : Surroundings ω) (settings : KeepaliveSettings)
    (limit polls : ℕ) (s : ω) : pollUntil env settings limit polls k s = (k, s) := by
  rcases polls with - | polls
  · rfl
  · exact pollUntil_of_none (nextPoll_of_nil h limit)

theorem pollUntil_recorded (env : Surroundings ω) (settings : KeepaliveSettings) (limit polls : ℕ)
    (k : Keepalive) (s : ω) (acts : List Act) :
    pollUntil env.recorded settings limit polls k (s, acts) =
      ((pollUntil env settings limit polls k s).1, (pollUntil env settings limit polls k s).2,
        acts ++ (history env settings limit polls k s).flatMap PastPoll.acts) := by
  induction polls generalizing k s acts with
  | zero => simp [pollUntil, history]
  | succ polls ih =>
    rcases h : k.nextPoll limit with - | poll
    · rw [pollUntil_of_none h, pollUntil_of_none h, history_of_none h, List.flatMap_nil,
        List.append_nil]
    · obtain ⟨-, -, hrecorded⟩ := makePoll_spec env settings k poll s
      rw [pollUntil_of_some h, pollUntil_of_some h, history_of_some h, hrecorded, ih,
        List.flatMap_cons, List.append_assoc]

/-! ## Runs -/

/-- A request to start a loop. -/
inductive Request where
  | init
  | keepalive (frequency : Duration)
  | start (mode : KeepaliveMode)

def Request.mode : Request → KeepaliveMode
  | .init => .check
  | .keepalive frequency => modeOf frequency
  | .start mode => mode

/-- Something that happens to a keepalive or to its surroundings. -/
inductive Event (ω : Type) where
  | start (request : Request)
  | stop
  | status
  | advance (time : ℕ)
  /-- Time passes only up to one of the polls that are due by `limit`. -/
  | poll (limit polls : ℕ)
  /-- The site or the user changes. -/
  | change (update : ω → ω)

/-- What comes of an event: the polls that are made, the keepalive and the surroundings. -/
def step (env : Surroundings ω) (settings : KeepaliveSettings) (k : Keepalive) (s : ω) :
    Event ω → List (PastPoll ω) × Keepalive × ω
  | .start request => ([], (k.start settings request.mode).2, s)
  | .stop => ([], k.stop.2, s)
  | .status => ([], k, s)
  | .advance time =>
    (history env settings (k.now + time) (time + 1) k s, advance env settings k time s)
  | .poll limit polls =>
      (history env settings limit polls k s, pollUntil env settings limit polls k s)
  | .change update => ([], k, update s)

/-- What comes of events, one after the other. -/
def run (env : Surroundings ω) (settings : KeepaliveSettings) :
    List (Event ω) → Keepalive → ω → List (PastPoll ω) × Keepalive × ω
  | [], k, s => ([], k, s)
  | event :: events, k, s =>
    let (past, k, s) := step env settings k s event
    let (past', k, s) := run env settings events k s
    (past ++ past', k, s)

/-- A run in small: a start, a stop, a poll, or a change of the clock and of the surroundings. -/
inductive Moves (env : Surroundings ω) (settings : KeepaliveSettings) :
    Keepalive → ω → List (PastPoll ω) → Keepalive → ω → Prop
  | nil (k : Keepalive) (s : ω) : Moves env settings k s [] k s
  | start {k : Keepalive} {s : ω} {past : List (PastPoll ω)} {k' : Keepalive} {s' : ω}
      (mode : KeepaliveMode) (h : Moves env settings (k.start settings mode).2 s past k' s') :
      Moves env settings k s past k' s'
  | stop {k : Keepalive} {s : ω} {past : List (PastPoll ω)} {k' : Keepalive} {s' : ω}
      (h : Moves env settings k.stop.2 s past k' s') : Moves env settings k s past k' s'
  | poll {k : Keepalive} {s : ω} {past : List (PastPoll ω)} {k' : Keepalive} {s' : ω} {poll : Poll}
      (hpoll : poll ∈ k.pending)
      (h : Moves env settings (makePoll env settings k poll s).1 (makePoll env settings k poll s).2
        past k' s') :
      Moves env settings k s (pastPoll env settings k poll s :: past) k' s'
  | change {k : Keepalive} {s : ω} {past : List (PastPoll ω)} {k' : Keepalive} {s' : ω} (now : ℕ)
      (t : ω) (h : Moves env settings { k with now } t past k' s') :
      Moves env settings k s past k' s'

theorem Moves.trans {past past' : List (PastPoll ω)} {s' s'' : ω}
    (h : Moves env settings k s past k' s') (h' : Moves env settings k' s' past' k'' s'') :
    Moves env settings k s (past ++ past') k'' s'' := by
  induction h with
  | nil => exact h'
  | start mode _ ih => exact .start mode (ih h')
  | stop _ ih => exact .stop (ih h')
  | poll hpoll _ ih => exact .poll hpoll (ih h')
  | change now t _ ih => exact .change now t (ih h')

theorem moves_pollUntil (env : Surroundings ω) (settings : KeepaliveSettings) (limit polls : ℕ)
    (k : Keepalive) (s : ω) :
    Moves env settings k s (history env settings limit polls k s)
      (pollUntil env settings limit polls k s).1 (pollUntil env settings limit polls k s).2 := by
  induction polls generalizing k s with
  | zero => exact .nil k s
  | succ polls ih =>
    rcases h : k.nextPoll limit with - | poll
    · rw [history_of_none h, pollUntil_of_none h]
      exact .nil k s
    · rw [history_of_some h, pollUntil_of_some h]
      exact .poll (mem_of_nextPoll h).1 (ih _ _)

theorem moves_step (env : Surroundings ω) (settings : KeepaliveSettings) (k : Keepalive) (s : ω)
    (event : Event ω) :
    Moves env settings k s (step env settings k s event).1 (step env settings k s event).2.1
      (step env settings k s event).2.2 := by
  rcases event with request | - | - | time | ⟨limit, polls⟩ | update
  · exact .start request.mode (.nil _ _)
  · exact .stop (.nil _ _)
  · exact .nil k s
  · have hpolls := moves_pollUntil env settings (k.now + time) (time + 1) k s
    have hclock := hpolls.trans
      (.change (k.now + time) (advance env settings k time s).2 (.nil _ _))
    rwa [List.append_nil] at hclock
  · exact moves_pollUntil env settings limit polls k s
  · exact .change k.now (update s) (.nil _ _)

/-- **Every run is made of moves.** -/
theorem moves_run (env : Surroundings ω) (settings : KeepaliveSettings) (events : List (Event ω))
    (k : Keepalive) (s : ω) :
    Moves env settings k s (run env settings events k s).1 (run env settings events k s).2.1
      (run env settings events k s).2.2 := by
  induction events generalizing k s with
  | nil => exact .nil k s
  | cons event events ih => exact (moves_step env settings k s event).trans (ih _ _)

/-! ## What the moves do to the polls that are to come -/

/-- The first poll of a loop that is started now. -/
def firstPoll (settings : KeepaliveSettings) (k : Keepalive) (mode : KeepaliveMode) : Poll :=
  ⟨k.loops.length, mode, pollTime k.now (firstDelay settings mode)⟩

theorem start_of_running (settings : KeepaliveSettings) (mode : KeepaliveMode)
    {running : KeepaliveMode × ℕ} (h : k.running = some running) :
    k.start settings mode = (.alreadyRunning running.1, k) := by
  rw [start, h]

theorem start_of_stopped (settings : KeepaliveSettings) (mode : KeepaliveMode)
    (h : k.running = none) : k.start settings mode = (.started mode,
      { k with
        loops := k.loops ++ [⟨mode, some (k.firstPoll settings mode).moment⟩]
        running := some (mode, k.loops.length) }) := by
  rw [start, h]
  rfl

theorem pending_start (settings : KeepaliveSettings) (mode : KeepaliveMode) (h : k.running = none) :
    (k.start settings mode).2.pending = k.pending ++ [k.firstPoll settings mode] := by
  rw [start_of_stopped settings mode h, pending, pending, List.zipIdx_append, List.filterMap_append]
  simp [firstPoll]

theorem stop_of_running {running : KeepaliveMode × ℕ} (h : k.running = some running) :
    k.stop = (true, { k with
      loops := k.loops.modify running.2 fun loop ↦ { loop with due := none }
      running := none }) := by
  rw [stop, h]

theorem stop_of_stopped (h : k.running = none) : k.stop = (false, k) := by
  rw [stop, h]

theorem mem_pending_stop {running : KeepaliveMode × ℕ} (h : k.running = some running) :
    poll ∈ k.stop.2.pending ↔ poll ∈ k.pending ∧ poll.place ≠ running.2 := by
  rw [mem_pending, mem_pending, stop_of_running h]
  dsimp only
  rw [List.getElem?_modify]
  by_cases hplace : running.2 = poll.place
  · rcases k.loops[poll.place]? with - | loop <;> simp [hplace]
  · simp [hplace, Ne.symm hplace]

theorem mem_pending_settle {poll' : Poll} {verdict : Except RemoteError Duration}
    (h : poll ∈ k.pending) : poll' ∈ (k.settle poll verdict).pending ↔
      poll' ∈ k.pending ∧ poll'.place ≠ poll.place ∨
        poll'.place = poll.place ∧ poll'.mode = poll.mode ∧
          nextDue poll.moment verdict = some poll'.moment := by
  have hlt := lt_of_mem_pending h
  rw [mem_pending, mem_pending, settle]
  dsimp only
  rw [List.getElem?_set]
  by_cases hplace : poll.place = poll'.place
  · simp [hplace, hplace ▸ hlt, eq_comm]
  · simp [hplace, Ne.symm hplace]

/-! ## What runs keep -/

theorem coherent_start (settings : KeepaliveSettings) (mode : KeepaliveMode) (h : k.Coherent) :
    (k.start settings mode).2.Coherent := by
  rcases hrunning : k.running with - | running
  · intro poll hpoll
    rw [pending_start settings mode hrunning, h.pending_eq_nil hrunning, List.nil_append] at hpoll
    rw [List.mem_singleton.mp hpoll, start_of_stopped settings mode hrunning]
    rfl
  · rwa [start_of_running settings mode hrunning]

theorem Coherent.pending_stop (h : k.Coherent) : k.stop.2.pending = [] := by
  rcases hrunning : k.running with - | running
  · rw [stop_of_stopped hrunning]
    exact h.pending_eq_nil hrunning
  · refine List.eq_nil_iff_forall_not_mem.mpr fun poll hpoll ↦ ?_
    obtain ⟨hpoll, hne⟩ := (mem_pending_stop hrunning).mp hpoll
    have hplace := h poll hpoll
    rw [hrunning] at hplace
    exact hne (congrArg Prod.snd (Option.some.inj hplace)).symm

theorem coherent_of_pending_eq_nil (h : k.pending = []) : k.Coherent := by
  intro poll hpoll
  rw [h] at hpoll
  exact absurd hpoll List.not_mem_nil

theorem Coherent.settle (h : k.Coherent) (hpoll : poll ∈ k.pending)
    (verdict : Except RemoteError Duration) : (k.settle poll verdict).Coherent := by
  intro poll' hpoll'
  rcases (mem_pending_settle hpoll).mp hpoll' with ⟨hmem, -⟩ | ⟨hplace, hmode, -⟩
  · exact h poll' hmem
  · rw [hplace, hmode]
    exact h poll hpoll

theorem Coherent.moves {past : List (PastPoll ω)} {s' : ω} (h : k.Coherent)
    (hmoves : Moves env settings k s past k' s') : k'.Coherent := by
  induction hmoves with
  | nil => exact h
  | start mode _ ih => exact ih (coherent_start _ mode h)
  | stop _ ih => exact ih (coherent_of_pending_eq_nil h.pending_stop)
  | @poll k s past k' s' poll hpoll _ ih =>
    obtain ⟨-, hsettle, -⟩ := makePoll_spec env settings k poll s
    exact ih (hsettle ▸ h.settle hpoll _)
  | change now t _ ih => exact ih h

/-- A loop of this place and mode may poll from now on: it has not ended, or it is yet to be
started. -/
def MayPoll (k : Keepalive) (place : ℕ) (mode : KeepaliveMode) : Prop :=
  k.loops.length ≤ place ∨ ∃ poll ∈ k.pending, poll.place = place ∧ poll.mode = mode

/-- Loops have been added, and none has come back. -/
structure Later (k k' : Keepalive) : Prop where
  length_le : k.loops.length ≤ k'.loops.length
  mayPoll : ∀ {place : ℕ} {mode : KeepaliveMode}, k'.MayPoll place mode → k.MayPoll place mode

theorem Later.refl (k : Keepalive) : Later k k :=
  ⟨Nat.le_refl _, id⟩

theorem Later.trans (h : Later k k') (h' : Later k' k'') : Later k k'' :=
  ⟨h.length_le.trans h'.length_le, fun hmay ↦ h.mayPoll (h'.mayPoll hmay)⟩

theorem later_start (settings : KeepaliveSettings) (k : Keepalive) (mode : KeepaliveMode) :
    Later k (k.start settings mode).2 := by
  rcases hrunning : k.running with - | running
  · have hstart := start_of_stopped settings mode hrunning
    have hlength : k.loops.length ≤ (k.start settings mode).2.loops.length := by
      rw [hstart, List.length_append]
      exact Nat.le_add_right _ _
    refine ⟨hlength, ?_⟩
    rintro place mode' (hplace | ⟨poll, hpoll, rfl, rfl⟩)
    · exact .inl (hlength.trans hplace)
    · rw [pending_start settings mode hrunning, List.mem_append, List.mem_singleton] at hpoll
      rcases hpoll with hpoll | rfl
      · exact .inr ⟨poll, hpoll, rfl, rfl⟩
      · exact .inl (Nat.le_refl _)
  · rw [start_of_running settings mode hrunning]
    exact .refl k

theorem length_loops_stop (k : Keepalive) : k.stop.2.loops.length = k.loops.length := by
  rcases hrunning : k.running with - | running
  · rw [stop_of_stopped hrunning]
  · rw [stop_of_running hrunning]
    exact List.length_modify _ _ _

theorem later_stop (k : Keepalive) : Later k k.stop.2 := by
  refine ⟨(length_loops_stop k).ge, ?_⟩
  rintro place mode (hplace | ⟨poll, hpoll, hmade⟩)
  · exact .inl (length_loops_stop k ▸ hplace)
  · rcases hrunning : k.running with - | running
    · rw [stop_of_stopped hrunning] at hpoll
      exact .inr ⟨poll, hpoll, hmade⟩
    · exact .inr ⟨poll, ((mem_pending_stop hrunning).mp hpoll).1, hmade⟩

theorem later_settle (hpoll : poll ∈ k.pending) (verdict : Except RemoteError Duration) :
    Later k (k.settle poll verdict) := by
  have hlength : (k.settle poll verdict).loops.length = k.loops.length := List.length_set
  refine ⟨hlength.ge, ?_⟩
  rintro place mode (hplace | ⟨poll', hpoll', rfl, rfl⟩)
  · exact .inl (hlength ▸ hplace)
  · rcases (mem_pending_settle hpoll).mp hpoll' with ⟨hmem, -⟩ | ⟨hplace, hmode, -⟩
    · exact .inr ⟨poll', hmem, rfl, rfl⟩
    · exact .inr ⟨poll, hpoll, hplace.symm, hmode.symm⟩

theorem Moves.later {past : List (PastPoll ω)} {s' : ω} (h : Moves env settings k s past k' s') :
    Later k k' := by
  induction h with
  | nil k s => exact .refl k
  | @start k s past k' s' mode _ ih => exact (later_start settings k mode).trans ih
  | @stop k s past k' s' _ ih => exact (later_stop k).trans ih
  | @poll k s past k' s' poll hpoll _ ih =>
    obtain ⟨-, hsettle, -⟩ := makePoll_spec env settings k poll s
    rw [hsettle] at ih
    exact (later_settle hpoll _).trans ih
  | change now t _ ih => exact ⟨ih.length_le, ih.mayPoll⟩

/-- The polls of a run are made by loops that had not ended before it and by loops that it starts,
and each of them does what polls do. -/
theorem Moves.spec {past : List (PastPoll ω)} {s' : ω} (h : Moves env settings k s past k' s') :
    ∀ r ∈ past, k.MayPoll r.place r.mode ∧ r.Faithful settings := by
  induction h with
  | nil => exact fun r hr ↦ absurd hr List.not_mem_nil
  | @start k s past k' s' mode _ ih =>
    exact fun r hr ↦ ⟨(later_start settings k mode).mayPoll (ih r hr).1, (ih r hr).2⟩
  | @stop k s past k' s' _ ih =>
    exact fun r hr ↦ ⟨(later_stop k).mayPoll (ih r hr).1, (ih r hr).2⟩
  | @poll k s past k' s' poll hpoll _ ih =>
    obtain ⟨hfaithful, hsettle, -⟩ := makePoll_spec env settings k poll s
    intro r hr
    rcases List.mem_cons.mp hr with rfl | hr
    · exact ⟨.inr ⟨poll, hpoll, rfl, rfl⟩, hfaithful⟩
    · have hmay := (ih r hr).1
      rw [hsettle] at hmay
      exact ⟨(later_settle hpoll _).mayPoll hmay, (ih r hr).2⟩
  | change now t _ ih => exact ih

/-- Once no loop goes on, only loops that are started later poll. -/
theorem le_of_mem_run (env : Surroundings ω) (settings : KeepaliveSettings)
    (events : List (Event ω))
    (h : k.pending = []) (s : ω) {r : PastPoll ω} (hr : r ∈ (run env settings events k s).1) :
    k.loops.length ≤ r.place := by
  rcases ((moves_run env settings events k s).spec r hr).1 with hplace | ⟨poll, hpoll, -⟩
  · exact hplace
  · rw [h] at hpoll
    exact absurd hpoll List.not_mem_nil

theorem coherent_run (env : Surroundings ω) (settings : KeepaliveSettings) (events : List (Event ω))
    (now : ℕ) (s : ω) : (run env settings events { now } s).2.1.Coherent :=
  Coherent.moves (coherent_of_pending_eq_nil rfl) (moves_run env settings events { now } s)

end Keepalive
end SiteClient
