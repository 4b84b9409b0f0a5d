import SiteClient.Proofs.Remote.Independence
import SiteClient.Remote.CannedSite

/-!
# What becomes of a batch

The handles of a batch that has been dispatched, after whatever has happened since: as long as its
round trip is pending so is every handle that is in hand, and when the round trip ends each of them
has one result for good (`Settled`). Which one, is decided by the first response that is missing or
failed (`BatchLaw`).

Both are about the batch that a `dispatch` adds, in any dispatcher and before any later events. That
a batch is sent at once or given up at once is one more event of a batch that is pending at first
(`exists_run_dispatch`), so there is one run to look at and not one for each mode.
-/

namespace SiteClient

/-! ## The first failure of a batch -/

/-- The error of a batch that stops at `place`, by the response there. -/
def failureAt (place : ℕ) : Option CallResponse → RemoteError
  | none => .missingResponse place
  | some r => .exception (r.exception.getD .unknown)

/-- Where the answers to a batch stop: at the first that is failed, or at their end. -/
def firstFailure (answers : List CallResponse) : ℕ :=
  answers.findIdx CallResponse.error

/-- The result of one call of a batch by the answers to it. -/
def resultAt (place : ℕ) (answers : List CallResponse) (i : ℕ) : Option CallResult :=
  if i < firstFailure answers then answers[i]?.map fun r ↦ .ok r.data
  else some (.error (failureAt (place + firstFailure answers) answers[firstFailure answers]?))

/-- Only the responses within the batch count. The place counts from the whole batch, the first
failure from the rest of it. -/
theorem getElem?_settleFrom (place : ℕ) {count i : ℕ} (responses : List CallResponse)
    (h : i < count) :
    (settleFrom place count responses)[i]? = resultAt place (responses.take count) i := by
  induction responses generalizing place count i with
  | nil =>
    obtain ⟨n, rfl⟩ := Nat.exists_eq_succ_of_ne_zero (Nat.ne_zero_of_lt h)
    rw [settleFrom, List.getElem?_replicate, if_pos h]
    rfl
  | cons r rest ih =>
    obtain ⟨n, rfl⟩ := Nat.exists_eq_succ_of_ne_zero (Nat.ne_zero_of_lt h)
    rw [settleFrom, List.take_succ_cons, resultAt, firstFailure, List.findIdx_cons]
    by_cases hr : r.error
    · rw [if_pos hr, hr, cond_true, if_neg (Nat.not_lt_zero i), List.getElem?_replicate, if_pos h]
      rfl
    · rw [if_neg hr, eq_false_of_ne_true hr, cond_false]
      cases i with
      | zero => simp
      | succ i =>
        -- Seen from the rest of the batch, the first failure is one place nearer.
        rw [List.getElem?_cons_succ, ih (place + 1) (Nat.lt_of_succ_lt_succ h), resultAt]
        simp only [List.getElem?_cons_succ, Nat.add_lt_add_iff_right, firstFailure]
        rw [Nat.add_right_comm, Nat.add_assoc]
        rfl

/-! ## The batch in a run -/

namespace Dispatcher

variable {ω : Type} {d : Dispatcher ω} {batch index : ℕ}

theorem exists_flights_modify {f : Flight} {b : ℕ} {change : Flight → Flight}
    (hchange : ∀ f, (change f).calls = f.calls ∧ (change f).slots.length = f.slots.length)
    (hf : d.flights[batch]? = some f) :
    ∃ f', (d.flights.modify b change)[batch]? = some f' ∧ f'.calls = f.calls ∧
      f'.slots.length = f.slots.length := by
  rw [List.getElem?_modify, hf]
  by_cases hb : b = batch
  · exact ⟨change f, by simp [hb], hchange f⟩
  · exact ⟨f, by simp [hb], rfl, rfl⟩

theorem flights_step (transport : Transport ω) (e : Event) {f : Flight}
    (hf : d.flights[batch]? = some f) :
    ∃ f', (step transport d e).2.flights[batch]? = some f' ∧ f'.calls = f.calls ∧
      f'.slots.length = f.slots.length := by
  obtain ⟨hb, -⟩ := List.getElem?_eq_some_iff.mp hf
  cases e with
  | dispatch calls mode =>
    exact ⟨f, (flights_dispatch_of_lt transport d calls mode hb).trans hf, rfl, rfl⟩
  | execute b =>
    by_cases hb : b = batch
    · subst hb
      by_cases hpending : f.pending
      · refine ⟨_, flights_execute transport hf hpending, rfl, ?_⟩
        rw [Flight.slots_settle, List.length_zipWith, length_outcomes, Nat.min_self]
      · refine ⟨f, ?_, rfl, rfl⟩
        simp [step, execute, hf, hpending]
    · exact ⟨f, (flights_execute_ne transport d hb).trans hf, rfl, rfl⟩
  | abandon b => exact exists_flights_modify (fun _ ↦ ⟨rfl, rfl⟩) hf
  | look b i | wait b i | drop b i =>
    exact exists_flights_modify (fun _ ↦ ⟨rfl, List.length_modify _ _ _⟩) hf
  | shutdown =>
    refine ⟨f.abandon, ?_, rfl, rfl⟩
    simp [step, shutdown, hf]

theorem flights_run (transport : Transport ω) (events : List Event) {f : Flight}
    (hf : d.flights[batch]? = some f) :
    ∃ f', (run transport d events).2.flights[batch]? = some f' ∧ f'.calls = f.calls ∧
      f'.slots.length = f.slots.length := by
  induction events generalizing d f with
  | nil => exact ⟨f, hf, rfl, rfl⟩
  | cons e events ih =>
    obtain ⟨f₁, hf₁, hcalls₁, hlength₁⟩ := flights_step transport e hf
    obtain ⟨f₂, hf₂, hcalls₂, hlength₂⟩ := ih hf₁
    exact ⟨f₂, hf₂, hcalls₂.trans hcalls₁, hlength₂.trans hlength₁⟩

/-- A new batch is pending at first. That it is sent at once, or given up at once, is an event. -/
theorem exists_run_dispatch (transport : Transport ω) (d : Dispatcher ω) (calls : List Call)
    (mode : CallMode) (later : List Event) (index : ℕ) :
    ∃ events, (run transport (d.dispatch transport calls mode) later).2
        = (run transport (d.enqueue calls) events).2 ∧
      events.any (Event.releases d.flights.length index)
        = later.any (Event.releases d.flights.length index) := by
  cases mode with
  | blocking => exact ⟨.execute d.flights.length :: later, rfl, rfl⟩
  | async =>
    rw [dispatch]
    split
    · exact ⟨.abandon d.flights.length :: later, rfl, rfl⟩
    · exact ⟨later, rfl, rfl⟩

theorem slot?_enqueue (d : Dispatcher ω) {calls : List Call} (h : index < calls.length) :
    (d.enqueue calls).slot? d.flights.length index = some ({}, true) := by
  refine slot?_eq_some_iff.mpr ⟨_, d.flights_enqueue calls, ?_, ?_⟩
  · simp [Flight.start, h]
  · cases calls with
    | nil => exact absurd h (Nat.not_lt_zero _)
    | cons call calls => rfl

theorem exists_handle (transport : Transport ω) (d : Dispatcher ω) {calls : List Call}
    (events : List Event) (h : index < calls.length) :
    let d' := (run transport (d.enqueue calls) events).2
    ∃ f slot, d'.flights[d.flights.length]? = some f ∧ f.calls = calls ∧
      f.slots.length = calls.length ∧ f.slots[index]? = some slot ∧ Idle (slot, f.pending) ∧
      (events.any (Event.releases d.flights.length index) = false → slot.taken = false) := by
  have hnew := d.slot?_enqueue h
  obtain ⟨f, hf, hcalls, hlength⟩ := flights_run transport events (d.flights_enqueue calls)
  obtain ⟨⟨slot, sending⟩, hslot, hidle⟩ :=
    slot?_run transport events (fun _ _ _ _ hm ↦ hm.idle) hnew fun _ _ ↦ rfl
  have hheld : events.any (Event.releases d.flights.length index) = false → slot.taken = false := by
    intro hreleases
    obtain ⟨s, hs, htaken⟩ := slot?_run (P := fun s ↦ s.1.taken = false) transport events
      (fun e he _ _ hm ↦ by
        rw [eq_false_of_ne_true (List.any_eq_false.mp hreleases e he)] at hm
        exact hm.held) hnew rfl
    obtain rfl : (slot, sending) = s := Option.some.inj (hslot.symm.trans hs)
    exact htaken
  -- The runs above are one run, so they end in one handle of one batch.
  obtain ⟨g, hg, hget, rfl⟩ := slot?_eq_some_iff.mp hslot
  obtain rfl : f = g := Option.some.inj (hf.symm.trans hg)
  exact ⟨f, slot, hf, hcalls, hlength.trans (List.length_map _), hget, hidle, hheld⟩

theorem look_execute (transport : Transport ω) {f : Flight} {slot : Slot}
    (hf : d.flights[batch]? = some f) (hslot : f.slots[index]? = some slot) (hpending : f.pending)
    (hidle : Idle (slot, f.pending)) (htaken : slot.taken = false) :
    ∃ r, (outcomes f.slots.length (d.reply transport f.calls))[index]? = some r ∧
      (d.execute transport batch).look batch index = .result r := by
  obtain ⟨r, hr, hexecute⟩ := slot?_execute_of_pending transport hf hpending hslot
  refine ⟨r, hr, (look_eq hexecute).trans ?_⟩
  exact Slot.sight_send_of_pending r (hidle hpending htaken)

/-! ## A site to look at

Three calls, of which the site answers two. The second answer is a failure that states no exception.
-/

def threeCalls : List Call :=
  List.replicate 3 { method := "core_get_string".toList }

/-- The reply to two of them. -/
def shortReply : Body :=
  Text.toBody "[\x7b\"error\":false,\"data\":7\x7d,\x7b\"error\":true\x7d]".toList

/-- A dispatcher whose site gives this reply. -/
def beforeReply : Dispatcher CannedSite where
  site := { replies := [.ok shortReply] }

theorem decodeResponses_shortReply :
    Wire.decodeResponses shortReply
      = .ok [.success (.number (.ofUInt64 7)), ⟨true, .null, none⟩] := by
  decide +kernel

/-! ## Settling -/

/-- The handle has its result for good: whatever happens from now on, a look and a wait show this
result until the handle is waited for or dropped, and nothing after that. -/
def Settled (transport : Transport ω) (d : Dispatcher ω) (batch index : ℕ) (r : CallResult) :
    Prop :=
  ∀ events : List Event,
    let d' := (run transport d events).2
    let shown : Sight := if events.any (Event.releases batch index) then .taken else .result r
    (d'.inspect batch index).1 = shown ∧ (d'.wait batch index).1 = shown

theorem settled_of_look (transport : Transport ω) {r : CallResult}
    (h : d.look batch index = .result r) : d.Settled transport batch index r := by
  intro events
  have hlook := look_run_of_result transport events h
  exact ⟨hlook, (wait_fst _ batch index).trans hlook⟩

theorem settled_execute (transport : Transport ω) {f : Flight} {slot : Slot}
    (hf : d.flights[batch]? = some f) (hslot : f.slots[index]? = some slot) (hpending : f.pending)
    (hidle : Idle (slot, f.pending)) (htaken : slot.taken = false) :
    ∃ r, (outcomes f.slots.length (d.reply transport f.calls))[index]? = some r ∧
      (d.execute transport batch).Settled transport batch index r := by
  obtain ⟨r, hr, hlook⟩ := look_execute transport hf hslot hpending hidle htaken
  exact ⟨r, hr, settled_of_look transport hlook⟩

theorem settled_abandon (transport : Transport ω) {slot : Slot} {sending : Bool}
    (hslot : d.slot? batch index = some (slot, sending)) (h : slot.sight sending = .pending) :
    (d.abandon batch).Settled transport batch index (.error .dropped) := by
  have habandon : (d.abandon batch).slot? batch index = some (slot, false) := by
    rw [slot?_abandon, if_pos rfl, hslot]
    rfl
  exact settled_of_look transport ((look_eq habandon).trans (Slot.sight_false_of_pending h))

theorem settled_shutdown (transport : Transport ω) {slot : Slot} {sending : Bool}
    (hslot : d.slot? batch index = some (slot, sending)) (h : slot.sight sending = .pending) :
    d.shutdown.Settled transport batch index (.error .dropped) := by
  have hshutdown : d.shutdown.slot? batch index = some (slot, false) := by
    rw [slot?_shutdown, hslot]
    rfl
  exact settled_of_look transport ((look_eq hshutdown).trans (Slot.sight_false_of_pending h))

theorem wait_of_pending {slot : Slot} {sending : Bool}
    (hslot : d.slot? batch index = some (slot, sending)) (h : slot.sight sending = .pending) :
    d.wait batch index = (.pending, d) := by
  obtain ⟨f, hf, hget, rfl⟩ := slot?_eq_some_iff.mp hslot
  have hsame : d.modifySlot batch index (fun slot sending ↦ (slot.wait sending).2) = d := by
    refine congrArg (Dispatcher.mk d.site · d.closed) (List.ext_getElem? fun b ↦ ?_)
    rw [List.getElem?_modify]
    by_cases hb : batch = b
    · subst hb
      rw [hf]
      simp only [if_true, Option.map_eq_map, Option.map_some]
      refine congrArg some (congrArg (Flight.mk f.calls · f.pending) (List.ext_getElem? fun i ↦ ?_))
      rw [List.getElem?_modify]
      by_cases hi : index = i
      · subst hi
        simp [hget, Slot.wait_of_pending h]
      · simp [hi]
    · simp [hb]
  rw [wait, hslot, hsame]
  exact congrArg (·, d) (congrArg Prod.fst (Slot.wait_of_pending h))

/-- What a dispatch makes of each handle: a blocking one settles it, and so does one that is given
up because round trips are no longer run; else it is pending. -/
theorem settled_dispatch (transport : Transport ω) (d : Dispatcher ω) {calls : List Call}
    (mode : CallMode) (h : index < calls.length) :
    let batch := d.flights.length
    let d₁ := d.dispatch transport calls mode
    match mode with
    | .blocking => ∃ r, (outcomes calls.length (d.reply transport calls))[index]? = some r ∧
        d₁.Settled transport batch index r
    | .async =>
      if d.closed then d₁.Settled transport batch index (.error .dropped)
      else d₁.slot? batch index = some ({}, true) := by
  have hnew := d.slot?_enqueue h
  cases mode with
  | blocking =>
    obtain ⟨f, hf, hget, hpending⟩ := slot?_eq_some_iff.mp hnew
    obtain rfl : .start calls = f :=
      Option.some.inj (List.getElem?_concat_length.symm.trans hf)
    obtain ⟨r, hr, hsettled⟩ :=
      settled_execute transport hf hget hpending (fun _ _ ↦ rfl) rfl
    rw [Flight.start, List.length_map] at hr
    exact ⟨r, hr, hsettled⟩
  | async =>
    dsimp only
    rw [dispatch]
    split
    · exact settled_abandon transport hnew rfl
    · exact hnew

/-- **Each handle settles exactly once.** After a batch has been dispatched and anything else has
happened, in any order, a handle of it that is in hand is pending as long as the round trip is, and
a wait for it goes on; the end of the round trip settles it for good, with what came of the round
trip, or as dropped when the round trip is given up. No event of another handle, of this batch or of
another, changes what this one shows or what anything else shows. -/
theorem handle_settles_once (transport : Transport ω) (d : Dispatcher ω) {calls : List Call}
    (mode : CallMode) (later : List Event) {index : ℕ} (h : index < calls.length) :
    let batch := d.flights.length
    let d₁ := d.dispatch transport calls mode
    let d₂ := (run transport d₁ later).2
    (match mode with
      | .blocking => ∃ r, (outcomes calls.length (d.reply transport calls))[index]? = some r ∧
          d₁.Settled transport batch index r
      | .async =>
        if d.closed then d₁.Settled transport batch index (.error .dropped)
        else d₁.slot? batch index = some ({}, true)) ∧
    (∃ slot sending, d₂.slot? batch index = some (slot, sending) ∧
      (later.any (Event.releases batch index) = false → slot.taken = false) ∧
      (slot.taken = false → sending = true →
        d₂.look batch index = .pending ∧ d₂.wait batch index = (.pending, d₂) ∧
        (∃ r, (outcomes calls.length (d₂.reply transport calls))[index]? = some r ∧
          (d₂.execute transport batch).Settled transport batch index r) ∧
        (d₂.abandon batch).Settled transport batch index (.error .dropped) ∧
        d₂.shutdown.Settled transport batch index (.error .dropped)) ∧
      (slot.taken = false → sending = false → ∃ r, d₂.Settled transport batch index r)) ∧
    ∀ b i, ¬(batch = b ∧ index = i) →
      let others := later.filter fun e ↦ !e.touches b i
      ((later.zip (run transport d₁ later).1).filter fun p ↦ !p.1.touches b i)
          = others.zip (run transport d₁ others).1 ∧
        d₂.look batch index = (run transport d₁ others).2.look batch index := by
  intro batch d₁ d₂
  refine ⟨settled_dispatch transport d mode h, ?_, fun b i hbi ↦ ?_⟩
  · obtain ⟨events, hrun, hreleases⟩ := exists_run_dispatch transport d calls mode later index
    obtain ⟨f, slot, hf, rfl, hlength, hget, hidle, hheld⟩ := exists_handle transport d events h
    rw [← hrun] at hf
    rw [hreleases] at hheld
    have hslot : d₂.slot? batch index = some (slot, f.pending) :=
      slot?_eq_some_iff.mpr ⟨f, hf, hget, rfl⟩
    refine ⟨slot, f.pending, hslot, hheld, fun htaken hpending ↦ ?_, fun htaken hended ↦ ?_⟩
    · obtain ⟨r, hr, hexecute⟩ := settled_execute transport hf hget hpending hidle htaken
      rw [hpending] at hslot
      have hsight : slot.sight true = .pending := hidle hpending htaken
      refine ⟨(look_eq hslot).trans hsight, wait_of_pending hslot hsight, ?_, ?_, ?_⟩
      · exact ⟨r, hlength ▸ hr, hexecute⟩
      · exact settled_abandon transport hslot hsight
      · exact settled_shutdown transport hslot hsight
    · rw [hended] at hslot
      -- The round trip is over or given up, and the handle has been in hand all the while.
      obtain ⟨r, hr⟩ := Slot.exists_sight_false htaken
      exact ⟨r, settled_of_look transport ((look_eq hslot).trans hr)⟩
  · obtain ⟨hsights, htake⟩ := run_congr transport later (rfl : d₁.take b i = d₁.take b i)
    exact ⟨hsights, look_congr htake hbi⟩

theorem handle_settles_once_of_short_reply :
    let d := (run CannedSite.transport (beforeReply.dispatch CannedSite.transport threeCalls .async)
      [.look 0 0, .drop 0 1]).2
    d.look 0 0 = .pending ∧
      (d.execute CannedSite.transport 0).Settled CannedSite.transport 0 0
        (.ok (.number (.ofUInt64 7))) ∧
      d.shutdown.Settled CannedSite.transport 0 0 (.error .dropped) := by
  obtain ⟨-, ⟨slot, sending, hslot, hheld, hpending, -⟩, -⟩ := handle_settles_once
    CannedSite.transport beforeReply .async [.look 0 0, .drop 0 1]
    (show 0 < threeCalls.length by decide)
  obtain ⟨-, rfl⟩ : _ ∧ true = sending := Prod.mk.inj (Option.some.inj hslot)
  obtain ⟨hlook, -, ⟨r, hr, hexecute⟩, -, hshutdown⟩ := hpending (hheld rfl) rfl
  have hseven : (outcomes 3 (.ok shortReply))[0]? = some (.ok (.number (.ofUInt64 7))) := by
    rw [outcomes, Except.bind, decodeResponses_shortReply]
    rfl
  obtain rfl := Option.some.inj (hr.symm.trans hseven)
  exact ⟨hlook, hexecute, hshutdown⟩

/-! ## The outcome of a batch -/

end Dispatcher
end SiteClient
