import Mathlib.Data.List.Basic
import SiteClient.Proofs.Remote.Settlement

/-!
# The life of a handle

A handle is pending as long as the round trip of its batch is, then it has a result, and it is out
of hand once it is waited for or dropped. What an event does to one handle is a `Move`, whatever
else it does (`step_move`), so an invariant of a handle is checked on six cases and holds after
every run (`slot?_run`).

A handle stands beside the flag that tells whether its batch still holds the sending ends, because
the same handle shows different things on both sides of that flag: an empty channel is a call that
is pending, or one that has been given up.
-/

namespace SiteClient

/-! ## One channel

What a channel holds, what the handle has kept and whether it is in hand are three choices of two,
so what an operation does to what a look shows is a check of the cases. -/

namespace Slot

variable {slot : Slot} {sending : Bool} {r : CallResult}

/-- A look changes what the handle keeps, and nothing that can be seen. -/
theorem sight_tryResult (slot : Slot) (sending : Bool) :
    (slot.tryResult sending).sight sending = slot.sight sending := by
  obtain ⟨buffer, settled, taken⟩ := slot
  cases taken <;> cases settled <;> cases buffer <;> cases sending <;> rfl

/-- A result that has reached the handle is there to stay: what is sent later does not replace it.
-/
theorem sight_send_of_result (r' : CallResult) (h : slot.sight true = .result r) :
    (slot.send r').sight false = .result r := by
  obtain ⟨buffer, settled, taken⟩ := slot
  cases taken <;> cases settled <;> cases buffer <;>
    simp_all [sight, send, tryResult, receive?]

theorem sight_false_of_result (h : slot.sight sending = .result r) :
    slot.sight false = .result r := by
  obtain ⟨buffer, settled, taken⟩ := slot
  cases taken <;> cases settled <;> cases buffer <;> cases sending <;>
    simp_all [sight, tryResult, receive?]

theorem sight_send_of_pending (r : CallResult) (h : slot.sight true = .pending) :
    (slot.send r).sight false = .result r := by
  obtain ⟨buffer, settled, taken⟩ := slot
  cases taken <;> cases settled <;> cases buffer <;>
    simp_all [sight, send, tryResult, receive?]

theorem sight_false_of_pending (h : slot.sight sending = .pending) :
    slot.sight false = .result (.error .dropped) := by
  obtain ⟨buffer, settled, taken⟩ := slot
  cases taken <;> cases settled <;> cases buffer <;> cases sending <;>
    simp_all [sight, tryResult, receive?]

/-- A handle that is in hand and to which nothing can be sent any more has a result. -/
theorem exists_sight_false (h : slot.taken = false) : ∃ r, slot.sight false = .result r := by
  obtain ⟨buffer, settled, taken⟩ := slot
  cases taken <;> cases settled <;> cases buffer <;> simp_all [sight, tryResult, receive?]

theorem wait_fst (slot : Slot) (sending : Bool) :
    (slot.wait sending).1 = slot.sight sending := by
  obtain ⟨buffer, settled, taken⟩ := slot
  cases taken <;> cases settled <;> cases buffer <;> cases sending <;> rfl

theorem wait_of_pending (h : slot.sight sending = .pending) :
    slot.wait sending = (.pending, slot) := by
  obtain ⟨buffer, settled, taken⟩ := slot
  cases taken <;> cases settled <;> cases buffer <;> cases sending <;>
    simp_all [sight, tryResult, receive?, wait]

theorem sight_wait_of_result (h : slot.sight sending = .result r) :
    (slot.wait sending).2.sight sending = .taken := by
  obtain ⟨buffer, settled, taken⟩ := slot
  cases taken <;> cases settled <;> cases buffer <;> cases sending <;>
    simp_all [sight, tryResult, receive?, wait, take]

theorem taken_send (slot : Slot) (r : CallResult) : (slot.send r).taken = slot.taken := by
  rw [send]
  split <;> rfl

theorem taken_tryResult (slot : Slot) (sending : Bool) :
    (slot.tryResult sending).taken = slot.taken := by
  rw [tryResult]
  split <;> rfl

theorem taken_wait_of_taken (sending : Bool) (h : slot.taken = true) :
    (slot.wait sending).2.taken = true := by
  rwa [wait, if_pos h]

theorem taken_of_wait (h : (slot.wait sending).2.taken = false) : slot.taken = false := by
  cases ht : slot.taken with
  | false => rfl
  | true => rwa [taken_wait_of_taken sending ht] at h

theorem taken_of_sight (h : slot.sight sending = .taken) : slot.taken = true := by
  rw [sight] at h
  split at h
  · assumption
  · split at h <;> simp at h

end Slot

theorem Flight.getElem?_slots_settle (f : Flight) (reply : Except RemoteError Body) {index : ℕ}
    {slot : Slot} (h : f.slots[index]? = some slot) :
    ∃ r, (outcomes f.slots.length reply)[index]? = some r ∧
      (f.settle reply).slots[index]? = some (slot.send r) := by
  obtain ⟨hlt, -⟩ := List.getElem?_eq_some_iff.mp h
  rw [← length_outcomes f.slots.length reply] at hlt
  refine ⟨(outcomes f.slots.length reply)[index], List.getElem?_eq_getElem hlt, ?_⟩
  rw [Flight.slots_settle, List.getElem?_zipWith, h, List.getElem?_eq_getElem hlt]

namespace Dispatcher

variable {ω : Type} {d : Dispatcher ω} {batch index : ℕ}

/-! ## What the operations do to a handle -/

theorem slot?_eq_some_iff {s : Slot × Bool} :
    d.slot? batch index = some s ↔
      ∃ f, d.flights[batch]? = some f ∧ f.slots[index]? = some s.1 ∧ f.pending = s.2 := by
  obtain ⟨slot, sending⟩ := s
  simp [slot?, Option.bind_eq_some_iff]

theorem slot?_modifySlot (d : Dispatcher ω) (batch index b i : ℕ) (change : Slot → Bool → Slot) :
    (d.modifySlot b i change).slot? batch index
      = if b = batch ∧ i = index then
          (d.slot? batch index).map fun s ↦ (change s.1 s.2, s.2)
        else d.slot? batch index := by
  unfold slot? modifySlot
  simp only [List.getElem?_modify]
  by_cases hb : b = batch
  · rcases h : d.flights[batch]? with _ | f
    · simp
    · by_cases hi : i = index
      · simp [hb, hi, Flight.modifySlot, Function.comp_def]
      · simp [hb, hi, Flight.modifySlot]
  · simp [hb]

theorem slot?_abandon (d : Dispatcher ω) (batch index b : ℕ) :
    (d.abandon b).slot? batch index
      = if b = batch then (d.slot? batch index).map fun s ↦ (s.1, false)
        else d.slot? batch index := by
  unfold slot? abandon
  simp only [List.getElem?_modify]
  by_cases hb : b = batch
  · rcases h : d.flights[batch]? with _ | f
    · simp
    · simp [hb, Flight.abandon, Function.comp_def]
  · simp [hb]

theorem slot?_shutdown (d : Dispatcher ω) (batch index : ℕ) :
    d.shutdown.slot? batch index = (d.slot? batch index).map fun s ↦ (s.1, false) := by
  unfold slot? shutdown
  rcases h : d.flights[batch]? with _ | f
  · simp [h]
  · simp [h, Flight.abandon, Function.comp_def]

/-- What would come of the round trip of some calls now. -/
def reply (transport : Transport ω) (d : Dispatcher ω) (calls : List Call) :
    Except RemoteError Body :=
  (transport.roundTrip (Wire.encodeRequests (Call.batch calls)) d.site).1

theorem execute_of_pending (transport : Transport ω) {f : Flight}
    (hf : d.flights[batch]? = some f) (hpending : f.pending) :
    d.execute transport batch =
      { d with
        site := (transport.roundTrip (Wire.encodeRequests (Call.batch f.calls)) d.site).2
        flights := d.flights.set batch (f.settle (d.reply transport f.calls)) } := by
  rw [execute, hf]
  exact if_pos hpending

theorem flights_execute (transport : Transport ω) {f : Flight}
    (hf : d.flights[batch]? = some f) (hpending : f.pending) :
    (d.execute transport batch).flights[batch]?
      = some (f.settle (d.reply transport f.calls)) := by
  obtain ⟨hb, -⟩ := List.getElem?_eq_some_iff.mp hf
  rw [execute_of_pending transport hf hpending]
  exact List.getElem?_set_self hb

theorem flights_execute_ne (transport : Transport ω) (d : Dispatcher ω) {b : ℕ} (hb : b ≠ batch) :
    (d.execute transport b).flights[batch]? = d.flights[batch]? := by
  rw [execute]
  split
  · rfl
  · split
    · exact List.getElem?_set_ne hb
    · rfl

theorem slot?_execute_of_pending (transport : Transport ω) {f : Flight} {slot : Slot}
    (hf : d.flights[batch]? = some f) (hpending : f.pending) (hslot : f.slots[index]? = some slot) :
    ∃ r, (outcomes f.slots.length (d.reply transport f.calls))[index]? = some r ∧
      (d.execute transport batch).slot? batch index = some (slot.send r, false) := by
  obtain ⟨r, hr, hsend⟩ := f.getElem?_slots_settle (d.reply transport f.calls) hslot
  refine ⟨r, hr, ?_⟩
  rw [slot?, flights_execute transport hf hpending, Option.bind_some, hsend]
  rfl

theorem flights_enqueue (d : Dispatcher ω) (calls : List Call) :
    (d.enqueue calls).flights[d.flights.length]? = some (.start calls) :=
  List.getElem?_concat_length

theorem flights_dispatch_of_lt (transport : Transport ω) (d : Dispatcher ω) (calls : List Call)
    (mode : CallMode) (hb : batch < d.flights.length) :
    (d.dispatch transport calls mode).flights[batch]? = d.flights[batch]? := by
  have happend : (d.enqueue calls).flights[batch]? = d.flights[batch]? :=
    List.getElem?_append_left hb
  cases mode with
  | blocking => rw [dispatch, flights_execute_ne transport _ (Nat.ne_of_gt hb), happend]
  | async =>
    rw [dispatch]
    split
    · rw [abandon, List.getElem?_modify_ne _ _ (Nat.ne_of_gt hb), happend]
    · exact happend

/-! ## Moves -/

def Event.releases (batch index : ℕ) : Event → Bool
  | .wait b i | .drop b i => b = batch ∧ i = index
  | _ => false

/-- All that an event can do to a handle, beside which stands whether the round trip of its batch
holds the sending end. `released` tells that the event waits for the handle or drops it. A sending
end that is gone does not come back, which is why at most one `deliver` is in a run. -/
inductive Move : (released : Bool) → Slot × Bool → Slot × Bool → Prop
  | stay (s : Slot × Bool) : Move false s s
  | look (slot : Slot) (sending : Bool) :
      Move false (slot, sending) (slot.tryResult sending, sending)
  | deliver (slot : Slot) (r : CallResult) : Move false (slot, true) (slot.send r, false)
  | abandon (slot : Slot) (sending : Bool) : Move false (slot, sending) (slot, false)
  | wait (slot : Slot) (sending : Bool) :
      Move true (slot, sending) ((slot.wait sending).2, sending)
  | drop (slot : Slot) (sending : Bool) : Move true (slot, sending) (slot.take, sending)

/-- **What an event does to a handle is a move.** -/
theorem step_move (transport : Transport ω) (e : Event) {s : Slot × Bool}
    (h : d.slot? batch index = some s) :
    ∃ s', (step transport d e).2.slot? batch index = some s' ∧
      Move (e.releases batch index) s s' := by
  obtain ⟨slot, sending⟩ := s
  cases e with
  | dispatch calls mode =>
    -- The new batch stands behind all that there are.
    refine ⟨_, ?_, .stay _⟩
    obtain ⟨f, hf, hslot⟩ := slot?_eq_some_iff.mp h
    obtain ⟨hb, -⟩ := List.getElem?_eq_some_iff.mp hf
    have hdispatch := flights_dispatch_of_lt transport d calls mode hb
    exact slot?_eq_some_iff.mpr ⟨f, hdispatch.trans hf, hslot⟩
  | execute b =>
    obtain ⟨f, hf, hslot, hpending⟩ := slot?_eq_some_iff.mp h
    by_cases hb : b = batch
    · subst hb
      cases sending with
      | true =>
        obtain ⟨r, -, hr⟩ := slot?_execute_of_pending transport hf hpending hslot
        exact ⟨_, hr, .deliver slot r⟩
      | false =>
        refine ⟨_, ?_, .stay _⟩
        simp [step, execute, hf, hpending, h]
    · refine ⟨_, ?_, .stay _⟩
      have hexecute := flights_execute_ne transport d hb
      exact slot?_eq_some_iff.mpr ⟨f, hexecute.trans hf, hslot, hpending⟩
  | abandon b =>
    simp only [step, slot?_abandon, h]
    by_cases hb : b = batch
    · exact ⟨_, if_pos hb, .abandon slot sending⟩
    · exact ⟨_, if_neg hb, .stay _⟩
  | look b i =>
    simp only [step, inspect, slot?_modifySlot, h]
    by_cases hbi : b = batch ∧ i = index
    · exact ⟨_, if_pos hbi, .look slot sending⟩
    · exact ⟨_, if_neg hbi, .stay _⟩
  | wait b i =>
    simp only [step, wait, slot?_modifySlot, h]
    by_cases hbi : b = batch ∧ i = index
    · refine ⟨_, if_pos hbi, ?_⟩
      rw [show Event.releases batch index (.wait b i) = true from decide_eq_true hbi]
      exact .wait slot sending
    · refine ⟨_, if_neg hbi, ?_⟩
      rw [show Event.releases batch index (.wait b i) = false from decide_eq_false hbi]
      exact .stay _
  | drop b i =>
    simp only [step, take, slot?_modifySlot, h]
    by_cases hbi : b = batch ∧ i = index
    · refine ⟨_, if_pos hbi, ?_⟩
      rw [show Event.releases batch index (.drop b i) = true from decide_eq_true hbi]
      exact .drop slot sending
    · refine ⟨_, if_neg hbi, ?_⟩
      rw [show Event.releases batch index (.drop b i) = false from decide_eq_false hbi]
      exact .stay _
  | shutdown =>
    refine ⟨_, ?_, .abandon slot sending⟩
    simp [step, slot?_shutdown, h]

/-- What holds of a handle and is kept by its moves holds after every run. -/
theorem slot?_run {P : Slot × Bool → Prop} (transport : Transport ω) (events : List Event)
    (hmove : ∀ e ∈ events, ∀ s s', Move (e.releases batch index) s s' → P s → P s')
    {s : Slot × Bool} (h : d.slot? batch index = some s) (hs : P s) :
    ∃ s', (run transport d events).2.slot? batch index = some s' ∧ P s' := by
  induction events generalizing d s with
  | nil => exact ⟨s, h, hs⟩
  | cons e events ih =>
    obtain ⟨s₁, h₁, hm⟩ := step_move transport e h
    exact ih (fun e he ↦ hmove e (List.mem_cons_of_mem _ he)) h₁
      (hmove e List.mem_cons_self _ _ hm hs)

/-! ## Invariants of a handle -/

namespace Move

variable {released : Bool} {s s' : Slot × Bool} {r : CallResult}

theorem sight_of_result (h : Move released s s') (hr : s.1.sight s.2 = .result r) :
    s'.1.sight s'.2 = if released then .taken else .result r := by
  cases h with
  | stay => exact hr
  | look slot sending => exact (slot.sight_tryResult sending).trans hr
  | deliver slot r' => exact Slot.sight_send_of_result r' hr
  | abandon slot sending => exact Slot.sight_false_of_result hr
  | wait slot sending => exact Slot.sight_wait_of_result hr
  | drop slot sending => rfl

theorem taken (h : Move released s s') (ht : s.1.taken = true) : s'.1.taken = true := by
  cases h with
  | stay => exact ht
  | look slot sending => rwa [Slot.taken_tryResult]
  | deliver slot r' => rwa [Slot.taken_send]
  | abandon slot sending => exact ht
  | wait slot sending => exact Slot.taken_wait_of_taken sending ht
  | drop slot sending => rfl

theorem held (h : Move false s s') (hs : s.1.taken = false) : s'.1.taken = false := by
  cases h with
  | stay => exact hs
  | look slot sending => rwa [Slot.taken_tryResult]
  | deliver slot r' => rwa [Slot.taken_send]
  | abandon slot sending => exact hs

end Move

/-- Nothing has reached the handle before the round trip of its batch ends. -/
def Idle (s : Slot × Bool) : Prop :=
  s.2 = true → s.1.taken = false → s.1.sight true = .pending

theorem Move.idle {released : Bool} {s s' : Slot × Bool} (h : Move released s s') (hs : Idle s) :
    Idle s' := by
  cases h with
  | stay => exact hs
  | look slot sending =>
    intro hsending ht
    obtain rfl : sending = true := hsending
    rw [Slot.taken_tryResult] at ht
    exact (slot.sight_tryResult true).trans (hs rfl ht)
  | deliver slot r' => nofun
  | abandon slot sending => nofun
  | wait slot sending =>
    intro hsending ht
    obtain rfl : sending = true := hsending
    have hslot := Slot.taken_of_wait ht
    rw [Slot.wait_of_pending (hs rfl hslot)]
    exact hs rfl hslot
  | drop slot sending => nofun

/-! ## What a handle shows -/

theorem look_eq {s : Slot × Bool} (h : d.slot? batch index = some s) :
    d.look batch index = s.1.sight s.2 := by
  rw [look, h]

theorem slot?_of_look {r : CallResult} (h : d.look batch index = .result r) :
    ∃ s, d.slot? batch index = some s ∧ s.1.sight s.2 = .result r := by
  rw [look] at h
  split at h
  · simp at h
  · rename_i slot sending hs
    exact ⟨_, hs, h⟩

theorem wait_fst (d : Dispatcher ω) (batch index : ℕ) :
    (d.wait batch index).1 = d.look batch index := by
  rw [wait, look]
  dsimp only
  split
  · rfl
  · exact Slot.wait_fst _ _

theorem look_run_of_taken (transport : Transport ω) (events : List Event) {s : Slot × Bool}
    (h : d.slot? batch index = some s) (ht : s.1.taken = true) :
    (run transport d events).2.look batch index = .taken := by
  obtain ⟨s', h', ht'⟩ := slot?_run transport events
    (P := fun s ↦ s.1.taken = true) (fun _ _ _ _ hm ↦ hm.taken) h ht
  rw [look_eq h', Slot.sight, if_pos ht']

/-- **A result is there to stay.** Whatever happens, a handle that shows a result shows the same one
until it is waited for or dropped, and nothing after that. -/
theorem look_run_of_result (transport : Transport ω) (events : List Event) {r : CallResult}
    (h : d.look batch index = .result r) :
    (run transport d events).2.look batch index
      = if events.any (Event.releases batch index) then .taken else .result r := by
  induction events generalizing d with
  | nil => exact h
  | cons e events ih =>
    -- A run lemma for one invariant does not do here: the first release changes what is shown.
    obtain ⟨s, hs, hr⟩ := slot?_of_look h
    obtain ⟨s', hs', hm⟩ := step_move transport e hs
    have hsight := hm.sight_of_result hr
    rw [List.any_cons]
    cases hrel : e.releases batch index with
    | true =>
      rw [hrel] at hsight
      exact look_run_of_taken transport events hs' (Slot.taken_of_sight hsight)
    | false =>
      rw [hrel] at hsight
      exact ih ((look_eq hs').trans hsight)

end Dispatcher
end SiteClient
