import Mathlib.Data.List.Induction
import SiteClient.Proofs.Remote.LocalExchange
import SiteClient.Proofs.Remote.RoundTrips
import SiteClient.Proofs.Remote.Schedules

/-!
# What a local site keeps

A local site behind a dispatcher: batches are dispatched, their round trips are run at any time and
in any order, handles are looked at, and in between handlers are registered, the site is told to
fail or to work again, and its record is taken away. All of these are `Happening`s, and a
`Chronicle` notes beside the state what was taken away and which round trips there have been.

An event of the dispatcher makes at most one round trip (`Dispatcher.carried?`), and that the
transport moves its body and no other is `Dispatcher.step_recording`. So each happening either
leaves the record alone, moves it to what was taken away, or adds one round trip to both sides
(`LocalSite.Sound.step`), and the record is exact after any of them (`LocalSite.record_exact`).
-/

namespace SiteClient

namespace Dispatcher

variable {ω : Type} {transport : Transport ω} {d : Dispatcher ω} {e : Event} {batch index : ℕ}
  {calls : List Call} {s : Slot × Bool}

/-! ## The round trip of an event -/

def Event.calls? : Event → Option (List Call)
  | .dispatch calls _ => some calls
  | _ => none

/-- The calls of a batch whose round trip is pending. -/
def due? (d : Dispatcher ω) (batch : ℕ) : Option (List Call) :=
  d.flights[batch]?.bind fun f ↦ if f.pending then some f.calls else none

/-- The round trip that an event makes: the number of its batch, and the calls that it carries. -/
def carried? (d : Dispatcher ω) : Event → Option (ℕ × List Call)
  | .dispatch calls .blocking =>
    ((d.enqueue calls).due? d.flights.length).map (d.flights.length, ·)
  | .execute batch => (d.due? batch).map (batch, ·)
  | _ => none

theorem due?_eq_some_iff :
    d.due? batch = some calls ↔
      ∃ f, d.flights[batch]? = some f ∧ f.pending = true ∧ f.calls = calls := by
  simp [due?, Option.bind_eq_some_iff]

theorem execute_of_due?_eq_none (h : d.due? batch = none) : d.execute transport batch = d := by
  rw [due?] at h
  rw [execute]
  cases hf : d.flights[batch]? with
  | none => rfl
  | some f =>
    rw [hf] at h
    by_cases hpending : f.pending
    · simp [hpending] at h
    · exact if_neg hpending

theorem site_step_of_carried?_eq_none (transport : Transport ω) (h : d.carried? e = none) :
    (step transport d e).2.site = d.site := by
  cases e with
  | dispatch calls mode =>
    cases mode with
    | blocking =>
      have hdue := Option.map_eq_none_iff.mp h
      simp only [step, dispatch]
      rw [execute_of_due?_eq_none hdue]
      rfl
    | async =>
      simp only [step, dispatch]
      split <;> rfl
  | execute b =>
    simp only [step]
    rw [execute_of_due?_eq_none (Option.map_eq_none_iff.mp h)]
  | abandon b => rfl
  | look b i => rfl
  | wait b i => rfl
  | drop b i => rfl
  | shutdown => rfl

/-- A dispatcher over the same site behind a transport that keeps the bodies it has moved. -/
def recording (d : Dispatcher ω) (moved : List Body) : Dispatcher (ω × List Body) where
  site := (d.site, moved)
  flights := d.flights
  closed := d.closed

theorem execute_recording (transport : Transport ω) (d : Dispatcher ω) (moved : List Body)
    (batch : ℕ) : (d.recording moved).execute transport.recording batch =
      (d.execute transport batch).recording
        (moved ++
          ((d.due? batch).map fun calls ↦ Wire.encodeRequests (Call.batch calls)).toList) := by
  have hflights : (d.recording moved).flights = d.flights := rfl
  cases hf : d.flights[batch]? with
  | none =>
    rw [execute, execute, due?, hflights, hf]
    simp
  | some f =>
    by_cases hpending : f.pending
    · rw [execute_of_pending transport hf hpending,
        execute_of_pending transport.recording (hflights ▸ hf) hpending, due?, hf]
      simp only [Option.bind_some, hpending, if_true]
      rfl
    · rw [execute, execute, due?, hflights, hf]
      simp [hpending]

/-- **What an event makes the transport move** is the body of its round trip, and nothing else. -/
theorem step_recording (transport : Transport ω) (d : Dispatcher ω) (moved : List Body)
    (e : Event) : step transport.recording (d.recording moved) e =
      ((step transport d e).1, (step transport d e).2.recording
        (moved ++ ((d.carried? e).map fun t ↦ Wire.encodeRequests (Call.batch t.2)).toList)) := by
  cases e with
  | dispatch calls mode =>
    cases mode with
    | blocking =>
      have hexecute := execute_recording transport (d.enqueue calls) moved d.flights.length
      simp only [step, dispatch, carried?, Option.map_map]
      exact congrArg (none, ·) hexecute
    | async =>
      simp only [step, dispatch, carried?, Option.map_none, Option.toList_none, List.append_nil]
      by_cases hclosed : d.closed
      · rw [if_pos hclosed, if_pos (show (d.recording moved).closed from hclosed)]
        rfl
      · rw [if_neg hclosed, if_neg (show ¬(d.recording moved).closed from hclosed)]
        rfl
  | execute b =>
    simp only [step, carried?, Option.map_map]
    exact congrArg (none, ·) (execute_recording transport d moved b)
  | abandon b | look b i | wait b i | drop b i | shutdown =>
    simp only [carried?, Option.map_none, Option.toList_none, List.append_nil]
    rfl

/-! ## Batches in order -/

/-- What holds of the batches of a dispatcher at any time: each call has a handle, only a batch with
calls has a round trip, and nothing has reached the handles of a batch whose round trip is
pending. -/
structure Orderly (d : Dispatcher ω) : Prop where
  handles : ∀ f ∈ d.flights, f.slots.length = f.calls.length
  waiting : ∀ f ∈ d.flights, f.pending → f.calls ≠ []
  idle : ∀ batch index s, d.slot? batch index = some s → Idle s

/-- What holds of every new batch, and is kept by all that can be done to a batch, holds of every
batch. -/
theorem forall_flights_step {P : Flight → Prop} (transport : Transport ω) (e : Event)
    (hstart : ∀ calls, P (.start calls)) (habandon : ∀ f, P f → P f.abandon)
    (hsettle : ∀ f reply, P f → P (f.settle reply))
    (hslot : ∀ f index change, P f → P (f.modifySlot index change)) (h : ∀ f ∈ d.flights, P f) :
    ∀ f ∈ (step transport d e).2.flights, P f := by
  have hexecute {d : Dispatcher ω} (h : ∀ f ∈ d.flights, P f) (b : ℕ) :
      ∀ f ∈ (d.execute transport b).flights, P f := by
    intro f hf
    cases hdue : d.due? b with
    | none =>
      rw [execute_of_due?_eq_none hdue] at hf
      exact h f hf
    | some calls =>
      obtain ⟨g, hg, hpending, -⟩ := due?_eq_some_iff.mp hdue
      rw [execute_of_pending transport hg hpending] at hf
      rcases List.mem_or_eq_of_mem_set hf with hf | rfl
      · exact h f hf
      · exact hsettle _ _ (h g (List.mem_of_getElem? hg))
  have hmodify {d : Dispatcher ω} (h : ∀ f ∈ d.flights, P f) {change : Flight → Flight}
      (hchange : ∀ f, P f → P (change f)) (b : ℕ) : ∀ f ∈ d.flights.modify b change, P f := by
    intro f hf
    obtain ⟨i, hi⟩ := List.mem_iff_getElem?.mp hf
    rw [List.getElem?_modify] at hi
    obtain ⟨g, hg, rfl⟩ := Option.map_eq_some_iff.mp hi
    split
    · exact hchange g (h g (List.mem_of_getElem? hg))
    · exact h g (List.mem_of_getElem? hg)
  have henqueue (calls : List Call) : ∀ f ∈ (d.enqueue calls).flights, P f := by
    intro f hf
    rcases List.mem_append.mp hf with hf | hf
    · exact h f hf
    · rw [List.mem_singleton.mp hf]
      exact hstart calls
  cases e with
  | dispatch calls mode =>
    cases mode with
    | blocking => exact hexecute (henqueue calls) d.flights.length
    | async =>
      simp only [step, dispatch]
      split
      · exact hmodify (henqueue calls) habandon d.flights.length
      · exact henqueue calls
  | execute b => exact hexecute h b
  | abandon b => exact hmodify h habandon b
  | look b i | wait b i | drop b i => exact hmodify h (fun f hf ↦ hslot f i _ hf) b
  | shutdown =>
    intro f hf
    obtain ⟨g, hg, rfl⟩ := List.mem_map.mp hf
    exact habandon g (h g hg)

theorem map_calls_execute (transport : Transport ω) (d : Dispatcher ω) (batch : ℕ) :
    (d.execute transport batch).flights.map Flight.calls = d.flights.map Flight.calls := by
  cases hdue : d.due? batch with
  | none => rw [execute_of_due?_eq_none hdue]
  | some calls =>
    obtain ⟨f, hf, hpending, -⟩ := due?_eq_some_iff.mp hdue
    obtain ⟨hlt, rfl⟩ := List.getElem?_eq_some_iff.mp hf
    have hself := List.set_getElem_self
      (show batch < (d.flights.map Flight.calls).length by rwa [List.length_map])
    rw [List.getElem_map] at hself
    rw [execute_of_pending transport hf hpending]
    exact List.map_set.trans hself

theorem map_calls_step (transport : Transport ω) (d : Dispatcher ω) (e : Event) :
    (step transport d e).2.flights.map Flight.calls =
      d.flights.map Flight.calls ++ e.calls?.toList := by
  have henqueue (calls : List Call) :
      (d.enqueue calls).flights.map Flight.calls = d.flights.map Flight.calls ++ [calls] :=
    List.map_append
  cases e with
  | dispatch calls mode =>
    cases mode with
    | blocking => exact (map_calls_execute transport _ _).trans (henqueue calls)
    | async =>
      simp only [step, dispatch]
      split
      · exact (map_modify_of_eq (fun _ ↦ by rfl) _ _).trans (henqueue calls)
      · exact henqueue calls
  | execute b => exact (map_calls_execute transport d b).trans (List.append_nil _).symm
  | abandon b => exact (map_modify_of_eq (fun _ ↦ by rfl) _ _).trans (List.append_nil _).symm
  | look b i | wait b i | drop b i =>
    exact (map_modify_of_eq (fun _ ↦ by rfl) _ _).trans (List.append_nil _).symm
  | shutdown => exact List.map_map.trans (List.append_nil _).symm

theorem slot?_of_step_of_lt (hb : batch < d.flights.length)
    (h : (step transport d e).2.slot? batch index = some s) :
    ∃ s₀, d.slot? batch index = some s₀ ∧ Move (e.releases batch index) s₀ s := by
  obtain ⟨f', hf', hslot', hpending'⟩ := slot?_eq_some_iff.mp h
  obtain ⟨g, hg, -, hlength⟩ := flights_step transport e (List.getElem?_eq_getElem hb)
  obtain rfl : f' = g := Option.some.inj (hf'.symm.trans hg)
  obtain ⟨hi, -⟩ := List.getElem?_eq_some_iff.mp hslot'
  rw [hlength] at hi
  have hslot :
      d.slot? batch index = some (d.flights[batch].slots[index], d.flights[batch].pending) :=
    slot?_eq_some_iff.mpr ⟨_, List.getElem?_eq_getElem hb, List.getElem?_eq_getElem hi, rfl⟩
  obtain ⟨s', hs', hmove⟩ := step_move transport e hslot
  obtain rfl : s = s' := Option.some.inj (h.symm.trans hs')
  exact ⟨_, hslot, hmove⟩

theorem slot?_of_enqueue (h : (d.enqueue calls).slot? batch index = some s) :
    d.slot? batch index = some s ∨ ∃ sending, s = ({}, sending) := by
  obtain ⟨f, hf, hslot, hpending⟩ := slot?_eq_some_iff.mp h
  rw [enqueue, List.getElem?_append] at hf
  split at hf
  · exact .inl (slot?_eq_some_iff.mpr ⟨f, hf, hslot, hpending⟩)
  · obtain rfl : f = .start calls := List.mem_singleton.mp (List.mem_of_getElem? hf)
    obtain ⟨_, -, hnew⟩ := List.mem_map.mp (List.mem_of_getElem? hslot)
    exact .inr ⟨s.2, Prod.ext hnew.symm rfl⟩

/-- Every handle comes from one that was there before, or from a new one, by a move. -/
theorem slot?_of_step (h : (step transport d e).2.slot? batch index = some s) :
    ∃ s₀, (d.slot? batch index = some s₀ ∨ ∃ sending, s₀ = ({}, sending)) ∧
      Move (e.releases batch index) s₀ s := by
  by_cases hb : batch < d.flights.length
  · obtain ⟨s₀, hs₀, hmove⟩ := slot?_of_step_of_lt hb h
    exact ⟨s₀, .inl hs₀, hmove⟩
  · obtain ⟨f, hf, -⟩ := slot?_eq_some_iff.mp h
    obtain ⟨hlt, -⟩ := List.getElem?_eq_some_iff.mp hf
    have hlength := congrArg List.length (map_calls_step transport d e)
    simp only [List.length_map, List.length_append] at hlength
    rw [hlength] at hlt
    cases e with
    | dispatch calls mode =>
      have hlast : batch < (d.enqueue calls).flights.length := by
        rw [enqueue, List.length_append]
        exact hlt
      -- What a dispatch does behind the new batch is an event of a batch that is there.
      have hbehind (e' : Event) (hreleases : e'.releases batch index = false)
          (h : (step transport (d.enqueue calls) e').2.slot? batch index = some s) :
          ∃ s₀, (d.slot? batch index = some s₀ ∨ ∃ sending, s₀ = ({}, sending)) ∧
            Move false s₀ s := by
        obtain ⟨s₀, hs₀, hmove⟩ := slot?_of_step_of_lt hlast h
        exact ⟨s₀, slot?_of_enqueue hs₀, hreleases ▸ hmove⟩
      cases mode with
      | blocking => exact hbehind (.execute d.flights.length) rfl h
      | async =>
        simp only [step, dispatch] at h
        split at h
        · exact hbehind (.abandon d.flights.length) rfl h
        · exact ⟨s, slot?_of_enqueue h, .stay s⟩
    | execute b | abandon b | look b i | wait b i | drop b i | shutdown =>
      exact absurd hlt hb

theorem Move.ended {released : Bool} {s s' : Slot × Bool} (h : Move released s s')
    (hs : s.2 = false) : s'.2 = false := by
  cases h with
  | stay => exact hs
  | look slot sending => exact hs
  | deliver slot r => rfl
  | abandon slot sending => rfl
  | wait slot sending => exact hs
  | drop slot sending => exact hs

theorem Move.sight_of_held {released : Bool} {s s' : Slot × Bool} {r : CallResult}
    (h : Move released s s') (ht : s'.1.taken = false) (hr : s.1.sight s.2 = .result r) :
    s'.1.sight s'.2 = .result r := by
  have hsight := h.sight_of_result hr
  cases released with
  | false => exact hsight
  | true =>
    rw [Slot.taken_of_sight hsight] at ht
    cases ht

namespace Orderly

theorem start (site : ω) : Orderly { site := site } where
  handles := fun f hf ↦ absurd hf List.not_mem_nil
  waiting := fun f hf ↦ absurd hf List.not_mem_nil
  idle := by
    intro batch index s hs
    obtain ⟨f, hf, -⟩ := slot?_eq_some_iff.mp hs
    cases hf

theorem enqueue (h : d.Orderly) (calls : List Call) : (d.enqueue calls).Orderly where
  handles f hf := by
    rcases List.mem_append.mp hf with hf | hf
    · exact h.handles f hf
    · rw [List.mem_singleton.mp hf]
      exact List.length_map _
  waiting f hf hpending := by
    rcases List.mem_append.mp hf with hf | hf
    · exact h.waiting f hf hpending
    · obtain rfl := List.mem_singleton.mp hf
      rintro rfl
      cases hpending
  idle batch index s hs := by
    rcases slot?_of_enqueue hs with hs | ⟨sending, rfl⟩
    · exact h.idle batch index s hs
    · exact fun _ _ ↦ rfl

theorem step (h : d.Orderly) (transport : Transport ω) (e : Event) :
    (Dispatcher.step transport d e).2.Orderly where
  handles := by
    refine forall_flights_step transport e (fun calls ↦ List.length_map _)
      (fun f hf ↦ hf) ?_ ?_ h.handles
    · intro f reply hf
      rw [Flight.slots_settle, List.length_zipWith, length_outcomes, Nat.min_self]
      exact hf
    · intro f index change hf
      exact (List.length_modify _ _ _).trans hf
  waiting := by
    refine forall_flights_step transport e ?_ (fun f _ ↦ nofun) (fun f reply _ ↦ nofun)
      (fun f index change hf ↦ hf) h.waiting
    rintro calls hpending rfl
    cases hpending
  idle batch index s hs := by
    obtain ⟨s₀, hs₀ | ⟨sending, rfl⟩, hmove⟩ := slot?_of_step hs
    · exact hmove.idle (h.idle batch index s₀ hs₀)
    · exact hmove.idle fun _ _ ↦ rfl

end Orderly

/-- An event that makes a round trip does nothing else but end it, for a batch that is pending. -/
theorem step_of_carried? (horderly : d.Orderly) (transport : Transport ω)
    (h : d.carried? e = some (batch, calls)) :
    ∃ (d₁ : Dispatcher ω) (f : Flight), (step transport d e).2 = d₁.execute transport batch ∧
      d₁.Orderly ∧ d₁.site = d.site ∧ d₁.flights[batch]? = some f ∧ f.pending = true ∧
      f.calls = calls ∧
      ∀ g, d.flights[batch]? = some g → g.pending = true := by
  cases e with
  | dispatch calls mode =>
    cases mode with
    | blocking =>
      obtain ⟨calls', hdue, hbatch⟩ := Option.map_eq_some_iff.mp h
      obtain ⟨rfl, rfl⟩ := Prod.mk.inj hbatch
      obtain ⟨f, hf, hpending, rfl⟩ := due?_eq_some_iff.mp hdue
      refine ⟨d.enqueue calls, f, rfl, horderly.enqueue calls, rfl, hf, hpending, rfl,
        fun g hg ↦ ?_⟩
      rw [List.getElem?_eq_none (Nat.le_refl _)] at hg
      cases hg
    | async => cases h
  | execute b =>
    obtain ⟨calls', hdue, hbatch⟩ := Option.map_eq_some_iff.mp h
    obtain ⟨rfl, rfl⟩ := Prod.mk.inj hbatch
    obtain ⟨f, hf, hpending, rfl⟩ := due?_eq_some_iff.mp hdue
    refine ⟨d, f, rfl, horderly, rfl, hf, hpending, rfl, fun g hg ↦ ?_⟩
    rwa [← Option.some.inj (hf.symm.trans hg)]
  | abandon b | look b i | wait b i | drop b i | shutdown => cases h

end Dispatcher

namespace LocalSite

variable {σ : Type}

/-! ## Happenings -/

/-- Something that happens to a local site or to the dispatcher in front of it. -/
inductive Happening (σ : Type) where
  | event (e : Dispatcher.Event)
  | register (method : Text) (handler : Handler σ)
  | failWith (e : RemoteError)
  | clearFailure
  | takeBatches

namespace Happening

def calls? : Happening σ → Option (List Call)
  | .event e => e.calls?
  | _ => none

def releases (batch index : ℕ) : Happening σ → Bool
  | .event e => e.releases batch index
  | _ => false

end Happening

def dispatched (happenings : List (Happening σ)) : List (List Call) :=
  happenings.filterMap Happening.calls?

/-- A round trip to a local site. -/
structure Trip (σ : Type) where
  /-- The number of the batch. -/
  batch : ℕ
  calls : List Call
  /-- The site as the round trip found it. -/
  before : LocalSite σ
  /-- The site as it left it. -/
  after : LocalSite σ

/-- A local site behind a dispatcher, and what is noted of what has happened to them. -/
structure Chronicle (σ : Type) where
  dispatcher : Dispatcher (LocalSite σ)
  /-- What each taking away of the record has returned, in order. -/
  taken : List (List (List CallRequest)) := []
  /-- The bodies that the transport has moved, in order. -/
  moved : List Body := []
  /-- The round trips, in order. -/
  trips : List (Trip σ) := []

namespace Chronicle

def onSite (c : Chronicle σ) (change : LocalSite σ → LocalSite σ) : Chronicle σ :=
  { c with dispatcher := { c.dispatcher with site := change c.dispatcher.site } }

def step (c : Chronicle σ) : Happening σ → Chronicle σ
  | .event e =>
    let dispatcher := (Dispatcher.step transport c.dispatcher e).2
    let recording := (Dispatcher.step transport.recording (c.dispatcher.recording c.moved) e).2
    let trip := (c.dispatcher.carried? e).map fun t ↦
      { batch := t.1, calls := t.2, before := c.dispatcher.site, after := dispatcher.site }
    { c with dispatcher, moved := recording.site.2, trips := c.trips ++ trip.toList }
  | .register method handler => c.onSite (·.register method handler)
  | .failWith e => c.onSite (·.failWith e)
  | .clearFailure => c.onSite clearFailure
  | .takeBatches =>
    let (batches, site) := c.dispatcher.site.takeBatches
    { c with dispatcher := { c.dispatcher with site }, taken := c.taken ++ [batches] }

/-- What comes of happenings, one after the other, from a new dispatcher on. -/
def after (site : LocalSite σ) (happenings : List (Happening σ)) : Chronicle σ :=
  happenings.foldl step { dispatcher := { site } }

theorem after_concat (site : LocalSite σ) (happenings : List (Happening σ)) (h : Happening σ) :
    after site (happenings ++ [h]) = (after site happenings).step h := by
  rw [after, List.foldl_append]
  rfl

end Chronicle

/-! ## Round trips that are over -/

/-- A round trip is over: none of the handles of its batch is pending, and if it found the site told
to fail, those in hand show the error. -/
structure Trip.Over (d : Dispatcher (LocalSite σ)) (t : Trip σ) : Prop where
  calls : t.calls ≠ []
  handle : ∀ index < t.calls.length, ∃ slot, d.slot? t.batch index = some (slot, false) ∧
    ∀ e, t.before.failure = some e → slot.taken = false → slot.sight false = .result (.error e)

namespace Trip.Over

variable {d : Dispatcher (LocalSite σ)} {t : Trip σ}

theorem step (h : t.Over d) (e : Dispatcher.Event) : t.Over (Dispatcher.step transport d e).2 where
  calls := h.calls
  handle index hindex := by
    obtain ⟨slot, hslot, hsight⟩ := h.handle index hindex
    obtain ⟨⟨slot', sending⟩, hslot', hmove⟩ := Dispatcher.step_move transport e hslot
    obtain rfl : sending = false := hmove.ended rfl
    refine ⟨slot', hslot', fun e' he' ht ↦ hmove.sight_of_held ht (hsight e' he' ?_)⟩
    -- A handle that was out of hand would be so still.
    refine eq_false_of_ne_true fun htaken ↦ ?_
    rw [hmove.taken htaken] at ht
    cases ht

theorem execute (t : Trip σ) {f : Flight} (horderly : d.Orderly) (hf : d.flights[t.batch]? = some f)
    (hpending : f.pending = true) (hcalls : f.calls = t.calls) (hsite : d.site = t.before)
    (hportable : ∀ call ∈ t.calls, (Json.object call.args).Portable 125) :
    t.Over (d.execute transport t.batch) where
  calls := by
    rw [← hcalls]
    exact horderly.waiting f (List.mem_of_getElem? hf) hpending
  handle index hindex := by
    rw [← hcalls, ← horderly.handles f (List.mem_of_getElem? hf)] at hindex
    have hslot := List.getElem?_eq_getElem hindex
    obtain ⟨r, hr, hexecute⟩ := Dispatcher.slot?_execute_of_pending transport hf hpending hslot
    refine ⟨_, hexecute, fun e he ht ↦ ?_⟩
    have hreply : d.reply transport f.calls = .error e := by
      rw [← hsite] at he
      rw [Dispatcher.reply, hcalls]
      exact congrArg Prod.fst (roundTrip_of_failure hportable he)
    rw [hreply, outcomes, Except.bind, List.getElem?_replicate, if_pos hindex] at hr
    obtain rfl := Option.some.inj hr
    rw [Slot.taken_send] at ht
    have hidle := horderly.idle t.batch index (f.slots[index], true)
      (Dispatcher.slot?_eq_some_iff.mpr ⟨f, hf, hslot, hpending⟩)
    exact Slot.sight_send_of_pending _ (hidle rfl ht)

end Trip.Over

/-! ## The record -/

/-- The record of a local site, its count and the handles in front of it agree with the round trips
there have been. -/
structure Exact (site : LocalSite σ) (happenings : List (Happening σ)) (c : Chronicle σ) :
    Prop where
  /-- The round trips are all that the transport has moved. -/
  moved : c.moved = c.trips.map fun t ↦ Wire.encodeRequests (Call.batch t.calls)
  /-- Each of them carried the batch of its number, as it was dispatched, and no batch was carried
  twice. -/
  dispatched : ∀ t ∈ c.trips, (dispatched happenings)[t.batch]? = some t.calls
  once : (c.trips.map Trip.batch).Nodup
  /-- What was taken away and what is still there is one batch for each round trip, oldest first,
  that lists its calls in order, counted from zero. -/
  record : c.taken.flatten ++ c.dispatcher.site.batches =
    site.batches ++ c.trips.map fun t ↦
      t.calls.mapIdx fun i call ↦ ⟨i.toUInt64, call.method, call.args⟩
  count : c.dispatcher.site.roundTrips = site.roundTrips + c.trips.length
  /-- A round trip to a site that is told to fail is counted and recorded. Handlers may note in the
  memory that they run, and it is unchanged: none has run. -/
  failed : ∀ t ∈ c.trips, ∀ e, t.before.failure = some e →
    t.after = { t.before with
      roundTrips := t.before.roundTrips + 1
      batches := t.before.batches ++ [Call.batch t.calls] }
  /-- Every handle of its batch shows the error, to a look and to a wait, until it is waited for or
  dropped. -/
  rejected : ∀ t ∈ c.trips, ∀ e, t.before.failure = some e → ∀ index < t.calls.length,
    ∃ slot, c.dispatcher.slot? t.batch index = some (slot, false) ∧
      (slot.taken = true → ∃ h ∈ happenings, h.releases t.batch index = true) ∧
      (slot.taken = false → (c.dispatcher.inspect t.batch index).1 = .result (.error e) ∧
        (c.dispatcher.wait t.batch index).1 = .result (.error e))

/-- What each happening keeps. -/
structure Sound (site : LocalSite σ) (happenings : List (Happening σ)) (c : Chronicle σ) :
    Prop where
  orderly : c.dispatcher.Orderly
  calls : c.dispatcher.flights.map Flight.calls = dispatched happenings
  held : ∀ batch index s, c.dispatcher.slot? batch index = some s → s.1.taken = true →
    ∃ h ∈ happenings, h.releases batch index = true
  moved : c.moved = c.trips.map fun t ↦ Wire.encodeRequests (Call.batch t.calls)
  dispatched : ∀ t ∈ c.trips, (dispatched happenings)[t.batch]? = some t.calls
  once : (c.trips.map Trip.batch).Nodup
  record : c.taken.flatten ++ c.dispatcher.site.batches =
    site.batches ++ c.trips.map fun t ↦ Call.batch t.calls
  count : c.dispatcher.site.roundTrips = site.roundTrips + c.trips.length
  failed : ∀ t ∈ c.trips, ∀ e, t.before.failure = some e →
    t.after = { t.before with
      roundTrips := t.before.roundTrips + 1
      batches := t.before.batches ++ [Call.batch t.calls] }
  ended : ∀ t ∈ c.trips, t.Over c.dispatcher

theorem dispatched_concat (happenings : List (Happening σ)) (h : Happening σ) :
    LocalSite.dispatched (happenings ++ [h]) =
      LocalSite.dispatched happenings ++ h.calls?.toList := by
  rw [LocalSite.dispatched, List.filterMap_append]
  rfl

theorem record_roundTrip {calls : List Call} (site : LocalSite σ)
    (hportable : ∀ call ∈ calls, (Json.object call.args).Portable 125) :
    let after := (roundTrip (Wire.encodeRequests (Call.batch calls)) site).2
    after.roundTrips = site.roundTrips + 1 ∧
      after.batches = site.batches ++ [Call.batch calls] := by
  cases hfailure : site.failure with
  | none =>
    rw [roundTrip_eq hportable hfailure]
    exact ⟨rfl, rfl⟩
  | some e =>
    rw [roundTrip_of_failure hportable hfailure]
    exact ⟨rfl, rfl⟩

namespace Sound

variable {site : LocalSite σ} {happenings : List (Happening σ)} {c : Chronicle σ}

theorem start (site : LocalSite σ) : Sound site [] { dispatcher := { site } } where
  orderly := .start site
  calls := rfl
  held := by
    intro batch index s hs
    obtain ⟨f, hf, -⟩ := Dispatcher.slot?_eq_some_iff.mp hs
    cases hf
  moved := rfl
  dispatched := fun t ht ↦ absurd ht List.not_mem_nil
  once := List.nodup_nil
  record := (List.append_nil _).symm
  count := rfl
  failed := fun t ht ↦ absurd ht List.not_mem_nil
  ended := fun t ht ↦ absurd ht List.not_mem_nil

/-- What is done to the site behind the back of the dispatcher makes no round trip. -/
theorem onSite (h : Sound site happenings c) {happening : Happening σ}
    (hquiet : happening.calls? = none)
    {site' : LocalSite σ} {taken' : List (List (List CallRequest))}
    (hrecord : taken'.flatten ++ site'.batches = c.taken.flatten ++ c.dispatcher.site.batches)
    (hcount : site'.roundTrips = c.dispatcher.site.roundTrips) :
    Sound site (happenings ++ [happening])
      { c with dispatcher := { c.dispatcher with site := site' }, taken := taken' } := by
  have hdispatched : LocalSite.dispatched (happenings ++ [happening]) =
      LocalSite.dispatched happenings := by
    rw [dispatched_concat, hquiet]
    exact List.append_nil _
  refine ⟨⟨h.orderly.handles, h.orderly.waiting, h.orderly.idle⟩, ?_, ?_, h.moved, ?_, h.once,
    hrecord.trans h.record, hcount.trans h.count, h.failed, fun t ht ↦ ⟨(h.ended t ht).calls, ?_⟩⟩
  · rw [hdispatched]
    exact h.calls
  · intro batch index s hs ht
    obtain ⟨h', hh', hreleases⟩ := h.held batch index s hs ht
    exact ⟨h', List.mem_append_left _ hh', hreleases⟩
  · rw [hdispatched]
    exact h.dispatched
  · exact (h.ended t ht).handle

theorem dispatched_event (h : Sound site happenings c) (e : Dispatcher.Event) :
    (Dispatcher.step transport c.dispatcher e).2.flights.map Flight.calls =
      LocalSite.dispatched (happenings ++ [.event e]) := by
  rw [dispatched_concat, Dispatcher.map_calls_step, h.calls]
  rfl

theorem held_event (h : Sound site happenings c) (e : Dispatcher.Event) {batch index : ℕ}
    {s : Slot × Bool} (hs : (Dispatcher.step transport c.dispatcher e).2.slot? batch index = some s)
    (ht : s.1.taken = true) : ∃ h ∈ happenings ++ [.event e], h.releases batch index = true := by
  obtain ⟨s₀, hs₀, hmove⟩ := Dispatcher.slot?_of_step hs
  cases hreleases : e.releases batch index with
  | true => exact ⟨.event e, List.mem_concat_self, hreleases⟩
  | false =>
    rw [hreleases] at hmove
    have ht₀ : s₀.1.taken = true := by
      refine eq_true_of_ne_false fun hfree ↦ ?_
      rw [hmove.held hfree] at ht
      cases ht
    rcases hs₀ with hs₀ | ⟨sending, rfl⟩
    · obtain ⟨h', hh', hrel⟩ := h.held batch index s₀ hs₀ ht₀
      exact ⟨h', List.mem_append_left _ hh', hrel⟩
    · cases ht₀

theorem dispatched_of_trip (h : Sound site happenings c) (happening : Happening σ) {t : Trip σ}
    (ht : t ∈ c.trips) :
    (LocalSite.dispatched (happenings ++ [happening]))[t.batch]? = some t.calls := by
  obtain ⟨hlt, -⟩ := List.getElem?_eq_some_iff.mp (h.dispatched t ht)
  rw [dispatched_concat, List.getElem?_append_left hlt]
  exact h.dispatched t ht

theorem event_of_none (h : Sound site happenings c) {e : Dispatcher.Event}
    (hcarried : c.dispatcher.carried? e = none) :
    Sound site (happenings ++ [.event e]) (c.step (.event e)) := by
  have hsite := Dispatcher.site_step_of_carried?_eq_none transport hcarried
  have hstep : c.step (.event e) =
      { c with dispatcher := (Dispatcher.step transport c.dispatcher e).2 } := by
    simp only [Chronicle.step, Dispatcher.step_recording, hcarried, Option.map_none,
      Option.toList_none, List.append_nil]
    rfl
  rw [hstep]
  refine ⟨h.orderly.step transport e, h.dispatched_event e, fun _ _ _ ↦ h.held_event e, h.moved,
    fun t ↦ h.dispatched_of_trip _, h.once, ?_, ?_, h.failed, fun t ht ↦ (h.ended t ht).step e⟩
  · rw [hsite]
    exact h.record
  · rw [hsite]
    exact h.count

theorem event_of_some (h : Sound site happenings c) {e : Dispatcher.Event} {batch : ℕ}
    {calls : List Call} (hcarried : c.dispatcher.carried? e = some (batch, calls))
    (hportable : ∀ calls ∈ LocalSite.dispatched (happenings ++ [.event e]), ∀ call ∈ calls,
      (Json.object call.args).Portable 125) :
    Sound site (happenings ++ [.event e]) (c.step (.event e)) := by
  obtain ⟨d, f, hexecute, horderly, hsite, hf, hpending, rfl, hwaits⟩ :=
    Dispatcher.step_of_carried? h.orderly transport hcarried
  set d' := (Dispatcher.step transport c.dispatcher e).2 with hd'
  have hcalls : (LocalSite.dispatched (happenings ++ [.event e]))[batch]? = some f.calls := by
    rw [← h.dispatched_event e, ← hd', hexecute, List.getElem?_map,
      Dispatcher.flights_execute transport hf hpending]
    rfl
  replace hportable := hportable f.calls (List.mem_of_getElem? hcalls)
  have hafter : d'.site =
      (roundTrip (Wire.encodeRequests (Call.batch f.calls)) c.dispatcher.site).2 := by
    rw [hexecute, Dispatcher.execute_of_pending transport hf hpending, ← hsite]
    rfl
  obtain ⟨hcount, hrecord⟩ := record_roundTrip c.dispatcher.site hportable
  rw [← hafter] at hcount hrecord
  have hstep : c.step (.event e) =
      { c with
        dispatcher := d'
        moved := c.moved ++ [Wire.encodeRequests (Call.batch f.calls)]
        trips := c.trips ++ [⟨batch, f.calls, c.dispatcher.site, d'.site⟩] } := by
    simp only [Chronicle.step, Dispatcher.step_recording, hcarried, Option.map_some,
      Option.toList_some]
    rfl
  rw [hstep]
  refine ⟨h.orderly.step transport e, h.dispatched_event e, fun _ _ _ ↦ h.held_event e,
    ?_, ?_, ?_, ?_, ?_, ?_, ?_⟩
  · rw [h.moved, List.map_append]
    rfl
  · rw [List.forall_mem_append, List.forall_mem_singleton]
    exact ⟨fun t ↦ h.dispatched_of_trip _, hcalls⟩
  · -- The batch was pending, and those of the earlier round trips are not.
    rw [List.map_append]
    refine List.nodup_append.mpr ⟨h.once, List.pairwise_singleton _ _, fun b hb b' hb' ↦ ?_⟩
    rintro rfl
    obtain ⟨t, ht, rfl⟩ := List.mem_map.mp hb
    obtain rfl : t.batch = batch := List.mem_singleton.mp hb'
    obtain ⟨slot, hslot, -⟩ :=
      (h.ended t ht).handle 0 (List.length_pos_iff.mpr (h.ended t ht).calls)
    obtain ⟨g, hg, -, hended⟩ := Dispatcher.slot?_eq_some_iff.mp hslot
    rw [hwaits g hg] at hended
    cases hended
  · rw [hrecord, List.map_append, ← List.append_assoc, h.record, List.append_assoc]
    rfl
  · rw [hcount, h.count, List.length_append]
    rfl
  · rw [List.forall_mem_append, List.forall_mem_singleton]
    refine ⟨h.failed, fun e' he' ↦ ?_⟩
    rw [hafter, roundTrip_of_failure hportable he']
  · rw [List.forall_mem_append, List.forall_mem_singleton]
    have hover :
        Trip.Over (d.execute transport batch) ⟨batch, f.calls, c.dispatcher.site, d'.site⟩ :=
      .execute ⟨batch, f.calls, c.dispatcher.site, d'.site⟩ horderly hf hpending rfl hsite hportable
    rw [← hexecute] at hover
    exact ⟨fun t ht ↦ (h.ended t ht).step e, hover⟩

/-- **What is kept, is kept by every happening.** -/
theorem step (h : Sound site happenings c) (happening : Happening σ)
    (hportable : ∀ calls ∈ LocalSite.dispatched (happenings ++ [happening]), ∀ call ∈ calls,
      (Json.object call.args).Portable 125) :
    Sound site (happenings ++ [happening]) (c.step happening) := by
  cases happening with
  | event e =>
    cases hcarried : c.dispatcher.carried? e with
    | none => exact h.event_of_none hcarried
    | some t => exact h.event_of_some hcarried hportable
  | register method handler => exact h.onSite rfl rfl rfl
  | failWith e => exact h.onSite rfl rfl rfl
  | clearFailure => exact h.onSite rfl rfl rfl
  | takeBatches =>
    refine h.onSite rfl ?_ rfl
    rw [List.flatten_concat]
    exact List.append_nil _

theorem after (site : LocalSite σ) (happenings : List (Happening σ))
    (hportable : ∀ calls ∈ LocalSite.dispatched happenings, ∀ call ∈ calls,
      (Json.object call.args).Portable 125) :
    Sound site happenings (Chronicle.after site happenings) := by
  induction happenings using List.reverseRecOn with
  | nil => exact .start site
  | append_singleton happenings happening ih =>
    rw [Chronicle.after_concat]
    refine (ih fun calls hcalls ↦ hportable calls ?_).step happening hportable
    rw [dispatched_concat]
    exact List.mem_append_left _ hcalls

end Sound

/-- **The record of a local site is exact.** Whatever happens to a local site and to a new
dispatcher in front of it, in any order: what was taken away of the record and what is left of it
are the batches of all round trips, in order, each once, as they were dispatched; each round trip is
counted; and one that finds the site told to fail runs no handler and rejects every handle of its
batch with that error. -/
theorem record_exact (site : LocalSite σ) (happenings : List (Happening σ))
    (hportable : ∀ calls ∈ dispatched happenings, ∀ call ∈ calls,
      (Json.object call.args).Portable 125) :
    Exact site happenings (Chronicle.after site happenings) := by
  have h := Sound.after site happenings hportable
  refine ⟨h.moved, h.dispatched, h.once, h.record, h.count, h.failed,
    fun t ht e he index hindex ↦ ?_⟩
  obtain ⟨slot, hslot, hsight⟩ := (h.ended t ht).handle index hindex
  refine ⟨slot, hslot, h.held t.batch index _ hslot, fun htaken ↦ ?_⟩
  have hlook := (Dispatcher.look_eq hslot).trans (hsight e he htaken)
  exact ⟨hlook, (Dispatcher.wait_fst _ _ _).trans hlook⟩

/-! ### A site that counts its calls -/

/-- A site whose handler counts its calls. -/
def tally : LocalSite ℕ where
  handlers := [("tally".toList, fun _ n ↦ (.ok .null, n + 1))]
  memory := 0

/-- Three batches, of which the first is sent last. The second finds the site told to fail, and is
taken away before the others are sent. -/
def outage : List (Happening ℕ) :=
  [.event (.dispatch [{ method := "tally".toList }] .async), .failWith .dropped,
    .event (.dispatch [{ method := "tally".toList }, { method := "no".toList }] .blocking),
    .clearFailure, .takeBatches, .event (.dispatch [{ method := "no".toList }] .blocking),
    .event (.execute 0)]

theorem record_exact_of_outage :
    let c := Chronicle.after tally outage
    c.taken.flatten ++ c.dispatcher.site.batches =
        [[⟨0, "tally".toList, []⟩, ⟨1, "no".toList, []⟩], [⟨0, "no".toList, []⟩],
          [⟨0, "tally".toList, []⟩]] ∧
      c.dispatcher.site.roundTrips = 3 ∧
      (c.dispatcher.inspect 1 1).1 = .result (.error .dropped) := by
  have hexact := record_exact tally outage (by
    intro calls hcalls call hcall
    have hargs : call.args = [] := by
      revert call calls
      decide
    rw [hargs]
    exact ⟨trivial, ⟨.nil, trivial⟩, by decide⟩)
  obtain ⟨t, ht⟩ : ∃ t, (Chronicle.after tally outage).trips[0]? = some t := ⟨_, rfl⟩
  obtain ⟨slot, -, htaken, hshown⟩ :=
    hexact.rejected t (List.mem_of_getElem? ht) .dropped (by cases ht; rfl) 1 (by cases ht; decide)
  have hheld : slot.taken = false := by
    refine eq_false_of_ne_true fun h ↦ ?_
    have hreleases : outage.any (Happening.releases t.batch 1) = true :=
      List.any_eq_true.mpr (htaken h)
    cases ht
    cases hreleases
  refine ⟨hexact.record, hexact.count, ?_⟩
  cases ht
  exact (hshown hheld).1

end LocalSite
end SiteClient
