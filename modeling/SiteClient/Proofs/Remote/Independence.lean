import SiteClient.Proofs.Remote.Handles

/-!
# Handles do not touch each other

Dropping a handle is the most that can be done to it. So two dispatchers that are the same once the
handle is dropped in both agree on everything else: no event about something else tells them apart
(`step_congr`), and an event about the handle is wiped out by dropping it (`take_step_of_touches`).
By these two steps a run is set beside the same run without any event of one handle (`run_congr`).

The relation is an equation, `d.take batch index = d'.take batch index`, and not a list of what
agrees, because dropping commutes with every event as it stands.
-/

namespace SiteClient

/-! ## Changes at places of a list -/

theorem modify_comm {α : Type} {i j : ℕ} {f g : α → α} (h : i = j → ∀ a, f (g a) = g (f a))
    (l : List α) : (l.modify i f).modify j g = (l.modify j g).modify i f := by
  by_cases hij : i = j
  · subst hij
    rw [List.modify_modify_eq, List.modify_modify_eq]
    exact congrArg _ (funext fun a ↦ (h rfl a).symm)
  · exact List.modify_modify_ne _ _ _ hij

theorem modify_append_of_lt {α : Type} {i : ℕ} (f : α → α) {l : List α} (l' : List α)
    (h : i < l.length) : (l ++ l').modify i f = l.modify i f ++ l' := by
  refine List.ext_getElem? fun j ↦ ?_
  simp only [List.getElem?_append, List.getElem?_modify, List.length_modify]
  by_cases hij : i = j
  · subst hij
    simp [h]
  · simp [hij]

/-! ## A batch with one handle dropped -/

namespace Flight

def release (index : ℕ) (f : Flight) : Flight :=
  f.modifySlot index Slot.take

theorem settle_release (index : ℕ) (f : Flight) (reply : Except RemoteError Body) :
    (f.release index).settle reply = (f.settle reply).release index := by
  have hslots : ((f.release index).settle reply).slots
      = ((f.settle reply).release index).slots := by
    refine List.ext_getElem? fun i ↦ ?_
    simp only [slots_settle, release, modifySlot, List.getElem?_zipWith, List.getElem?_modify,
      List.length_modify]
    by_cases hi : index = i
    · rcases f.slots[i]? with _ | slot
      · simp
      · rcases (outcomes f.slots.length reply)[i]? with _ | r
        · simp
        · simp [hi, Slot.take, Slot.send]
    · simp [hi]
  exact congrArg (Flight.mk f.calls · false) hslots

theorem modifySlot_comm {i j : ℕ} (h : i ≠ j) (f : Flight) (g g' : Slot → Slot) :
    (f.modifySlot i g).modifySlot j g' = (f.modifySlot j g').modifySlot i g :=
  congrArg (Flight.mk f.calls · f.pending) (modify_comm (fun hij ↦ absurd hij h) f.slots)

/-- Dropping a handle wipes out what was done to it before. -/
theorem release_modifySlot (index : ℕ) (f : Flight) (change : Slot → Slot) :
    (f.modifySlot index change).release index = f.release index := by
  refine congrArg (Flight.mk f.calls · f.pending) ?_
  exact (List.modify_modify_eq _ _ _ _).trans rfl

end Flight

namespace Dispatcher

variable {ω : Type} {d d' : Dispatcher ω} {batch index : ℕ}

theorem take_eq (d : Dispatcher ω) (batch index : ℕ) :
    d.take batch index = { d with flights := d.flights.modify batch (Flight.release index) } := rfl

theorem take_of_le (hb : d.flights.length ≤ batch) : d.take batch index = d :=
  congrArg (Dispatcher.mk d.site · d.closed) (List.modify_eq_self hb)

theorem length_flights_take (d : Dispatcher ω) (batch index : ℕ) :
    (d.take batch index).flights.length = d.flights.length := by
  rw [take_eq, List.length_modify]

/-! ## Dropping a handle commutes with what is not about it -/

theorem enqueue_take (calls : List Call) (hb : batch < d.flights.length) :
    (d.take batch index).enqueue calls = (d.enqueue calls).take batch index :=
  congrArg (Dispatcher.mk d.site · d.closed) (modify_append_of_lt _ _ hb).symm

theorem abandon_take (d : Dispatcher ω) (b : ℕ) :
    (d.take batch index).abandon b = (d.abandon b).take batch index :=
  congrArg (Dispatcher.mk d.site · d.closed)
    (modify_comm (f := Flight.release index) (g := Flight.abandon) (fun _ _ ↦ rfl) d.flights)

theorem shutdown_take (d : Dispatcher ω) :
    (d.take batch index).shutdown = d.shutdown.take batch index := by
  refine congrArg (Dispatcher.mk d.site · true) (List.ext_getElem? fun i ↦ ?_)
  rw [take_eq, List.getElem?_map, List.getElem?_modify, List.getElem?_modify, shutdown,
    List.getElem?_map]
  rcases d.flights[i]? with _ | f
  · rfl
  · by_cases hi : batch = i
    · simp [hi, Flight.abandon, Flight.modifySlot, Flight.release]
    · simp [hi]

theorem execute_take (transport : Transport ω) (d : Dispatcher ω) (b : ℕ) :
    (d.take batch index).execute transport b = (d.execute transport b).take batch index := by
  rcases hf : d.flights[b]? with _ | f
  · have hnone : (d.take batch index).flights[b]? = none := by
      rw [take_eq, List.getElem?_modify, hf]
      rfl
    rw [execute, execute, hf, hnone]
  · obtain ⟨g, hg, hcalls, hpending, hsettle⟩ : ∃ g, (d.take batch index).flights[b]? = some g ∧
        g.calls = f.calls ∧ g.pending = f.pending ∧ ∀ reply, g.settle reply
          = if batch = b then (f.settle reply).release index else f.settle reply := by
      by_cases hb : batch = b
      · refine ⟨f.release index, ?_, rfl, rfl, fun reply ↦ ?_⟩
        · rw [take_eq, hb, List.getElem?_modify_eq, hf]
          rfl
        · rw [if_pos hb, Flight.settle_release]
      · refine ⟨f, ?_, rfl, rfl, fun reply ↦ (if_neg hb).symm⟩
        rw [take_eq, List.getElem?_modify_ne _ _ hb, hf]
    by_cases hp : f.pending
    · -- Both sides write one flight of the list and release one: place by place.
      rw [execute_of_pending transport hg (hpending.trans hp), execute_of_pending transport hf hp,
        take_eq, take_eq, hsettle, hcalls]
      refine congrArg (Dispatcher.mk _ · d.closed) (List.ext_getElem? fun i ↦ ?_)
      simp only [List.getElem?_set, List.getElem?_modify, List.length_modify]
      by_cases hi : b = i
      · subst hi
        by_cases hb : batch = b
        · simp [hb, reply]
        · simp [hb, reply]
      · simp [hi]
    · rw [execute, execute, hf, hg]
      dsimp only
      rw [hpending, if_neg hp, if_neg hp]

theorem modifySlot_take (d : Dispatcher ω) {b i : ℕ} (change : Slot → Bool → Slot)
    (hbi : ¬(b = batch ∧ i = index)) :
    (d.take batch index).modifySlot b i change = (d.modifySlot b i change).take batch index := by
  refine congrArg (Dispatcher.mk d.site · d.closed) (modify_comm (fun hb f ↦ ?_) d.flights)
  exact Flight.modifySlot_comm (fun hi ↦ hbi ⟨hb.symm, hi⟩) f _ _

theorem slot?_take (d : Dispatcher ω) {b i : ℕ} (hbi : ¬(b = batch ∧ i = index)) :
    (d.take batch index).slot? b i = d.slot? b i := by
  rw [take, slot?_modifySlot, if_neg]
  rintro ⟨rfl, rfl⟩
  exact hbi ⟨rfl, rfl⟩

theorem take_modifySlot (d : Dispatcher ω) (batch index : ℕ) (change : Slot → Bool → Slot) :
    (d.modifySlot batch index change).take batch index = d.take batch index := by
  refine congrArg (Dispatcher.mk d.site · d.closed) ?_
  refine (List.modify_modify_eq _ _ _ _).trans (congrArg (d.flights.modify batch) ?_)
  exact funext fun f ↦ f.release_modifySlot index _

/-! ## Events of a handle, and other events -/

def Event.touches (batch index : ℕ) : Event → Bool
  | .look b i | .wait b i | .drop b i => b = batch ∧ i = index
  | _ => false

/-- An event that is not about the handle does the same whether or not the handle is dropped first.
-/
theorem step_take (transport : Transport ω) {e : Event} (hb : batch < d.flights.length)
    (he : e.touches batch index = false) :
    step transport (d.take batch index) e
      = ((step transport d e).1, (step transport d e).2.take batch index) := by
  cases e with
  | dispatch calls mode =>
    refine congrArg (none, ·) ?_
    cases mode with
    | blocking =>
      rw [dispatch, enqueue_take calls hb, length_flights_take, execute_take]
      rfl
    | async =>
      rw [dispatch, enqueue_take calls hb, length_flights_take, abandon_take]
      exact (apply_ite (Dispatcher.take · batch index) _ _ _).symm
  | execute b => exact congrArg (none, ·) (execute_take transport d b)
  | abandon b => exact congrArg (none, ·) (abandon_take d b)
  | look b i =>
    have hbi := of_decide_eq_false he
    simp only [step, inspect, look, slot?_take d hbi, modifySlot_take d _ hbi]
  | wait b i =>
    have hbi := of_decide_eq_false he
    simp only [step, wait, slot?_take d hbi, modifySlot_take d _ hbi]
  | drop b i => exact congrArg (none, ·) (modifySlot_take d _ (of_decide_eq_false he))
  | shutdown => exact congrArg (none, ·) (shutdown_take d)

/-- Dropping the handle wipes out an event about it. -/
theorem take_step_of_touches (transport : Transport ω) (d : Dispatcher ω) {e : Event}
    (he : e.touches batch index) :
    (step transport d e).2.take batch index = d.take batch index := by
  cases e with
  | look b i | wait b i | drop b i =>
    obtain ⟨rfl, rfl⟩ := of_decide_eq_true he
    exact take_modifySlot d b i _
  | dispatch | execute | abandon | shutdown => exact absurd he Bool.false_ne_true

/-- Dispatchers that differ in one handle show the same at every event that is not about it, and
still differ in that handle only. -/
theorem step_congr (transport : Transport ω) {e : Event}
    (h : d.take batch index = d'.take batch index) (he : e.touches batch index = false) :
    (step transport d e).1 = (step transport d' e).1 ∧
      (step transport d e).2.take batch index = (step transport d' e).2.take batch index := by
  have hlength : d.flights.length = d'.flights.length := by
    rw [← length_flights_take d batch index, h, length_flights_take]
  rcases Nat.lt_or_ge batch d.flights.length with hb | hb
  · have hstep := step_take transport hb he
    rw [h, step_take transport (hlength ▸ hb) he] at hstep
    exact ⟨(congrArg Prod.fst hstep).symm, (congrArg Prod.snd hstep).symm⟩
  · -- There is no such handle yet.
    rw [take_of_le hb, take_of_le (hlength ▸ hb)] at h
    rw [h]
    exact ⟨rfl, rfl⟩

/-- **One handle does not touch another.** Leave all events of one handle out of a run: every other
event shows what it showed, and the dispatchers after the runs differ in that handle only. -/
theorem run_congr (transport : Transport ω) (events : List Event)
    (h : d.take batch index = d'.take batch index) :
    let others := events.filter fun e ↦ !e.touches batch index
    ((events.zip (run transport d events).1).filter fun p ↦ !p.1.touches batch index)
        = others.zip (run transport d' others).1 ∧
      (run transport d events).2.take batch index
        = (run transport d' others).2.take batch index := by
  induction events generalizing d d' with
  | nil => exact ⟨rfl, h⟩
  | cons e events ih =>
    cases he : e.touches batch index with
    | true =>
      have hrest := ih ((take_step_of_touches transport d he).trans h)
      simpa [run, he] using hrest
    | false =>
      obtain ⟨hsight, htake⟩ := step_congr transport h he
      obtain ⟨hrest, hend⟩ := ih htake
      simp [run, he, hsight, hrest, hend]

theorem look_congr {b i : ℕ} (h : d.take batch index = d'.take batch index)
    (hbi : ¬(b = batch ∧ i = index)) : d.look b i = d'.look b i := by
  rw [look, look, ← slot?_take d hbi, h, slot?_take d' hbi]

end Dispatcher
end SiteClient
