import SiteClient.Proofs.Remote.Outcome
import SiteClient.Remote.LocalSite

/-!
# The schedule does not matter

Batches are dispatched in some order, each in either mode, and pending round trips are run at any
time and in any order: a `Schedule`. Over a transport whose replies depend on the request body only,
each batch that has ended has the results of its own reply, whatever has been run before it
(`Flight.OnCourse`), and there has been one round trip for each batch that has ended. That is kept
by every event of a schedule (`Dispatcher.OnCourse.run`), so two schedules that leave nothing
pending leave the same results behind (`Dispatcher.schedules_agree`).

That replies depend on the body only may be true of some states of the other side and not of all, so
it is asked for where an invariant holds that round trips keep.
-/

namespace SiteClient

/-- Replies depend on the request body only, and each round trip is counted, wherever the invariant
holds.
-/
structure Transport.Steady {ω : Type} (transport : Transport ω)
    (answer : Body → Except RemoteError Body) (inv : ω → Prop) (trips : ω → ℕ) : Prop where
  reply : ∀ (body : Body) {site : ω}, inv site → (transport.roundTrip body site).1 = answer body
  keeps : ∀ (body : Body) {site : ω}, inv site → inv (transport.roundTrip body site).2
  counts : ∀ (body : Body) {site : ω}, inv site →
    trips (transport.roundTrip body site).2 = trips site + 1

namespace Dispatcher

/-- The batches are dispatched in this order, each in either mode. In between, round trips are run
and handles are looked at. -/
inductive Schedule : List (List Call) → List Event → Prop
  | nil : Schedule [] []
  | dispatch (calls : List Call) (mode : CallMode) {batches : List (List Call)}
      {events : List Event}
      (h : Schedule batches events) : Schedule (calls :: batches) (.dispatch calls mode :: events)
  | execute (batch : ℕ) {batches : List (List Call)} {events : List Event}
      (h : Schedule batches events) : Schedule batches (.execute batch :: events)
  | look (batch index : ℕ) {batches : List (List Call)} {events : List Event}
      (h : Schedule batches events) : Schedule batches (.look batch index :: events)

end Dispatcher

/-! ## One batch -/

namespace Flight

variable {answer : Body → Except RemoteError Body} {f : Flight}

def results (answer : Body → Except RemoteError Body) (calls : List Call) : List CallResult :=
  outcomes calls.length (answer (Wire.encodeRequests (Call.batch calls)))

/-- The round trip of the batch has been run. -/
def hasRun (f : Flight) : Bool :=
  !f.pending && !f.calls.isEmpty

/-- All handles of the batch are in hand. Each of them is pending as long as the round trip is, and
shows the result of its call from then on. -/
structure OnCourse (answer : Body → Except RemoteError Body) (f : Flight) : Prop where
  length : f.slots.length = f.calls.length
  inHand : ∀ slot ∈ f.slots, slot.taken = false
  waiting : f.pending → f.calls ≠ [] ∧ ∀ slot ∈ f.slots, slot.sight true = .pending
  ended : f.pending = false → ∀ (index : ℕ) (slot : Slot), f.slots[index]? = some slot →
    ∃ r, (results answer f.calls)[index]? = some r ∧ slot.sight false = .result r

theorem onCourse_start (calls : List Call) : (start calls).OnCourse answer where
  length := List.length_map _
  inHand := by
    intro slot hslot
    obtain ⟨_, -, rfl⟩ := List.mem_map.mp hslot
    rfl
  waiting hpending := by
    refine ⟨?_, fun slot hslot ↦ ?_⟩
    · rintro rfl
      cases hpending
    · obtain ⟨_, -, rfl⟩ := List.mem_map.mp hslot
      rfl
  ended hpending index slot hslot := by
    cases calls with
    | nil => cases hslot
    | cons call calls => cases hpending

theorem OnCourse.settle (h : f.OnCourse answer) (hpending : f.pending) :
    (f.settle (answer (Wire.encodeRequests (Call.batch f.calls)))).OnCourse answer := by
  obtain ⟨-, hwaiting⟩ := h.waiting hpending
  have hlength :
      (outcomes f.slots.length (answer (Wire.encodeRequests (Call.batch f.calls)))).length =
        f.slots.length := length_outcomes _ _
  have hsent {index : ℕ} {slot : Slot}
      (hslot : (f.settle (answer (Wire.encodeRequests (Call.batch f.calls)))).slots[index]? =
        some slot) :
      ∃ before r, before ∈ f.slots ∧ (results answer f.calls)[index]? = some r ∧
        before.send r = slot := by
    obtain ⟨hlt, -⟩ := List.getElem?_eq_some_iff.mp hslot
    rw [slots_settle, List.length_zipWith, hlength, Nat.min_self] at hlt
    obtain ⟨r, hr, hsend⟩ := f.getElem?_slots_settle (answer _) (List.getElem?_eq_getElem hlt)
    rw [h.length] at hr
    exact ⟨f.slots[index], r, List.getElem_mem hlt, hr, Option.some.inj (hsend.symm.trans hslot)⟩
  constructor
  · rw [slots_settle, List.length_zipWith, hlength, Nat.min_self]
    exact h.length
  · intro slot hslot
    obtain ⟨index, hindex⟩ := List.mem_iff_getElem?.mp hslot
    obtain ⟨before, r, hbefore, -, rfl⟩ := hsent hindex
    exact (before.taken_send r).trans (h.inHand before hbefore)
  · intro hagain
    cases hagain
  · intro _ index slot hslot
    obtain ⟨before, r, hbefore, hr, rfl⟩ := hsent hslot
    exact ⟨r, hr, Slot.sight_send_of_pending r (hwaiting before hbefore)⟩

theorem OnCourse.look (h : f.OnCourse answer) (index : ℕ) :
    (f.modifySlot index (Slot.tryResult · f.pending)).OnCourse answer := by
  have hlooked {i : ℕ} {slot : Slot}
      (hslot : (f.modifySlot index (Slot.tryResult · f.pending)).slots[i]? = some slot) :
      ∃ before, f.slots[i]? = some before ∧ slot.taken = before.taken ∧
        slot.sight f.pending = before.sight f.pending := by
    rw [modifySlot, List.getElem?_modify] at hslot
    obtain ⟨before, hbefore, rfl⟩ := Option.map_eq_some_iff.mp hslot
    refine ⟨before, hbefore, ?_⟩
    split
    · exact ⟨before.taken_tryResult _, before.sight_tryResult _⟩
    · exact ⟨rfl, rfl⟩
  constructor
  · exact (List.length_modify _ _ _).trans h.length
  · intro slot hslot
    obtain ⟨i, hi⟩ := List.mem_iff_getElem?.mp hslot
    obtain ⟨before, hbefore, htaken, -⟩ := hlooked hi
    exact htaken.trans (h.inHand before (List.mem_of_getElem? hbefore))
  · intro hpending
    obtain ⟨hne, hwaiting⟩ := h.waiting hpending
    refine ⟨hne, fun slot hslot ↦ ?_⟩
    obtain ⟨i, hi⟩ := List.mem_iff_getElem?.mp hslot
    obtain ⟨before, hbefore, -, hsight⟩ := hlooked hi
    rw [show f.pending = true from hpending] at hsight
    exact hsight.trans (hwaiting before (List.mem_of_getElem? hbefore))
  · intro hended i slot hslot
    obtain ⟨before, hbefore, -, hsight⟩ := hlooked hslot
    rw [show f.pending = false from hended] at hsight
    obtain ⟨r, hr, hshown⟩ := h.ended hended i before hbefore
    exact ⟨r, hr, hsight.trans hshown⟩

end Flight

/-! ## All batches -/

theorem map_modify_of_eq {α β : Type} {f : α → β} {g : α → α} (h : ∀ a, f (g a) = f a) (l : List α)
    (i : ℕ) : (l.modify i g).map f = l.map f := by
  refine List.ext_getElem? fun j ↦ ?_
  rw [List.getElem?_map, List.getElem?_map, List.getElem?_modify]
  cases l[j]? with
  | none => rfl
  | some a =>
    refine congrArg some ?_
    dsimp only
    split
    · exact h a
    · rfl

namespace Dispatcher

variable {ω : Type} {transport : Transport ω} {answer : Body → Except RemoteError Body}
  {inv : ω → Prop}
  {trips : ω → ℕ} {before : ℕ} {d : Dispatcher ω}

/-- Each batch is on its course, and there has been one round trip for each batch that has ended. -/
structure OnCourse (answer : Body → Except RemoteError Body) (inv : ω → Prop) (trips : ω → ℕ)
    (before : ℕ) (d : Dispatcher ω) : Prop where
  runs : d.closed = false
  site : inv d.site
  flights : ∀ f ∈ d.flights, f.OnCourse answer
  trips : trips d.site = before + d.flights.countP Flight.hasRun

namespace OnCourse

theorem enqueue (h : d.OnCourse answer inv trips before) (calls : List Call) :
    (d.enqueue calls).OnCourse answer inv trips before where
  runs := h.runs
  site := h.site
  flights f hf := by
    rcases List.mem_append.mp hf with hf | hf
    · exact h.flights f hf
    · obtain rfl := List.mem_singleton.mp hf
      exact Flight.onCourse_start calls
  trips := by
    have hstart : (Flight.start calls).hasRun = false := by
      cases calls <;> rfl
    rw [Dispatcher.enqueue, List.countP_append, List.countP_singleton, hstart]
    exact h.trips

theorem execute (hsteady : transport.Steady answer inv trips)
    (h : d.OnCourse answer inv trips before)
    (batch : ℕ) : (d.execute transport batch).OnCourse answer inv trips before ∧
      (d.execute transport batch).flights.map Flight.calls = d.flights.map Flight.calls := by
  cases hf : d.flights[batch]? with
  | none =>
    rw [Dispatcher.execute, hf]
    exact ⟨h, rfl⟩
  | some f =>
    cases hpending : f.pending with
    | false =>
      rw [Dispatcher.execute, hf]
      simp only [hpending, Bool.false_eq_true, if_false]
      exact ⟨h, trivial⟩
    | true =>
      obtain ⟨hlt, rfl⟩ := List.getElem?_eq_some_iff.mp hf
      have hcourse := h.flights _ (List.getElem_mem hlt)
      have hreply : d.reply transport d.flights[batch].calls =
          answer (Wire.encodeRequests (Call.batch d.flights[batch].calls)) :=
        hsteady.reply _ h.site
      have hcalls : d.flights[batch].calls.isEmpty = false :=
        List.isEmpty_eq_false_iff.mpr (hcourse.waiting hpending).1
      rw [execute_of_pending transport hf hpending, hreply]
      refine ⟨⟨h.runs, hsteady.keeps _ h.site, fun f hf ↦ ?_, ?_⟩, ?_⟩
      · rcases List.mem_or_eq_of_mem_set hf with hf | rfl
        · exact h.flights f hf
        · exact hcourse.settle hpending
      · -- One round trip more, and one batch more that has ended.
        have hran : (d.flights[batch].settle
            (answer (Wire.encodeRequests (Call.batch d.flights[batch].calls)))).hasRun = true := by
          simp [Flight.hasRun, Flight.settle, hcalls]
        have hwaits : d.flights[batch].hasRun = false := by
          simp [Flight.hasRun, hpending]
        rw [hsteady.counts _ h.site, h.trips, List.countP_set hlt, hran, hwaits]
        rfl
      · have hself := List.set_getElem_self
          (show batch < (d.flights.map Flight.calls).length by rwa [List.length_map])
        rw [List.getElem_map] at hself
        exact (List.map_set).trans hself

theorem look (h : d.OnCourse answer inv trips before) (batch index : ℕ) :
    (d.modifySlot batch index Slot.tryResult).OnCourse answer inv trips before ∧
      (d.modifySlot batch index Slot.tryResult).flights.map Flight.calls =
        d.flights.map Flight.calls := by
  have hcalls : (d.modifySlot batch index Slot.tryResult).flights.map Flight.calls =
      d.flights.map Flight.calls := map_modify_of_eq (fun _ ↦ by rfl) _ _
  have hran : (d.modifySlot batch index Slot.tryResult).flights.map Flight.hasRun =
      d.flights.map Flight.hasRun := map_modify_of_eq (fun _ ↦ by rfl) _ _
  have hcount := congrArg (List.countP id) hran
  rw [List.countP_map, List.countP_map] at hcount
  refine ⟨⟨h.runs, h.site, fun f hf ↦ ?_, h.trips.trans (congrArg _ hcount.symm)⟩, hcalls⟩
  obtain ⟨b, hb⟩ := List.mem_iff_getElem?.mp hf
  rw [modifySlot, List.getElem?_modify] at hb
  obtain ⟨g, hg, rfl⟩ := Option.map_eq_some_iff.mp hb
  have hcourse := h.flights g (List.mem_of_getElem? hg)
  split
  · exact hcourse.look index
  · exact hcourse

/-- **A run of a schedule keeps to the course**, and dispatches its batches in order. -/
theorem run (hsteady : transport.Steady answer inv trips) {batches : List (List Call)}
    {events : List Event} (hevents : Schedule batches events)
    (h : d.OnCourse answer inv trips before) :
    (Dispatcher.run transport d events).2.OnCourse answer inv trips before ∧
      (Dispatcher.run transport d events).2.flights.map Flight.calls =
        d.flights.map Flight.calls ++ batches := by
  induction hevents generalizing d with
  | nil => exact ⟨h, (List.append_nil _).symm⟩
  | @dispatch calls mode batches events _ ih =>
    have henqueue : (d.enqueue calls).flights.map Flight.calls =
        d.flights.map Flight.calls ++ [calls] := List.map_append
    have hdispatch : (d.dispatch transport calls mode).OnCourse answer inv trips before ∧
        (d.dispatch transport calls mode).flights.map Flight.calls =
          d.flights.map Flight.calls ++ [calls] := by
      cases mode with
      | blocking =>
        obtain ⟨hcourse, hcalls⟩ := (h.enqueue calls).execute hsteady d.flights.length
        exact ⟨hcourse, hcalls.trans henqueue⟩
      | async =>
        rw [Dispatcher.dispatch, if_neg (by rw [h.runs]; decide)]
        exact ⟨h.enqueue calls, henqueue⟩
    obtain ⟨hcourse, hcalls⟩ := ih hdispatch.1
    refine ⟨hcourse, hcalls.trans ?_⟩
    rw [hdispatch.2, List.append_assoc]
    rfl
  | execute batch _ ih =>
    obtain ⟨hcourse, hcalls⟩ := h.execute hsteady batch
    obtain ⟨hcourse', hcalls'⟩ := ih hcourse
    exact ⟨hcourse', hcalls'.trans (congrArg (· ++ _) hcalls)⟩
  | look batch index _ ih =>
    obtain ⟨hcourse, hcalls⟩ := h.look batch index
    obtain ⟨hcourse', hcalls'⟩ := ih hcourse
    exact ⟨hcourse', hcalls'.trans (congrArg (· ++ _) hcalls)⟩

/-- A batch that has ended has the results of its own reply, for good. -/
theorem settled (h : d.OnCourse answer inv trips before) {batch index : ℕ} {f : Flight}
    (hf : d.flights[batch]? = some f) (hended : f.pending = false)
    (hindex : index < f.calls.length) :
    ∃ r, (Flight.results answer f.calls)[index]? = some r ∧ d.Settled transport batch index r := by
  have hcourse := h.flights f (List.mem_of_getElem? hf)
  have hslot := List.getElem?_eq_getElem (hcourse.length ▸ hindex)
  obtain ⟨r, hr, hsight⟩ := hcourse.ended hended index _ hslot
  have hget : d.slot? batch index = some (_, false) := slot?_eq_some_iff.mpr ⟨f, hf, hslot, hended⟩
  exact ⟨r, hr, settled_of_look transport ((look_eq hget).trans hsight)⟩

end OnCourse

/-! ## Whole schedules -/

/-- A schedule that leaves nothing pending. -/
structure Completes (transport : Transport ω) (site : ω) (batches : List (List Call))
    (events : List Event) : Prop where
  schedule : Schedule batches events
  ended : ∀ f ∈ (run transport { site } events).2.flights, f.pending = false

namespace Completes

variable {site : ω} {batches : List (List Call)} {events : List Event}

theorem onCourse (h : Completes transport site batches events)
    (hsteady : transport.Steady answer inv trips) (hsite : inv site) :
    (run transport { site } events).2.OnCourse answer inv trips (trips site) ∧
      (run transport { site } events).2.flights.map Flight.calls = batches := by
  have hstart : (Dispatcher.mk site [] false).OnCourse answer inv trips (trips site) :=
    ⟨rfl, hsite, fun _ hf ↦ absurd hf List.not_mem_nil, rfl⟩
  exact hstart.run hsteady h.schedule

theorem trips_eq (h : Completes transport site batches events)
    (hsteady : transport.Steady answer inv trips) (hsite : inv site) :
    trips (run transport { site } events).2.site =
      trips site + batches.countP fun calls ↦ !calls.isEmpty := by
  obtain ⟨hcourse, hcalls⟩ := h.onCourse hsteady hsite
  rw [hcourse.trips, ← hcalls, List.countP_map]
  refine congrArg _ (List.countP_congr fun f hf ↦ ?_)
  simp [Flight.hasRun, h.ended f hf]

/-- Each handle has the result that its batch has of its own. -/
theorem settled (h : Completes transport site batches events)
    (hsteady : transport.Steady answer inv trips) (hsite : inv site) {batch index : ℕ}
    {calls : List Call} (hbatch : batches[batch]? = some calls) (hindex : index < calls.length) :
    ∃ r, (Flight.results answer calls)[index]? = some r ∧
      (run transport { site } events).2.Settled transport batch index r := by
  obtain ⟨hcourse, hcalls⟩ := h.onCourse hsteady hsite
  rw [← hcalls, List.getElem?_map] at hbatch
  obtain ⟨f, hf, rfl⟩ := Option.map_eq_some_iff.mp hbatch
  exact hcourse.settled hf (h.ended f (List.mem_of_getElem? hf)) hindex

end Completes

/-- **The schedule does not matter.** Two schedules of the same batches that leave nothing pending
leave the same result in each handle, after as many round trips as there are batches with calls. A
blocking dispatch, of whatever dispatcher, runs its own round trip and no other, and leaves its own
handles settled. -/
theorem schedules_agree (hsteady : transport.Steady answer inv trips) {site : ω} (hsite : inv site)
    {batches : List (List Call)} {events events' : List Event}
    (h : Completes transport site batches events) (h' : Completes transport site batches events') :
    let d := (run transport { site } events).2
    let d' := (run transport { site } events').2
    (∀ (batch index : ℕ) (calls : List Call), batches[batch]? = some calls → index < calls.length →
      ∃ r, d.Settled transport batch index r ∧ d'.Settled transport batch index r) ∧
    (trips d.site = trips site + batches.countP (fun calls ↦ !calls.isEmpty) ∧
      trips d'.site = trips site + batches.countP fun calls ↦ !calls.isEmpty) ∧
    ∀ (d : Dispatcher ω) (calls : List Call),
      let after := d.dispatch transport calls .blocking
      (after.site = if calls = [] then d.site else
        (transport.roundTrip (Wire.encodeRequests (Call.batch calls)) d.site).2) ∧
      (∀ batch < d.flights.length, after.flights[batch]? = d.flights[batch]?) ∧
      ∀ index < calls.length, ∃ r, after.Settled transport d.flights.length index r := by
  refine ⟨fun batch index calls hbatch hindex ↦ ?_,
    ⟨h.trips_eq hsteady hsite, h'.trips_eq hsteady hsite⟩,
    fun d calls ↦ ⟨?_, fun batch hb ↦ ?_, ?_⟩⟩
  · obtain ⟨r, hr, hsettled⟩ := h.settled hsteady hsite hbatch hindex
    obtain ⟨r', hr', hsettled'⟩ := h'.settled hsteady hsite hbatch hindex
    obtain rfl := Option.some.inj (hr.symm.trans hr')
    exact ⟨r, hsettled, hsettled'⟩
  · have hlast := d.flights_enqueue calls
    rw [dispatch]
    cases calls with
    | nil =>
      rw [Dispatcher.execute, hlast]
      rfl
    | cons call calls =>
      rw [execute_of_pending transport hlast rfl]
      rfl
  · exact flights_dispatch_of_lt transport d calls .blocking hb
  · intro index hindex
    obtain ⟨r, -, hsettled⟩ := settled_dispatch transport d .blocking hindex
    exact ⟨r, hsettled⟩

end Dispatcher

/-! ## A local site without state -/

/-- The replies of a local site whose handlers keep no state depend on the body only, as long as the
handlers stay and the site is not told to fail. -/
theorem LocalSite.steady (handlers : List (Text × Handler Unit)) :
    transport.Steady (fun body ↦ (roundTrip body { handlers, memory := () }).1)
      (fun site ↦ site.handlers = handlers ∧ site.failure = none) LocalSite.roundTrips := by
  constructor
  · rintro body ⟨_, _, roundTrips, batches, _⟩ ⟨rfl, rfl⟩
    simp only [transport, roundTrip]
    cases Wire.decodeRequests body <;> rfl
  · rintro body ⟨_, _, roundTrips, batches, _⟩ ⟨rfl, rfl⟩
    simp only [transport, roundTrip]
    cases Wire.decodeRequests body <;> exact ⟨rfl, rfl⟩
  · rintro body ⟨_, _, roundTrips, batches, _⟩ ⟨rfl, rfl⟩
    simp only [transport, roundTrip]
    cases Wire.decodeRequests body <;> rfl

namespace Dispatcher

/-- A site that gives back the arguments of a call. -/
def echoSite : LocalSite Unit where
  handlers := [("echo".toList, fun args memory ↦ (.ok (.object args), memory))]
  memory := ()

/-- Three batches, of which the second has no calls. The third calls a function that there is
not. -/
def threeBatches : List (List Call) :=
  [[{ method := "echo".toList }], [], [{ method := "echo".toList }, { method := "no".toList }]]

theorem schedules_agree_of_echo :
    let d := (run LocalSite.transport { site := echoSite }
      (threeBatches.map (.dispatch · .async) ++ [.execute 2, .look 0 0, .execute 0])).2
    let d' := (run LocalSite.transport { site := echoSite }
      (threeBatches.map (.dispatch · .blocking))).2
    (∃ r, d.Settled LocalSite.transport 2 1 r ∧ d'.Settled LocalSite.transport 2 1 r) ∧
      d.site.roundTrips = 2 ∧ d'.site.roundTrips = 2 := by
  have hlate : Completes LocalSite.transport echoSite threeBatches
      (threeBatches.map (.dispatch · .async) ++ [.execute 2, .look 0 0, .execute 0]) := {
    schedule :=
      .dispatch _ _ (.dispatch _ _ (.dispatch _ _ (.execute 2 (.look 0 0 (.execute 0 .nil)))))
    ended := List.forall_mem_cons.mpr ⟨rfl, List.forall_mem_cons.mpr
      ⟨rfl, List.forall_mem_singleton.mpr rfl⟩⟩ }
  have hatOnce : Completes LocalSite.transport echoSite threeBatches
      (threeBatches.map (.dispatch · .blocking)) := {
    schedule := .dispatch _ _ (.dispatch _ _ (.dispatch _ _ .nil))
    ended := List.forall_mem_cons.mpr ⟨rfl, List.forall_mem_cons.mpr
      ⟨rfl, List.forall_mem_singleton.mpr rfl⟩⟩ }
  obtain ⟨hagree, ⟨htrips, htrips'⟩, -⟩ :=
    schedules_agree (LocalSite.steady echoSite.handlers) ⟨rfl, rfl⟩ hlate hatOnce
  exact ⟨hagree 2 1 _ rfl (by decide), htrips, htrips'⟩

end Dispatcher
end SiteClient
