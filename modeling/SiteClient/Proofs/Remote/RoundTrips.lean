import SiteClient.Proofs.Remote.Running
/-!
# The round trips of a job

`Job.run` tells what a job comes to, but not how often it went to the site on its way. `Job.trips`
lists the batches that it sent, and follows the same recursion, so both can be taken apart at the
same places. That these are the bodies which the transport moved, in order, each once, is
`Job.run_recording`.
-/

namespace SiteClient

/-- The round trip of a batch. No calls, no round trip. -/
def tripOf (calls : List Call) : List (List Call) :=
  if calls = [] then [] else [calls]

theorem tripOf_of_ne_nil {calls : List Call} (h : calls ≠ []) : tripOf calls = [calls] :=
  if_neg h

namespace Job

variable {ω σ τ α β : Type} {transport : Transport ω}

/-- The batches that a job sends when it runs on its own, in order. -/
def trips (transport : Transport ω) : Job σ α → σ → ω → List (List Call)
  | .pure _, _, _ => []
  | .access update next, s, site => (next s).trips transport (update s) site
  | .request calls next, s, site =>
    tripOf calls ++
      (next (transport.exchange calls site).1).trips transport s (transport.exchange calls site).2

theorem trips_bind (job : Job σ α) (f : α → Job σ β) (s : σ) (site : ω) :
    (job.bind f).trips transport s site =
      job.trips transport s site ++
        (f (job.run transport s site).1).trips transport (job.run transport s site).2.1
          (job.run transport s site).2.2 := by
  induction job generalizing s site with
  | pure a => rfl
  | access update next ih => exact ih s (update s) site
  | request calls next ih =>
    have hnext := ih (transport.exchange calls site).1 s (transport.exchange calls site).2
    rw [Job.bind, trips, hnext, ← List.append_assoc]
    rfl

theorem trips_bind_of_nil (job : Job σ α) {f : α → Job σ β}
    (hf : ∀ a s site, (f a).trips transport s site = []) (s : σ) (site : ω) :
    (job.bind f).trips transport s site = job.trips transport s site := by
  rw [trips_bind, hf, List.append_nil]

theorem trips_andThen_of_error {ε : Type} {job : Job σ (Except ε α)} (f : α → Job σ (Except ε β))
    {s : σ} {site : ω} {e : ε} (h : (job.run transport s site).1 = .error e) :
    (job.andThen f).trips transport s site = job.trips transport s site := by
  rw [andThen, trips_bind, h]
  exact List.append_nil _

theorem trips_andThen_of_ok {ε : Type} {job : Job σ (Except ε α)} (f : α → Job σ (Except ε β))
    {s : σ} {site : ω} {a : α} (h : (job.run transport s site).1 = .ok a) :
    (job.andThen f).trips transport s site =
      job.trips transport s site ++
        (f a).trips transport (job.run transport s site).2.1 (job.run transport s site).2.2 := by
  rw [andThen, trips_bind, h]

theorem run_andThen_of_error {ε : Type} {job : Job σ (Except ε α)} (f : α → Job σ (Except ε β))
    {s : σ} {site : ω} {e : ε} (h : (job.run transport s site).1 = .error e) :
    (job.andThen f).run transport s site =
      (.error e, (job.run transport s site).2.1, (job.run transport s site).2.2) := by
  rw [andThen, run_bind, h]
  rfl

theorem run_andThen_of_ok {ε : Type} {job : Job σ (Except ε α)} (f : α → Job σ (Except ε β))
    {s : σ} {site : ω} {a : α} (h : (job.run transport s site).1 = .ok a) :
    (job.andThen f).run transport s site =
      (f a).run transport (job.run transport s site).2.1 (job.run transport s site).2.2 := by
  rw [andThen, run_bind, h]

theorem trips_zoom (get : τ → σ) (put : σ → τ → τ) (hget : ∀ s t, get (put s t) = s) (job : Job σ α)
    (t : τ) (site : ω) :
    (job.zoom get put).trips transport t site = job.trips transport (get t) site := by
  induction job generalizing t site with
  | pure a => rfl
  | access update next ih => rw [zoom, trips, trips, ih, hget]
  | request calls next ih => rw [zoom, trips, trips, ih]

end Job

/-! ## What the transport moves -/

/-- A transport that keeps the bodies it has moved, oldest first. -/
def Transport.recording {ω : Type} (transport : Transport ω) : Transport (ω × List Body) where
  name := transport.name
  roundTrip body state :=
    let (reply, site) := transport.roundTrip body state.1
    (reply, site, state.2 ++ [body])

theorem Transport.exchange_recording {ω : Type} (transport : Transport ω)
    (calls : List Call) (site : ω) (moved : List Body) :
    transport.recording.exchange calls (site, moved) =
      ((transport.exchange calls site).1, (transport.exchange calls site).2,
        moved ++ (tripOf calls).map fun calls ↦ Wire.encodeRequests (Call.batch calls)) := by
  unfold exchange tripOf
  split
  · rw [List.map_nil, List.append_nil]
  · rfl

/-- The bodies that a transport moves for a job are those of its batches, in order. -/
theorem Job.run_recording {ω σ α : Type} (transport : Transport ω) (job : Job σ α)
    (s : σ) (site : ω) (moved : List Body) :
    job.run transport.recording s (site, moved) =
      ((job.run transport s site).1, (job.run transport s site).2.1, (job.run transport s site).2.2,
        moved ++ (job.trips transport s site).map fun calls ↦
          Wire.encodeRequests (Call.batch calls)) := by
  induction job generalizing s site moved with
  | pure a =>
    rw [trips, List.map_nil, List.append_nil]
    rfl
  | access update next ih => exact ih s (update s) site moved
  | request calls next ih =>
    rw [run, Transport.exchange_recording]
    refine (ih _ s _ _).trans ?_
    rw [trips, List.map_append, ← List.append_assoc]
    rfl

end SiteClient
