import SiteClient.Remote.Job
/-!
# Jobs with a known result

`Job.Yields` says what a job comes to when it runs on its own: from any memory and site with one
property, it ends with a certain result, and leaves a memory and a site with another property. The
memory may hold more or less of what the job needs; only the result is fixed. The rules follow the
constructors of jobs and the ways in which jobs are put together.
-/

namespace SiteClient.Job

variable {ω σ τ α β : Type} {transport : Transport ω}

/-- From `pre`, the job ends with the result `a` and `post`. -/
def Yields (transport : Transport ω) (pre : σ → ω → Prop) (job : Job σ α) (a : α)
    (post : σ → ω → Prop) : Prop :=
  ∀ s site, pre s site → (job.run transport s site).1 = a ∧
    post (job.run transport s site).2.1 (job.run transport s site).2.2

/-- The memory and the site are these. -/
def At (s : σ) (site : ω) (s' : σ) (site' : ω) : Prop :=
  s' = s ∧ site' = site

variable {pre mid post : σ → ω → Prop} {a : α} {b : β}

theorem bind_pure (job : Job σ α) : job.bind .pure = job := by
  induction job with
  | pure a => rfl
  | access update next ih => exact congrArg (access update) (funext ih)
  | request calls next ih => exact congrArg (request calls) (funext ih)

theorem run_bind (job : Job σ α) (f : α → Job σ β) (s : σ) (site : ω) :
    (job.bind f).run transport s site =
      (f (job.run transport s site).1).run transport (job.run transport s site).2.1
        (job.run transport s site).2.2 := by
  induction job generalizing s site with
  | pure a => rfl
  | access update next ih => exact ih s (update s) site
  | request calls next ih =>
    exact ih (transport.exchange calls site).1 s (transport.exchange calls site).2

theorem andThen_andThen {ε γ : Type} (job : Job σ (Except ε α)) (f : α → Job σ (Except ε β))
    (g : β → Job σ (Except ε γ)) :
    (job.andThen f).andThen g = job.andThen fun a ↦ (f a).andThen g := by
  rw [Job.andThen, Job.andThen, bind_bind]
  refine congrArg job.bind (funext fun result ↦ ?_)
  cases result <;> rfl

theorem yields_pure : (Job.pure a).Yields transport pre a pre :=
  fun _ _ hpre ↦ ⟨rfl, hpre⟩

theorem yields_access {update : σ → σ} {next : σ → Job σ α}
    (h : ∀ s site, pre s site →
      (next s).Yields transport (At (update s) site) a post) :
    (Job.access update next).Yields transport pre a post :=
  fun s site hpre ↦ h s site hpre (update s) site ⟨rfl, rfl⟩

theorem yields_request {calls : List Call} {next : List CallResult → Job σ α}
    {results : List CallResult}
    (hexchange : ∀ s site, pre s site → (transport.exchange calls site).1 = results ∧
      mid s (transport.exchange calls site).2)
    (hnext : (next results).Yields transport mid a post) :
    (Job.request calls next).Yields transport pre a post := by
  intro s site hpre
  obtain ⟨hresults, hmid⟩ := hexchange s site hpre
  rw [run]
  simp only [hresults]
  exact hnext s _ hmid

namespace Yields

/-- What a job does from any memory and site with a property, it does from those that have it. -/
theorem here {job : Job σ α} {s : σ} {site : ω} (h : job.Yields transport pre a post)
    (hpre : pre s site) : job.Yields transport (At s site) a post := by
  rintro _ _ ⟨rfl, rfl⟩
  exact h _ _ hpre

theorem bind {job : Job σ α} {f : α → Job σ β} (h : job.Yields transport pre a mid)
    (hf : (f a).Yields transport mid b post) : (job.bind f).Yields transport pre b post := by
  intro s site hpre
  obtain ⟨ha, hmid⟩ := h s site hpre
  rw [run_bind, ha]
  exact hf _ _ hmid

theorem andThen_ok {ε : Type} {job : Job σ (Except ε α)} {f : α → Job σ (Except ε β)}
    {result : Except ε β} (h : job.Yields transport pre (.ok a) mid)
    (hf : (f a).Yields transport mid result post) :
    (job.andThen f).Yields transport pre result post :=
  h.bind hf

theorem andThen_error {ε : Type} {job : Job σ (Except ε α)} {f : α → Job σ (Except ε β)} {e : ε}
    (h : job.Yields transport pre (.error e) post) :
    (job.andThen f).Yields transport pre (.error e) post :=
  h.bind yields_pure

theorem andThen {ε : Type} {inv : σ → ω → Prop} {job : Job σ (Except ε α)}
    {f : α → Job σ (Except ε β)} {result : Except ε α} {g : α → Except ε β}
    (h : job.Yields transport inv result inv) (hf : ∀ a, (f a).Yields transport inv (g a) inv) :
    (job.andThen f).Yields transport inv (result.bind g) inv := by
  cases result with
  | error e => exact h.andThen_error
  | ok a => exact h.andThen_ok (hf a)

end Yields

theorem run_zoom (get : τ → σ) (put : σ → τ → τ) (hget : ∀ s t, get (put s t) = s)
    (hput : ∀ s s' t, put s (put s' t) = put s t) (hself : ∀ t, put (get t) t = t) (job : Job σ α)
    (t : τ) (site : ω) :
    (job.zoom get put).run transport t site =
      ((job.run transport (get t) site).1, put (job.run transport (get t) site).2.1 t,
        (job.run transport (get t) site).2.2) := by
  induction job generalizing t site with
  | pure a => rw [zoom, run, run, hself]
  | access update next ih =>
    rw [zoom, run, run, ih, hget]
    simp only [hput]
  | request calls next ih =>
    rw [zoom, run, run]
    exact ih _ t _

theorem Yields.zoom (get : τ → σ) (put : σ → τ → τ) (hget : ∀ s t, get (put s t) = s)
    (hput : ∀ s s' t, put s (put s' t) = put s t) (hself : ∀ t, put (get t) t = t) {job : Job σ α}
    {preT postT : τ → ω → Prop} (h : job.Yields transport pre a post)
    (hpre : ∀ t site, preT t site → pre (get t) site)
    (hpost : ∀ t site site' s, preT t site → post s site' → postT (put s t) site') :
    (job.zoom get put).Yields transport preT a postT := by
  intro t site ht
  obtain ⟨ha, hs⟩ := h (get t) site (hpre t site ht)
  rw [run_zoom get put hget hput hself]
  exact ⟨ha, hpost t site _ _ ht hs⟩

end SiteClient.Job
