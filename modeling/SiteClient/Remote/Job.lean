import SiteClient.Remote.RoundTrip
/-!
# Jobs

A job is a computation that uses a memory shared with other jobs and waits for round trips. Between
two round trips it runs without interruption; while it waits, other jobs may use the memory. So all
that other jobs can notice of a job, and it of them, is in the order of its steps.

`Job.run` runs a job on its own. A `Pool` runs several jobs over one memory; which job goes on
when is a list of events, so that any interleaving can be stated.
-/

namespace SiteClient

/-- A computation of an `α` with a shared memory of type `σ` and round trips. -/
inductive Job (σ α : Type) : Type where
  | pure (a : α)
  /-- Changes the memory; goes on by what the memory was. -/
  | access (update : σ → σ) (next : σ → Job σ α)
  /-- Sends calls as one batch; goes on by their results. -/
  | request (calls : List Call) (next : List CallResult → Job σ α)

namespace Job

variable {σ τ α β : Type}

/-- A job followed by another. -/
protected def bind (job : Job σ α) (f : α → Job σ β) : Job σ β :=
  match job with
  | .pure a => f a
  | .access update next => .access update fun s ↦ (next s).bind f
  | .request calls next => .request calls fun results ↦ (next results).bind f

instance : Monad (Job σ) where
  pure := Job.pure
  bind := Job.bind

def get : Job σ σ :=
  .access id .pure

def modify (update : σ → σ) : Job σ Unit :=
  .access update fun _ ↦ .pure ()

/-- Changes the memory and takes something out of it. -/
def modifyGet (f : σ → α × σ) : Job σ α :=
  .access (fun s ↦ (f s).2) fun s ↦ .pure (f s).1

/-- A job that may fail, followed by another if it does not. -/
def andThen {ε : Type} (job : Job σ (Except ε α)) (f : α → Job σ (Except ε β)) :
    Job σ (Except ε β) :=
  job.bind fun
    | .error e => .pure (.error e)
    | .ok a => f a

theorem bind_bind {γ : Type} (job : Job σ α) (f : α → Job σ β) (g : β → Job σ γ) :
    (job.bind f).bind g = job.bind fun a ↦ (f a).bind g := by
  induction job with
  | pure a => rfl
  | access update next ih => simp only [Job.bind, ih]
  | request calls next ih => simp only [Job.bind, ih]

/-- A job with its errors under another name. -/
def mapError {ε δ : Type} (f : ε → δ) (job : Job σ (Except ε α)) : Job σ (Except δ α) :=
  job.bind fun result ↦ .pure (result.mapError f)

/-- Sends calls as one batch. No calls, no round trip. -/
def send (calls : List Call) : Job σ (List CallResult) :=
  if calls = [] then .pure [] else .request calls .pure

/-- Sends one call as a batch of its own. -/
def sendOne (call : Call) : Job σ CallResult :=
  .request [call] fun results ↦ .pure (results.headD (.error .dropped))

/-- A job on a part of a larger memory. -/
def zoom (get : τ → σ) (put : σ → τ → τ) : Job σ α → Job τ α
  | .pure a => .pure a
  | .access update next =>
    .access (fun t ↦ put (update (get t)) t) fun t ↦ (next (get t)).zoom get put
  | .request calls next => .request calls fun results ↦ (next results).zoom get put

/-- How far a job comes without a round trip. -/
inductive Progress (σ α : Type) : Type where
  | done (a : α)
  | waiting (calls : List Call) (next : List CallResult → Job σ α)

/-- Runs a job up to its next round trip. -/
def poll : Job σ α → σ → Progress σ α × σ
  | .pure a, s => (.done a, s)
  | .access update next, s => (next s).poll (update s)
  | .request calls next, s => (.waiting calls next, s)

/-- Runs a job to its end over a transport. -/
def run {ω : Type} (transport : Transport ω) : Job σ α → σ → ω → α × σ × ω
  | .pure a, s, site => (a, s, site)
  | .access update next, s, site => (next s).run transport (update s) site
  | .request calls next, s, site =>
    let (results, site) := transport.exchange calls site
    (next results).run transport s site

end Job

/-- A job that may be in the middle of a round trip. -/
inductive Thread (σ α : Type) : Type where
  | ready (job : Job σ α)
  | waiting (calls : List Call) (next : List CallResult → Job σ α)
  | done (a : α)

/-- Jobs over one memory and one site. -/
structure Pool (ω σ α : Type) : Type where
  threads : List (Thread σ α)
  memory : σ
  site : ω

namespace Pool

variable {ω σ α : Type}

/-- Jobs that have not been started. -/
def start (jobs : List (Job σ α)) (memory : σ) (site : ω) : Pool ω σ α :=
  ⟨jobs.map .ready, memory, site⟩

/-- Something that happens to the job with the given number. -/
inductive Event where
  /-- The job runs up to its next round trip. -/
  | poll (thread : Nat)
  /-- The round trip that the job waits for takes place. -/
  | deliver (thread : Nat)
  deriving DecidableEq, Repr

/-- What comes of an event. A job that cannot go on stays as it is. -/
def step (transport : Transport ω) (pool : Pool ω σ α) : Event → Pool ω σ α
  | .poll i =>
    match pool.threads[i]? with
    | some (.ready job) =>
      match job.poll pool.memory with
      | (.done a, memory) => { pool with threads := pool.threads.set i (.done a), memory }
      | (.waiting calls next, memory) =>
        { pool with threads := pool.threads.set i (.waiting calls next), memory }
    | _ => pool
  | .deliver i =>
    match pool.threads[i]? with
    | some (.waiting calls next) =>
      let (results, site) := transport.exchange calls pool.site
      { pool with threads := pool.threads.set i (.ready (next results)), site }
    | _ => pool

/-- What comes of events, one after the other. -/
def run (transport : Transport ω) (pool : Pool ω σ α) (events : List Event) : Pool ω σ α :=
  events.foldl (step transport) pool

/-- All jobs in turn run up to their next round trips; then these take place in the same order. -/
def lap (threads : Nat) : List Event :=
  (List.range threads).map .poll ++ (List.range threads).map .deliver

/-- Jobs that are started together and go on in turn, for so many laps. -/
def laps (threads : Nat) : Nat → List Event
  | 0 => []
  | n + 1 => lap threads ++ laps threads n

/-- The results of the jobs; `none` for a job that has not ended. -/
def results (pool : Pool ω σ α) : List (Option α) :=
  pool.threads.map fun
    | .done a => some a
    | _ => none

end Pool
end SiteClient
