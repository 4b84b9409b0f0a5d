import Mathlib.Logic.Relation
import SiteClient.Remote.Job
/-!
# Jobs among other jobs

`Pool.step` lets a job run from one round trip to the next in one go. Here a job is interrupted
wherever it may be: a *move* is one access to the memory, one batch sent, one reply received or the
end of one job, and between two moves the site may turn into any other. The events of `Pool.run` are
made of such steps (`Pool.reaches_run`), so what holds of every pool that steps lead to holds of
every run.

Where steps lead says nothing of the replies on the way, which a pool forgets once they have been
received. `Pool.Course` keeps them: a course is a run of steps with the deliveries that took place
in it.
-/

namespace SiteClient

/-! ## Steps of a pool -/

namespace Pool

variable {ω σ α : Type} {transport : Transport ω} {pool pool' : Pool ω σ α}

/-- What the job with number `i` does before another job may go on. -/
inductive Move (transport : Transport ω) (i : Nat) : Pool ω σ α → Pool ω σ α → Prop
  | finish {pool : Pool ω σ α} {a : α} (h : pool.threads[i]? = some (.ready (.pure a))) :
      Move transport i pool { pool with threads := pool.threads.set i (.done a) }
  | access {pool : Pool ω σ α} {update : σ → σ} {next : σ → Job σ α}
      (h : pool.threads[i]? = some (.ready (.access update next))) :
      Move transport i pool { pool with
        threads := pool.threads.set i (.ready (next pool.memory)), memory := update pool.memory }
  | request {pool : Pool ω σ α} {calls : List Call} {next : List CallResult → Job σ α}
      (h : pool.threads[i]? = some (.ready (.request calls next))) :
      Move transport i pool { pool with threads := pool.threads.set i (.waiting calls next) }
  | deliver {pool : Pool ω σ α} {calls : List Call} {next : List CallResult → Job σ α}
      (h : pool.threads[i]? = some (.waiting calls next)) :
      Move transport i pool { pool with
        threads := pool.threads.set i (.ready (next (transport.exchange calls pool.site).1))
        site := (transport.exchange calls pool.site).2 }

/-- A job moves, or the site turns into another. -/
inductive Step (transport : Transport ω) : Pool ω σ α → Pool ω σ α → Prop
  | move {pool pool' : Pool ω σ α} (i : Nat) (h : Move transport i pool pool') :
      Step transport pool pool'
  | turn (pool : Pool ω σ α) (site : ω) : Step transport pool { pool with site }

/-- Some steps lead from one pool to another. -/
def Reaches (transport : Transport ω) : Pool ω σ α → Pool ω σ α → Prop :=
  Relation.ReflTransGen (Step transport)

theorem threads_of_results {i : Nat} {a : α} (h : pool.results[i]? = some (some a)) :
    pool.threads[i]? = some (.done a) := by
  rw [results, List.getElem?_map, Option.map_eq_some_iff] at h
  obtain ⟨thread, hthread, ha⟩ := h
  cases thread with
  | ready job => exact absurd ha (by simp)
  | waiting calls next => exact absurd ha (by simp)
  | done b => rw [hthread, Option.some.inj ha]

theorem Move.threads_of_waiting {i : Nat} (hmove : Move transport i pool pool') {calls : List Call}
    {next : List CallResult → Job σ α} (h : pool.threads[i]? = some (.waiting calls next)) :
    pool'.threads[i]? = some (.ready (next (transport.exchange calls pool.site).1)) := by
  cases hmove with
  | finish hi | access hi | request hi => exact absurd (h.symm.trans hi) (by simp)
  | deliver hi =>
    obtain ⟨rfl, rfl⟩ := Thread.waiting.inj (Option.some.inj (h.symm.trans hi))
    obtain ⟨hlt, -⟩ := List.getElem?_eq_some_iff.1 h
    exact List.getElem?_set_self hlt

/-- A job that runs up to its next round trip makes moves, and waits before none of them: what these
keep holds at the end. -/
theorem poll_induction {P : Pool ω σ α → Prop} {i : Nat}
    (hmove : ∀ ⦃pool pool' : Pool ω σ α⦄ ⦃job : Job σ α⦄, P pool →
      pool.threads[i]? = some (.ready job) → Move transport i pool pool' → P pool')
    (job : Job σ α) (h : P pool) (hi : pool.threads[i]? = some (.ready job)) :
    P (step transport pool (.poll i)) := by
  induction job generalizing pool with
  | pure a =>
    have hstep : step transport pool (.poll i) =
        { pool with threads := pool.threads.set i (.done a) } := by
      simp only [step, hi, Job.poll]
    rw [hstep]
    exact hmove h hi (.finish hi)
  | access update next ih =>
    let later : Pool ω σ α := { pool with
      threads := pool.threads.set i (.ready (next pool.memory)), memory := update pool.memory }
    have hlater : later.threads[i]? = some (.ready (next pool.memory)) := by
      obtain ⟨hlt, -⟩ := List.getElem?_eq_some_iff.1 hi
      simp [later, hlt]
    have hstep : step transport pool (.poll i) = step transport later (.poll i) := by
      simp only [step, hi, hlater, Job.poll]
      simp only [later, List.set_set]
    -- The run goes on from the pool after the access, with a shorter job.
    rw [hstep]
    exact ih pool.memory (hmove h hi (.access hi)) hlater
  | request calls next =>
    have hstep : step transport pool (.poll i) =
        { pool with threads := pool.threads.set i (.waiting calls next) } := by
      simp only [step, hi, Job.poll]
    rw [hstep]
    exact hmove h hi (.request hi)

/-! ## Courses -/

/-- Calls that a job has sent, with their results. -/
structure Delivery where
  thread : Nat
  calls : List Call
  results : List CallResult

/-- What the job with number `i` receives when it moves, if it is waiting. -/
def due (transport : Transport ω) (pool : Pool ω σ α) (i : Nat) : List Delivery :=
  match pool.threads[i]? with
  | some (.waiting calls _) => [⟨i, calls, (transport.exchange calls pool.site).1⟩]
  | _ => []

theorem due_of_waiting {i : Nat} {calls : List Call} {next : List CallResult → Job σ α}
    (h : pool.threads[i]? = some (.waiting calls next)) :
    due transport pool i = [⟨i, calls, (transport.exchange calls pool.site).1⟩] := by
  simp only [due, h]

theorem due_eq_nil_or (pool : Pool ω σ α) (i : Nat) :
    due transport pool i = [] ∨
      ∃ calls next, pool.threads[i]? = some (.waiting calls next) := by
  unfold due
  split
  · rename_i calls next hi
    exact .inr ⟨calls, next, hi⟩
  · exact .inl rfl

theorem due_of_ready {i : Nat} {job : Job σ α} (h : pool.threads[i]? = some (.ready job)) :
    due transport pool i = [] := by
  simp only [due, h]

/-- Steps that lead from one pool to another, with the deliveries on the way, oldest first. -/
inductive Course (transport : Transport ω) (first : Pool ω σ α) : List Delivery → Pool ω σ α → Prop
  | start : Course transport first [] first
  | move {log : List Delivery} {pool pool' : Pool ω σ α} (i : Nat)
      (h : Course transport first log pool) (hmove : Move transport i pool pool') :
      Course transport first (log ++ due transport pool i) pool'
  | turn {log : List Delivery} {pool : Pool ω σ α} (site : ω)
      (h : Course transport first log pool) : Course transport first log { pool with site }

variable {first : Pool ω σ α} {log : List Delivery}

theorem Course.reaches (h : Course transport first log pool) : Reaches transport first pool := by
  induction h with
  | start => exact .refl
  | move i _ hmove ih => exact ih.tail (.move i hmove)
  | turn site _ ih => exact ih.tail (.turn _ site)

theorem exists_course (h : Reaches transport first pool) :
    ∃ log, Course transport first log pool := by
  induction h with
  | refl => exact ⟨[], .start⟩
  | tail _ hstep ih =>
    obtain ⟨log, hlog⟩ := ih
    cases hstep with
    | move i hmove => exact ⟨_, hlog.move i hmove⟩
    | turn site => exact ⟨_, hlog.turn site⟩

/-- What is delivered by an event. -/
def dueBy (transport : Transport ω) (pool : Pool ω σ α) : Event → List Delivery
  | .poll _ => []
  | .deliver i => due transport pool i

/-- What is delivered by events, one after the other. -/
def deliveries (transport : Transport ω) (pool : Pool ω σ α) : List Event → List Delivery
  | [] => []
  | e :: events => dueBy transport pool e ++ deliveries transport (step transport pool e) events

theorem Course.step (h : Course transport first log pool) (e : Event) :
    Course transport first (log ++ dueBy transport pool e) (step transport pool e) := by
  cases e with
  | poll i =>
    rw [dueBy, List.append_nil]
    cases hi : pool.threads[i]? with
    | none => simpa only [Pool.step, hi] using h
    | some thread =>
      cases thread with
      | ready job =>
        refine poll_induction (fun pool' _ _ hpool' hready hmove ↦ ?_) job h hi
        simpa only [due_of_ready hready, List.append_nil] using hpool'.move i hmove
      | waiting calls next => simpa only [Pool.step, hi] using h
      | done a => simpa only [Pool.step, hi] using h
  | deliver i =>
    cases hi : pool.threads[i]? with
    | none => simpa only [Pool.step, dueBy, due, hi, List.append_nil] using h
    | some thread =>
      cases thread with
      | ready job => simpa only [Pool.step, dueBy, due, hi, List.append_nil] using h
      | waiting calls next => simpa only [Pool.step, dueBy, hi] using h.move i (.deliver hi)
      | done a => simpa only [Pool.step, dueBy, due, hi, List.append_nil] using h

theorem Course.run (h : Course transport first log pool) (events : List Event) :
    Course transport first (log ++ deliveries transport pool events)
      (run transport pool events) := by
  induction events generalizing pool log with
  | nil => rwa [deliveries, List.append_nil]
  | cons e events ih =>
    rw [deliveries, ← List.append_assoc]
    exact ih (h.step e)

/-- Events are made of steps, and deliver what these do. -/
theorem course_run (pool : Pool ω σ α) (events : List Event) :
    Course transport pool (deliveries transport pool events) (Pool.run transport pool events) :=
  Course.start.run events

theorem reaches_run (pool : Pool ω σ α) (events : List Event) :
    Reaches transport pool (Pool.run transport pool events) :=
  (course_run pool events).reaches

end Pool

@[simp] theorem Transport.length_exchange {ω : Type} (transport : Transport ω) (calls : List Call)
    (site : ω) : (transport.exchange calls site).1.length = calls.length := by
  rw [exchange]
  split
  · rename_i h
    simp only [h, List.length_nil]
  · exact length_outcomes ..

end SiteClient
