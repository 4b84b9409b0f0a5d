import Mathlib.Data.List.Induction
import Mathlib.Logic.Function.Basic
import Mathlib.Order.Defs.Unbundled
import SiteClient.Proofs.Remote.Interleaving
/-!
# Contracts of jobs

What a job is answerable for, whatever the other jobs do, is its `Contract`: other jobs change the
memory only as `rely` allows, and the job changes it only as its guarantee allows, makes only
certain requests and ends only with certain results. A pool whose jobs keep contracts keeps them for
ever (`Pool.Meets.reaches`), since what one job guarantees is what the others rely on. So a property
of all interleavings is a property of each job alone.

What a job may do can depend on the replies that it has had. So in general a job has a `Duty`, a
contract for each list of past replies, and what it keeps is told along a course
(`Pool.Keeps.course`).
-/

namespace SiteClient

variable {ω σ α : Type} {rely : σ → σ → Prop}

/-- What a job is answerable for while other jobs change the memory as `rely` allows. -/
structure Contract (rely : σ → σ → Prop) (α : Type) where
  /-- The changes that the job may make. -/
  guarantee : σ → σ → Prop
  /-- The requests that the job may make, with what follows. -/
  sends : List Call → (List CallResult → Job σ α) → Prop
  /-- The results with which the job may have ended. -/
  ends : α → σ → Prop
  rely_of_guarantee : ∀ {s s'}, guarantee s s' → rely s s'
  ends_of_rely : ∀ {a s s'}, rely s s' → ends a s → ends a s'

/-- A reply that a job has had: the calls and their results. -/
abbrev Reply := List Call × List CallResult

/-- What a job is answerable for after the replies that it has had, oldest first. -/
abbrev Duty (rely : σ → σ → Prop) (α : Type) := List Reply → Contract rely α

namespace Job

/-- The job does its duty from the memory `s` on, having had the replies `past`. -/
def Keeps (duty : Duty rely α) : Job σ α → List Reply → σ → Prop
  | .pure a, past, s => (duty past).ends a s
  | .access update next, past, s =>
    ∀ s', rely s s' → (duty past).guarantee s' (update s') ∧ (next s').Keeps duty past (update s')
  | .request calls next, past, s =>
    (duty past).sends calls next ∧
      ∀ results, results.length = calls.length →
        (next results).Keeps duty (past ++ [(calls, results)]) s

/-- The job keeps the contract from the memory `s` on. -/
def Meets (c : Contract rely α) : Job σ α → σ → Prop
  | .pure a, s => c.ends a s
  | .access update next, s =>
    ∀ s', rely s s' → c.guarantee s' (update s') ∧ (next s').Meets c (update s')
  | .request calls next, s =>
    c.sends calls next ∧ ∀ results, results.length = calls.length → (next results).Meets c s

/-- A contract is a duty that does not depend on replies. -/
theorem keeps_iff_meets {c : Contract rely α} {job : Job σ α} {past : List Reply} {s : σ} :
    job.Keeps (fun _ ↦ c) past s ↔ job.Meets c s := by
  induction job generalizing past s with
  | pure a => exact Iff.rfl
  | access update next ih => exact forall₂_congr fun s' _ ↦ and_congr_right fun _ ↦ ih s'
  | request calls next ih => exact and_congr_right fun _ ↦ forall₂_congr fun results _ ↦ ih results

/-- What other jobs do breaks no duty. -/
theorem Keeps.of_rely [IsPreorder σ rely] {duty : Duty rely α} {job : Job σ α} {past : List Reply}
    {s s' : σ} (h : job.Keeps duty past s) (hs : rely s s') : job.Keeps duty past s' := by
  induction job generalizing past with
  | pure a => exact (duty past).ends_of_rely hs h
  | access update next => exact fun s'' hs' ↦ h s'' (trans_of rely hs hs')
  | request calls next ih => exact ⟨h.1, fun results hlen ↦ ih results (h.2 results hlen)⟩

end Job

def Thread.rest : Thread σ α → Job σ α
  | .ready job => job
  | .waiting calls next => .request calls next
  | .done a => .pure a

namespace Pool

variable {transport : Transport ω} {pool pool' : Pool ω σ α}

/-! ## Duties -/

section Keeps

variable {duties : ℕ → Duty rely α} {past : ℕ → List Reply} {log : List Delivery}

/-- Every job does its duty, having had its replies. -/
def Keeps (duties : ℕ → Duty rely α) (past : ℕ → List Reply) (pool : Pool ω σ α) : Prop :=
  ∀ ⦃i : ℕ⦄ ⦃thread : Thread σ α⦄,
    pool.threads[i]? = some thread → thread.rest.Keeps (duties i) (past i) pool.memory

/-- The replies to one job. -/
def repliesTo (log : List Delivery) (i : ℕ) : List Reply :=
  (log.filter fun d ↦ d.thread = i).map fun d ↦ (d.calls, d.results)

theorem repliesTo_append (log more : List Delivery) (i : ℕ) :
    repliesTo (log ++ more) i = repliesTo log i ++ repliesTo more i := by
  rw [repliesTo, List.filter_append, List.map_append]
  rfl

theorem mem_repliesTo {log : List Delivery} {i : ℕ} {calls : List Call}
    {results : List CallResult} :
    (calls, results) ∈ repliesTo log i ↔ ⟨i, calls, results⟩ ∈ log := by
  simp only [repliesTo, List.mem_map, List.mem_filter, decide_eq_true_eq, Prod.mk.injEq]
  constructor
  · rintro ⟨⟨_, _, _⟩, ⟨hd, rfl⟩, rfl, rfl⟩
    exact hd
  · exact fun hd ↦ ⟨_, ⟨hd, rfl⟩, rfl, rfl⟩

theorem length_repliesTo_le {log : List Delivery}
    (h : ∀ front d, front ++ [d] <+: log → repliesTo front d.thread = []) (i : ℕ) :
    (repliesTo log i).length ≤ 1 := by
  induction log using List.reverseRecOn with
  | nil => exact Nat.zero_le 1
  | append_singleton log d ih =>
    rw [repliesTo_append, List.length_append]
    by_cases hi : d.thread = i
    · rw [← hi, h log d List.prefix_rfl]
      simp [repliesTo]
    · have hnone : repliesTo [d] i = [] := by simp [repliesTo, hi]
      rw [hnone]
      exact ih fun front e he ↦ h front e (he.trans (List.prefix_append log [d]))

theorem keeps_start {jobs : List (Job σ α)} {memory : σ} {site : ω}
    (h : ∀ (i : ℕ) (job : Job σ α), jobs[i]? = some job → job.Keeps (duties i) (past i) memory) :
    (start jobs memory site).Keeps duties past := by
  intro i thread hi
  rw [start, List.getElem?_map, Option.map_eq_some_iff] at hi
  obtain ⟨job, hjob, rfl⟩ := hi
  exact h i job hjob

theorem Keeps.update (h : pool.Keeps duties past) {i : ℕ} {duty : Duty rely α}
    {replies : List Reply}
    (hi : ∀ thread, pool.threads[i]? = some thread → thread.rest.Keeps duty replies pool.memory) :
    pool.Keeps (Function.update duties i duty) (Function.update past i replies) := by
  intro j thread hj
  obtain rfl | hij := eq_or_ne j i
  · rw [Function.update_self, Function.update_self]
    exact hi thread hj
  · rw [Function.update_of_ne hij, Function.update_of_ne hij]
    exact h hj

variable [IsPreorder σ rely]

theorem Keeps.set (h : pool.Keeps duties past) {i : ℕ} {thread : Thread σ α} {memory : σ} {site : ω}
    {later : ℕ → List Reply} (hs : rely pool.memory memory)
    (hi : thread.rest.Keeps (duties i) (later i) memory) (hother : ∀ j, j ≠ i → later j = past j) :
    ({ threads := pool.threads.set i thread, memory, site } : Pool ω σ α).Keeps duties later := by
  intro j other hj
  rw [List.getElem?_set] at hj
  split at hj
  · rename_i hij
    split at hj
    · obtain rfl : thread = other := by simpa using hj
      exact hij ▸ hi
    · exact absurd hj (by simp)
  · rename_i hij
    rw [hother j (Ne.symm hij)]
    exact (h hj).of_rely hs

/-- What a move does to the memory, the job that moves guarantees; and all duties are done. -/
theorem Keeps.move (h : pool.Keeps duties past) {i : ℕ} (hmove : Move transport i pool pool') :
    (pool'.memory = pool.memory ∨ (duties i (past i)).guarantee pool.memory pool'.memory) ∧
      pool'.Keeps duties fun j ↦ past j ++ repliesTo (due transport pool i) j := by
  have hrefl : rely pool.memory pool.memory := refl_of rely _
  have hnone (j : ℕ) : past j ++ repliesTo [] j = past j := List.append_nil _
  cases hmove with
  | finish hi =>
    have hthread := h hi
    simp only [due_of_ready hi, hnone]
    exact ⟨.inl trivial, h.set hrefl hthread fun _ _ ↦ rfl⟩
  | access hi =>
    obtain ⟨hupdate, hnext⟩ := h hi pool.memory hrefl
    simp only [due_of_ready hi, hnone]
    exact ⟨.inr hupdate, h.set ((duties i (past i)).rely_of_guarantee hupdate) hnext fun _ _ ↦ rfl⟩
  | request hi =>
    have hthread := h hi
    simp only [due_of_ready hi, hnone]
    exact ⟨.inl trivial, h.set hrefl hthread fun _ _ ↦ rfl⟩
  | @deliver calls next hi =>
    obtain ⟨-, hnext⟩ := h hi
    rw [due_of_waiting hi]
    refine ⟨.inl rfl, h.set hrefl ?_ fun j hij ↦ ?_⟩
    · have hreply : repliesTo [⟨i, calls, (transport.exchange calls pool.site).1⟩] i =
          [(calls, (transport.exchange calls pool.site).1)] := by
        simp [repliesTo]
      rw [hreply]
      exact hnext _ (Transport.length_exchange ..)
    · have hreply : repliesTo [⟨i, calls, (transport.exchange calls pool.site).1⟩] j = [] := by
        simp [repliesTo, hij.symm]
      rw [hreply, List.append_nil]

/-- **Duties are done for ever**, and every delivery brought what its job was allowed to ask for
after the replies before it. -/
theorem Keeps.course (h : pool.Keeps duties past) (hcourse : Course transport pool log pool') :
    rely pool.memory pool'.memory ∧ (pool'.Keeps duties fun i ↦ past i ++ repliesTo log i) ∧
      ∀ front d, front ++ [d] <+: log → ∃ next,
        (duties d.thread (past d.thread ++ repliesTo front d.thread)).sends d.calls next := by
  induction hcourse with
  | start =>
    have hnone : (fun i ↦ past i ++ repliesTo [] i) = past := funext fun i ↦ List.append_nil _
    refine ⟨refl_of rely _, hnone.symm ▸ h, fun front d hd ↦ ?_⟩
    exact absurd (List.prefix_nil.mp hd) (by simp)
  | @move log later last i _ hmove ih =>
    obtain ⟨hrely, hkeeps, hsent⟩ := ih
    obtain ⟨hmemory, hlast⟩ := hkeeps.move hmove
    have happend : (fun j ↦ past j ++ repliesTo log j ++ repliesTo (due transport later i) j) =
        fun j ↦ past j ++ repliesTo (log ++ due transport later i) j := by
      funext j
      rw [repliesTo_append, List.append_assoc]
    refine ⟨?_, happend ▸ hlast, fun front d hd ↦ ?_⟩
    · obtain hmemory | hmemory := hmemory
      · rwa [hmemory]
      · exact trans_of rely hrely ((duties i _).rely_of_guarantee hmemory)
    · obtain hnone | ⟨calls, next, hi⟩ : due transport later i = [] ∨ _ := due_eq_nil_or later i
      · rw [hnone, List.append_nil] at hd
        exact hsent front d hd
      · rw [due_of_waiting hi, List.prefix_concat_iff] at hd
        obtain hd | hd := hd
        · obtain ⟨rfl, hlastd⟩ := List.append_inj' hd rfl
          obtain rfl := List.singleton_inj.mp hlastd
          exact ⟨next, (hkeeps hi).1⟩
        · exact hsent front d hd
  | turn site _ ih => exact ⟨ih.1, fun _ _ hi ↦ ih.2.1 hi, ih.2.2⟩

theorem Keeps.sends_of_mem (h : pool.Keeps duties past) (hcourse : Course transport pool log pool')
    {d : Delivery} (hd : d ∈ log) :
    ∃ replies next, (duties d.thread (past d.thread ++ replies)).sends d.calls next := by
  obtain ⟨front, back, rfl⟩ := List.append_of_mem hd
  have hfront : front ++ [d] <+: front ++ d :: back := ⟨back, by rw [List.append_assoc]; rfl⟩
  exact ⟨_, (h.course hcourse).2.2 front d hfront⟩

end Keeps

/-! ## Contracts -/

variable {contracts : ℕ → Contract rely α}

/-- Every job keeps its contract. -/
def Meets (contracts : ℕ → Contract rely α) (pool : Pool ω σ α) : Prop :=
  ∀ ⦃i : ℕ⦄ ⦃thread : Thread σ α⦄,
    pool.threads[i]? = some thread → thread.rest.Meets (contracts i) pool.memory

theorem keeps_iff_meets {past : ℕ → List Reply} :
    pool.Keeps (fun i _ ↦ contracts i) past ↔ pool.Meets contracts :=
  forall₃_congr fun _ _ _ ↦ Job.keeps_iff_meets

theorem meets_start {jobs : List (Job σ α)} {memory : σ} {site : ω}
    (h : ∀ (i : ℕ) (job : Job σ α), jobs[i]? = some job → job.Meets (contracts i) memory) :
    (start jobs memory site).Meets contracts := by
  have hkeeps : (start jobs memory site).Keeps (fun i _ ↦ contracts i) fun _ ↦ [] :=
    keeps_start fun i job hi ↦ Job.keeps_iff_meets.mpr (h i job hi)
  exact keeps_iff_meets.mp hkeeps

theorem Meets.update (h : pool.Meets contracts) {i : ℕ} {c : Contract rely α}
    (hi : ∀ thread, pool.threads[i]? = some thread → thread.rest.Meets c pool.memory) :
    pool.Meets (Function.update contracts i c) := by
  intro j thread hj
  obtain rfl | hij := eq_or_ne j i
  · rw [Function.update_self]
    exact hi thread hj
  · rw [Function.update_of_ne hij]
    exact h hj

variable [IsPreorder σ rely]

/-- What a move does to the memory, the job that moves guarantees; and all contracts are kept. -/
theorem Meets.move (h : pool.Meets contracts) {i : ℕ} (hmove : Move transport i pool pool') :
    (pool'.memory = pool.memory ∨ (contracts i).guarantee pool.memory pool'.memory) ∧
      pool'.Meets contracts := by
  have hkeeps : pool.Keeps (fun i _ ↦ contracts i) fun _ ↦ [] := keeps_iff_meets.mpr h
  exact (hkeeps.move hmove).imp_right keeps_iff_meets.mp

/-- **Contracts are kept for ever.** -/
theorem Meets.reaches (h : pool.Meets contracts) (hreaches : Reaches transport pool pool') :
    rely pool.memory pool'.memory ∧ pool'.Meets contracts := by
  have hkeeps : pool.Keeps (fun i _ ↦ contracts i) fun _ ↦ [] := keeps_iff_meets.mpr h
  obtain ⟨log, hcourse⟩ := exists_course hreaches
  obtain ⟨hrely, hlater, -⟩ := hkeeps.course hcourse
  exact ⟨hrely, keeps_iff_meets.mp hlater⟩

end Pool
end SiteClient
