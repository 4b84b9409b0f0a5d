import Mathlib.Data.List.Basic
import SiteClient.Session.Keepalive

/-!
# What a poll does

A poll acts on its surroundings: it calls the site, looks up strings, asks the user and reports
failures. `Surroundings.recorded` writes these acts down beside the state and changes nothing else,
so what is said of the acts of a poll is said of every poll in any surroundings.

## The first call decides

Whether the loop goes on, and when it polls again, depends on the result of the call with which the
poll begins and on nothing else (`Session.verdict`). What the poll does after that call is one of a
few things, which `Session.FollowUp` lists; that there are no others is `runPoll_recorded`. All that
is said of any surroundings goes through these two. The equations for a poll whose calls are known
(`pollOnce_of_le` and its like) are for surroundings that keep laws of their own.
-/

namespace SiteClient

variable {ω : Type}

/-! ## Surroundings with a record -/

/-- Something that a poll does, with what comes of it. -/
inductive Act where
  | called (call : Call) (result : CallResult)
  | lookedUp (requests : List StringRequest) (result : Except RemoteError (List Text))
  | asked (prompt : Prompt) (accepted : Bool)
  | reported (e : RemoteError)

/-- The same surroundings, with a record of what is done in them, oldest first. -/
def Surroundings.recorded (env : Surroundings ω) : Surroundings (ω × List Act) where
  call call s := ((env.call call s.1).1, (env.call call s.1).2,
    s.2 ++ [.called call (env.call call s.1).1])
  strings requests s := ((env.strings requests s.1).1, (env.strings requests s.1).2,
    s.2 ++ [.lookedUp requests (env.strings requests s.1).1])
  confirm prompt s := ((env.confirm prompt s.1).1, (env.confirm prompt s.1).2,
    s.2 ++ [.asked prompt (env.confirm prompt s.1).1])
  report e s := (env.report e s.1, s.2 ++ [.reported e])
  setClock now s := (env.setClock now s.1, s.2)

namespace Surroundings

variable {env : Surroundings ω} {s s' : ω} (acts : List Act)

theorem recorded_call {call : Call} {result : CallResult} (h : env.call call s = (result, s')) :
    env.recorded.call call (s, acts) = (result, s', acts ++ [.called call result]) := by
  simp only [recorded, h]

theorem recorded_strings {requests : List StringRequest} {texts : Except RemoteError (List Text)}
    (h : env.strings requests s = (texts, s')) :
    env.recorded.strings requests (s, acts) = (texts, s', acts ++ [.lookedUp requests texts]) := by
  simp only [recorded, h]

theorem recorded_confirm {prompt : Prompt} {accepted : Bool}
    (h : env.confirm prompt s = (accepted, s')) :
    env.recorded.confirm prompt (s, acts) = (accepted, s', acts ++ [.asked prompt accepted]) := by
  simp only [recorded, h]

theorem recorded_report (env : Surroundings ω) (e : RemoteError) (s : ω) :
    env.recorded.report e (s, acts) = (env.report e s, acts ++ [.reported e]) :=
  rfl

end Surroundings

namespace Session

variable {env : Surroundings ω} {s s₁ s₂ s₃ : ω}

def touchCall : Call := ⟨touchMethod, []⟩

def remainingCall : Call := ⟨remainingMethod, []⟩

/-- The remaining time by the result of the call that asks for it. -/
def reading (result : CallResult) : Except RemoteError Duration :=
  result.bind fun payload ↦ (remainingSeconds payload).map Duration.ofSeconds

theorem touch_of_call {result : CallResult} (h : env.call touchCall s = (result, s₁)) :
    touch env s = (result.map fun _ ↦ (), s₁) := by
  rw [touch]
  exact congrArg (fun r ↦ (r.1.map fun _ ↦ (), r.2)) h

theorem timeRemaining_of_call {result : CallResult} (h : env.call remainingCall s = (result, s₁)) :
    timeRemaining env s = (reading result, s₁) := by
  rw [timeRemaining]
  exact congrArg (fun r ↦ (reading r.1, r.2)) h

/-! ## The offer to extend the session -/

theorem offerExtension_of_error {e : RemoteError}
    (h : env.strings promptStrings s = (.error e, s₁)) :
    offerExtension env s = env.report e s₁ := by
  rw [offerExtension, h]

theorem offerExtension_of_length_ne {texts : List Text}
    (h : env.strings promptStrings s = (.ok texts, s₁)) (hne : texts.length ≠ 2) :
    offerExtension env s = env.report (promptError texts.length) s₁ := by
  rw [offerExtension, h]
  rcases texts with _ | ⟨title, _ | ⟨question, _ | ⟨more, texts⟩⟩⟩
  · rfl
  · rfl
  · exact absurd rfl hne
  · rfl

theorem offerExtension_of_declined {title question : Text}
    (h : env.strings promptStrings s = (.ok [title, question], s₁))
    (hasked : env.confirm (extendPrompt title question) s₁ = (false, s₂)) :
    offerExtension env s = s₂ := by
  rw [offerExtension, h]
  simp only [hasked]

theorem offerExtension_of_extended {title question : Text} {payload : Json}
    (h : env.strings promptStrings s = (.ok [title, question], s₁))
    (hasked : env.confirm (extendPrompt title question) s₁ = (true, s₂))
    (htouch : env.call touchCall s₂ = (.ok payload, s₃)) : offerExtension env s = s₃ := by
  rw [offerExtension, h]
  simp only [hasked, touch_of_call htouch, Except.map]

theorem offerExtension_of_refused {title question : Text} {e : RemoteError}
    (h : env.strings promptStrings s = (.ok [title, question], s₁))
    (hasked : env.confirm (extendPrompt title question) s₁ = (true, s₂))
    (htouch : env.call touchCall s₂ = (.error e, s₃)) : offerExtension env s = env.report e s₃ := by
  rw [offerExtension, h]
  simp only [hasked, touch_of_call htouch, Except.map]

/-- All that can come of the offer to extend the session. -/
inductive Offers : List Act → Prop
  /-- There are no strings for the question. -/
  | unworded (e : RemoteError) : Offers [.lookedUp promptStrings (.error e), .reported e]
  /-- There are not two strings for the question. -/
  | misworded {texts : List Text} (h : texts.length ≠ 2) :
      Offers [.lookedUp promptStrings (.ok texts), .reported (promptError texts.length)]
  | declined (title question : Text) :
      Offers [.lookedUp promptStrings (.ok [title, question]),
        .asked (extendPrompt title question) false]
  | extended (title question : Text) (payload : Json) :
      Offers [.lookedUp promptStrings (.ok [title, question]),
        .asked (extendPrompt title question) true, .called touchCall (.ok payload)]
  /-- The user accepts, and the site does not extend the session. -/
  | refused (title question : Text) (e : RemoteError) :
      Offers [.lookedUp promptStrings (.ok [title, question]),
        .asked (extendPrompt title question) true, .called touchCall (.error e), .reported e]

theorem offerExtension_recorded (env : Surroundings ω) (s : ω) :
    ∃ offer, Offers offer ∧ ∀ acts,
      offerExtension env.recorded (s, acts) = (offerExtension env s, acts ++ offer) := by
  rcases hstrings : env.strings promptStrings s with ⟨texts, s₁⟩
  have hstrings' (acts : List Act) := Surroundings.recorded_strings acts hstrings
  rcases texts with e | texts
  · refine ⟨_, .unworded e, fun acts ↦ ?_⟩
    rw [offerExtension_of_error hstrings, offerExtension_of_error (hstrings' acts),
      Surroundings.recorded_report, List.append_assoc]
    rfl
  by_cases htwo : texts.length = 2
  · obtain ⟨title, question, rfl⟩ := List.length_eq_two.mp htwo
    rcases hasked : env.confirm (extendPrompt title question) s₁ with ⟨accepted, s₂⟩
    have hasked' (acts : List Act) := Surroundings.recorded_confirm acts hasked
    rcases accepted with - | -
    · refine ⟨_, .declined title question, fun acts ↦ ?_⟩
      rw [offerExtension_of_declined hstrings hasked,
        offerExtension_of_declined (hstrings' acts) (hasked' _), List.append_assoc]
      rfl
    · rcases htouch : env.call touchCall s₂ with ⟨result, s₃⟩
      have htouch' (acts : List Act) := Surroundings.recorded_call acts htouch
      rcases result with e | payload
      · refine ⟨_, .refused title question e, fun acts ↦ ?_⟩
        rw [offerExtension_of_refused hstrings hasked htouch,
          offerExtension_of_refused (hstrings' acts) (hasked' _) (htouch' _),
          Surroundings.recorded_report]
        simp only [List.append_assoc]
        rfl
      · refine ⟨_, .extended title question payload, fun acts ↦ ?_⟩
        rw [offerExtension_of_extended hstrings hasked htouch,
          offerExtension_of_extended (hstrings' acts) (hasked' _) (htouch' _)]
        simp only [List.append_assoc]
        rfl
  · refine ⟨_, .misworded htwo, fun acts ↦ ?_⟩
    rw [offerExtension_of_length_ne hstrings htwo,
      offerExtension_of_length_ne (hstrings' acts) htwo,
      Surroundings.recorded_report, List.append_assoc]
    rfl

/-! ## One poll -/

/-- The call with which a poll begins. -/
def opening : KeepaliveMode → Call
  | .touch _ => touchCall
  | .check => remainingCall

/-- What the result of the call with which a poll begins means for the loop: the time to its next
poll, or the error that ends it. -/
def verdict (settings : KeepaliveSettings) (mode : KeepaliveMode) (result : CallResult) :
    Except RemoteError Duration :=
  match mode with
  | .touch frequency => result.map fun _ ↦ frequency
  | .check => (reading result).map fun remaining ↦
      if settings.warningLimit ≤ remaining then settings.checkFrequency else settings.warningLimit

theorem verdict_check (settings : KeepaliveSettings) {result : CallResult} {remaining : Duration}
    (h : reading result = .ok remaining) :
    verdict settings .check result = .ok (if settings.warningLimit ≤ remaining then
      settings.checkFrequency else settings.warningLimit) := by
  rw [verdict, h]
  rfl

/-- All that a poll can do after the call with which it begins, by the result of that call. -/
inductive FollowUp (settings : KeepaliveSettings) : KeepaliveMode → CallResult → List Act → Prop
  /-- The loop ends. -/
  | ended {mode : KeepaliveMode} {result : CallResult} {e : RemoteError}
      (h : verdict settings mode result = .error e) : FollowUp settings mode result [.reported e]
  | touched (frequency : Duration) (payload : Json) :
      FollowUp settings (.touch frequency) (.ok payload) []
  /-- The session lasts long enough. -/
  | spared {result : CallResult} {remaining : Duration} (h : reading result = .ok remaining)
      (hle : settings.warningLimit ≤ remaining) : FollowUp settings .check result []
  /-- The session is about to end. -/
  | warned {result : CallResult} {remaining : Duration} {offer : List Act}
      (h : reading result = .ok remaining) (hlt : ¬settings.warningLimit ≤ remaining)
      (hoffer : Offers offer) : FollowUp settings .check result offer

theorem FollowUp.eq_of_error {settings : KeepaliveSettings} {mode : KeepaliveMode}
    {result : CallResult}
    {rest : List Act} {e : RemoteError} (h : FollowUp settings mode result rest)
    (hverdict : verdict settings mode result = .error e) : rest = [.reported e] := by
  rcases h with h | ⟨frequency, payload⟩ | ⟨hreading, -⟩ | ⟨hreading, -, -⟩
  · rw [Except.error.inj (h.symm.trans hverdict)]
  · cases hverdict
  · rw [verdict_check settings hreading] at hverdict
    cases hverdict
  · rw [verdict_check settings hreading] at hverdict
    cases hverdict

end Session

namespace Keepalive

open Session

/-- The poll after a poll at `moment`, by the verdict; none if the loop ends. -/
def nextDue (moment : ℕ) : Except RemoteError Duration → Option ℕ
  | .ok delay => some (pollTime moment delay)
  | .error _ => none

variable {env : Surroundings ω} {settings : KeepaliveSettings} {mode : KeepaliveMode} {due : ℕ}
  {s s₁ : ω} {result : CallResult}

theorem runPoll_of_ok {delay : Duration}
    (h : pollOnce env settings mode (env.setClock due s) = (.ok delay, s₁)) :
    runPoll env settings mode due s = (⟨mode, some (pollTime due delay)⟩, s₁) := by
  rw [runPoll, h]

theorem runPoll_of_error {e : RemoteError}
    (h : pollOnce env settings mode (env.setClock due s) = (.error e, s₁)) :
    runPoll env settings mode due s = (⟨mode, none⟩, env.report e s₁) := by
  rw [runPoll, h]

theorem pollOnce_of_error {e : RemoteError} (h : env.call (opening mode) s = (result, s₁))
    (hverdict : verdict settings mode result = .error e) :
    pollOnce env settings mode s = (.error e, s₁) := by
  rcases mode with frequency | -
  · rcases result with e | payload
    · obtain rfl := Except.error.inj hverdict
      rw [pollOnce, touch_of_call h]
      rfl
    · cases hverdict
  · rw [pollOnce, check, timeRemaining_of_call h]
    rcases hreading : reading result with e | remaining
    · rw [verdict, hreading] at hverdict
      exact congrArg (·, s₁) hverdict
    · rw [verdict, hreading] at hverdict
      cases hverdict

theorem pollOnce_touch {frequency : Duration} {payload : Json}
    (h : env.call touchCall s = (.ok payload, s₁)) :
    pollOnce env settings (.touch frequency) s = (.ok frequency, s₁) := by
  rw [pollOnce, touch_of_call h]
  rfl

theorem pollOnce_of_le {remaining : Duration} (h : env.call remainingCall s = (result, s₁))
    (hreading : reading result = .ok remaining) (hle : settings.warningLimit ≤ remaining) :
    pollOnce env settings .check s = (.ok settings.checkFrequency, s₁) := by
  rw [pollOnce, check, timeRemaining_of_call h, hreading]
  exact if_pos hle

theorem pollOnce_of_not_le {remaining : Duration} (h : env.call remainingCall s = (result, s₁))
    (hreading : reading result = .ok remaining) (hlt : ¬settings.warningLimit ≤ remaining) :
    pollOnce env settings .check s = (.ok settings.warningLimit, offerExtension env s₁) := by
  rw [pollOnce, check, timeRemaining_of_call h, hreading]
  exact if_neg hlt

/-- **All that a poll does.** The record changes nothing. A poll begins with the opening call, whose
result tells when the loop polls again, and goes on in one of the ways of `FollowUp`. -/
theorem runPoll_recorded (env : Surroundings ω) (settings : KeepaliveSettings)
    (mode : KeepaliveMode) (due : ℕ) (s : ω) :
    ∃ result rest s', FollowUp settings mode result rest ∧
      runPoll env settings mode due s = (⟨mode, nextDue due (verdict settings mode result)⟩, s') ∧
      ∀ acts, runPoll env.recorded settings mode due (s, acts) =
        (⟨mode, nextDue due (verdict settings mode result)⟩, s',
          acts ++ .called (opening mode) result :: rest) := by
  rcases hcall : env.call (opening mode) (env.setClock due s) with ⟨result, s₁⟩
  have hcall' (acts : List Act) :
      env.recorded.call (opening mode) (env.recorded.setClock due (s, acts)) =
        (result, s₁, acts ++ [.called (opening mode) result]) :=
          Surroundings.recorded_call acts hcall
  rcases hverdict : verdict settings mode result with e | delay
  · refine ⟨result, [.reported e], env.report e s₁, .ended hverdict, ?_, fun acts ↦ ?_⟩
    · rw [runPoll_of_error (pollOnce_of_error hcall hverdict), hverdict]
      rfl
    · rw [runPoll_of_error (pollOnce_of_error (hcall' acts) hverdict), hverdict,
        Surroundings.recorded_report, List.append_assoc]
      rfl
  rcases mode with frequency | -
  · rcases result with e | payload
    · cases hverdict
    · refine ⟨.ok payload, [], s₁, .touched frequency payload, ?_, fun acts ↦ ?_⟩
      · exact runPoll_of_ok (pollOnce_touch hcall)
      · exact runPoll_of_ok (pollOnce_touch (hcall' acts))
  · rcases hreading : reading result with e | remaining
    · rw [verdict, hreading] at hverdict
      cases hverdict
    by_cases hle : settings.warningLimit ≤ remaining
    · have hdelay := (verdict_check settings hreading).trans (congrArg Except.ok (if_pos hle))
      refine ⟨result, [], s₁, .spared hreading hle, ?_, fun acts ↦ ?_⟩
      · rw [runPoll_of_ok (pollOnce_of_le hcall hreading hle), hdelay, nextDue]
      · rw [runPoll_of_ok (pollOnce_of_le (hcall' acts) hreading hle), hdelay, nextDue]
    · have hdelay := (verdict_check settings hreading).trans (congrArg Except.ok (if_neg hle))
      obtain ⟨offer, hoffer, hrecorded⟩ := offerExtension_recorded env s₁
      refine ⟨result, offer, offerExtension env s₁, .warned hreading hle hoffer, ?_, fun acts ↦ ?_⟩
      · rw [runPoll_of_ok (pollOnce_of_not_le hcall hreading hle), hdelay, nextDue]
      · rw [runPoll_of_ok (pollOnce_of_not_le (hcall' acts) hreading hle), hdelay,
          nextDue, hrecorded, List.append_assoc]
        rfl

end Keepalive
end SiteClient
