import SiteClient.Remote.Dispatcher
/-!
# What a round trip sends

When a round trip comes to its end, the walk over the batch stops at the first response that is
missing or failed, and a second function rejects the handles from there on. Between the two, each
handle is sent exactly one result, and it is the one that `settle` and `outcomes` have for its place
(`settleBatch_eq`, `slots_settle`). Everything else about handles rests on this, not on the walk.
-/

namespace SiteClient

namespace Flight

theorem le_of_walk {place first : Nat} {slots walked : List Slot} {responses : List CallResponse}
    {e : RemoteError} (h : walk place slots responses = (walked, some (first, e))) :
    place ≤ first := by
  induction slots generalizing place responses walked with
  | nil => simp [walk] at h
  | cons slot slots ih =>
    cases responses with
    | nil => simp_all [walk]
    | cons r rest =>
      rw [walk] at h
      split at h
      · simp_all
      · have hw : walk (place + 1) slots rest
            = ((walk (place + 1) slots rest).1, some (first, e)) := by
          ext1 <;> simp_all
        exact Nat.le_of_succ_le (ih hw)

theorem rejectAll_eq (e : RemoteError) (slots : List Slot) :
    rejectAll e slots = slots.zipWith Slot.send (List.replicate slots.length (.error e)) := by
  induction slots with
  | nil => rfl
  | cons slot slots ih =>
    rw [List.length_cons, List.replicate_succ, List.zipWith_cons_cons, ← ih]
    rfl

/-- The slots after a walk from `place` on and the rejection of the rest. For `place = 0` this is
`settleBatch`; the induction over the batch needs the others. -/
private def finish (place : Nat) : List Slot × Option (Nat × RemoteError) → List Slot
  | (walked, none) => walked
  | (walked, some (first, e)) =>
    walked.take (first - place) ++ rejectAll e (walked.drop (first - place))

private theorem finish_walk (place : Nat) (slots : List Slot) (responses : List CallResponse) :
    finish place (walk place slots responses)
      = slots.zipWith Slot.send (settleFrom place slots.length responses) := by
  induction slots generalizing place responses with
  | nil => rfl
  | cons slot slots ih =>
    cases responses with
    | nil =>
      rw [walk, finish, Nat.sub_self, List.take_zero, List.drop_zero, rejectAll_eq]
      rfl
    | cons r rest =>
      rw [walk, List.length_cons, settleFrom]
      split
      · rw [finish, Nat.sub_self, List.take_zero, List.drop_zero, rejectAll_eq]
        rfl
      · -- The walk goes on; the place where it stops is counted from here.
        rw [List.zipWith_cons_cons, ← ih]
        rcases hw : walk (place + 1) slots rest with ⟨walked, _ | ⟨first, e⟩⟩
        · rfl
        · have hfirst : first - place = first - (place + 1) + 1 := by
            have := le_of_walk hw
            omega
          rw [finish, finish, hfirst, List.take_succ_cons, List.drop_succ_cons, List.cons_append]

/-- **Each handle is sent exactly one result**, the one that `settle` has for its place. -/
theorem settleBatch_eq (slots : List Slot) (responses : List CallResponse) :
    settleBatch slots responses
      = slots.zipWith Slot.send (SiteClient.settle slots.length responses) := by
  rw [SiteClient.settle, ← finish_walk, settleBatch]
  rcases walk 0 slots responses with ⟨walked, _ | ⟨first, e⟩⟩ <;> rfl

/-- Whatever came of the round trip, each handle is sent exactly one result. -/
theorem slots_settle (f : Flight) (reply : Except RemoteError Body) :
    (f.settle reply).slots = f.slots.zipWith Slot.send (outcomes f.slots.length reply) := by
  rcases reply with e | body
  · exact rejectAll_eq e f.slots
  · rw [outcomes, Flight.settle]
    rcases h : Wire.decodeResponses body with e | responses
    · simp [Except.bind, h, rejectAll_eq]
    · simp [Except.bind, h, settleBatch_eq]

end Flight
end SiteClient
