import SiteClient.Proofs.Json.Decoding
import SiteClient.Proofs.Json.Lexing
import SiteClient.Proofs.Remote.Outcome

/-!
# Replies fail closed

A handle is fulfilled by the end of its own round trip and by nothing else
(`Dispatcher.exists_execute_of_look`), and only if the reply says so: it is the text of an array in
which each response up to that of the handle states an explicit `false` as its error flag, and the
value is the data that the last of them states, or `null` (`Dispatcher.reply_of_fulfilled`). What a
response states is told of the tree of the text, so no default of a reader comes in.

The text may hold bytes of no character in strings that the reader skips. Nothing else of it is
loose.
-/

namespace SiteClient

/-! ## What a response states -/

namespace Outline

/-- An explicit `false` as the error flag, and no other flag. -/
def StatesSuccess (item : Outline) : Prop :=
  item.stated 0 "error".toList = [.bool false]

/-- The data, which is `null` if none is stated. -/
def StatesData (item : Outline) (v : Json) : Prop :=
  (item.stated 1 "data".toList = [] ∧ v = .null) ∨
    ∃ o, item.stated 1 "data".toList = [o] ∧ o.Denotes v

end Outline

theorem RemoteException.takesComplete_record : record.decoder.TakesComplete := by
  refine Record.takesComplete_decoder ?_
  have hoptional := Decoder.takesComplete_optional Decoder.takesComplete_text
  refine List.forall_mem_cons.mpr ⟨RecordField.takesComplete_of Decoder.takesComplete_text, ?_⟩
  refine List.forall_mem_cons.mpr ⟨RecordField.takesComplete_of hoptional, ?_⟩
  refine List.forall_mem_cons.mpr ⟨RecordField.takesComplete_of hoptional, ?_⟩
  refine List.forall_mem_cons.mpr ⟨RecordField.takesComplete_of hoptional, ?_⟩
  exact List.forall_mem_singleton.mpr (RecordField.takesComplete_of hoptional)

namespace CallResponse

theorem takesComplete_record : record.decoder.TakesComplete := by
  refine Record.takesComplete_decoder ?_
  have hexception := Decoder.takesComplete_optional RemoteException.takesComplete_record
  refine List.forall_mem_cons.mpr ⟨RecordField.takesComplete_of Decoder.takesComplete_bool, ?_⟩
  refine List.forall_mem_cons.mpr ⟨RecordField.takesComplete_of Decoder.takesComplete_json, ?_⟩
  exact List.forall_mem_singleton.mpr (RecordField.takesComplete_of hexception)

theorem hasField_error : record.HasField [] (record.fields.drop 1) "error" Partial.error
    (fun p x ↦ { p with error := some x }) .bool where
  fields := rfl
  name_ne := List.forall_mem_cons.mpr ⟨(by decide : "data".toList ≠ "error".toList),
    List.forall_mem_singleton.mpr (by decide : "exception".toList ≠ "error".toList)⟩
  keeps := List.forall_mem_cons.mpr ⟨RecordField.keeps_of fun _ _ ↦ rfl,
    List.forall_mem_singleton.mpr (RecordField.keeps_of fun _ _ ↦ rfl)⟩
  get_empty := rfl
  get_put _ _ := rfl

theorem hasField_data : record.HasField (record.fields.take 1) (record.fields.drop 2) "data"
    Partial.data (fun p x ↦ { p with data := some x }) .json where
  fields := rfl
  name_ne := List.forall_mem_cons.mpr ⟨(by decide : "error".toList ≠ "data".toList),
    List.forall_mem_singleton.mpr (by decide : "exception".toList ≠ "data".toList)⟩
  keeps := List.forall_mem_cons.mpr ⟨RecordField.keeps_of fun _ _ ↦ rfl,
    List.forall_mem_singleton.mpr (RecordField.keeps_of fun _ _ ↦ rfl)⟩
  get_empty := rfl
  get_put _ _ := rfl

/-- The response is what the outline states. -/
structure StatedBy (r : CallResponse) (item : Outline) : Prop where
  success : r.error = false → item.StatesSuccess
  data : item.StatesData r.data

theorem statedBy_of_decoder {s : Setting} {item : Outline} {r : CallResponse}
    (h : record.decoder s item = .ok r) : r.StatedBy item := by
  obtain ⟨inner, p, hreads, hfinish⟩ := Record.exists_of_decoder h
  obtain rfl := Except.ok.inj hfinish
  constructor
  · intro hsuccess
    rcases hasField_error.kept_of_reads hreads with ⟨-, hnone⟩ | ⟨v, b, hstated, hb, hsome⟩
    · rw [hnone] at hsuccess
      cases hsuccess
    · rw [hsome] at hsuccess
      obtain rfl : b = false := hsuccess
      rw [Decoder.eq_of_bool hb] at hstated
      exact hstated
  · rcases hasField_data.kept_of_reads hreads with ⟨hstated, hnone⟩ | ⟨o, v, hstated, hv, hsome⟩
    · exact .inl ⟨hstated, congrArg (Option.getD · .null) hnone⟩
    · rw [hsome]
      exact .inr ⟨o, hstated, (Outline.readsAs_of_toJson hv).2⟩

end CallResponse

/-- **A reply that is read is the text of an array**, and its responses are what the items state. -/
theorem Wire.spells_of_decodeResponses {body : Body} {responses : List CallResponse}
    (h : decodeResponses body = .ok responses) :
    ∃ items, (Outline.array items .closed).Spells body.symbols ∧
      List.Forall₂ (fun item r ↦ r.StatedBy item) items responses := by
  rw [decodeResponses] at h
  cases hread : (Decoder.list CallResponse.record.decoder).readBody body with
  | error e =>
    rw [hread] at h
    cases h
  | ok values =>
    rw [hread] at h
    obtain rfl := Except.ok.inj h
    obtain ⟨o, ho, hvalues⟩ := Decoder.spells_of_readBody
      (Decoder.takesComplete_list CallResponse.takesComplete_record) hread
    obtain ⟨items, inner, rfl, hitems⟩ := Decoder.forall₂_of_list hvalues
    exact ⟨items, ho, hitems.imp fun _ _ hr ↦ CallResponse.statedBy_of_decoder hr⟩

/-! ## What a reply fulfils -/

/-- The reply is an array. All items up to the place state success, and the last of them states the
value.
-/
structure Body.Fulfils (body : Body) (index : ℕ) (v : Json) (items : List Outline) : Prop where
  spells : (Outline.array items .closed).Spells body.symbols
  success : ∀ i ≤ index, ∃ item, items[i]? = some item ∧ item.StatesSuccess
  data : ∃ item, items[index]? = some item ∧ item.StatesData v

theorem responses_of_outcomes {count index : ℕ} {reply : Except RemoteError Body} {v : Json}
    (h : (outcomes count reply)[index]? = some (.ok v)) :
    ∃ body responses, reply = .ok body ∧ Wire.decodeResponses body = .ok responses ∧
      (∀ i ≤ index, ∃ r, responses[i]? = some r ∧ r.error = false) ∧
      ∃ r, responses[index]? = some r ∧ r.data = v := by
  have hlt : index < count := by
    obtain ⟨hlt, -⟩ := List.getElem?_eq_some_iff.mp h
    rwa [length_outcomes] at hlt
  rw [outcomes] at h
  split at h
  · rw [List.getElem?_replicate, if_pos hlt] at h
    cases h
  · rename_i responses hbind
    obtain ⟨body, rfl, hbody⟩ := exists_of_bind hbind
    refine ⟨body, responses, rfl, hbody, ?_⟩
    rw [settle, getElem?_settleFrom 0 responses hlt, resultAt] at h
    split at h
    · rename_i hfirst
      obtain ⟨r, hr, hdata⟩ := Option.map_eq_some_iff.mp h
      have hget {i : ℕ} (hi : i ≤ index) : (responses.take count)[i]? = responses[i]? :=
        List.getElem?_take_of_lt (Nat.lt_of_le_of_lt hi hlt)
      refine ⟨fun i hi ↦ ?_, r, (hget (Nat.le_refl _)).symm.trans hr, Except.ok.inj hdata⟩
      have hi' : i < firstFailure (responses.take count) := Nat.lt_of_le_of_lt hi hfirst
      have hlength : i < (responses.take count).length :=
        Nat.lt_of_lt_of_le hi' List.findIdx_le_length
      refine ⟨_, (hget hi).symm.trans (List.getElem?_eq_getElem hlength), ?_⟩
      exact List.not_of_lt_findIdx hi'
    · cases h

/-- **Only what the reply states.** -/
theorem fulfils_of_outcomes {count index : ℕ} {reply : Except RemoteError Body} {v : Json}
    (h : (outcomes count reply)[index]? = some (.ok v)) :
    ∃ body items, reply = .ok body ∧ body.Fulfils index v items := by
  obtain ⟨body, responses, hreply, hbody, hsuccess, hdata⟩ := responses_of_outcomes h
  obtain ⟨items, hspells, hitems⟩ := Wire.spells_of_decodeResponses hbody
  -- A response stands at the place of the item that states it.
  have hitem {i : ℕ} {r : CallResponse} (hr : responses[i]? = some r) :
      ∃ item, items[i]? = some item ∧ r.StatedBy item := by
    obtain ⟨hi, rfl⟩ := List.getElem?_eq_some_iff.mp hr
    have hi' : i < items.length := hitems.length_eq ▸ hi
    exact ⟨items[i], List.getElem?_eq_getElem hi', hitems.get hi' hi⟩
  refine ⟨body, items, hreply, hspells, fun i hi ↦ ?_, ?_⟩
  · obtain ⟨r, hr, herror⟩ := hsuccess i hi
    obtain ⟨item, hget, hstated⟩ := hitem hr
    exact ⟨item, hget, hstated.success herror⟩
  · obtain ⟨r, hr, rfl⟩ := hdata
    obtain ⟨item, hget, hstated⟩ := hitem hr
    exact ⟨item, hget, hstated.data⟩

namespace Dispatcher

variable {ω : Type} {d : Dispatcher ω} {batch index : ℕ} {v : Json}

/-! ## What fulfils a handle -/

/-- Until its round trip is run, nothing is sent to a handle: if the sending end goes away, the
channel is left as it was. -/
theorem slot?_step_of_ne_execute (transport : Transport ω) {e : Event} (he : e ≠ .execute batch)
    {slot : Slot} (h : d.slot? batch index = some (slot, true)) :
    ∃ s, (step transport d e).2.slot? batch index = some s ∧ (s.2 = false → s.1 = slot) := by
  obtain ⟨f, hf, hslot, hpending⟩ := slot?_eq_some_iff.mp h
  cases e with
  | dispatch calls mode =>
    obtain ⟨hb, -⟩ := List.getElem?_eq_some_iff.mp hf
    have hdispatch := flights_dispatch_of_lt transport d calls mode hb
    exact ⟨_, slot?_eq_some_iff.mpr ⟨f, hdispatch.trans hf, hslot, hpending⟩, fun _ ↦ rfl⟩
  | execute b =>
    have hb : b ≠ batch := fun hb ↦ he (congrArg Event.execute hb)
    have hexecute := flights_execute_ne transport d hb
    exact ⟨_, slot?_eq_some_iff.mpr ⟨f, hexecute.trans hf, hslot, hpending⟩, fun _ ↦ rfl⟩
  | abandon b =>
    simp only [step, slot?_abandon, h]
    by_cases hb : b = batch
    · exact ⟨_, if_pos hb, fun _ ↦ rfl⟩
    · exact ⟨_, if_neg hb, fun _ ↦ rfl⟩
  | look b i | wait b i | drop b i =>
    simp only [step, inspect, wait, take, slot?_modifySlot, h]
    by_cases hbi : b = batch ∧ i = index
    · exact ⟨_, if_pos hbi, fun hsending ↦ Bool.noConfusion hsending⟩
    · exact ⟨_, if_neg hbi, fun _ ↦ rfl⟩
  | shutdown =>
    refine ⟨(slot, false), ?_, fun _ ↦ rfl⟩
    simp [step, slot?_shutdown, h]

theorem not_look_run_of_dropped (transport : Transport ω) (events : List Event) {slot : Slot}
    (hslot : d.slot? batch index = some (slot, false)) (hidle : Idle (slot, true)) :
    (run transport d events).2.look batch index ≠ .result (.ok v) := by
  cases htaken : slot.taken with
  | true =>
    rw [look_run_of_taken transport events hslot htaken]
    exact Sight.noConfusion
  | false =>
    have hdropped : slot.sight false = .result (.error .dropped) :=
      Slot.sight_false_of_pending (hidle rfl htaken)
    rw [look_run_of_result transport events ((look_eq hslot).trans hdropped)]
    split
    · exact Sight.noConfusion
    · simp

/-- **A handle is fulfilled by the end of its round trip**, and by what came of it. -/
theorem exists_execute_of_look (transport : Transport ω) {events : List Event}
    {f : Flight} {slot : Slot}
    (hf : d.flights[batch]? = some f) (hslot : f.slots[index]? = some slot) (hpending : f.pending)
    (hidle : Idle (slot, true))
    (hlook : (run transport d events).2.look batch index = .result (.ok v)) :
    ∃ before after, events = before ++ .execute batch :: after ∧
      (outcomes f.slots.length ((run transport d before).2.reply transport f.calls))[index]? =
        some (.ok v) := by
  induction events generalizing d f slot with
  | nil =>
    have hget : d.slot? batch index = some (slot, true) :=
      slot?_eq_some_iff.mpr ⟨f, hf, hslot, hpending⟩
    rw [run, look_eq hget] at hlook
    cases htaken : slot.taken with
    | true =>
      rw [Slot.sight, if_pos htaken] at hlook
      cases hlook
    | false => cases (hidle rfl htaken).symm.trans hlook
  | cons e events ih =>
    have hget : d.slot? batch index = some (slot, true) :=
      slot?_eq_some_iff.mpr ⟨f, hf, hslot, hpending⟩
    by_cases he : e = .execute batch
    · subst he
      obtain ⟨r, hr, hsend⟩ := slot?_execute_of_pending transport hf hpending hslot
      refine ⟨[], events, rfl, ?_⟩
      cases htaken : slot.taken with
      | true =>
        have hgone := look_run_of_taken transport events hsend ((slot.taken_send r).trans htaken)
        cases hgone.symm.trans hlook
      | false =>
        -- What is sent now is what the handle shows at the end.
        have hsight := Slot.sight_send_of_pending r (hidle rfl htaken)
        have hshown := look_run_of_result transport events ((look_eq hsend).trans hsight)
        have heq := hshown.symm.trans hlook
        split at heq
        · cases heq
        · obtain rfl := Sight.result.inj heq
          exact hr
    · obtain ⟨⟨slot', sending⟩, hget', hkept⟩ := slot?_step_of_ne_execute transport he hget
      -- With the sending end gone no value can come any more. Else the handle waits as before.
      cases sending with
      | false =>
        obtain rfl := hkept rfl
        exact absurd hlook (not_look_run_of_dropped transport events hget' hidle)
      | true =>
        obtain ⟨s, hs, hmove⟩ := step_move transport e hget
        obtain rfl := Option.some.inj (hs.symm.trans hget')
        obtain ⟨f', hf', hslot', hpending'⟩ := slot?_eq_some_iff.mp hget'
        obtain ⟨g, hg, hcalls, hlength⟩ := flights_step transport e hf
        obtain rfl := Option.some.inj (hg.symm.trans hf')
        obtain ⟨before, after, rfl, hr⟩ := ih hf' hslot' hpending' (hmove.idle hidle) hlook
        rw [hcalls, hlength] at hr
        exact ⟨e :: before, after, rfl, hr⟩

theorem eq_of_settled {transport : Transport ω} {r r' : CallResult} {events : List Event}
    (hsettled : d.Settled transport batch index r)
    (h : (run transport d events).2.look batch index = .result r') : r = r' := by
  have hshown := (hsettled events).1.symm.trans h
  split at hshown
  · cases hshown
  · exact Sight.result.inj hshown

theorem lt_of_look_dispatch (transport : Transport ω) {calls : List Call} (mode : CallMode)
    {later : List Event} {r : CallResult}
    (h : (run transport (d.dispatch transport calls mode) later).2.look d.flights.length index =
      .result r) : index < calls.length := by
  obtain ⟨events, hrun, -⟩ := exists_run_dispatch transport d calls mode later index
  rw [hrun] at h
  obtain ⟨s, hs, -⟩ := slot?_of_look h
  obtain ⟨f, hf, hslot, -⟩ := slot?_eq_some_iff.mp hs
  obtain ⟨g, hg, -, hlength⟩ := flights_run transport events (d.flights_enqueue calls)
  obtain rfl := Option.some.inj (hf.symm.trans hg)
  obtain ⟨hlt, -⟩ := List.getElem?_eq_some_iff.mp hslot
  rwa [hlength, Flight.start, List.length_map] at hlt

/-- **Replies fail closed.** A handle that shows a value, whatever has happened, shows what the
reply to its batch states: the reply is the text of one array, each of its items up to the place of
the handle states an explicit `false` as its error flag, and the last of them states the value. -/
theorem reply_of_fulfilled (transport : Transport ω) (d : Dispatcher ω) {calls : List Call}
    (mode : CallMode) {later : List Event} {index : ℕ} {v : Json}
    (h : (run transport (d.dispatch transport calls mode) later).2.look d.flights.length index =
      .result (.ok v)) :
    ∃ body items,
      (match mode with
        | .blocking => d.reply transport calls = .ok body
        | .async => ∃ before after, later = before ++ .execute d.flights.length :: after ∧
            (run transport (d.dispatch transport calls .async) before).2.reply transport calls =
              .ok body) ∧
      body.Fulfils index v items ∧
        ∀ o : Outline, o.Spells body.symbols → o = .array items .closed := by
  have hlt := lt_of_look_dispatch transport mode h
  have hdispatch := settled_dispatch transport d mode hlt
  cases mode with
  | blocking =>
    obtain ⟨r, hr, hsettled⟩ := hdispatch
    obtain rfl := eq_of_settled hsettled h
    obtain ⟨body, items, hreply, hfulfils⟩ := fulfils_of_outcomes hr
    exact ⟨body, items, hreply, hfulfils, fun o ho ↦ ho.unique hfulfils.spells⟩
  | async =>
    dsimp only at hdispatch
    split at hdispatch
    · cases eq_of_settled hdispatch h
    · rename_i hopen
      have henqueue : d.dispatch transport calls .async = d.enqueue calls := if_neg hopen
      obtain ⟨f, hf, hslot, hpending⟩ := slot?_eq_some_iff.mp hdispatch
      obtain rfl : f = .start calls := by
        rw [henqueue, flights_enqueue] at hf
        exact (Option.some.inj hf).symm
      obtain ⟨before, after, hevents, hr⟩ :=
        exists_execute_of_look transport hf hslot hpending (fun _ _ ↦ rfl) h
      obtain ⟨body, items, hreply, hfulfils⟩ := fulfils_of_outcomes hr
      exact ⟨body, items, ⟨before, after, hevents, hreply⟩, hfulfils,
        fun o ho ↦ ho.unique hfulfils.spells⟩

theorem reply_of_fulfilled_of_short_reply :
    let d := beforeReply.dispatch CannedSite.transport threeCalls .blocking
    (run CannedSite.transport d [.drop 0 1]).2.look 0 0 = .result (.ok (.number (.ofUInt64 7))) ∧
      ∃ items, shortReply.Fulfils 0 (.number (.ofUInt64 7)) items := by
  intro d
  obtain ⟨r, hr, hsettled⟩ := settled_dispatch CannedSite.transport beforeReply .blocking
    (show 0 < threeCalls.length by decide)
  have hseven : (outcomes 3 (.ok shortReply))[0]? = some (.ok (.number (.ofUInt64 7))) := by
    rw [outcomes, Except.bind, decodeResponses_shortReply]
    rfl
  obtain rfl := Option.some.inj (hr.symm.trans hseven)
  obtain ⟨hlook, -⟩ := hsettled [.drop 0 1]
  obtain ⟨body, items, hreply, hfulfils, -⟩ :=
    reply_of_fulfilled CannedSite.transport beforeReply .blocking hlook
  obtain rfl : shortReply = body := Except.ok.inj hreply
  exact ⟨hlook, items, hfulfils⟩

/-! ## A byte that nobody reads -/

/-- A response with a field that nobody wants, and a byte of no character in its string. -/
def strayReply : Body :=
  Text.toBody "[\x7b\"error\":false,\"x\":\"".toList ++ 0xff :: Text.toBody "\"\x7d]".toList

/-- The reader skips the byte. So the call is fulfilled by a reply that is no text at all. -/
theorem fulfilled_by_stray_byte :
    let d : Dispatcher CannedSite := { site := { replies := [.ok strayReply] } }
    (d.dispatch CannedSite.transport [{ method := ['m'] }] .blocking).look 0 0 =
        .result (.ok .null) ∧
      ∀ t : Text, t.toBody ≠ strayReply := by
  intro d
  constructor
  · obtain ⟨r, hr, hsettled⟩ := settled_dispatch CannedSite.transport d .blocking
      (show 0 < [({ method := ['m'] } : Call)].length by decide)
    have hdecode : Wire.decodeResponses strayReply = .ok [.success .null] := by
      decide +kernel
    have hnull : (outcomes 1 (.ok strayReply))[0]? = some (.ok .null) := by
      rw [outcomes, Except.bind, hdecode]
      rfl
    obtain rfl := Option.some.inj (hr.symm.trans hnull)
    obtain ⟨hlook, -⟩ := hsettled []
    exact hlook
  · intro t ht
    have hstray : Symbol.stray 0xff ∈ Body.symbols strayReply := by
      decide +kernel
    rw [← ht, Body.symbols_toBody] at hstray
    obtain ⟨c, -, hc⟩ := List.mem_map.mp hstray
    cases hc

end Dispatcher
end SiteClient
