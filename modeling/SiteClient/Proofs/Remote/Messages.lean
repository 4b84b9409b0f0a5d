import SiteClient.Proofs.Json.Reading
import SiteClient.Remote.Wire
/-!
# Messages arrive as they were sent

A batch of requests and a batch of responses are read again from their bodies
(`Wire.decodeRequests_encodeRequests`, `Wire.decodeResponses_encodeResponses`). The values in them
must be `Json.Portable`, with two containers of the nesting limit already spent: the batch and the
message.

A record is written with all its fields in their order, so a reader meets each of them once
(`Record.readEntries_cons`), and an absent text comes back absent from `null`.
-/

namespace SiteClient

open Outline (ofJson)

/-- A value that comes back from its text where so many containers may lie one inside the other. -/
structure Json.Portable (v : Json) (n : ℕ) : Prop where
  integral : v.Integral
  canonical : v.Canonical
  depth_le : v.depth ≤ n

theorem Json.Portable.mono {v : Json} {m n : ℕ} (h : v.Portable m) (hmn : m ≤ n) : v.Portable n :=
  ⟨h.integral, h.canonical, Nat.le_trans h.depth_le hmn⟩

theorem Json.portable_string (t : Text) (n : ℕ) : (Json.string t).Portable n :=
  ⟨trivial, trivial, Nat.zero_le n⟩

theorem Json.portable_array {items : List Json} {n : ℕ} (h : ∀ v ∈ items, v.Portable n) :
    (Json.array items).Portable (n + 1) where
  integral := Json.allIntegral_iff.2 fun v hv ↦ (h v hv).integral
  canonical := Json.allCanonical_iff.2 fun v hv ↦ (h v hv).canonical
  depth_le := Nat.succ_le_succ (Json.itemsDepth_le_iff.2 fun v hv ↦ (h v hv).depth_le)

theorem Json.portable_object {fields : Fields} {n : ℕ}
    (hkeys : (fields.map Prod.fst).Pairwise (· < ·)) (h : ∀ field ∈ fields, field.2.Portable n) :
    (Json.object fields).Portable (n + 1) where
  integral := Json.fieldsIntegral_iff.2 fun v hv ↦ (h v hv).integral
  canonical := ⟨hkeys, Json.fieldsCanonical_iff.2 fun v hv ↦ (h v hv).canonical⟩
  depth_le := Nat.succ_le_succ (Json.fieldsDepth_le_iff.2 fun v hv ↦ (h v hv).depth_le)

/-! ## Decoders -/

variable {s : Setting}

namespace Decoder

variable {α : Type}

theorem list_ofJson {item : Decoder α} {write : α → Json} {values : List α} {n : ℕ}
    (hroom : s.Allows (n + 1))
    (h : ∀ x ∈ values, ∀ inner : Setting, inner.Allows n → item inner (ofJson (write x)) = .ok x) :
    list item s (ofJson (.array (values.map write))) = .ok values := by
  obtain ⟨inner, henter, hinner⟩ := hroom.enter
  have hvalues : (Outline.ofItems (values.map write)).mapM (item inner) = .ok values := by
    clear hroom
    induction values with
    | nil => rfl
    | cons x values ih =>
      rw [List.map_cons, Outline.ofItems, List.mapM_cons, h x List.mem_cons_self inner hinner,
        ih fun y hy ↦ h y (List.mem_cons_of_mem x hy)]
      rfl
  rw [ofJson, list, henter]
  simp only [bind, Except.bind, hvalues]
  rfl

theorem fields_ofJson {args : Fields} (hargs : (Json.object args).Canonical)
    (hroom : s.Allows (Json.object args).depth) : fields s (ofJson (.object args)) = .ok args := by
  obtain ⟨inner, henter, hinner⟩ := Setting.Allows.enter hroom
  have hfields : Outline.toFields inner [] (Outline.ofFields args) = .ok args := by
    refine Outline.toFields_of_pairwise (fun field hfield ↦ Outline.toJson_ofJson ?_ ?_) hargs.1
    · exact Json.fieldsCanonical_iff.1 hargs.2 field hfield
    · exact hinner.mono (Json.fieldsDepth_le_iff.1 (Nat.le_refl _) field hfield)
  rw [ofJson, fields, henter]
  simp only [bind, Except.bind, hfields]
  rfl

theorem uint64_ofJson (wanted : Text) (n : UInt64) :
    uint64 wanted s (ofJson (.number (.ofUInt64 n))) = .ok n := by
  have hrange : (0 : Int) ≤ n.toNat ∧ (n.toNat : Int) ≤ 0xFFFFFFFFFFFFFFFF := by
    have := n.toNat_lt
    omega
  have hinteger : integer wanted 0 0xFFFFFFFFFFFFFFFF s (ofJson (.number (.ofUInt64 n))) =
      .ok ⟨n.toNat, hrange⟩ := dif_pos hrange
  rw [uint64, hinteger]
  simp only [bind, Except.bind, pure, Except.pure, Int.toNat_natCast, Except.ok.injEq]
  exact UInt64.ofNat_toNat

theorem optional_ofText? (t : Option Text) : optional text s (ofJson (.ofText? t)) = .ok t := by
  cases t <;> rfl

end Decoder

/-! ## Records -/

variable {π α : Type}

theorem Record.readEntries_cons {record : Record π α} {p p' : π} {key : Text} {v : Outline}
    {rest : List (Except ReadError Text × Outline)} {field : RecordField π}
    (hfind : (record.fields.find? fun field ↦ field.name = key) = some field)
    (hfirst : field.isSet p = false) (hread : field.read p s v = .ok p') :
    record.readEntries s p ((.ok key, v) :: rest) = record.readEntries s p' rest := by
  rw [readEntries]
  simp only [bind, Except.bind, hfind, hfirst, Bool.false_eq_true, if_false, hread]

theorem RecordField.read_of {β : Type} {name : String} {get : π → Option β} {put : π → β → π}
    {decoder : Decoder β} {o : Outline} {x : β} (h : decoder s o = .ok x) (p : π) :
    (RecordField.of name get put decoder).read p s o = .ok (put p x) := by
  change put p <$> decoder s o = _
  rw [h]
  rfl

theorem Record.decoder_object {record : Record π α} {fields : Fields} {p : π} {x : α} {n : ℕ}
    (hroom : s.Allows (n + 1))
    (hentries : ∀ inner : Setting, inner.Allows n →
      record.readEntries inner record.empty (Outline.ofFields fields) = .ok p)
    (hfinish : record.finish p = .ok x) : record.decoder s (ofJson (.object fields)) = .ok x := by
  obtain ⟨inner, henter, hinner⟩ := hroom.enter
  have hclosed : Ending.ofObject .closed = .ok () := rfl
  rw [ofJson, decoder, henter]
  simp only [bind, Except.bind, hentries inner hinner, hclosed, hfinish]
  rfl

/-! ## Messages -/

theorem CallRequest.decoder_ofJson {r : CallRequest} (hargs : (Json.object r.args).Canonical)
    (hroom : s.Allows ((Json.object r.args).depth + 1)) :
    CallRequest.record.decoder s (ofJson r.toJson) = .ok r := by
  refine Record.decoder_object (p := ⟨some r.index, some r.method, some r.args⟩) hroom
    (fun inner hinner ↦ ?_) rfl
  have hindex := Decoder.uint64_ofJson (s := inner) "usize".toList r.index
  have hmethod : Decoder.text inner (ofJson (.string r.method)) = .ok r.method := rfl
  have hfields := Decoder.fields_ofJson hargs hinner
  simp only [Outline.ofFields]
  rw [Record.readEntries_cons rfl rfl (RecordField.read_of hindex _),
    Record.readEntries_cons rfl rfl (RecordField.read_of hmethod _),
    Record.readEntries_cons rfl rfl (RecordField.read_of hfields _)]
  rfl

theorem RemoteException.decoder_ofJson {e : RemoteException} (hroom : s.Allows 1) :
    RemoteException.record.decoder s (ofJson e.toJson) = .ok e := by
  refine Record.decoder_object (p := ⟨some e.message, some e.errorCode, some e.link,
    some e.moreInfoUrl, some e.debugInfo⟩) hroom (fun inner _ ↦ ?_) rfl
  have hmessage : Decoder.text inner (ofJson (.string e.message)) = .ok e.message := rfl
  have htext (t : Option Text) := Decoder.optional_ofText? (s := inner) t
  simp only [Outline.ofFields]
  rw [Record.readEntries_cons rfl rfl (RecordField.read_of hmessage _),
    Record.readEntries_cons rfl rfl (RecordField.read_of (htext e.errorCode) _),
    Record.readEntries_cons rfl rfl (RecordField.read_of (htext e.link) _),
    Record.readEntries_cons rfl rfl (RecordField.read_of (htext e.moreInfoUrl) _),
    Record.readEntries_cons rfl rfl (RecordField.read_of (htext e.debugInfo) _)]
  rfl

theorem CallResponse.decoder_ofJson {r : CallResponse} (hdata : r.data.Canonical)
    (hroom : s.Allows (max r.data.depth 1 + 1)) :
    CallResponse.record.decoder s (ofJson r.toJson) = .ok r := by
  refine Record.decoder_object (p := ⟨some r.error, some r.data, some r.exception⟩) hroom
    (fun inner hinner ↦ ?_) rfl
  have herror : Decoder.bool inner (ofJson (.bool r.error)) = .ok r.error := rfl
  have hjson : Decoder.json inner (ofJson r.data) = .ok r.data :=
    Outline.toJson_ofJson hdata (hinner.mono (Nat.le_max_left _ _))
  have hexception : Decoder.optional RemoteException.record.decoder inner
      (ofJson ((r.exception.map RemoteException.toJson).getD .null)) = .ok r.exception := by
    cases hr : r.exception with
    | none => rfl
    | some e =>
      have he : RemoteException.record.decoder inner (ofJson e.toJson) = .ok e :=
        RemoteException.decoder_ofJson (hinner.mono (Nat.le_max_right _ _))
      change some <$> RemoteException.record.decoder inner (ofJson e.toJson) = _
      rw [he]
      rfl
  simp only [Outline.ofFields]
  rw [Record.readEntries_cons rfl rfl (RecordField.read_of herror _),
    Record.readEntries_cons rfl rfl (RecordField.read_of hjson _),
    Record.readEntries_cons rfl rfl (RecordField.read_of hexception _)]
  rfl

/-! ## Batches -/

theorem CallRequest.integral_toJson {r : CallRequest} (h : (Json.object r.args).Integral) :
    r.toJson.Integral :=
  ⟨trivial, trivial, h, trivial⟩

theorem RemoteException.integral_toJson (e : RemoteException) : e.toJson.Integral := by
  have htext (t : Option Text) : (Json.ofText? t).Integral := by
    cases t <;> exact trivial
  exact ⟨trivial, htext _, htext _, htext _, htext _, trivial⟩

theorem CallResponse.integral_toJson {r : CallResponse} (h : r.data.Integral) :
    r.toJson.Integral := by
  refine ⟨trivial, h, ?_, trivial⟩
  cases r.exception with
  | none => exact trivial
  | some e => exact e.integral_toJson

theorem Setting.allows_text {n : ℕ} (h : n ≤ 127) : Setting.text.Allows n := by
  rintro _ ⟨⟩
  exact h

namespace Wire

/-- **Requests arrive.** -/
theorem decodeRequests_encodeRequests {requests : List CallRequest}
    (h : ∀ r ∈ requests, (Json.object r.args).Portable 125) :
    decodeRequests (encodeRequests requests) = .ok requests := by
  have hintegral : (Json.array (requests.map CallRequest.toJson)).Integral := by
    refine Json.allIntegral_iff.2 fun v hv ↦ ?_
    obtain ⟨r, hr, rfl⟩ := List.mem_map.1 hv
    exact CallRequest.integral_toJson (h r hr).integral
  have hlist : Decoder.list CallRequest.record.decoder .text
      (ofJson (.array (requests.map CallRequest.toJson))) = .ok requests := by
    refine Decoder.list_ofJson (n := 126) (Setting.allows_text (Nat.le_refl _)) ?_
    intro r hr inner hinner
    exact CallRequest.decoder_ofJson (h r hr).canonical
      (hinner.mono (Nat.succ_le_succ (h r hr).depth_le))
  rw [decodeRequests, encodeRequests, requestsText, Decoder.readBody_text _ hintegral, hlist]
  rfl

/-- **Responses arrive.** -/
theorem decodeResponses_encodeResponses {responses : List CallResponse}
    (h : ∀ r ∈ responses, r.data.Portable 125) :
    decodeResponses (encodeResponses responses) = .ok responses := by
  have hintegral : (Json.array (responses.map CallResponse.toJson)).Integral := by
    refine Json.allIntegral_iff.2 fun v hv ↦ ?_
    obtain ⟨r, hr, rfl⟩ := List.mem_map.1 hv
    exact CallResponse.integral_toJson (h r hr).integral
  have hlist : Decoder.list CallResponse.record.decoder .text
      (ofJson (.array (responses.map CallResponse.toJson))) = .ok responses := by
    refine Decoder.list_ofJson (n := 126) (Setting.allows_text (Nat.le_refl _)) ?_
    intro r hr inner hinner
    exact CallResponse.decoder_ofJson (h r hr).canonical
      (hinner.mono (Nat.succ_le_succ (Nat.max_le.2 ⟨(h r hr).depth_le, by decide⟩)))
  rw [decodeResponses, encodeResponses, Decoder.readBody_text _ hintegral, hlist]
  rfl

end Wire

/-! ## The wire format -/

theorem CallRequest.portable_args {requests : List CallRequest} {n : ℕ}
    (hcanonical : ∀ r ∈ requests, (Json.object r.args).Canonical)
    (hintegral : (Json.array (requests.map toJson)).Integral)
    (hdepth : (Json.array (requests.map toJson)).depth ≤ n + 2) :
    ∀ r ∈ requests, (Json.object r.args).Portable n := by
  intro r hr
  have hmem : r.toJson ∈ requests.map toJson := List.mem_map_of_mem hr
  have hargs :
      ("args".toList, Json.object r.args) ∈ [("index".toList, Json.number (.ofUInt64 r.index)),
        ("methodname".toList, .string r.method), ("args".toList, .object r.args)] :=
    List.mem_cons_of_mem _ (List.mem_cons_of_mem _ List.mem_cons_self)
  have hrequest : r.toJson.depth ≤ n + 1 :=
    Json.itemsDepth_le_iff.1 (Nat.le_of_succ_le_succ hdepth) _ hmem
  exact {
    integral := Json.fieldsIntegral_iff.1 (Json.allIntegral_iff.1 hintegral _ hmem) _ hargs
    canonical := hcanonical r hr
    depth_le := Json.fieldsDepth_le_iff.1 (Nat.le_of_succ_le_succ hrequest) _ hargs }

theorem CallResponse.portable_data {responses : List CallResponse} {n : ℕ}
    (hcanonical : ∀ r ∈ responses, r.data.Canonical)
    (hintegral : (Json.array (responses.map toJson)).Integral)
    (hdepth : (Json.array (responses.map toJson)).depth ≤ n + 2) :
    ∀ r ∈ responses, r.data.Portable n := by
  intro r hr
  have hmem : r.toJson ∈ responses.map toJson := List.mem_map_of_mem hr
  have hdata :
      ("data".toList, r.data) ∈ [("error".toList, Json.bool r.error), ("data".toList, r.data),
        ("exception".toList, (r.exception.map RemoteException.toJson).getD .null)] :=
    List.mem_cons_of_mem _ List.mem_cons_self
  have hresponse : r.toJson.depth ≤ n + 1 :=
    Json.itemsDepth_le_iff.1 (Nat.le_of_succ_le_succ hdepth) _ hmem
  exact {
    integral := Json.fieldsIntegral_iff.1 (Json.allIntegral_iff.1 hintegral _ hmem) _ hdata
    canonical := hcanonical r hr
    depth_le := Json.fieldsDepth_le_iff.1 (Nat.le_of_succ_le_succ hresponse) _ hdata }

namespace Wire

/-- **The wire format round trip.** A batch without doubles that nests no deeper than a reader goes
is read again as it was written. Maps are held in order, as they are read and built. -/
theorem decode_encode :
    (∀ requests : List CallRequest, (∀ r ∈ requests, (Json.object r.args).Canonical) →
      (Json.array (requests.map CallRequest.toJson)).Integral →
      (Json.array (requests.map CallRequest.toJson)).depth ≤ 127 →
        decodeRequests (encodeRequests requests) = .ok requests) ∧
    ∀ responses : List CallResponse, (∀ r ∈ responses, r.data.Canonical) →
      (Json.array (responses.map CallResponse.toJson)).Integral →
      (Json.array (responses.map CallResponse.toJson)).depth ≤ 127 →
        decodeResponses (encodeResponses responses) = .ok responses := by
  constructor
  · intro requests hcanonical hintegral hdepth
    exact decodeRequests_encodeRequests (CallRequest.portable_args hcanonical hintegral hdepth)
  · intro responses hcanonical hintegral hdepth
    exact decodeResponses_encodeResponses (CallResponse.portable_data hcanonical hintegral hdepth)

/-- Requests with every kind of text and value: escapes, both ends of the integers, and empty
maps. -/
def trickyRequests : List CallRequest := [
  ⟨0, "\" \\ / \n\t \x01 é 😀".toList, [
    ([],
      .array [.number (.ofUInt64 0xFFFFFFFFFFFFFFFF), .number (.ofInt64 (-0x8000000000000000)),
        .null]),
    ("\"".toList, .emptyObject),
    ("é".toList, .object [("a".toList, .array []), ("b".toList, .bool true)])]⟩,
  ⟨0xFFFFFFFFFFFFFFFF, [], []⟩]

/-- Responses with and without data and exceptions, of which one states some of its fields only. -/
def trickyResponses : List CallResponse := [
  .success .null,
  ⟨false, .array [.emptyObject, .string "\\\x1f".toList], some {}⟩,
  ⟨true, .number (.ofUInt64 0), none⟩,
  .failure { message := "no\n".toList, errorCode := some [], debugInfo := some "\"".toList }]

theorem decode_encode_of_tricky :
    decodeRequests (encodeRequests trickyRequests) = .ok trickyRequests ∧
      decodeResponses (encodeResponses trickyResponses) = .ok trickyResponses := by
  constructor
  · refine decode_encode.1 trickyRequests ?_ ?_ (by decide)
    · simp only [trickyRequests, List.forall_mem_cons, List.not_mem_nil, IsEmpty.forall_iff,
        implies_true, Json.Canonical, Json.AllCanonical, Json.FieldsCanonical, Json.emptyObject,
        and_true, true_and]
      decide
    · simp [trickyRequests, CallRequest.toJson, Json.Integral, Json.AllIntegral,
        Json.FieldsIntegral, Json.emptyObject, Number.ofUInt64, Number.ofInt64]
  · refine decode_encode.2 trickyResponses ?_ ?_ (by decide)
    · simp [trickyResponses, Json.Canonical, Json.AllCanonical, Json.FieldsCanonical,
        Json.emptyObject, CallResponse.success, CallResponse.failure]
    · simp [trickyResponses, CallResponse.toJson, CallResponse.success, CallResponse.failure,
        RemoteException.toJson, Json.ofText?, Json.Integral, Json.AllIntegral, Json.FieldsIntegral,
        Json.emptyObject, Number.ofUInt64]

end Wire
end SiteClient
