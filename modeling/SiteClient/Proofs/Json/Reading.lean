import SiteClient.Proofs.Json.Decoding
import SiteClient.Proofs.Json.Lexing
/-!
# What is written is read again

The text of a value spells the outline of the value (`Outline.spells_text`), and a decoder that
takes any value gives it back (`Decoder.readBody_json`), if the value

* has no doubles (`Json.Integral`), whose digits need not read back,
* nests no deeper than a reader goes (`Json.depth`), and
* is canonical, as every value that has been read (`Outline.Denotes.canonical`) or is built by
  inserting one field after another (`Fields.canonical_ofList`).

A number ends where no digit follows, so the induction over a value is stated for the texts that may
follow it.
-/

namespace SiteClient

namespace Json

/-! ## Values without doubles -/

/-- Induction over a value: the items of an array and the values of an object come before it. -/
@[elab_as_elim]
theorem induct {motive : Json → Prop} (null : motive .null) (bool : ∀ b, motive (.bool b))
    (number : ∀ n, motive (.number n)) (string : ∀ t, motive (.string t))
    (array : ∀ items, (∀ v ∈ items, motive v) → motive (.array items))
    (object : ∀ fields, (∀ field ∈ fields, motive field.2) → motive (.object fields)) (v : Json) :
    motive v :=
  @Json.rec motive (fun items ↦ ∀ v ∈ items, motive v)
    (fun fields ↦ ∀ field ∈ fields, motive field.2)
    (fun field ↦ motive field.2) null bool number string array object
    (fun _ h ↦ absurd h List.not_mem_nil)
    (fun _ _ hv hrest _ h ↦ (List.mem_cons.1 h).elim (fun e ↦ e ▸ hv) (hrest _))
    (fun _ h ↦ absurd h List.not_mem_nil)
    (fun _ _ hv hrest _ h ↦ (List.mem_cons.1 h).elim (fun e ↦ e ▸ hv) (hrest _))
    (fun _ _ hv ↦ hv) v

mutual

/-- No number in the value is a double. -/
def Integral : Json → Prop
  | .number (.double _) => False
  | .array items => AllIntegral items
  | .object fields => FieldsIntegral fields
  | _ => True

def AllIntegral : List Json → Prop
  | [] => True
  | v :: rest => v.Integral ∧ AllIntegral rest

def FieldsIntegral : List (Text × Json) → Prop
  | [] => True
  | (_, v) :: rest => v.Integral ∧ FieldsIntegral rest

end

mutual

/-- How many arrays and objects lie one inside the other. -/
def depth : Json → ℕ
  | .array items => itemsDepth items + 1
  | .object fields => fieldsDepth fields + 1
  | _ => 0

def itemsDepth : List Json → ℕ
  | [] => 0
  | v :: rest => max v.depth (itemsDepth rest)

def fieldsDepth : List (Text × Json) → ℕ
  | [] => 0
  | (_, v) :: rest => max v.depth (fieldsDepth rest)

end

theorem allIntegral_iff {items : List Json} : AllIntegral items ↔ ∀ v ∈ items, v.Integral := by
  induction items with
  | nil => simp [AllIntegral]
  | cons v rest ih => simp [AllIntegral, ih]

theorem fieldsIntegral_iff {fields : Fields} :
    FieldsIntegral fields ↔ ∀ field ∈ fields, field.2.Integral := by
  induction fields with
  | nil => simp [FieldsIntegral]
  | cons field rest ih => simp only [FieldsIntegral, ih, List.forall_mem_cons]

theorem allCanonical_iff {items : List Json} : AllCanonical items ↔ ∀ v ∈ items, v.Canonical := by
  induction items with
  | nil => simp [AllCanonical]
  | cons v rest ih => simp [AllCanonical, ih]

theorem fieldsCanonical_iff {fields : Fields} :
    FieldsCanonical fields ↔ ∀ field ∈ fields, field.2.Canonical := by
  induction fields with
  | nil => simp [FieldsCanonical]
  | cons field rest ih => simp only [FieldsCanonical, ih, List.forall_mem_cons]

theorem itemsDepth_le_iff {items : List Json} {n : ℕ} :
    itemsDepth items ≤ n ↔ ∀ v ∈ items, v.depth ≤ n := by
  induction items with
  | nil => simp [itemsDepth]
  | cons v rest ih => simp only [itemsDepth, Nat.max_le, ih, List.forall_mem_cons]

theorem fieldsDepth_le_iff {fields : Fields} {n : ℕ} :
    fieldsDepth fields ≤ n ↔ ∀ field ∈ fields, field.2.depth ≤ n := by
  induction fields with
  | nil => simp [fieldsDepth]
  | cons field rest ih => simp only [fieldsDepth, Nat.max_le, ih, List.forall_mem_cons]

end Json

/-! ## Maps in order -/

namespace Fields

theorem mem_insert {fields : Fields} {key : Text} {v : Json} {field : Text × Json}
    (h : field ∈ fields.insert key v) : field = (key, v) ∨ field ∈ fields := by
  induction fields with
  | nil => exact .inl (List.mem_singleton.mp h)
  | cons first fields ih =>
    rw [insert] at h
    split at h
    · exact List.mem_cons.mp h
    · split at h
      · exact (List.mem_cons.mp h).imp_right (List.mem_cons_of_mem _)
      · rcases List.mem_cons.mp h with rfl | h
        · exact .inr List.mem_cons_self
        · exact (ih h).imp_right (List.mem_cons_of_mem _)

theorem pairwise_insert {fields : Fields} (h : (fields.map Prod.fst).Pairwise (· < ·)) (key : Text)
    (v : Json) : ((fields.insert key v).map Prod.fst).Pairwise (· < ·) := by
  induction fields with
  | nil => exact List.pairwise_singleton _ _
  | cons field fields ih =>
    obtain ⟨k, w⟩ := field
    obtain ⟨hfirst, hrest⟩ := List.pairwise_cons.mp h
    rw [insert]
    split
    · rename_i hlt
      refine List.pairwise_cons.mpr ⟨?_, h⟩
      intro k' hk'
      rcases List.mem_cons.mp hk' with rfl | hk'
      · exact hlt
      · exact List.lt_trans hlt (hfirst k' hk')
    · rename_i hle
      split
      · rename_i heq
        exact List.pairwise_cons.mpr ⟨heq ▸ hfirst, hrest⟩
      · rename_i hne
        have hlt : k < key := Decidable.not_not.mp fun hge ↦
          hne (Std.Trichotomous.trichotomous (r := (· < ·)) key k hle hge)
        refine List.pairwise_cons.mpr ⟨?_, ih hrest⟩
        intro k' hk'
        obtain ⟨field, hfield, rfl⟩ := List.mem_map.mp hk'
        rcases mem_insert hfield with rfl | hfield
        · exact hlt
        · exact hfirst _ (List.mem_map_of_mem hfield)

theorem canonical_insert {fields : Fields} (h : (Json.object fields).Canonical)
    (key : Text) {v : Json} (hv : v.Canonical) : (Json.object (fields.insert key v)).Canonical := by
  obtain ⟨hkeys, hvalues⟩ := h
  refine ⟨pairwise_insert hkeys key v, Json.fieldsCanonical_iff.mpr fun field hfield ↦ ?_⟩
  rcases mem_insert hfield with rfl | hfield
  · exact hv
  · exact Json.fieldsCanonical_iff.mp hvalues field hfield

/-- **A map is built in order**, in whatever order its fields are listed. -/
theorem canonical_ofList {entries : List (Text × Json)} (h : ∀ entry ∈ entries, entry.2.Canonical) :
    (Json.object (ofList entries)).Canonical := by
  have hfold (fields : Fields) (hfields : (Json.object fields).Canonical) :
      (Json.object (entries.foldl (fun fields entry ↦ Fields.insert fields entry.1 entry.2)
        fields)).Canonical := by
    induction entries generalizing fields with
    | nil => exact hfields
    | cons entry entries ih =>
      obtain ⟨hentry, hrest⟩ := List.forall_mem_cons.mp h
      exact ih hrest _ (canonical_insert hfields entry.1 hentry)
  exact hfold [] ⟨.nil, trivial⟩

theorem insert_of_lt {fields : Fields} {key : Text} (h : ∀ field ∈ fields, field.1 < key)
    (v : Json) : fields.insert key v = fields ++ [(key, v)] := by
  induction fields with
  | nil => rfl
  | cons field fields ih =>
    obtain ⟨k, w⟩ := field
    have hk : k < key := h _ List.mem_cons_self
    have hne : key ≠ k := by
      rintro rfl
      exact List.lt_irrefl key hk
    rw [insert, if_neg (List.lt_asymm hk), if_neg hne,
      ih fun field hfield ↦ h field (List.mem_cons_of_mem _ hfield), List.cons_append]

theorem ofList_of_pairwise {fields : Fields} (h : (fields.map Prod.fst).Pairwise (· < ·)) :
    ofList fields = fields := by
  have hfold (done fields : Fields) (h : ((done ++ fields).map Prod.fst).Pairwise (· < ·)) :
      fields.foldl (fun fields field ↦ fields.insert field.1 field.2) done = done ++ fields := by
    induction fields generalizing done with
    | nil => exact (List.append_nil done).symm
    | cons field fields ih =>
      have hlast : ∀ first ∈ done, first.1 < field.1 := by
        intro first hfirst
        rw [List.map_append] at h
        exact (List.pairwise_append.1 h).2.2 _ (List.mem_map_of_mem hfirst) _ List.mem_cons_self
      -- The keys ascend, so each field joins the end of what is there.
      rw [List.append_cons] at h
      rw [List.foldl_cons, insert_of_lt hlast, ih _ h, ← List.append_cons]
  exact hfold [] fields h

theorem get?_foldl_insert {entries : List (Text × Json)} (h : (entries.map Prod.fst).Nodup)
    (fields : Fields) {key : Text} {v : Json} :
    (entries.foldl (fun fields entry ↦ fields.insert entry.1 entry.2) fields).get? key = some v ↔
      (key, v) ∈ entries ∨ key ∉ entries.map Prod.fst ∧ fields.get? key = some v := by
  induction entries generalizing fields with
  | nil => simp
  | cons entry entries ih =>
    obtain ⟨k, w⟩ := entry
    obtain ⟨hk, hrest⟩ := List.nodup_cons.mp h
    rw [List.foldl_cons, ih hrest, List.map_cons]
    by_cases hkey : key = k
    · subst hkey
      have hentry : (key, v) ∉ entries := fun hentry ↦ hk (List.mem_map.mpr ⟨_, hentry, rfl⟩)
      simp [get?_insert_self, hk, hentry, eq_comm]
    · simp [get?_insert_of_ne fields w hkey, hkey]

/-- **What a map holds.** If no key is listed twice, the fields of a map are those listed. -/
theorem get?_ofList {entries : List (Text × Json)} (h : (entries.map Prod.fst).Nodup) {key : Text}
    {v : Json} : (ofList entries).get? key = some v ↔ (key, v) ∈ entries := by
  rw [ofList, get?_foldl_insert h]
  simp [get?]

end Fields

/-- **What is read is canonical.** -/
theorem Outline.Denotes.canonical {o : Outline} {v : Json} (h : o.Denotes v) : v.Canonical := by
  induction o using Outline.induct generalizing v with
  | null | bool b | number n | string t =>
    cases h
    trivial
  | array items ending ih =>
    cases h with
    | @array _ values hitems =>
      refine Json.allCanonical_iff.mpr ?_
      induction items generalizing values with
      | nil =>
        cases hitems
        exact fun _ h ↦ absurd h List.not_mem_nil
      | cons o items hrest =>
        obtain ⟨ho, hmore⟩ := List.forall_mem_cons.mp ih
        cases hitems with
        | cons hv hvalues => exact List.forall_mem_cons.mpr ⟨ho hv, hrest hmore hvalues⟩
  | object entries ending ih =>
    cases h with
    | @object _ fields hentries =>
      refine Fields.canonical_ofList ?_
      induction entries generalizing fields with
      | nil =>
        cases hentries
        exact fun _ h ↦ absurd h List.not_mem_nil
      | cons entry entries hrest =>
        obtain ⟨ho, hmore⟩ := List.forall_mem_cons.mp ih
        cases hentries with
        | cons hv hfields => exact List.forall_mem_cons.mpr ⟨ho hv, hrest hmore hfields⟩
  | absent => cases h

/-! ## The outline of a text -/

namespace Outline

open Token (Lexed Starts)

theorem complete_ofJson (v : Json) : (ofJson v).Complete := by
  induction v using Json.induct with
  | null | bool b | number n | string t => trivial
  | array items ih =>
    refine ⟨?_, rfl⟩
    induction items with
    | nil => trivial
    | cons v items hitems =>
      exact ⟨ih v List.mem_cons_self, hitems fun w hw ↦ ih w (List.mem_cons_of_mem v hw)⟩
  | object fields ih =>
    refine ⟨?_, rfl⟩
    induction fields with
    | nil => trivial
    | cons field fields hfields =>
      exact ⟨ih field List.mem_cons_self, hfields fun w hw ↦ ih w (List.mem_cons_of_mem field hw)⟩

/-- The text of the value is the tokens of its outline, in front of any text that does not go on
with it as a number would. -/
def Written (v : Json) : Prop :=
  ∀ {rest : List Symbol} {tokens : List Token}, Numeral.Ends rest → Lexed rest tokens →
    Lexed (v.text.symbols ++ rest) ((ofJson v).tokens ++ tokens)

variable {rest : List Symbol} {tokens : List Token}

theorem lexed_items {items : List Json} (hitems : ∀ v ∈ items, Written v) (h : Lexed rest tokens) :
    Lexed (Text.symbols (Json.itemsText items) ++ .char ']' :: rest)
      (itemsTokens (ofItems items) ++ .closeArray :: tokens) := by
  induction items with
  | nil => exact .token (.closeArray rest) h
  | cons v items ih =>
    obtain ⟨hv, hitems⟩ := List.forall_mem_cons.mp hitems
    cases items with
    | nil => exact hv (.cons rfl (by decide) rest) (.token (.closeArray rest) h)
    | cons w items =>
      have htokens : itemsTokens (ofItems (v :: w :: items)) ++ .closeArray :: tokens =
          (ofJson v).tokens ++ .comma ::
            (itemsTokens (ofItems (w :: items)) ++ .closeArray :: tokens) :=
        List.append_assoc ..
      rw [Json.itemsText, Text.symbols_append, List.append_assoc, Text.symbols_cons,
        List.cons_append, htokens]
      exact hv (.cons rfl (by decide) _) (.token (.comma _) (ih hitems))

theorem lexed_entry {v : Json} (hv : Written v) (key : Text) (hrest : Numeral.Ends rest)
    (h : Lexed rest tokens) :
    Lexed (Text.symbols (Json.stringText key ++ ':' :: v.text) ++ rest)
      (entryTokens (.ok key, ofJson v) ++ tokens) := by
  rw [Text.symbols_append, List.append_assoc]
  exact .token (Token.starts_stringText key _) (.token (.colon _) (hv hrest h))

theorem lexed_fields {fields : Fields} (hfields : ∀ field ∈ fields, Written field.2)
    (h : Lexed rest tokens) :
    Lexed (Text.symbols (Json.fieldsText fields) ++ .char '}' :: rest)
      (entriesTokens (ofFields fields) ++ .closeObject :: tokens) := by
  induction fields with
  | nil => exact .token (.closeObject rest) h
  | cons field fields ih =>
    obtain ⟨key, v⟩ := field
    obtain ⟨hv, hfields⟩ := List.forall_mem_cons.mp hfields
    cases fields with
    | nil => exact lexed_entry hv key (.cons rfl (by decide) rest) (.token (.closeObject rest) h)
    | cons field fields =>
      have htokens :
          entriesTokens (ofFields ((key, v) :: field :: fields)) ++ .closeObject :: tokens =
            entryTokens (.ok key, ofJson v) ++
              .comma :: (entriesTokens (ofFields (field :: fields)) ++ .closeObject :: tokens) :=
        List.append_assoc ..
      rw [Json.fieldsText, Text.symbols_append, List.append_assoc, Text.symbols_cons,
        List.cons_append, htokens]
      exact lexed_entry hv key (.cons rfl (by decide) _) (.token (.comma _) (ih hfields))

theorem written {v : Json} (hv : v.Integral) : Written v := by
  induction v using Json.induct with
  | null => exact fun _ h ↦ .token (.null _) h
  | bool b =>
    cases b with
    | false => exact fun _ h ↦ .token (.false _) h
    | true => exact fun _ h ↦ .token (.true _) h
  | number n =>
    cases n with
    | integer n hn => exact fun hrest h ↦ .token (Token.starts_ofInt hn hrest) h
    | double x => exact hv.elim
  | string t => exact fun _ h ↦ .token (Token.starts_stringText t _) h
  | array items ih =>
    intro rest tokens _ h
    rw [Json.Integral, Json.allIntegral_iff] at hv
    simp only [Json.text, Text.symbols_cons, Text.symbols_append, Text.symbols_nil,
      List.cons_append, List.append_assoc, List.nil_append, ofJson, Outline.tokens]
    exact .token (.openArray _) (lexed_items (fun w hw ↦ ih w hw (hv w hw)) h)
  | object fields ih =>
    intro rest tokens _ h
    rw [Json.Integral, Json.fieldsIntegral_iff] at hv
    simp only [Json.text, Text.symbols_cons, Text.symbols_append, Text.symbols_nil,
      List.cons_append, List.append_assoc, List.nil_append, ofJson, Outline.tokens]
    exact .token (.openObject _) (lexed_fields (fun w hw ↦ ih w hw (hv w hw)) h)

/-- **The text of a value spells its outline.** -/
theorem spells_text {v : Json} (hv : v.Integral) : (ofJson v).Spells v.text.symbols := by
  have h := written hv .nil .nil
  rw [List.append_nil, List.append_nil] at h
  exact ⟨complete_ofJson v, h⟩

end Outline

/-! ## Decoding an outline -/

/-- There is room for so many containers, one inside the other. -/
def Setting.Allows (s : Setting) (n : ℕ) : Prop :=
  ∀ room ∈ s.room, n ≤ room

theorem Setting.Allows.mono {s : Setting} {m n : ℕ} (h : s.Allows n) (hmn : m ≤ n) : s.Allows m :=
  fun room hroom ↦ Nat.le_trans hmn (h room hroom)

theorem Setting.Allows.enter {s : Setting} {n : ℕ} (h : s.Allows (n + 1)) :
    ∃ inner, s.enter = .ok inner ∧ inner.Allows n := by
  obtain ⟨room, surplus⟩ := s
  cases room with
  | none => exact ⟨_, rfl, fun _ hroom ↦ absurd hroom (by simp)⟩
  | some room =>
    have hroom : n + 1 ≤ room := h room rfl
    obtain ⟨room, rfl⟩ : ∃ k, room = k + 1 := ⟨room - 1, by omega⟩
    refine ⟨_, rfl, ?_⟩
    rintro _ ⟨⟩
    omega

namespace Outline

variable {s : Setting}

theorem toItems_ofItems {items : List Json} (h : ∀ v ∈ items, toJson s (ofJson v) = .ok v) :
    toItems s (ofItems items) = .ok items := by
  induction items with
  | nil => rfl
  | cons v items ih =>
    rw [ofItems, toItems, h v List.mem_cons_self,
      ih fun w hw ↦ h w (List.mem_cons_of_mem _ hw)]
    rfl

/-- Fields are decoded to the map that is built of them, in whatever order they stand. -/
theorem toFields_ofFields {fields : Fields}
    (h : ∀ field ∈ fields, toJson s (ofJson field.2) = .ok field.2) (done : Fields) :
    toFields s done (ofFields fields) =
      .ok (fields.foldl (fun fields field ↦ fields.insert field.1 field.2) done) := by
  induction fields generalizing done with
  | nil => rfl
  | cons field fields ih =>
    obtain ⟨key, v⟩ := field
    obtain ⟨hv, hfields⟩ := List.forall_mem_cons.mp h
    rw [ofFields, toFields, hv]
    exact ih hfields _

theorem toFields_of_pairwise {fields : Fields}
    (h : ∀ field ∈ fields, toJson s (ofJson field.2) = .ok field.2)
    (hkeys : (fields.map Prod.fst).Pairwise (· < ·)) :
    toFields s [] (ofFields fields) = .ok fields := by
  rw [toFields_ofFields h, ← Fields.ofList, Fields.ofList_of_pairwise hkeys]

/-- **The outline of a value is decoded to the value.** -/
theorem toJson_ofJson {v : Json} (hv : v.Canonical) (hroom : s.Allows v.depth) :
    toJson s (ofJson v) = .ok v := by
  induction v using Json.induct generalizing s with
  | null | bool b | number n | string t => rfl
  | array items ih =>
    rw [Json.Canonical, Json.allCanonical_iff] at hv
    rw [Json.depth] at hroom
    obtain ⟨inner, henter, hinner⟩ := hroom.enter
    have hitems : toItems inner (ofItems items) = .ok items :=
      toItems_ofItems fun v h ↦
        ih v h (hv v h) (hinner.mono (Json.itemsDepth_le_iff.1 (Nat.le_refl _) v h))
    rw [ofJson, toJson, henter]
    simp only [bind, Except.bind, hitems]
    rfl
  | object fields ih =>
    rw [Json.Canonical, Json.fieldsCanonical_iff] at hv
    rw [Json.depth] at hroom
    obtain ⟨inner, henter, hinner⟩ := hroom.enter
    have hfields : toFields inner [] (ofFields fields) = .ok fields :=
      toFields_of_pairwise (fun v h ↦ ih v h (hv.2 v h)
        (hinner.mono (Json.fieldsDepth_le_iff.1 (Nat.le_refl _) v h))) hv.1
    rw [ofJson, toJson, henter]
    simp only [bind, Except.bind, hfields]
    rfl

theorem toJson_object {fields : List (Text × Json)} (hvalues : ∀ field ∈ fields, field.2.Canonical)
    (hroom : s.Allows (Json.object fields).depth) :
    toJson s (ofJson (.object fields)) = .ok (.ofFields fields) := by
  rw [Json.depth] at hroom
  obtain ⟨inner, henter, hinner⟩ := hroom.enter
  have hfields :=
    toFields_ofFields (s := inner) (fun field hfield ↦ toJson_ofJson (hvalues field hfield)
    (hinner.mono (Json.fieldsDepth_le_iff.1 (Nat.le_refl _) field hfield))) []
  rw [ofJson, toJson, henter]
  simp only [bind, Except.bind, hfields]
  rfl

end Outline

/-! ## Whole texts -/

namespace Decoder

variable {α : Type}

theorem readText_text (decoder : Decoder α) {v : Json} (hv : v.Integral) :
    decoder.readText v.text = decoder .text (.ofJson v) := by
  rw [readText, readSymbols, (Outline.spells_iff.mp (Outline.spells_text hv)).2]
  simp only [bind, Except.bind]
  cases decoder .text (.ofJson v) <;> rfl

theorem readBody_text (decoder : Decoder α) {v : Json} (hv : v.Integral) :
    decoder.readBody v.text.toBody = decoder .text (.ofJson v) := by
  rw [readBody, Body.symbols_toBody]
  exact decoder.readText_text hv

/-- **JSON round trip.** A value is read again from its text. -/
theorem readBody_json {v : Json} (hv : v.Integral) (hcanonical : v.Canonical)
    (hdepth : v.depth ≤ 127) : json.readBody v.text.toBody = .ok v := by
  rw [readBody_text json hv]
  refine Outline.toJson_ofJson hcanonical ?_
  rintro _ ⟨⟩
  exact hdepth

theorem readText_object {fields : List (Text × Json)} (hv : (Json.object fields).Integral)
    (hvalues : ∀ field ∈ fields, field.2.Canonical) (hdepth : (Json.object fields).depth ≤ 127) :
    json.readText (Json.object fields).text = .ok (.ofFields fields) := by
  rw [readText_text json hv]
  refine Outline.toJson_object hvalues ?_
  rintro _ ⟨⟩
  exact hdepth

end Decoder
end SiteClient
