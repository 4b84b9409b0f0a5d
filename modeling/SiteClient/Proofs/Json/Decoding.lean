import Mathlib.Data.List.Forall2
import SiteClient.Json.Record
import SiteClient.Proofs.Json.Structure
/-!
# What a decoder takes

A decoder reports the first problem on its walk over an outline, and what it does not want it skips.
It walks over every bracket all the same, so an outline that it takes is complete
(`Decoder.TakesComplete`), and a body that it takes is the text of a tree
(`Decoder.spells_of_readBody`).

What it takes for a value is the value of the outline, which `Outline.Denotes` tells without a
decoder; and what it takes for the field of a record is the one outline that stands for the field
(`Outline.stated`, `Record.HasField.kept_of_reads`).
-/

namespace SiteClient

theorem exists_of_bind {ε α β : Type} {x : Except ε α} {f : α → Except ε β} {b : β}
    (h : x >>= f = .ok b) : ∃ a, x = .ok a ∧ f a = .ok b := by
  cases x with
  | error e => cases h
  | ok a => exact ⟨a, rfl, h⟩

/-! ## Endings -/

namespace Ending

variable {ending : Ending}

theorem closed_of_ofArray (h : ending.ofArray = .ok ()) : ending = .closed := by
  cases ending <;> first | rfl | cases h

theorem closed_of_ofFilledArray (h : ending.ofFilledArray = .ok ()) : ending = .closed := by
  cases ending <;> first | rfl | cases h

theorem closed_of_ofObject (h : ending.ofObject = .ok ()) : ending = .closed := by
  cases ending <;> first | rfl | cases h

theorem closed_of_ofSkippedArray (h : ending.ofSkippedArray = .ok ()) : ending = .closed := by
  cases ending <;> first | rfl | cases h

theorem closed_of_ofSkippedObject (h : ending.ofSkippedObject = .ok ()) : ending = .closed := by
  cases ending <;> first | rfl | cases h

end Ending

namespace Outline

/-! ## Skipping -/

theorem allComplete_of_skipItems {items : List Outline}
    (ih : ∀ v ∈ items, v.skip = .ok () → v.Complete) (h : skipItems items = .ok ()) :
    AllComplete items := by
  induction items with
  | nil => trivial
  | cons v items hitems =>
    obtain ⟨hv, hrest⟩ := List.forall_mem_cons.mp ih
    rw [skipItems] at h
    obtain ⟨_, hskip, hskips⟩ := exists_of_bind h
    exact ⟨hv hskip, hitems hrest hskips⟩

theorem entriesComplete_of_skipEntries {entries : List (Except ReadError Text × Outline)}
    (ih : ∀ entry ∈ entries, entry.2.skip = .ok () → entry.2.Complete)
    (h : skipEntries entries = .ok ()) : EntriesComplete entries := by
  induction entries with
  | nil => trivial
  | cons entry entries hentries =>
    obtain ⟨hv, hrest⟩ := List.forall_mem_cons.mp ih
    rw [skipEntries] at h
    obtain ⟨_, hskip, hskips⟩ := exists_of_bind h
    exact ⟨hv hskip, hentries hrest hskips⟩

theorem complete_of_skip {o : Outline} (h : o.skip = .ok ()) : o.Complete := by
  induction o using induct with
  | null | bool b | number n | string t => trivial
  | array items ending ih =>
    rw [skip] at h
    obtain ⟨_, hitems, hending⟩ := exists_of_bind h
    exact ⟨allComplete_of_skipItems ih hitems, Ending.closed_of_ofSkippedArray hending⟩
  | object entries ending ih =>
    rw [skip] at h
    obtain ⟨_, hentries, hending⟩ := exists_of_bind h
    exact ⟨entriesComplete_of_skipEntries ih hentries, Ending.closed_of_ofSkippedObject hending⟩
  | absent typed skipped => cases h

/-! ## Values -/

mutual

/-- The outline stands for the value. Of the entries of an object with the same key the last one
counts. -/
inductive Denotes : Outline → Json → Prop
  | null : Denotes .null .null
  | bool (b : Bool) : Denotes (.bool b) (.bool b)
  | number (n : Number) : Denotes (.number (.ok n)) (.number n)
  | string (t : Text) : Denotes (.string (.ok t)) (.string t)
  | array {items : List Outline} {values : List Json} (h : AllDenote items values) :
      Denotes (.array items .closed) (.array values)
  | object {entries : List (Except ReadError Text × Outline)} {fields : List (Text × Json)}
      (h : EntriesDenote entries fields) :
      Denotes (.object entries .closed) (.object (Fields.ofList fields))

/-- The outlines stand for the values, one by one. -/
inductive AllDenote : List Outline → List Json → Prop
  | nil : AllDenote [] []
  | cons {o : Outline} {v : Json} {items : List Outline} {values : List Json} (h : Denotes o v)
      (hrest : AllDenote items values) : AllDenote (o :: items) (v :: values)

/-- The entries stand for the fields, one by one. -/
inductive EntriesDenote : List (Except ReadError Text × Outline) → List (Text × Json) → Prop
  | nil : EntriesDenote [] []
  | cons {key : Text} {o : Outline} {v : Json} {entries : List (Except ReadError Text × Outline)}
      {fields : List (Text × Json)} (h : Denotes o v) (hrest : EntriesDenote entries fields) :
      EntriesDenote ((.ok key, o) :: entries) ((key, v) :: fields)

end

variable {s : Setting}

/-- What holds of a value that has been read from the outline. -/
def ReadsAs (o : Outline) (v : Json) : Prop :=
  o.Complete ∧ o.Denotes v

theorem allDenote_of_toItems {items : List Outline} {values : List Json}
    (ih : ∀ o ∈ items, ∀ (s : Setting) (v : Json), toJson s o = .ok v → o.ReadsAs v)
    (h : toItems s items = .ok values) : AllComplete items ∧ AllDenote items values := by
  induction items generalizing values with
  | nil =>
    obtain rfl := Except.ok.inj h
    exact ⟨trivial, .nil⟩
  | cons o items hitems =>
    obtain ⟨ho, hrest⟩ := List.forall_mem_cons.mp ih
    rw [toItems] at h
    obtain ⟨v, hv, h⟩ := exists_of_bind h
    obtain ⟨rest, hvalues, h⟩ := exists_of_bind h
    obtain rfl := Except.ok.inj h
    obtain ⟨hcomplete, hdenotes⟩ := ho s v hv
    obtain ⟨hcompletes, hdenote⟩ := hitems hrest hvalues
    exact ⟨⟨hcomplete, hcompletes⟩, .cons hdenotes hdenote⟩

theorem entriesDenote_of_toFields {entries : List (Except ReadError Text × Outline)}
    {before after : Fields}
    (ih : ∀ entry ∈ entries, ∀ (s : Setting) (v : Json), toJson s entry.2 = .ok v →
      entry.2.ReadsAs v)
    (h : toFields s before entries = .ok after) :
    EntriesComplete entries ∧ ∃ fields, EntriesDenote entries fields ∧
      after = fields.foldl (fun fields field ↦ fields.insert field.1 field.2) before := by
  induction entries generalizing before with
  | nil =>
    obtain rfl := Except.ok.inj h
    exact ⟨trivial, [], .nil, rfl⟩
  | cons entry entries hentries =>
    obtain ⟨key, o⟩ := entry
    obtain ⟨ho, hrest⟩ := List.forall_mem_cons.mp ih
    rw [toFields] at h
    obtain ⟨key, rfl, hread⟩ := exists_of_bind h
    obtain ⟨v, hv, hmore⟩ := exists_of_bind hread
    obtain ⟨hcomplete, hdenotes⟩ := ho s v hv
    obtain ⟨hcompletes, fields, hdenote, rfl⟩ := hentries hrest hmore
    exact ⟨⟨hcomplete, hcompletes⟩, (key, v) :: fields, .cons hdenotes hdenote, rfl⟩

/-- **What is read stands there.** -/
theorem readsAs_of_toJson {o : Outline} {v : Json} (h : toJson s o = .ok v) : o.ReadsAs v := by
  induction o using induct generalizing s v with
  | null =>
    obtain rfl := Except.ok.inj h
    exact ⟨trivial, .null⟩
  | bool b =>
    obtain rfl := Except.ok.inj h
    exact ⟨trivial, .bool b⟩
  | number n =>
    cases n with
    | error e => cases h
    | ok n =>
      obtain rfl := Except.ok.inj h
      exact ⟨trivial, .number n⟩
  | string t =>
    cases t with
    | error e => cases h
    | ok t =>
      obtain rfl := Except.ok.inj h
      exact ⟨trivial, .string t⟩
  | array items ending ih =>
    rw [toJson] at h
    obtain ⟨inner, -, h⟩ := exists_of_bind h
    obtain ⟨values, hvalues, h⟩ := exists_of_bind h
    obtain ⟨_, hending, h⟩ := exists_of_bind h
    obtain rfl := Except.ok.inj h
    obtain rfl := Ending.closed_of_ofArray hending
    obtain ⟨hcomplete, hdenote⟩ := allDenote_of_toItems (fun o ho s v ↦ ih o ho) hvalues
    exact ⟨⟨hcomplete, rfl⟩, .array hdenote⟩
  | object entries ending ih =>
    rw [toJson] at h
    obtain ⟨inner, -, h⟩ := exists_of_bind h
    obtain ⟨fields, hfields, h⟩ := exists_of_bind h
    obtain ⟨_, hending, h⟩ := exists_of_bind h
    obtain rfl := Except.ok.inj h
    obtain rfl := Ending.closed_of_ofObject hending
    obtain ⟨hcomplete, listed, hdenote, rfl⟩ :=
      entriesDenote_of_toFields (fun entry hentry s v ↦ ih entry hentry) hfields
    exact ⟨⟨hcomplete, rfl⟩, .object hdenote⟩
  | absent typed skipped => cases h

end Outline

/-! ## Decoders -/

namespace Decoder

variable {α : Type} {s : Setting} {o : Outline}

/-- An outline that the decoder takes is complete. -/
def TakesComplete (decoder : Decoder α) : Prop :=
  ∀ ⦃s : Setting⦄ ⦃o : Outline⦄ ⦃x : α⦄, decoder s o = .ok x → o.Complete

theorem refuse_ne_ok {wanted : Text} {x : α} : refuse wanted o ≠ .ok x := by
  intro h
  obtain ⟨found, -, h⟩ := exists_of_bind h
  cases h

theorem takesComplete_json : json.TakesComplete :=
  fun _ _ _ h ↦ (Outline.readsAs_of_toJson h).1

theorem takesComplete_text : text.TakesComplete := by
  intro s o x h
  cases o with
  | string t => trivial
  | _ => exact absurd h refuse_ne_ok

theorem eq_of_bool {b : Bool} (h : bool s o = .ok b) : o = .bool b := by
  cases o with
  | bool c => exact congrArg Outline.bool (Except.ok.inj h)
  | _ => exact absurd h refuse_ne_ok

theorem takesComplete_bool : bool.TakesComplete := by
  intro s o b h
  rw [eq_of_bool h]
  trivial

theorem takesComplete_optional {item : Decoder α} (h : item.TakesComplete) :
    (optional item).TakesComplete := by
  intro s o x hx
  cases o with
  | null => trivial
  | _ =>
    obtain ⟨y, hy, -⟩ := exists_of_bind (f := fun y ↦ .ok (some y)) hx
    exact h hy

theorem forall₂_of_mapM {ε β γ : Type} {f : β → Except ε γ} {xs : List β} {ys : List γ}
    (h : xs.mapM f = .ok ys) : List.Forall₂ (fun x y ↦ f x = .ok y) xs ys := by
  induction xs generalizing ys with
  | nil =>
    obtain rfl := Except.ok.inj h
    exact .nil
  | cons x xs ih =>
    rw [List.mapM_cons] at h
    obtain ⟨y, hy, h⟩ := exists_of_bind h
    obtain ⟨rest, hrest, h⟩ := exists_of_bind h
    obtain rfl := Except.ok.inj h
    exact .cons hy (ih hrest)

theorem forall₂_of_list {item : Decoder α} {values : List α} (h : list item s o = .ok values) :
    ∃ items inner, o = .array items .closed ∧
      List.Forall₂ (fun v x ↦ item inner v = .ok x) items values := by
  cases o with
  | array items ending =>
    obtain ⟨inner, -, h⟩ := exists_of_bind h
    obtain ⟨values, hvalues, h⟩ := exists_of_bind h
    obtain ⟨_, hending, h⟩ := exists_of_bind h
    obtain rfl := Except.ok.inj h
    obtain rfl := Ending.closed_of_ofArray hending
    exact ⟨items, inner, rfl, forall₂_of_mapM hvalues⟩
  | _ => exact absurd h refuse_ne_ok

theorem takesComplete_list {item : Decoder α} (h : item.TakesComplete) :
    (list item).TakesComplete := by
  intro s o values hvalues
  obtain ⟨items, inner, rfl, hitems⟩ := forall₂_of_list hvalues
  refine ⟨?_, rfl⟩
  clear hvalues
  induction hitems with
  | nil => trivial
  | cons hv _ ih => exact ⟨h hv, ih⟩

end Decoder

/-! ## Records -/

namespace Outline

/-- The outlines that stand under a name. -/
def valuesAt (name : Text) (entries : List (Except ReadError Text × Outline)) : List Outline :=
  entries.filterMap fun (key, v) ↦ if key.toOption = some name then some v else none

theorem valuesAt_cons_self (name : Text) (v : Outline)
    (entries : List (Except ReadError Text × Outline)) :
    valuesAt name ((.ok name, v) :: entries) = v :: valuesAt name entries :=
  List.filterMap_cons_some (if_pos rfl)

theorem valuesAt_cons_of_ne {name key : Text} (h : key ≠ name) (v : Outline)
    (entries : List (Except ReadError Text × Outline)) :
    valuesAt name ((.ok key, v) :: entries) = valuesAt name entries :=
  List.filterMap_cons_none (if_neg fun hkey ↦ h (Option.some.inj hkey))

/-- The outlines that stand for a field of a record: in an object those under its name, in an array
the one at its place. -/
def stated (place : ℕ) (name : Text) : Outline → List Outline
  | .object entries _ => valuesAt name entries
  | .array items _ => items[place]?.toList
  | _ => []

end Outline

section Records

variable {π α β : Type} {get : π → Option β} {put : π → β → π} {decoder : Decoder β} {name : String}
  {s : Setting} {p p' : π}

namespace RecordField

/-- An outline that the field takes is complete. -/
def TakesComplete (field : RecordField π) : Prop :=
  ∀ ⦃p p' : π⦄ ⦃s : Setting⦄ ⦃o : Outline⦄, field.read p s o = .ok p' → o.Complete

/-- The field leaves alone what is kept elsewhere. -/
def Keeps (field : RecordField π) (get : π → Option β) : Prop :=
  ∀ ⦃p p' : π⦄ ⦃s : Setting⦄ ⦃o : Outline⦄, field.read p s o = .ok p' → get p' = get p

theorem exists_of_read {o : Outline} (h : (of name get put decoder).read p s o = .ok p') :
    ∃ x, decoder s o = .ok x ∧ put p x = p' := by
  change put p <$> decoder s o = .ok p' at h
  cases hx : decoder s o with
  | error e =>
    rw [hx] at h
    cases h
  | ok x =>
    rw [hx] at h
    exact ⟨x, rfl, Except.ok.inj h⟩

theorem takesComplete_of (h : decoder.TakesComplete) : (of name get put decoder).TakesComplete := by
  intro p p' s o hread
  obtain ⟨x, hx, -⟩ := exists_of_read hread
  exact h hx

theorem keeps_of {γ : Type} {get' : π → Option γ} (h : ∀ p x, get' (put p x) = get' p) :
    (of name get put decoder).Keeps get' := by
  intro p p' s o hread
  obtain ⟨x, -, rfl⟩ := exists_of_read hread
  exact h p x

end RecordField

namespace Record

variable {record : Record π α} {before after : List (RecordField π)} {o : Outline}

/-- The record has the field, and no other of its fields has the name or changes what is kept for
it. -/
structure HasField (record : Record π α) (before after : List (RecordField π)) (name : String)
    (get : π → Option β) (put : π → β → π) (decoder : Decoder β) : Prop where
  fields : record.fields = before ++ .of name get put decoder :: after
  name_ne : ∀ field ∈ before ++ after, field.name ≠ name.toList
  keeps : ∀ field ∈ before ++ after, field.Keeps get
  get_empty : get record.empty = none
  get_put : ∀ p x, get (put p x) = some x

/-- What has been kept when the outline has been walked over. -/
inductive Reads (record : Record π α) (s : Setting) : Outline → π → Prop
  | object {entries : List (Except ReadError Text × Outline)} {p : π}
      (h : record.readEntries s record.empty entries = .ok p) :
      Reads record s (.object entries .closed) p
  | array {items : List Outline} {p : π} (hlength : items.length ≤ record.fields.length)
      (h : readItems s record.empty record.fields items = .ok p) :
      Reads record s (.array items .closed) p

theorem exists_of_decoder {x : α} (h : record.decoder s o = .ok x) :
    ∃ inner p, record.Reads inner o p ∧ record.finish p = .ok x := by
  cases o with
  | object entries ending =>
    obtain ⟨inner, -, h⟩ := exists_of_bind h
    obtain ⟨p, hp, h⟩ := exists_of_bind h
    obtain ⟨_, hending, h⟩ := exists_of_bind h
    obtain rfl := Ending.closed_of_ofObject hending
    refine ⟨inner, p, .object hp, ?_⟩
    cases hfinish : record.finish p with
    | error missing =>
      rw [hfinish] at h
      cases h
    | ok y =>
      rw [hfinish] at h
      exact congrArg Except.ok (Except.ok.inj h)
  | array items ending =>
    obtain ⟨inner, -, h⟩ := exists_of_bind h
    obtain ⟨p, hp, h⟩ := exists_of_bind h
    by_cases hlength : record.fields.length < items.length
    · rw [if_pos hlength] at h
      cases h
    · rw [if_neg hlength] at h
      dsimp only at h
      have hclosed : ending = .closed := by
        split at h
        · obtain ⟨_, hending, -⟩ := exists_of_bind h
          exact Ending.closed_of_ofArray hending
        · obtain ⟨_, hending, -⟩ := exists_of_bind h
          exact Ending.closed_of_ofFilledArray hending
      subst hclosed
      refine ⟨inner, p, .array (Nat.le_of_not_lt hlength) hp, ?_⟩
      cases hfinish : record.finish p with
      | error missing =>
        rw [hfinish] at h
        split at h <;> cases h
      | ok y =>
        rw [hfinish] at h
        split at h <;> exact congrArg Except.ok (Except.ok.inj h)
  | _ => exact absurd h Decoder.refuse_ne_ok

/-! ### Completeness -/

theorem entriesComplete_of_readEntries (hfields : ∀ field ∈ record.fields, field.TakesComplete)
    {entries : List (Except ReadError Text × Outline)}
    (h : record.readEntries s p entries = .ok p') :
    Outline.EntriesComplete entries := by
  induction entries generalizing p with
  | nil => trivial
  | cons entry entries ih =>
    obtain ⟨key, v⟩ := entry
    rw [readEntries] at h
    obtain ⟨key, -, h⟩ := exists_of_bind h
    split at h
    · obtain ⟨_, hskip, h⟩ := exists_of_bind h
      exact ⟨Outline.complete_of_skip hskip, ih h⟩
    · rename_i field hfind
      split at h
      · cases h
      · obtain ⟨p₁, hread, h⟩ := exists_of_bind h
        exact ⟨hfields field (List.mem_of_find?_eq_some hfind) hread, ih h⟩

theorem allComplete_of_readItems {fields : List (RecordField π)}
    (hfields : ∀ field ∈ fields, field.TakesComplete) {items : List Outline}
    (hlength : items.length ≤ fields.length) (h : readItems s p fields items = .ok p') :
    Outline.AllComplete items := by
  induction items generalizing fields p with
  | nil => trivial
  | cons v items ih =>
    cases fields with
    | nil => exact absurd hlength (Nat.not_succ_le_zero _)
    | cons field fields =>
      obtain ⟨hfield, hfields⟩ := List.forall_mem_cons.mp hfields
      rw [readItems] at h
      obtain ⟨p₁, hread, h⟩ := exists_of_bind h
      exact ⟨hfield hread, ih hfields (Nat.le_of_succ_le_succ hlength) h⟩

theorem takesComplete_decoder (hfields : ∀ field ∈ record.fields, field.TakesComplete) :
    record.decoder.TakesComplete := by
  intro s o x hx
  obtain ⟨inner, p, hreads, -⟩ := exists_of_decoder hx
  cases hreads with
  | object h => exact ⟨entriesComplete_of_readEntries hfields h, rfl⟩
  | array hlength h => exact ⟨allComplete_of_readItems hfields hlength h, rfl⟩

/-! ### One field -/

/-- What has been kept for a field is what the one outline that stands for it is read as, or nothing
if none does. -/
def Kept (decoder : Decoder β) (s : Setting) (values : List Outline) (kept : Option β) : Prop :=
  (values = [] ∧ kept = none) ∨ ∃ v x, values = [v] ∧ decoder s v = .ok x ∧ kept = some x

namespace HasField

theorem eq_or_keeps (h : record.HasField before after name get put decoder) {field : RecordField π}
    (hmem : field ∈ record.fields) :
    field = .of name get put decoder ∨ (field.name ≠ name.toList ∧ field.Keeps get) := by
  rw [h.fields, List.mem_append, List.mem_cons] at hmem
  rcases hmem with hmem | rfl | hmem
  · have hother := List.mem_append_left after hmem
    exact .inr ⟨h.name_ne field hother, h.keeps field hother⟩
  · exact .inl rfl
  · have hother := List.mem_append_right before hmem
    exact .inr ⟨h.name_ne field hother, h.keeps field hother⟩

/-- In an object the field may stand once: what has been kept for it before, no entry replaces. -/
theorem get_of_readEntries (h : record.HasField before after name get put decoder)
    {entries : List (Except ReadError Text × Outline)}
    (hread : record.readEntries s p entries = .ok p') :
    (Outline.valuesAt name.toList entries = [] ∧ get p' = get p) ∨
      (get p = none ∧ Kept decoder s (Outline.valuesAt name.toList entries) (get p')) := by
  induction entries generalizing p with
  | nil =>
    obtain rfl := Except.ok.inj hread
    exact .inl ⟨rfl, rfl⟩
  | cons entry entries ih =>
    obtain ⟨key, v⟩ := entry
    rw [readEntries] at hread
    obtain ⟨key, hkey, hentry⟩ := exists_of_bind hread
    subst hkey
    split at hentry
    · rename_i hfind
      obtain ⟨_, -, hrest⟩ := exists_of_bind hentry
      have hkey : key ≠ name.toList := by
        rintro rfl
        refine absurd (List.find?_eq_none.mp hfind (.of name get put decoder) ?_)
          (by simp [RecordField.of])
        rw [h.fields]
        exact List.mem_append_right before List.mem_cons_self
      rw [Outline.valuesAt_cons_of_ne hkey]
      exact ih hrest
    · rename_i field hfind
      split at hentry
      · cases hentry
      · rename_i hunset
        obtain ⟨p₁, hfield, hrest⟩ := exists_of_bind hentry
        have hname : field.name = key := by simpa using List.find?_some hfind
        subst hname
        rcases h.eq_or_keeps (List.mem_of_find?_eq_some hfind) with rfl | ⟨hne, hkeeps⟩
        · -- The field itself: nothing has been kept for it, and no later entry may have its name.
          have hp : get p = none := by simpa [RecordField.of] using hunset
          obtain ⟨x, hx, rfl⟩ := RecordField.exists_of_read hfield
          have hlater := ih hrest
          rw [h.get_put] at hlater
          obtain ⟨hnone, hget⟩ := hlater.resolve_right fun hagain ↦ Option.some_ne_none x hagain.1
          refine .inr ⟨hp, .inr ⟨v, x, ?_, hx, hget⟩⟩
          exact (Outline.valuesAt_cons_self _ _ _).trans (congrArg _ hnone)
        · rw [Outline.valuesAt_cons_of_ne hne, ← hkeeps hfield]
          exact ih hrest

theorem get_of_readItems_keeps {fields : List (RecordField π)} {items : List Outline}
    (hfields : ∀ field ∈ fields, field.Keeps get) (hread : readItems s p fields items = .ok p') :
    get p' = get p := by
  induction fields generalizing p items with
  | nil =>
    obtain rfl := Except.ok.inj hread
    rfl
  | cons field fields ih =>
    cases items with
    | nil =>
      obtain rfl := Except.ok.inj hread
      rfl
    | cons v items =>
      obtain ⟨hfield, hfields⟩ := List.forall_mem_cons.mp hfields
      rw [readItems] at hread
      obtain ⟨p₁, hv, hread⟩ := exists_of_bind hread
      exact (ih hfields hread).trans (hfield hv)

theorem get_of_readItems (hbefore : ∀ field ∈ before, field.Keeps get)
    (hafter : ∀ field ∈ after, field.Keeps get) (hput : ∀ p x, get (put p x) = some x)
    {items : List Outline} (hp : get p = none)
    (hread : readItems s p (before ++ .of name get put decoder :: after) items = .ok p') :
    Kept decoder s items[before.length]?.toList (get p') := by
  induction before generalizing p items with
  | nil =>
    cases items with
    | nil =>
      obtain rfl := Except.ok.inj hread
      exact .inl ⟨rfl, hp⟩
    | cons v items =>
      rw [List.nil_append, readItems] at hread
      obtain ⟨p₁, hv, hread⟩ := exists_of_bind hread
      obtain ⟨x, hx, rfl⟩ := RecordField.exists_of_read hv
      exact .inr ⟨v, x, rfl, hx, (get_of_readItems_keeps hafter hread).trans (hput p x)⟩
  | cons field before ih =>
    cases items with
    | nil =>
      obtain rfl := Except.ok.inj hread
      exact .inl ⟨rfl, hp⟩
    | cons v items =>
      obtain ⟨hfield, hbefore⟩ := List.forall_mem_cons.mp hbefore
      rw [List.cons_append, readItems] at hread
      obtain ⟨p₁, hv, hread⟩ := exists_of_bind hread
      exact ih hbefore ((hfield hv).trans hp) hread

/-- **A field is what stands for it.** -/
theorem kept_of_reads (h : record.HasField before after name get put decoder)
    (hreads : record.Reads s o p) :
    Kept decoder s (o.stated before.length name.toList) (get p) := by
  cases hreads with
  | object hread =>
    rcases h.get_of_readEntries hread with ⟨hnone, hget⟩ | ⟨-, hkept⟩
    · exact .inl ⟨hnone, hget.trans h.get_empty⟩
    · exact hkept
  | array hlength hread =>
    rw [h.fields] at hread
    refine get_of_readItems (fun field hfield ↦ h.keeps field (List.mem_append_left after hfield))
      (fun field hfield ↦ h.keeps field (List.mem_append_right before hfield))
      h.get_put h.get_empty hread

end HasField

end Record

end Records

/-! ## Whole texts -/

namespace Decoder

variable {α : Type}

/-- **A body that is read is the text of a tree.** -/
theorem spells_of_readBody {decoder : Decoder α} (h : decoder.TakesComplete) {body : Body} {x : α}
    (hx : decoder.readBody body = .ok x) :
    ∃ o, o.Spells body.symbols ∧ decoder .text o = .ok x := by
  rw [readBody, readSymbols] at hx
  obtain ⟨value, hvalue, hx⟩ := exists_of_bind hx
  split at hx
  · rename_i hrest
    obtain rfl := Except.ok.inj hx
    exact ⟨_, Outline.spells_iff.mpr ⟨h hvalue, Prod.ext rfl (List.isEmpty_iff.mp hrest)⟩, hvalue⟩
  · cases hx

end Decoder
end SiteClient
