import Mathlib.Data.List.Basic
import SiteClient.Proofs.Json.Reading
import SiteClient.Proofs.Render.Descent
import SiteClient.Proofs.Render.Parts
import SiteClient.Proofs.Template.Entities
import SiteClient.Proofs.Template.Spelling

/-!
# Structured parameters

A page hands values of its context to a localized string in an object, with a variable between the
quotation marks of each field:

```text
{{#str}}key, component, {"name":"{{user}}","place":"{{city}}"}{{/str}}
```

Such a value goes a long way. The body of the section is cut at its commas, the last part is
expanded as a template, which writes each value with entities and with guards, the guards are taken
away, and what is left is read as JSON. No stage mistakes a character of a value for one of its own:

* the body is cut before the values are written into it, and they are never parsed as a template;
* a guard stands before each brace of a value, so no placeholder is found in it, and it is given
  back as it was (`substituteFrom_guarded`);
* its quotation marks have become entities, so it ends in the JSON text where its variable ended in
  the source. What JSON wants escaped besides is excluded.

Source and expansion have the same shape, an object of strings whose characters all stand for
themselves (`objectText`). `stringsFrom` is that shape from any text in front of the first key on;
it serves the parameter by itself and the parameter behind the other parts of the body alike.
-/

namespace SiteClient

/-! ## Words -/

/-- A text of one or more Latin letters. -/
structure IsWord (t : Text) : Prop where
  ne_nil : t ≠ []
  isAlpha : ∀ c ∈ t, c.isAlpha = true

namespace Text

theorem trim_eq_self {t : Text} (hhead : ∀ c ∈ t.head?, isBlank c = false)
    (hlast : ∀ c ∈ t.getLast?, isBlank c = false) : trim t = t := by
  have hdrop {t : Text} (h : ∀ c ∈ t.head?, isBlank c = false) : t.dropWhile isBlank = t := by
    cases t with
    | nil => rfl
    | cons c t => exact List.dropWhile_cons_of_neg (by simp [h c rfl])
  rw [trim, trimEnd, trimStart, hdrop hhead, hdrop, List.reverse_reverse]
  rwa [List.head?_reverse]

theorem toNat_of_isAlpha {c : Char} (h : c.isAlpha = true) :
    65 ≤ c.toNat ∧ c.toNat ≤ 90 ∨ 97 ≤ c.toNat ∧ c.toNat ≤ 122 := by
  have hcases : (c.isUpper || c.isLower) = true := h
  obtain hupper | hlower := Bool.or_eq_true_iff.mp hcases
  · exact .inl (of_decide_eq_true hupper)
  · obtain ⟨hlow, hhigh⟩ := Bool.and_eq_true_iff.mp hlower
    exact .inr ⟨of_decide_eq_true hlow, of_decide_eq_true hhigh⟩

theorem isBlank_of_isAlpha {c : Char} (h : c.isAlpha = true) : isBlank c = false := by
  have hrange := toNat_of_isAlpha h
  rw [Bool.eq_false_iff]
  intro hblank
  simp only [isBlank, Bool.or_eq_true, Bool.and_eq_true, decide_eq_true_eq, beq_iff_eq] at hblank
  omega

end Text

namespace IsWord

variable {t : Text}

theorem not_mem (h : IsWord t) {c : Char} (hc : c.isAlpha = false) : c ∉ t :=
  fun hmem ↦ Bool.false_ne_true (hc.symm.trans (h.isAlpha c hmem))

theorem trim_eq (h : IsWord t) : Text.trim t = t :=
  Text.trim_eq_self (fun c hc ↦ Text.isBlank_of_isAlpha (h.isAlpha c (List.mem_of_mem_head? hc)))
    fun c hc ↦ Text.isBlank_of_isAlpha (h.isAlpha c (List.mem_of_getLast? hc))

theorem isName (h : IsWord t) : Template.IsName t where
  ne_nil := h.ne_nil
  trim_eq := h.trim_eq
  openBrace_not_mem := h.not_mem rfl
  closeBrace_not_mem := h.not_mem rfl
  head_not_mem c hc hmark := by
    have hmarks : Template.marks.any Char.isAlpha = false := by decide
    exact List.any_eq_false.mp hmarks c hmark (h.isAlpha c (List.mem_of_mem_head? hc))

end IsWord

/-! ## Objects of strings -/

namespace Json

/-- Each character stands for itself in a JSON string. -/
def Verbatim (t : Text) : Prop :=
  ∀ c ∈ t, escapedChar c = [c]

instance (t : Text) : Decidable (Verbatim t) :=
  List.decidableBAll _ t

theorem escapedChar_eq {c : Char} (hquote : c ≠ '"') (hbackslash : c ≠ '\\')
    (hcontrol : 0x20 ≤ c.toNat) : escapedChar c = [c] := by
  unfold escapedChar
  split
  case h_1 => exact absurd rfl hquote
  case h_2 => exact absurd rfl hbackslash
  case h_8 => exact if_neg (Nat.not_lt.mpr hcontrol)
  all_goals exact absurd hcontrol (by decide)

theorem Verbatim.stringText_eq {t : Text} (h : Verbatim t) : stringText t = '"' :: t ++ ['"'] := by
  rw [stringText, List.flatMap_congr h, List.flatMap_singleton']

/-- The text of a field whose value is a string; nothing is escaped. -/
def fieldText (field : Text × Text) : Text :=
  '"' :: field.1 ++ "\":\"".toList ++ field.2 ++ ['"']

/-- The text of an object of strings; nothing is escaped. -/
def objectText (fields : List (Text × Text)) : Text :=
  '{' :: [','].intercalate (fields.map fieldText) ++ ['}']

def stringFields (fields : List (Text × Text)) : List (Text × Json) :=
  fields.map fun field ↦ (field.1, .string field.2)

theorem forall_mem_stringFields {motive : Json → Prop} (h : ∀ t, motive (.string t))
    {fields : List (Text × Text)} : ∀ field ∈ stringFields fields, motive field.2 := by
  intro field hfield
  obtain ⟨field, _, rfl⟩ := List.mem_map.mp hfield
  exact h _

theorem fieldsText_stringFields {fields : List (Text × Text)}
    (h : ∀ field ∈ fields, Verbatim field.1 ∧ Verbatim field.2) :
    fieldsText (stringFields fields) = [','].intercalate (fields.map fieldText) := by
  induction fields with
  | nil => rfl
  | cons field fields ih =>
    obtain ⟨⟨hkey, hvalue⟩, hfields⟩ := List.forall_mem_cons.mp h
    have hfield : stringText field.1 ++ ':' :: text (.string field.2) = fieldText field := by
      simp [text, fieldText, hkey.stringText_eq, hvalue.stringText_eq]
    cases fields with
    | nil =>
      rw [List.map_singleton, List.intercalate_singleton]
      exact hfield
    | cons other fields =>
      rw [List.map_cons, List.map_cons, List.intercalate_cons_cons, ← List.map_cons, ← ih hfields,
        ← hfield, List.append_assoc _ [',']]
      rfl

theorem text_stringFields {fields : List (Text × Text)}
    (h : ∀ field ∈ fields, Verbatim field.1 ∧ Verbatim field.2) :
    text (.object (stringFields fields)) = objectText fields := by
  rw [text, fieldsText_stringFields h, objectText]

/-- **An object of strings is read from its text**, in whatever order its fields stand. -/
theorem readText_objectText {fields : List (Text × Text)}
    (h : ∀ field ∈ fields, Verbatim field.1 ∧ Verbatim field.2) :
    Decoder.json.readText (objectText fields) = .ok (.ofFields (stringFields fields)) := by
  rw [← text_stringFields h]
  exact Decoder.readText_object (fieldsIntegral_iff.mpr (forall_mem_stringFields fun _ ↦ trivial))
    (forall_mem_stringFields fun _ ↦ trivial)
    (Nat.succ_le_succ (fieldsDepth_le_iff.mpr
      (forall_mem_stringFields (motive := (·.depth ≤ 126)) fun _ ↦ Nat.zero_le 126)))

end Json

/-! ## What stands for itself -/

theorem IsWord.verbatim {t : Text} (h : IsWord t) : Json.Verbatim t := by
  intro c hc
  have hrange := Text.toNat_of_isAlpha (h.isAlpha c hc)
  refine Json.escapedChar_eq ?_ ?_ (by omega)
  all_goals
    rintro rfl
    exact h.not_mem rfl hc

namespace Template

theorem verbatim_of_entity? {c : Char} {e : Text} (h : entity? c = some e) : Json.Verbatim e := by
  have hall : ∀ p ∈ entities, Json.Verbatim p.1 := by decide
  exact hall (e, c) (mem_entities_iff.mpr h)

/-- **Escaping for HTML leaves nothing to escape for JSON** but backslashes and control
characters. -/
theorem verbatim_escapeHtml {t : Text} (h : ∀ c ∈ t, c ≠ '\\' ∧ 0x20 ≤ c.toNat) :
    Json.Verbatim (escapeHtml t) := by
  intro c hc
  obtain ⟨d, hd, hc⟩ := List.mem_flatMap.mp hc
  cases hentity : entity? d with
  | none =>
    rw [hentity] at hc
    obtain rfl := List.mem_singleton.mp hc
    refine Json.escapedChar_eq ?_ (h c hd).1 (h c hd).2
    rintro rfl
    cases hentity
  | some e =>
    rw [hentity] at hc
    exact verbatim_of_entity? hentity c hc

/-! ## A section on one line -/

/-- A section that is closed on its line is a template by itself. -/
theorem parse_section {name : Text} (hname : IsName name) {inner : List Segment}
    {children : List Node}
    (hsegmented : Segmented (inner ++ [.tag (closingSource name) (.closeSection name)]))
    (hline : ∀ t, .text t ∈ inner → '\n' ∉ t) (hnests : Nests (inner.map Segment.piece) children) :
    parse (openingSource name false ++ inner.flatMap Segment.source ++ closingSource name) =
      .ok [.section name false (inner.flatMap Segment.source) children] := by
  have hall : Segmented (.tag (openingSource name false) (.openSection name false) ::
      (inner ++ [.tag (closingSource name) (.closeSection name)])) :=
    .tag (hname.isTag_opening false) hsegmented
  have hlater : ∀ t, .text t ∈ inner ++ [.tag (closingSource name) (.closeSection name)] →
      '\n' ∉ t := by
    intro t ht
    obtain ht | ht := List.mem_append.mp ht
    · exact hline t ht
    · cases List.mem_singleton.mp ht
  have hbody : (inner.map Segment.piece).flatMap Piece.source = inner.flatMap Segment.source := by
    rw [List.flatMap_map]
    exact List.flatMap_congr fun seg _ ↦ seg.source_piece
  have hsection :=
    Nests.nested (openingSource name false) (closingSource name) name false hnests .nil
  refine parse_eq_ok_iff.mpr ⟨_, hall, ?_, ?_⟩
  · rw [List.flatMap_cons, List.flatMap_append, List.flatMap_singleton, ← List.append_assoc]
    rfl
  · -- The line goes on with the tag that closes the section.
    have hclosing := List.mem_append_right inner
      (List.mem_singleton_self (Segment.tag (closingSource name) (.closeSection name)))
    rw [layOut_tag (.inr (.inr (lineEnd?_eq_none hlater hclosing))),
      layOut_of_not_mem List.not_mem_nil hlater, asWritten_eq_map hsegmented]
    rw [hbody] at hsection
    simpa [textPiece, Segment.piece] using hsection

end Template

namespace Expansion

open Placeholder Template
open Json (fieldText objectText stringFields Verbatim)

/-! ## From the first key on -/

/-- A field of a parameter: its key, the variable for its value, and the string that this has. -/
structure ParamField where
  key : Text
  name : Text
  value : Text
  deriving DecidableEq, Repr

def ParamField.written (field : ParamField) : Text × Text :=
  (field.key, variableSource field.name true)

def ParamField.filled (field : ParamField) : Text × Text :=
  (field.key, escapeHtml field.value)

/-- An object of strings, from what stands in front of the first key on. -/
def stringsFrom (lead : Text) : List (Text × Text) → Text
  | [] => "\"\x7d".toList
  | field :: rest =>
    lead ++ field.1 ++ "\":\"".toList ++ field.2 ++ stringsFrom "\",\"".toList rest

theorem stringsFrom_cons (before : Text) (field : Text × Text) (rest : List (Text × Text)) :
    stringsFrom (before ++ ['"']) (field :: rest) =
      before ++ [','].intercalate ((field :: rest).map fieldText) ++ ['}'] := by
  induction rest generalizing before field with
  | nil => simp [stringsFrom, fieldText]
  | cons other rest ih =>
    have hrest := ih ['"', ','] other
    rw [List.map_cons, List.map_cons, List.intercalate_cons_cons, ← List.map_cons, stringsFrom]
    rw [List.cons_append, List.singleton_append] at hrest
    change before ++ ['"'] ++ field.1 ++ _ ++ field.2 ++ stringsFrom ['"', ',', '"'] _ = _
    rw [hrest]
    simp [fieldText]

theorem stringsFrom_objectText (before : Text) {fields : List (Text × Text)} (hne : fields ≠ []) :
    stringsFrom (before ++ ['{', '"']) fields = before ++ objectText fields := by
  cases fields with
  | nil => exact absurd rfl hne
  | cons field rest =>
    rw [List.append_cons, stringsFrom_cons, objectText, List.append_assoc, List.append_assoc]
    rfl

/-- The segments of an object with a variable for each value. -/
def fieldSegments (lead : Text) : List ParamField → List Segment
  | [] => [.text "\"\x7d".toList]
  | field :: rest =>
    .text (lead ++ field.key ++ "\":\"".toList) ::
      .tag (variableSource field.name true) (.variable field.name true) ::
        fieldSegments "\",\"".toList rest

/-- The nodes of an object with a variable for each value. -/
def fieldNodes (lead : Text) : List ParamField → List Node
  | [] => [.text "\"\x7d".toList]
  | field :: rest =>
    .text (lead ++ field.key ++ "\":\"".toList) :: .variable field.name true ::
      fieldNodes "\",\"".toList rest

theorem sources_fieldSegments (lead : Text) (fields : List ParamField) :
    (fieldSegments lead fields).flatMap Segment.source =
      stringsFrom lead (fields.map ParamField.written) := by
  induction fields generalizing lead with
  | nil => rfl
  | cons field rest ih =>
    rw [fieldSegments, List.flatMap_cons, List.flatMap_cons, ih, List.map_cons, stringsFrom]
    simp [Segment.source, ParamField.written]

theorem nests_fieldSegments (lead : Text) (fields : List ParamField) :
    Nests ((fieldSegments lead fields).map Segment.piece) (fieldNodes lead fields) := by
  induction fields generalizing lead with
  | nil => exact .leaf (.text _) rfl .nil
  | cons field rest ih =>
    exact .leaf (.text _) rfl (.leaf (.tag _ (.variable field.name true)) rfl (ih _))

/-! ## Cutting the sources -/

/-- No tag begins in the text or between it and a text without braces. -/
def Leads (lead : Text) : Prop :=
  ∀ t, '{' ∉ t → Text.breakOn opener (lead ++ t ++ opener) = some (lead ++ t, [])

theorem leads_of_not_mem {lead : Text} (h : '{' ∉ lead) : Leads lead :=
  fun _ ht ↦ Text.breakOn_append_of_not_mem (List.mem_append.not.mpr (not_or.mpr ⟨h, ht⟩))

/-- The brace of an object is no tag, for a quotation mark stands behind it. -/
theorem leads_object {before : Text} (h : '{' ∉ before) : Leads (before ++ ['{', '"']) := by
  intro t ht
  have hquote : Text.breakOn opener ('"' :: t ++ opener) = some ('"' :: t, []) :=
    Text.breakOn_append_of_not_mem (List.not_mem_cons_of_ne_of_not_mem (by decide) ht)
  have hbrace : Text.breakOn opener ('{' :: '"' :: t ++ opener) = some ('{' :: '"' :: t, []) := by
    change (Text.breakOn opener ('"' :: t ++ opener)).map _ = _
    rw [hquote]
    rfl
  have hcut : Text.breakOn opener (before ++ ('{' :: '"' :: t ++ opener)) = _ :=
    Text.breakOn_append_left h _
  rw [← opener, hbrace] at hcut
  simpa using hcut

variable {lead : Text} {fields : List ParamField}

theorem segmented_fieldSegments (hlead : Leads lead)
    (hwords : ∀ field ∈ fields, IsWord field.key ∧ IsWord field.name) {more : List Segment}
    (hmore : Segmented more) (hnext : ¬startsWithText more) :
    Segmented (fieldSegments lead fields ++ more) := by
  induction fields generalizing lead with
  | nil => exact segmented_text ⟨by decide, by decide, by decide⟩ hnext hmore
  | cons field rest ih =>
    obtain ⟨⟨hkey, hname⟩, hrest⟩ := List.forall_mem_cons.mp hwords
    have hbrace : '{' ∉ field.key ++ "\":\"".toList := by
      simp [hkey.isName.openBrace_not_mem]
    have hclear := hlead _ hbrace
    rw [← List.append_assoc] at hclear
    exact .between (List.append_ne_nil_of_right_ne_nil _ (by decide)) hclear
      (hname.isName.isTag_variable true) (ih (leads_of_not_mem (by decide)) hrest)

theorem newline_not_mem_fieldSegments (hlead : '\n' ∉ lead)
    (hwords : ∀ field ∈ fields, IsWord field.key ∧ IsWord field.name) {t : Text}
    (ht : .text t ∈ fieldSegments lead fields) : '\n' ∉ t := by
  induction fields generalizing lead with
  | nil =>
    obtain rfl := Segment.text.inj (List.mem_singleton.mp ht)
    decide
  | cons field rest ih =>
    obtain ⟨⟨hkey, -⟩, hrest⟩ := List.forall_mem_cons.mp hwords
    obtain heq | ht := List.mem_cons.mp ht
    · obtain rfl := Segment.text.inj heq
      simp [hlead, hkey.not_mem (c := '\n') rfl]
    · obtain heq | ht := List.mem_cons.mp ht
      · cases heq
      · exact ih (by decide) hrest ht

theorem parse_parameter (hne : fields ≠ [])
    (hwords : ∀ field ∈ fields, IsWord field.key ∧ IsWord field.name) :
    parse (objectText (fields.map ParamField.written)) = .ok (fieldNodes ['{', '"'] fields) := by
  have hsegmented : Segmented (fieldSegments ['{', '"'] fields) := by
    have hnil := segmented_fieldSegments (leads_object List.not_mem_nil) hwords .nil
      not_startsWithText_nil
    rwa [List.append_nil] at hnil
  refine parse_eq_ok_iff.mpr ⟨fieldSegments ['{', '"'] fields, hsegmented, ?_, ?_⟩
  · rw [sources_fieldSegments]
    exact stringsFrom_objectText [] (List.map_eq_nil_iff.not.mpr hne)
  · have hlayout : layOut true [] (fieldSegments ['{', '"'] fields) =
        asWritten [] (fieldSegments ['{', '"'] fields) := by
      cases fields with
      | nil => exact absurd rfl hne
      | cons field rest =>
        obtain ⟨-, hrest⟩ := List.forall_mem_cons.mp hwords
        -- The first tag is a variable, and no line ends behind it.
        rw [fieldSegments, layOut, layOut_tag (.inl rfl), asWritten, asWritten,
          layOut_of_not_mem List.not_mem_nil fun t ↦
            newline_not_mem_fieldSegments (by decide) hrest]
    rw [hlayout, asWritten_eq_map hsegmented]
    exact nests_fieldSegments _ fields

/-- The body of a section for a string with a structured parameter. -/
def stringBody (key component : Text) (fields : List ParamField) : Text :=
  key ++ ", ".toList ++ component ++ ", ".toList ++ objectText (fields.map ParamField.written)

/-- A section for a string with a structured parameter. -/
def stringSource (key component : Text) (fields : List ParamField) : Text :=
  openingSource "str".toList false ++ stringBody key component fields ++ closingSource "str".toList

variable {key component : Text}

theorem parse_stringSource (hkey : IsWord key) (hcomponent : IsWord component) (hne : fields ≠ [])
    (hwords : ∀ field ∈ fields, IsWord field.key ∧ IsWord field.name) :
    ∃ children, parse (stringSource key component fields) =
      .ok [.section "str".toList false (stringBody key component fields) children] := by
  obtain ⟨before, hbefore⟩ : ∃ before, before = key ++ ", ".toList ++ component ++ ", ".toList :=
    ⟨_, rfl⟩
  have hnot {c : Char} (hc : c.isAlpha = false) (hmark : c ∉ ", ".toList) : c ∉ before := by
    rw [hbefore]
    simp only [List.mem_append, not_or]
    exact ⟨⟨⟨hkey.not_mem hc, hmark⟩, hcomponent.not_mem hc⟩, hmark⟩
  have hstr : IsName "str".toList := ⟨by decide, by decide, by decide, by decide, by simp [marks]⟩
  have hsegmented := segmented_fieldSegments (leads_object (hnot rfl (by decide))) hwords
    (.tag hstr.isTag_closing .nil) (not_startsWithText_tag _ _ _)
  have hnewline : '\n' ∉ before ++ ['{', '"'] := by
    simp [hnot (c := '\n') rfl (by decide)]
  have hparse := parse_section hstr hsegmented
    (fun t ↦ newline_not_mem_fieldSegments hnewline hwords) (nests_fieldSegments _ fields)
  rw [sources_fieldSegments, stringsFrom_objectText _ (List.map_eq_nil_iff.not.mpr hne),
    hbefore] at hparse
  exact ⟨_, hparse⟩

/-- The body is cut at its first two commas, whatever commas the parameter holds. -/
theorem arguments_stringBody (hkey : IsWord key) (hcomponent : IsWord component)
    (fields : List ParamField) :
    arguments (stringBody key component fields) =
      (key, component, objectText (fields.map ParamField.written)) := by
  obtain ⟨param, hparam⟩ : ∃ param, param = objectText (fields.map ParamField.written) := ⟨_, rfl⟩
  have hbody : stringBody key component fields =
      key ++ ',' :: (' ' :: component ++ ',' :: (' ' :: param)) := by
    rw [hparam]
    simp [stringBody]
  have hblank (t : Text) : Text.trim (' ' :: t) = Text.trim t := rfl
  have htrim : Text.trim param = param := by
    rw [hparam]
    refine Text.trim_eq_self ?_ ?_
    · rintro _ ⟨⟩
      rfl
    · rw [objectText, List.getLast?_concat]
      rintro _ ⟨⟩
      rfl
  have hsecond : ',' ∉ ' ' :: component :=
    List.not_mem_cons_of_ne_of_not_mem (by decide) (hcomponent.not_mem rfl)
  rw [arguments, hbody, Text.breakOn_append_cons (hkey.not_mem rfl)]
  dsimp only
  rw [Text.breakOn_append_cons hsecond]
  dsimp only
  rw [hkey.trim_eq, hblank, hcomponent.trim_eq, hblank, htrim, hparam]

/-! ## Expanding -/

variable {style : IconStyle} {scope : Scope}

/-- The nodes write the object with its values in place, and nothing else happens. -/
theorem runs_fieldNodes
    (hvalues : ∀ field ∈ fields, scope.lookup field.name = some (.string field.value))
    (source lead : Text) (s : Collected) :
    Runs style (.nodes source scope (fieldNodes lead fields)) s []
      (.ok (guarded (stringsFrom lead (fields.map ParamField.filled)), s)) := by
  induction fields generalizing lead with
  | nil => exact .next (.text "\"\x7d".toList) .noNode
  | cons field rest ih =>
    obtain ⟨hvalue, hrest⟩ := List.forall_mem_cons.mp hvalues
    have h := Runs.next (.text (lead ++ field.key ++ "\":\"".toList))
      (.next (.value true hvalue) (ih hrest "\",\"".toList))
    rw [List.map_cons, stringsFrom, guarded_append, guarded_append, List.append_assoc]
    exact h

theorem parameter_objectText {fields : List (Text × Text)} (hne : fields ≠ [])
    (h : ∀ field ∈ fields, Verbatim field.1 ∧ Verbatim field.2) :
    parameter (objectText fields) = .ok (some (.ofFields (stringFields fields))) := by
  have hread := Json.readText_objectText h
  obtain ⟨t, ht⟩ : ∃ t, objectText fields = '{' :: '"' :: t := by
    rw [← List.nil_append (objectText fields), ← stringsFrom_objectText [] hne]
    cases fields with
    | nil => exact absurd rfl hne
    | cons field rest => exact ⟨_, rfl⟩
  rw [ht] at hread ⊢
  rw [parameter, hread]
  -- It is a quotation mark that stands behind the brace.
  exact fun _ h ↦ absurd (List.cons.inj h).1 (by decide)

theorem runs_parameter (hne : fields ≠ [])
    (hwords : ∀ field ∈ fields, IsWord field.key ∧ IsWord field.name)
    (hvalues : ∀ field ∈ fields, scope.lookup field.name = some (.string field.value))
    (s : Collected) :
    Runs style (.source (objectText (fields.map ParamField.written)) scope) s []
      (.ok (guarded (objectText (fields.map ParamField.filled)), s)) := by
  have hnodes : Runs style _ s _ _ :=
    runs_fieldNodes hvalues (objectText (fields.map ParamField.written)) ['{', '"'] s
  rw [← List.nil_append ['{', '"'],
    stringsFrom_objectText [] (List.map_eq_nil_iff.not.mpr hne)] at hnodes
  exact .template (parsed_eq_ok_iff.mpr (parse_parameter hne hwords)) hnodes

theorem run_stringSource (hkey : IsWord key) (hcomponent : IsWord component) (hne : fields ≠ [])
    (hwords : ∀ field ∈ fields, IsWord field.key ∧ IsWord field.name)
    (hvalues : ∀ field ∈ fields, scope.lookup field.name = some (.string field.value))
    (hverbatim : ∀ field ∈ fields, Verbatim (escapeHtml field.value)) (s : Collected) :
    (expandSource style (stringSource key component fields) scope).run s =
      .ok (placeholder s.strings.length, { s with strings := s.strings ++
        [⟨key, component, some (.ofFields (stringFields (fields.map ParamField.filled)))⟩] }) := by
  obtain ⟨children, hparse⟩ := parse_stringSource hkey hcomponent hne hwords
  have harguments := arguments_stringBody hkey hcomponent fields
  have htreatment : treatment "str".toList (stringBody key component fields) scope =
      .parameter := by
    rw [treatment, if_pos rfl, harguments]
    exact if_neg (List.cons_ne_nil _ _)
  have hexpand : Runs style (.source (arguments (stringBody key component fields)).2.2 scope) s []
      (.ok (guarded (objectText (fields.map ParamField.filled)), s)) := by
    rw [harguments]
    exact runs_parameter hne hwords hvalues s
  have hstrings : ∀ field ∈ fields.map ParamField.filled, Verbatim field.1 ∧ Verbatim field.2 := by
    rw [List.forall_mem_map]
    exact fun field hfield ↦ ⟨(hwords field hfield).1.verbatim, hverbatim field hfield⟩
  have hparameter := parameter_objectText (List.map_eq_nil_iff.not.mpr hne) hstrings
  have hsection : Runs style (.node (stringSource key component fields) scope _) s _ _ :=
    .parameter children htreatment hexpand
  rw [harguments] at hsection
  simp only [Except.bind, substitute_guarded, hparameter, StringRequest.of,
    if_neg hcomponent.ne_nil] at hsection
  refine (Runs.run_eq (.template (parsed_eq_ok_iff.mpr hparse) (.next hsection .noNode))).trans ?_
  exact congrArg Except.ok (Prod.ext (List.append_nil _) rfl)

/-- **The strings of a context survive a structured parameter.** A section for a string with an
object of variables expands, and requests that string and nothing else. Its parameter is the object
that has for each field the string of the variable, escaped for HTML, whatever braces, placeholders,
quotation marks, commas and guards the string holds; only a backslash and control characters are
excluded. -/
theorem parameter_of_context (style : IconStyle) {scope : Scope} {key component : Text}
    (hkey : IsWord key)
    (hcomponent : IsWord component) {fields : List ParamField} (hne : fields ≠ [])
    (hdistinct : (fields.map ParamField.key).Nodup)
    (hwords : ∀ field ∈ fields, IsWord field.key ∧ IsWord field.name)
    (hvalues : ∀ field ∈ fields, scope.lookup field.name = some (.string field.value) ∧
      ∀ c ∈ field.value, c ≠ '\\' ∧ 0x20 ≤ c.toNat) :
    ∃ param : Fields,
      ofSource style (stringSource key component fields) scope =
        .ok ⟨placeholder 0, ⟨[⟨key, component, some (.object param)⟩], []⟩⟩ ∧
      (Json.object param).Canonical ∧
      ∀ name v, param.get? name = some v ↔
        ∃ field ∈ fields, field.key = name ∧ v = .string (escapeHtml field.value) := by
  have hrun : (expandSource style _ scope).run {} = _ :=
    run_stringSource hkey hcomponent hne hwords (fun field hfield ↦ (hvalues field hfield).1)
      (fun field hfield ↦ verbatim_escapeHtml (hvalues field hfield).2) {}
  have hkeys : ((stringFields (fields.map ParamField.filled)).map Prod.fst).Nodup := by
    rwa [stringFields, List.map_map, List.map_map]
  refine ⟨.ofList (stringFields (fields.map ParamField.filled)), ?_,
    Fields.canonical_ofList (Json.forall_mem_stringFields fun _ ↦ trivial), fun name v ↦ ?_⟩
  · rw [ofSource, hrun]
    rfl
  · rw [Fields.get?_ofList hkeys]
    simp [stringFields, ParamField.filled, eq_comm]

/-- Values that look like what the stages of an expansion look for. -/
def trickyFields : List ParamField :=
  [⟨"who".toList, "user".toList, "\x7b\x7b_s0\x7d\x7d\",\"at\":\"\x7b\x7buser\x7d\x7d".toList⟩,
    ⟨"at".toList, "place".toList, "\uE000\x7b, \x7b\x7b/str\x7d\x7d'".toList⟩]

def trickyScope : Scope :=
  [.ofFields (trickyFields.map fun field ↦ (field.name, .string field.value))]

theorem parameter_of_context_of_trickyFields :
    let style : IconStyle := ⟨[], .ofConfig default, []⟩
    let source := stringSource "hi".toList "core".toList trickyFields
    source = "\x7b\x7b#str\x7d\x7dhi, core, \x7b\"who\":\"\x7b\x7buser\x7d\x7d\",".toList ++
      "\"at\":\"\x7b\x7bplace\x7d\x7d\"\x7d\x7b\x7b/str\x7d\x7d".toList ∧
    ∃ param : Fields,
      ofSource style source trickyScope =
        .ok ⟨placeholder 0, ⟨[⟨"hi".toList, "core".toList, some (.object param)⟩], []⟩⟩ ∧
      param.get? "who".toList = some (.string
        "\x7b\x7b_s0\x7d\x7d&quot;,&quot;at&quot;:&quot;\x7b\x7buser\x7d\x7d".toList) ∧
      param.get? "at".toList =
        some (.string "\uE000\x7b, \x7b\x7b&#x2F;str\x7d\x7d&#39;".toList) := by
  intro style source
  have hword {t : Text} (h : t ≠ [] ∧ t.all Char.isAlpha) : IsWord t :=
    ⟨h.1, List.all_eq_true.mp h.2⟩
  have hwords : ∀ field ∈ trickyFields, IsWord field.key ∧ IsWord field.name := by
    rw [trickyFields, List.forall_mem_cons, List.forall_mem_singleton]
    exact ⟨⟨hword (by decide), hword (by decide)⟩, hword (by decide), hword (by decide)⟩
  have hplain {t : Text} (h : t.all fun c ↦ c ≠ '\\' ∧ 0x20 ≤ c.toNat) :
      ∀ c ∈ t, c ≠ '\\' ∧ 0x20 ≤ c.toNat :=
    fun c hc ↦ of_decide_eq_true (List.all_eq_true.mp h c hc)
  have hvalues : ∀ field ∈ trickyFields,
      trickyScope.lookup field.name = some (.string field.value) ∧
        ∀ c ∈ field.value, c ≠ '\\' ∧ 0x20 ≤ c.toNat := by
    rw [trickyFields, List.forall_mem_cons, List.forall_mem_singleton]
    exact ⟨⟨rfl, hplain (by decide)⟩, rfl, hplain (by decide)⟩
  have hkey : IsWord "hi".toList := hword (by decide)
  have hcomponent : IsWord "core".toList := hword (by decide)
  obtain ⟨param, hexpansion, -, hparam⟩ :=
    parameter_of_context style hkey hcomponent (List.cons_ne_nil _ _) (by decide) hwords hvalues
  refine ⟨by decide, param, hexpansion, ?_, ?_⟩
  · exact (hparam _ _).mpr ⟨_, List.mem_cons_self, rfl, by decide⟩
  · exact (hparam _ _).mpr ⟨_, List.mem_cons_of_mem _ List.mem_cons_self, rfl, by decide⟩

end Expansion
end SiteClient
