import SiteClient.Proofs.Template.Names
import SiteClient.Proofs.Template.Strokes

/-!
# Values that write no markup

An escaped value holds none of the characters that markup is made of, and every ampersand in it
starts an entity. So where no variable asks for its value as it is, all markup of a rendering is
that of the texts of the template, in their order (`renderPlain_markup`).
-/

namespace SiteClient.Template

/-! ## Escaped texts -/

/-- The entities, each with the character that it stands for. -/
def entities : List (Text × Char) :=
  [("&amp;".toList, '&'), ("&lt;".toList, '<'), ("&gt;".toList, '>'), ("&quot;".toList, '"'),
    ("&#39;".toList, '\''), ("&#x2F;".toList, '/'), ("&#x60;".toList, '\x60'),
    ("&#x3D;".toList, '=')]

theorem mem_entities_iff {e : Text} {c : Char} : (e, c) ∈ entities ↔ entity? c = some e := by
  constructor
  · have hall : ∀ p ∈ entities, entity? p.2 = some p.1 := by decide
    exact hall (e, c)
  · intro h
    rw [entity?.eq_def] at h
    split at h
    case h_9 => cases h
    all_goals
      obtain rfl := Option.some.inj h
      decide

/-- The characters that can start or end markup or the value of an attribute, the ampersand
apart. -/
def markup : Text :=
  ['<', '>', '"', '\'', '/', '\x60', '=']

def markupOf (t : Text) : Text :=
  t.filter (· ∈ markup)

theorem markupOf_append (s t : Text) : markupOf (s ++ t) = markupOf s ++ markupOf t :=
  List.filter_append s t

/-- Every ampersand in the text starts an entity. -/
def StartsEntities (t : Text) : Prop :=
  ∀ before after, t = before ++ '&' :: after → ∃ c e, entity? c = some e ∧ e <+: '&' :: after

/-- An entity has one ampersand, and no markup. -/
theorem exists_of_entity? {c : Char} {e : Text} (h : entity? c = some e) :
    markupOf e = [] ∧ ∃ name, e = '&' :: name ∧ '&' ∉ name := by
  have hall : ∀ p ∈ entities,
      markupOf p.1 = [] ∧ p.1 = '&' :: p.1.tail ∧ '&' ∉ p.1.tail := by decide
  obtain ⟨hmarkup, heq, hname⟩ := hall (e, c) (mem_entities_iff.mpr h)
  exact ⟨hmarkup, e.tail, heq, hname⟩

theorem entity?_eq_none_iff {c : Char} : entity? c = none ↔ c ∉ markup ∧ c ≠ '&' := by
  constructor
  · intro h
    have hall : ('&' :: markup).all (fun d ↦ (entity? d).isSome) = true := by decide
    have hmem : c ∉ '&' :: markup := by
      intro hmem
      have hsome := List.all_eq_true.mp hall c hmem
      rw [h] at hsome
      cases hsome
    rw [List.mem_cons, not_or] at hmem
    exact hmem.symm
  · rintro ⟨hmem, hne⟩
    have hall : ∀ p ∈ entities, p.2 ∈ markup ∨ p.2 = '&' := by decide
    refine Option.eq_none_iff_forall_ne_some.mpr fun e he ↦ ?_
    obtain h | h := hall (e, c) (mem_entities_iff.mpr he)
    · exact hmem h
    · exact hne h

theorem escapeHtml_cons (c : Char) (t : Text) :
    escapeHtml (c :: t) = (entity? c).getD [c] ++ escapeHtml t :=
  List.flatMap_cons

theorem markupOf_escapeHtml (t : Text) : markupOf (escapeHtml t) = [] := by
  induction t with
  | nil => rfl
  | cons c t ih =>
    rw [escapeHtml_cons, markupOf_append, ih, List.append_nil]
    cases h : entity? c with
    | some e => exact (exists_of_entity? h).1
    | none =>
      obtain ⟨hmem, -⟩ := entity?_eq_none_iff.mp h
      exact List.filter_cons_of_neg (by simpa using hmem)

theorem startsEntities_escapeHtml (t : Text) : StartsEntities (escapeHtml t) := by
  induction t with
  | nil =>
    intro before after h
    exact absurd h.symm (List.append_ne_nil_of_right_ne_nil before (List.cons_ne_nil _ _))
  | cons c t ih =>
    intro before after h
    rw [escapeHtml_cons] at h
    cases hc : entity? c with
    | some e =>
      obtain ⟨-, name, rfl, hname⟩ := exists_of_entity? hc
      rw [hc, Option.getD_some] at h
      cases before with
      | nil =>
        refine ⟨c, _, hc, escapeHtml t, ?_⟩
        rwa [List.nil_append] at h
      | cons d before =>
        -- The ampersand is none of the name of this entity, so it stands in what follows.
        obtain ⟨-, h⟩ := List.cons.inj h
        obtain ⟨more, rfl, hmore⟩ | ⟨more, rfl, hmore⟩ := List.append_eq_append_iff.mp h
        · exact ih more after hmore
        · cases more with
          | nil => exact ih [] after hmore.symm
          | cons d more =>
            obtain ⟨rfl, -⟩ := List.cons.inj hmore
            exact absurd (List.mem_append_right _ List.mem_cons_self) hname
    | none =>
      obtain ⟨-, hne⟩ := entity?_eq_none_iff.mp hc
      rw [hc, Option.getD_none, List.singleton_append] at h
      cases before with
      | nil => exact absurd (List.cons.inj h).1 hne
      | cons d before => exact ih before after (List.cons.inj h).2

/-! ## Where strokes come from -/

/-- A stroke is written by a token of the template. -/
inductive Token.Writes : Token → Stroke → Prop
  | text (t : Text) : Token.Writes (.text t) (.text t)
  | value (name : Text) (v : Json) (escaped : Bool) :
      Token.Writes (.variable name escaped) (.value v escaped)

mutual

theorem Node.exists_token_of_mem_strokes {stroke : Stroke} :
    ∀ (node : Node) {scope : Scope}, stroke ∈ node.strokes scope →
      ∃ token ∈ node.tokens, token.Writes stroke
  | .text t, scope, h => by
    rw [Node.strokes] at h
    obtain rfl := List.mem_singleton.mp h
    exact ⟨.text t, List.mem_singleton_self _, .text t⟩
  | .variable name escaped, scope, h => by
    rw [Node.strokes] at h
    split at h
    · cases h
    · rename_i v _
      obtain rfl := List.mem_singleton.mp h
      exact ⟨.variable name escaped, List.mem_singleton_self _, .value name v escaped⟩
  | .section name inverted body children, scope, h => by
    -- Whatever a section does, its strokes are strokes of its children in some scope.
    obtain ⟨scope', h⟩ : ∃ scope', stroke ∈ strokes scope' children := by
      cases inverted with
      | true =>
        rw [Node.strokes] at h
        split at h
        · cases h
        · exact ⟨scope, h⟩
      | false =>
        rw [Node.strokes] at h
        split at h
        · obtain ⟨item, -, h⟩ := List.mem_flatMap.mp h
          exact ⟨item :: scope, h⟩
        · rename_i v _ _
          split at h
          · exact ⟨v :: scope, h⟩
          · cases h
        · cases h
    obtain ⟨token, htoken, hwrites⟩ := exists_token_of_mem_strokes children h
    rw [Node.tokens]
    exact ⟨token, List.mem_cons_of_mem _ (List.mem_append_left _ htoken), hwrites⟩

theorem exists_token_of_mem_strokes {stroke : Stroke} :
    ∀ (nodes : List Node) {scope : Scope}, stroke ∈ strokes scope nodes →
      ∃ token ∈ tokensOf nodes, token.Writes stroke
  | [], scope, h => by cases h
  | node :: rest, scope, h => by
    rw [strokes, List.mem_append] at h
    rw [tokensOf]
    obtain h | h := h
    · obtain ⟨token, htoken, hwrites⟩ := node.exists_token_of_mem_strokes h
      exact ⟨token, List.mem_append_left _ htoken, hwrites⟩
    · obtain ⟨token, htoken, hwrites⟩ := exists_token_of_mem_strokes rest h
      exact ⟨token, List.mem_append_right _ htoken, hwrites⟩

end

/-! ## Escaped values -/

/-- Strokes whose values are escaped have no markup but that of their texts. -/
theorem markupOf_writtenBy {l : List Stroke} (h : ∀ v, .value v false ∉ l) :
    markupOf (writtenBy l) = markupOf (fixedBy l) := by
  induction l with
  | nil => rfl
  | cons stroke l ih =>
    have htail : markupOf (writtenBy l) = markupOf (fixedBy l) :=
      ih fun v hmem ↦ h v (List.mem_cons_of_mem _ hmem)
    rw [writtenBy, List.flatMap_cons, ← writtenBy, fixedBy, List.flatMap_cons, ← fixedBy,
      markupOf_append, markupOf_append, htail]
    cases stroke with
    | text t => rfl
    | value v escaped =>
      cases escaped with
      | true => exact congrArg (· ++ _) (markupOf_escapeHtml (display v))
      | false => exact absurd List.mem_cons_self (h v)

/-- **Escaped variables write no markup.** If every variable of a source is escaped, all markup of a
rendering is written by texts of the template, and each ampersand of a value starts an entity. -/
theorem renderPlain_markup {source : Text} {template : Template} (h : parse source = .ok template)
    (hescaped : ∀ name, .variable name false ∉ tagsOf source) (context : Json) :
    ∃ l : List Stroke, renderPlain template context = .ok (writtenBy l) ∧
      renderPlain (mute template) context = .ok (fixedBy l) ∧
      markupOf (writtenBy l) = markupOf (fixedBy l) ∧
      (∀ t, .text t ∈ l → .text t ∈ tokensOf template) ∧
      ∀ v escaped, .value v escaped ∈ l → StartsEntities (Stroke.value v escaped).written := by
  have hvalues (v : Json) : .value v false ∉ strokes [context] template := by
    intro hmem
    obtain ⟨token, htoken, hwrites⟩ := exists_token_of_mem_strokes template hmem
    cases hwrites with
    | value name =>
      have htag : .variable name false ∈ tags template := List.mem_filterMap.mpr ⟨_, htoken, rfl⟩
      rw [tags_eq h] at htag
      exact hescaped name (List.mem_filter.mp htag).1
  refine ⟨strokes [context] template, renderPlain_eq template context,
    renderPlain_mute template context, markupOf_writtenBy hvalues, fun t hmem ↦ ?_,
    fun v escaped hmem ↦ ?_⟩
  · obtain ⟨token, htoken, hwrites⟩ := exists_token_of_mem_strokes template hmem
    cases hwrites
    exact htoken
  · cases escaped with
    | true => exact startsEntities_escapeHtml (display v)
    | false => exact absurd hmem (hvalues v)

/-- The items of a list, each as an attribute. -/
def listedBody : Text :=
  "<i title=\"".toList ++ opener ++ ".".toList ++ closer ++ "\">".toList

def listedSource : Text :=
  opener ++ "#items".toList ++ closer ++ listedBody ++ opener ++ "/items".toList ++ closer

def listedTemplate : Template :=
  [.section "items".toList false listedBody
    [.text "<i title=\"".toList, .variable ['.'] true, .text "\">".toList]]

/-- Items that would close the attribute, and one that looks like an entity. -/
def listedContext : Json :=
  .ofFields [("items".toList, .array [.string "\"><b>".toList, .string "&lt;/".toList])]

theorem parse_listedSource : parse listedSource = .ok listedTemplate := by
  have hpieces : pieces listedSource = .ok [
      .tag (opener ++ "#items".toList ++ closer) (.openSection "items".toList false),
      .text "<i title=\"".toList, .tag (opener ++ ".".toList ++ closer) (.variable ['.'] true),
      .text "\">".toList,
      .tag (opener ++ "/items".toList ++ closer) (.closeSection "items".toList)] := by
    decide +kernel
  rw [parse, hpieces]
  rfl

theorem renderPlain_markup_of_listedSource :
    ∃ l, renderPlain listedTemplate listedContext = .ok (writtenBy l) ∧
      renderPlain (mute listedTemplate) listedContext = .ok (fixedBy l) ∧
      markupOf (writtenBy l) = markupOf (fixedBy l) ∧
      fixedBy l = "<i title=\"\"><i title=\"\">".toList ∧
      writtenBy l = ("<i title=\"&quot;&gt;&lt;b&gt;\">".toList ++
        "<i title=\"&amp;lt;&#x2F;\">".toList) := by
  have hescaped : ∀ name, .variable name false ∉ tagsOf listedSource := by
    have htags : tagsOf listedSource =
        [.openSection "items".toList false, .variable ['.'] true,
          .closeSection "items".toList] := by
      decide +kernel
    simp [htags]
  obtain ⟨l, hwritten, hfixed, hmarkup, -, -⟩ :=
    renderPlain_markup parse_listedSource hescaped listedContext
  refine ⟨l, hwritten, hfixed, hmarkup, ?_, ?_⟩
  · have hmuted : renderPlain (mute listedTemplate) listedContext
        = .ok "<i title=\"\"><i title=\"\">".toList := by
      decide +kernel
    exact Except.ok.inj (hfixed.symm.trans hmuted)
  · have hall : renderPlain listedTemplate listedContext
        = .ok ("<i title=\"&quot;&gt;&lt;b&gt;\">".toList ++
            "<i title=\"&amp;lt;&#x2F;\">".toList) := by
      decide +kernel
    exact Except.ok.inj (hwritten.symm.trans hall)

end SiteClient.Template
