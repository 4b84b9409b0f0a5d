import Mathlib.Data.List.Basic
import SiteClient.Localized.Format
/-!
# Filling one field after the other

A record is filled into a text field by field, so the value of a field stands in the text when the
fields behind it are filled in, and a placeholder in the value is filled as well. What comes of this
is one pass over the text after all, in which each placeholder gives way to the value of its field
*filled with the fields behind it* (`fillFields_eq`). So it is the simultaneous filling exactly if
no value changes when the fields behind it are filled into it.

For this to be told from the values alone, a value must not make a placeholder together with the
text around it. A placeholder opens with a brace and closes with one, with no brace between. So it
is enough that a value leaves no brace open, and that no placeholder of the text stands where a
brace is open (`Tame`).
-/

namespace SiteClient

/-! ## Replacing -/

namespace Text

variable {mark new t before after : Text} {c : Char}

theorem isPrefixOf?_eq_none_iff : mark.isPrefixOf? t = none ↔ ¬mark <+: t := by
  rw [Option.eq_none_iff_forall_ne_some]
  simp only [ne_eq, List.isPrefixOf?_eq_some_iff_append_eq, List.IsPrefix, not_exists]

theorem replaceAll_of_none (h : breakOn mark t = none) : replaceAll mark new t = t := by
  rw [replaceAll]
  split
  · rfl
  · split
    · rfl
    · rename_i hsome
      rw [h] at hsome
      cases hsome

theorem replaceAll_of_some (hmark : mark ≠ []) (h : breakOn mark t = some (before, after)) :
    replaceAll mark new t = before ++ new ++ replaceAll mark new after := by
  rw [replaceAll, dif_neg hmark]
  split
  · rename_i hnone
    rw [h] at hnone
    cases hnone
  · rename_i hsome
    rw [h] at hsome
    cases hsome
    rfl

theorem replaceAll_nil : replaceAll mark new [] = [] :=
  replaceAll_of_none rfl

theorem replaceAll_append (hmark : mark ≠ []) (t : Text) :
    replaceAll mark new (mark ++ t) = new ++ replaceAll mark new t := by
  have hstart : mark.isPrefixOf? (mark ++ t) = some t :=
    List.isPrefixOf?_eq_some_iff_append_eq.mpr rfl
  obtain ⟨d, rest, rfl⟩ := List.exists_cons_of_ne_nil hmark
  have hbreak : breakOn (d :: rest) (d :: rest ++ t) = some ([], t) := by
    rw [List.cons_append, breakOn, ← List.cons_append, hstart]
  rw [replaceAll_of_some hmark hbreak, List.nil_append]

theorem replaceAll_cons (hmark : mark ≠ []) (h : ¬mark <+: c :: t) :
    replaceAll mark new (c :: t) = c :: replaceAll mark new t := by
  have hbreak : breakOn mark (c :: t) =
      (breakOn mark t).map (Prod.map (c :: ·) id) := by
    rw [breakOn, isPrefixOf?_eq_none_iff.mpr h]
    rfl
  cases hrest : breakOn mark t with
  | none =>
    rw [hrest] at hbreak
    rw [replaceAll_of_none hrest, replaceAll_of_none hbreak]
  | some cut =>
    obtain ⟨before, after⟩ := cut
    rw [hrest] at hbreak
    rw [replaceAll_of_some hmark hrest, replaceAll_of_some hmark hbreak]
    rfl

end Text

namespace Localized

variable {names : List Text} {name s t : Text} {isOpen : Bool}

/-! ## Braces -/

/-- Whether the last brace is an opening one, if that was so before a character. -/
def braceStep (isOpen : Bool) (c : Char) : Bool :=
  if c = '{' then true else if c = '}' then false else isOpen

/-- Whether the last brace is an opening one after a text, if that was so before it. -/
def openAfter (isOpen : Bool) (t : Text) : Bool :=
  t.foldl braceStep isOpen

def Braceless (t : Text) : Prop :=
  '{' ∉ t ∧ '}' ∉ t

instance (t : Text) : Decidable (Braceless t) :=
  inferInstanceAs (Decidable (_ ∧ _))

theorem openAfter_append (isOpen : Bool) (s t : Text) :
    openAfter isOpen (s ++ t) = openAfter (openAfter isOpen s) t :=
  List.foldl_append

theorem braceless_cons {c : Char} : Braceless (c :: t) ↔ (c ≠ '{' ∧ c ≠ '}') ∧ Braceless t := by
  simp only [Braceless, List.mem_cons, not_or, ne_eq, eq_comm]
  exact and_and_and_comm

theorem braceStep_of_ne {c : Char} (h : c ≠ '{' ∧ c ≠ '}') : braceStep isOpen c = isOpen := by
  rw [braceStep, if_neg h.1, if_neg h.2]

theorem openAfter_of_braceless (h : Braceless t) : openAfter isOpen t = isOpen := by
  induction t generalizing isOpen with
  | nil => rfl
  | cons c t ih =>
    obtain ⟨hc, ht⟩ := braceless_cons.mp h
    change openAfter (braceStep isOpen c) t = isOpen
    rw [braceStep_of_ne hc, ih ht]

theorem openAfter_fieldMark (isOpen : Bool) (name : Text) :
    openAfter isOpen (fieldMark name) = false := by
  rw [fieldMark, openAfter_append]
  rfl

/-- Whatever stood before, what leaves no brace open leaves none open on its own. -/
theorem openAfter_false_of (h : openAfter isOpen t = false) : openAfter false t = false := by
  induction t generalizing isOpen with
  | nil => rfl
  | cons c t ih =>
    obtain rfl | hc := eq_or_ne c '{'
    · exact h
    · have hstep : braceStep false c = false := by
        rw [braceStep, if_neg hc]
        split <;> rfl
      change openAfter (braceStep false c) t = false
      rw [hstep]
      exact ih h

/-! ## Placeholders -/

/-- What stands in a placeholder behind its first brace. -/
def markBody (name : Text) : Text :=
  ['$', 'a', '-', '>'] ++ name

theorem fieldMark_eq (name : Text) : fieldMark name = '{' :: (markBody name ++ ['}']) :=
  rfl

theorem fieldMark_ne_nil (name : Text) : fieldMark name ≠ [] :=
  List.cons_ne_nil _ _

theorem braceless_markBody (h : Braceless name) : Braceless (markBody name) :=
  ⟨by simpa [markBody] using h.1, by simpa [markBody] using h.2⟩

/-- A placeholder that starts in a text with no open brace at its end also ends in it. -/
theorem fieldMark_prefix_of_append (hname : Braceless name) (hs : s ≠ [])
    (hclosed : openAfter false s = false) (h : fieldMark name <+: s ++ t) :
    fieldMark name <+: s := by
  obtain hlength | hlength := Nat.lt_or_ge s.length (fieldMark name).length
  · -- Otherwise the text is a piece of the placeholder that has its first brace and not its last.
    obtain ⟨c, s, rfl⟩ := List.exists_cons_of_ne_nil hs
    have hshort : c :: s <+: fieldMark name :=
      List.prefix_of_prefix_length_le (List.prefix_append _ _) h (Nat.le_of_lt hlength)
    rw [fieldMark_eq, List.cons_prefix_cons, List.prefix_concat_iff] at hshort
    obtain ⟨rfl, rfl | hbody⟩ := hshort
    · rw [fieldMark_eq] at hlength
      exact absurd hlength (Nat.lt_irrefl _)
    · have hbraceless : Braceless s :=
        ⟨fun hmem ↦ (braceless_markBody hname).1 (hbody.subset hmem),
          fun hmem ↦ (braceless_markBody hname).2 (hbody.subset hmem)⟩
      have hopen : openAfter false ('{' :: s) = true := openAfter_of_braceless hbraceless
      rw [hopen] at hclosed
      cases hclosed
  · exact List.prefix_of_prefix_length_le h (List.prefix_append _ _) hlength

theorem eq_of_append_brace {s' t' : Text} (hs : Braceless s) (ht : Braceless t)
    (h : s ++ '}' :: s' = t ++ '}' :: t') : s = t := by
  induction s generalizing t with
  | nil =>
    cases t with
    | nil => rfl
    | cons d t => exact absurd (List.cons.inj h).1.symm (braceless_cons.mp ht).1.2
  | cons c s ih =>
    cases t with
    | nil => exact absurd (List.cons.inj h).1 (braceless_cons.mp hs).1.2
    | cons d t =>
      obtain ⟨rfl, hrest⟩ := List.cons.inj h
      rw [ih (braceless_cons.mp hs).2 (braceless_cons.mp ht).2 hrest]

theorem fieldMark_prefix_iff {other : Text} (hname : Braceless name) (hother : Braceless other) :
    fieldMark name <+: fieldMark other ++ t ↔ name = other := by
  constructor
  · rintro ⟨after, h⟩
    have hbodies : markBody name ++ '}' :: after = markBody other ++ '}' :: t := by
      simpa [fieldMark_eq] using h
    exact List.append_cancel_left
      (eq_of_append_brace (braceless_markBody hname) (braceless_markBody hother) hbodies)
  · rintro rfl
    exact List.prefix_append _ _

/-! ## Tame texts -/

/-- No placeholder of the names stands where a brace is open; before the text one may be. -/
def TameFrom (names : List Text) : Bool → Text → Prop
  | _, [] => True
  | isOpen, c :: t =>
    ((∃ name ∈ names, fieldMark name <+: c :: t) → isOpen = false) ∧
      TameFrom names (braceStep isOpen c) t

instance decidableTameFrom (names : List Text) : ∀ isOpen t, Decidable (TameFrom names isOpen t)
  | _, [] => isTrue trivial
  | isOpen, c :: t =>
    have := decidableTameFrom names (braceStep isOpen c) t
    inferInstanceAs (Decidable (_ ∧ _))

theorem TameFrom.tail {c : Char} (h : TameFrom names isOpen (c :: t)) (hc : c ≠ '{' ∧ c ≠ '}') :
    TameFrom names isOpen t := by
  have htail := h.2
  rwa [braceStep_of_ne hc] at htail

theorem TameFrom.of_append (h : TameFrom names isOpen (s ++ t)) :
    TameFrom names (openAfter isOpen s) t := by
  induction s generalizing isOpen with
  | nil => exact h
  | cons c s ih => exact ih h.2

theorem TameFrom.append (hnames : ∀ name ∈ names, Braceless name)
    (hclosed : openAfter isOpen s = false)
    (hs : TameFrom names isOpen s) (ht : TameFrom names false t) :
    TameFrom names isOpen (s ++ t) := by
  induction s generalizing isOpen with
  | nil =>
    obtain rfl : isOpen = false := hclosed
    exact ht
  | cons c s ih =>
    refine ⟨?_, ih hclosed hs.2⟩
    rintro ⟨name, hname, hstart⟩
    have hshort : fieldMark name <+: c :: s :=
      fieldMark_prefix_of_append (hnames name hname) (List.cons_ne_nil c s)
        (openAfter_false_of hclosed) hstart
    exact hs.1 ⟨name, hname, hshort⟩

theorem tameFrom_fieldMark (hname : Braceless name) : TameFrom names false (fieldMark name) := by
  have hbody {p : Text} (hp : Braceless p) : TameFrom names true (p ++ ['}']) := by
    induction p with
    | nil =>
      exact ⟨fun ⟨other, _, hstart⟩ ↦ absurd (List.cons_prefix_cons.mp hstart).1 (by decide),
        trivial⟩
    | cons c p ih =>
      obtain ⟨hc, hp⟩ := braceless_cons.mp hp
      refine ⟨fun ⟨other, _, hstart⟩ ↦ absurd (List.cons_prefix_cons.mp hstart).1.symm hc.1, ?_⟩
      rw [braceStep_of_ne hc]
      exact ih hp
  exact ⟨fun _ ↦ rfl, hbody (braceless_markBody hname)⟩

section Open

variable {new p : Text}

theorem TameFrom.not_start (h : TameFrom (name :: names) true t) : ¬fieldMark name <+: t := by
  intro hstart
  cases t with
  | nil => exact absurd (List.prefix_nil.mp hstart) (fieldMark_ne_nil name)
  | cons c t => exact Bool.noConfusion (h.1 ⟨name, List.mem_cons_self, hstart⟩)

theorem replaceAll_cons_of_open {c : Char} (h : TameFrom (name :: names) true (c :: t)) :
    Text.replaceAll (fieldMark name) new (c :: t) = c :: Text.replaceAll (fieldMark name) new t :=
  Text.replaceAll_cons (fieldMark_ne_nil name) h.not_start

theorem replaceAll_append_brace (hp : Braceless p)
    (h : TameFrom (name :: names) true (p ++ '}' :: t)) :
    Text.replaceAll (fieldMark name) new (p ++ '}' :: t) =
      p ++ '}' :: Text.replaceAll (fieldMark name) new t := by
  induction p with
  | nil => exact replaceAll_cons_of_open h
  | cons c p ih =>
    obtain ⟨hc, hp⟩ := braceless_cons.mp hp
    exact (replaceAll_cons_of_open h).trans (congrArg (c :: ·) (ih hp (h.tail hc)))

/-- What closes the open brace after the replacement closed it before. -/
theorem prefix_of_prefix_replaceAll (hp : Braceless p) (h : TameFrom (name :: names) true t)
    (hstarts : p ++ ['}'] <+: Text.replaceAll (fieldMark name) new t) : p ++ ['}'] <+: t := by
  induction p generalizing t with
  | nil =>
    cases t with
    | nil =>
      rw [Text.replaceAll_nil] at hstarts
      exact hstarts
    | cons d t =>
      rw [replaceAll_cons_of_open h] at hstarts
      exact List.cons_prefix_cons.mpr ⟨(List.cons_prefix_cons.mp hstarts).1, List.nil_prefix⟩
  | cons c p ih =>
    obtain ⟨hc, hp⟩ := braceless_cons.mp hp
    cases t with
    | nil =>
      rw [Text.replaceAll_nil] at hstarts
      exact hstarts
    | cons d t =>
      rw [replaceAll_cons_of_open h] at hstarts
      obtain ⟨rfl, hbody⟩ := List.cons_prefix_cons.mp hstarts
      exact List.cons_prefix_cons.mpr ⟨rfl, ih hp (h.tail hc) hbody⟩

end Open

/-! ## One field filled in -/

section Fill

variable {new : Text}

theorem fieldMark_prefix_replaceAll_iff {other : Text} {c : Char} (hother : Braceless other)
    (h : TameFrom (name :: names) isOpen (c :: t)) :
    fieldMark other <+: c :: Text.replaceAll (fieldMark name) new t ↔
      fieldMark other <+: c :: t := by
  rw [fieldMark_eq, List.cons_prefix_cons, List.cons_prefix_cons]
  refine and_congr_right fun hc ↦ ?_
  have hrest : TameFrom (name :: names) true t := by
    have htail := h.2
    rwa [← hc] at htail
  refine ⟨prefix_of_prefix_replaceAll (braceless_markBody hother) hrest, ?_⟩
  rintro ⟨after, rfl⟩
  rw [List.append_assoc, List.singleton_append] at hrest ⊢
  rw [replaceAll_append_brace (braceless_markBody hother) hrest]
  exact ⟨_, by rw [List.append_assoc, List.singleton_append]⟩

/-- A text is read placeholder by placeholder of one name, and character by character between. -/
theorem mark_induction {motive : Text → Prop} (name : Text) (nil : motive [])
    (mark : ∀ after, motive after → motive (fieldMark name ++ after))
    (plain : ∀ c t, ¬fieldMark name <+: c :: t → motive t → motive (c :: t)) (t : Text) :
    motive t := by
  induction hlength : t.length using Nat.strongRecOn generalizing t with
  | _ n ih =>
    subst hlength
    by_cases hstart : fieldMark name <+: t
    · obtain ⟨after, rfl⟩ := hstart
      refine mark after (ih after.length ?_ after rfl)
      rw [List.length_append, fieldMark_eq, List.length_cons]
      omega
    · cases t with
      | nil => exact nil
      | cons c t => exact plain c t hstart (ih t.length (Nat.lt_succ_self _) t rfl)

/-- A text whose placeholders stand where no brace is open remains one when one field is filled
in. -/
theorem TameFrom.replaceAll (hnames : ∀ other ∈ names, Braceless other)
    (hclosed : openAfter false new = false) (hnew : TameFrom names false new)
    (h : TameFrom (name :: names) isOpen t) :
    TameFrom names isOpen (Text.replaceAll (fieldMark name) new t) := by
  induction t using mark_induction name generalizing isOpen with
  | nil =>
    rw [Text.replaceAll_nil]
    trivial
  | mark after ih =>
    obtain rfl : isOpen = false := h.1 ⟨name, List.mem_cons_self, List.prefix_append _ _⟩
    have hafter : TameFrom (name :: names) false after :=
      openAfter_fieldMark false name ▸ h.of_append
    rw [Text.replaceAll_append (fieldMark_ne_nil name)]
    exact hnew.append hnames hclosed (ih hafter)
  | plain c t hstart ih =>
    rw [Text.replaceAll_cons (fieldMark_ne_nil name) hstart]
    refine ⟨fun ⟨other, hother, hstarts⟩ ↦ h.1 ⟨other, List.mem_cons_of_mem _ hother, ?_⟩, ih h.2⟩
    exact (fieldMark_prefix_replaceAll_iff (hnames other hother) h).mp hstarts

end Fill

/-! ## One pass -/

/-- The field whose placeholder the text starts with and the fields behind it, with the text after
the placeholder. -/
def fieldAt? : Fields → Text → Option (Json × Fields × Text)
  | [], _ => none
  | (name, v) :: fields, t =>
    match (fieldMark name).isPrefixOf? t with
    | some after => some (v, fields, after)
    | none => fieldAt? fields t

theorem fieldAt?_cons_self (name : Text) (v : Json) (fields : Fields) (after : Text) :
    fieldAt? ((name, v) :: fields) (fieldMark name ++ after) = some (v, fields, after) := by
  have hstart : (fieldMark name).isPrefixOf? (fieldMark name ++ after) = some after :=
    List.isPrefixOf?_eq_some_iff_append_eq.mpr rfl
  rw [fieldAt?, hstart]

theorem fieldAt?_cons_of_not_start (v : Json) (fields : Fields) (h : ¬fieldMark name <+: t) :
    fieldAt? ((name, v) :: fields) t = fieldAt? fields t := by
  rw [fieldAt?, Text.isPrefixOf?_eq_none_iff.mpr h]

theorem exists_of_fieldAt? {fields behind : Fields} {v : Json} {after : Text}
    (h : fieldAt? fields t = some (v, behind, after)) :
    ∃ front name, fields = front ++ (name, v) :: behind ∧ name ∉ front.map Prod.fst ∧
      t = fieldMark name ++ after := by
  induction fields with
  | nil => cases h
  | cons field fields ih =>
    obtain ⟨name, w⟩ := field
    by_cases hstart : fieldMark name <+: t
    · obtain ⟨rest, rfl⟩ := hstart
      rw [fieldAt?_cons_self] at h
      obtain ⟨rfl, rfl, rfl⟩ : w = v ∧ fields = behind ∧ rest = after := by simpa using h
      exact ⟨[], name, rfl, List.not_mem_nil, rfl⟩
    · rw [fieldAt?_cons_of_not_start w fields hstart] at h
      obtain ⟨front, other, rfl, hother, rfl⟩ := ih h
      refine ⟨(name, w) :: front, other, rfl, List.not_mem_cons_of_ne_of_not_mem ?_ hother, rfl⟩
      rintro rfl
      exact hstart (List.prefix_append _ _)

theorem fieldAt?_eq_none_iff {fields : Fields} :
    fieldAt? fields t = none ↔ ∀ field ∈ fields, ¬fieldMark field.1 <+: t := by
  induction fields with
  | nil => simp [fieldAt?]
  | cons field fields ih =>
    obtain ⟨name, v⟩ := field
    rw [List.forall_mem_cons]
    by_cases hstart : fieldMark name <+: t
    · obtain ⟨after, rfl⟩ := hstart
      simp [fieldAt?_cons_self]
    · rw [fieldAt?_cons_of_not_start v fields hstart, ih]
      exact ⟨fun h ↦ ⟨hstart, h⟩, And.right⟩

theorem length_lt_of_fieldAt? {fields behind : Fields} {v : Json} {after : Text}
    (h : fieldAt? fields t = some (v, behind, after)) : after.length < t.length := by
  obtain ⟨-, name, -, -, rfl⟩ := exists_of_fieldAt? h
  rw [List.length_append, fieldMark_eq, List.length_cons]
  omega

/-- One pass over a text, in which each placeholder gives way to what is put for its field and the
fields behind it. -/
def fillWith (put : Json → Fields → Text) (fields : Fields) : Text → Text
  | [] => []
  | c :: t =>
    match h : fieldAt? fields (c :: t) with
    | some (v, behind, after) =>
      have : after.length ≤ t.length := Nat.le_of_lt_succ (length_lt_of_fieldAt? h)
      put v behind ++ fillWith put fields after
    | none => c :: fillWith put fields t
termination_by t => t.length

/-- The text with the placeholders of all fields replaced at once. -/
def fillAtOnce (fields : Fields) : Text → Text :=
  fillWith (fun v _ ↦ plainText v) fields

section Pass

variable {put : Json → Fields → Text} {fields behind : Fields} {v : Json} {after : Text}

@[simp] theorem fillWith_nil : fillWith put fields [] = [] := by
  rw [fillWith]

theorem fillWith_of_some (h : fieldAt? fields t = some (v, behind, after)) :
    fillWith put fields t = put v behind ++ fillWith put fields after := by
  cases t with
  | nil => exact absurd (length_lt_of_fieldAt? h) (Nat.not_lt_zero _)
  | cons c t =>
    rw [fillWith]
    split
    · rename_i hsome
      rw [h] at hsome
      cases hsome
      rfl
    · rename_i hnone
      rw [h] at hnone
      cases hnone

theorem fillWith_of_none {c : Char} (h : fieldAt? fields (c :: t) = none) :
    fillWith put fields (c :: t) = c :: fillWith put fields t := by
  rw [fillWith]
  split
  · rename_i hsome
    rw [h] at hsome
    cases hsome
  · rfl

theorem fieldAt?_append {other : Text} (hfields : ∀ field ∈ fields, Braceless field.1)
    (hname : Braceless name)
    (h : fieldAt? fields (fieldMark name ++ after) = some (v, behind, after)) :
    fieldAt? fields (fieldMark name ++ other) = some (v, behind, other) := by
  induction fields with
  | nil => cases h
  | cons field fields ih =>
    obtain ⟨g, w⟩ := field
    obtain ⟨hg, hfields⟩ := List.forall_mem_cons.mp hfields
    obtain rfl | hne := eq_or_ne g name
    · rw [fieldAt?_cons_self] at h ⊢
      obtain ⟨rfl, rfl⟩ : w = v ∧ fields = behind := by simpa using h
      rfl
    · have hnot (t : Text) : ¬fieldMark g <+: fieldMark name ++ t :=
        mt (fieldMark_prefix_iff hg hname).mp hne
      rw [fieldAt?_cons_of_not_start w fields (hnot _)] at h ⊢
      exact ih hfields h

/-- A pass over a text that leaves no brace open does not look at what follows. -/
theorem fillWith_append (hfields : ∀ field ∈ fields, Braceless field.1)
    (hclosed : openAfter false s = false) :
    fillWith put fields (s ++ t) = fillWith put fields s ++ fillWith put fields t := by
  induction s using fillWith.induct fields with
  | case1 => rw [fillWith_nil, List.nil_append, List.nil_append]
  | case2 c s v behind after hfield hshorter ih =>
    obtain ⟨front, name, hfront, -, hs⟩ := exists_of_fieldAt? hfield
    have hname : Braceless name :=
      hfields (name, v) (hfront ▸ List.mem_append_right _ List.mem_cons_self)
    rw [hs] at hfield hclosed ⊢
    rw [openAfter_append, openAfter_fieldMark] at hclosed
    rw [List.append_assoc, fillWith_of_some hfield,
      fillWith_of_some (fieldAt?_append hfields hname hfield), ih hclosed, List.append_assoc]
  | case3 c s hfield ih =>
    have hnone : fieldAt? fields (c :: (s ++ t)) = none := by
      rw [fieldAt?_eq_none_iff] at hfield ⊢
      intro field hmem hstart
      exact hfield field hmem
        (fieldMark_prefix_of_append (hfields field hmem) (List.cons_ne_nil c s) hclosed hstart)
    rw [List.cons_append, fillWith_of_none hnone, fillWith_of_none hfield,
      ih (openAfter_false_of hclosed), List.cons_append]

theorem fillWith_congr {put' : Json → Fields → Text}
    (h : ∀ front name v behind, fields = front ++ (name, v) :: behind → name ∉ front.map Prod.fst →
      put v behind = put' v behind)
    (t : Text) : fillWith put fields t = fillWith put' fields t := by
  induction t using fillWith.induct fields with
  | case1 => rw [fillWith_nil, fillWith_nil]
  | case2 c t v behind after hfield hshorter ih =>
    obtain ⟨front, name, hfront, hfirst, -⟩ := exists_of_fieldAt? hfield
    rw [fillWith_of_some hfield, fillWith_of_some hfield, ih, h front name v behind hfront hfirst]
  | case3 c t hfield ih => rw [fillWith_of_none hfield, fillWith_of_none hfield, ih]

theorem fillWith_of_nil (put : Json → Fields → Text) (t : Text) : fillWith put [] t = t := by
  induction t with
  | nil => exact fillWith_nil
  | cons c t ih => rw [fillWith_of_none rfl, ih]

end Pass

/-! ## Field by field -/

theorem replaceAll_fieldMark {other new : Text} (hother : Braceless other)
    (hstart : ¬fieldMark name <+: fieldMark other ++ t)
    (h : TameFrom (name :: names) isOpen (fieldMark other ++ t)) :
    Text.replaceAll (fieldMark name) new (fieldMark other ++ t) =
      fieldMark other ++ Text.replaceAll (fieldMark name) new t := by
  have hmark (t : Text) : fieldMark other ++ t = '{' :: (markBody other ++ '}' :: t) := by
    simp [fieldMark_eq]
  rw [hmark] at hstart h
  rw [hmark, hmark, Text.replaceAll_cons (fieldMark_ne_nil name) hstart,
    replaceAll_append_brace (braceless_markBody hother) h.2]

/-- Replacing the placeholders of one field and then filling in the fields behind it is one pass, if
the value leaves no brace open. -/
theorem fillWith_replaceAll {put : Json → Fields → Text} {behind : Fields} {v : Json}
    (hbehind : ∀ field ∈ behind, Braceless field.1)
    (hclosed : openAfter false (plainText v) = false)
    (hput : put v behind = fillWith put behind (plainText v))
    (h : TameFrom (name :: names) isOpen t) :
    fillWith put behind (Text.replaceAll (fieldMark name) (plainText v) t) =
      fillWith put ((name, v) :: behind) t := by
  induction t using fillWith.induct ((name, v) :: behind) generalizing isOpen with
  | case1 => rw [Text.replaceAll_nil, fillWith_nil, fillWith_nil]
  | case2 c t w rest after hfield hshorter ih =>
    rw [fillWith_of_some hfield]
    by_cases hstart : fieldMark name <+: c :: t
    · -- The value is filled in turn, by itself, since it leaves no brace open.
      obtain ⟨tail, htail⟩ := hstart
      rw [← htail] at hfield h ⊢
      rw [fieldAt?_cons_self] at hfield
      obtain ⟨rfl, rfl, rfl⟩ : v = w ∧ behind = rest ∧ tail = after := by simpa using hfield
      have hafter : TameFrom (name :: names) false tail :=
        openAfter_fieldMark isOpen name ▸ h.of_append
      rw [Text.replaceAll_append (fieldMark_ne_nil name), fillWith_append hbehind hclosed, ← hput,
        ih hafter]
    · rw [fieldAt?_cons_of_not_start v behind hstart] at hfield
      obtain ⟨front, other, hfront, -, ht⟩ := exists_of_fieldAt? hfield
      have hother : Braceless other :=
        hbehind (other, w) (hfront ▸ List.mem_append_right _ List.mem_cons_self)
      rw [ht] at hfield hstart h ⊢
      have hafter : TameFrom (name :: names) false after :=
        openAfter_fieldMark isOpen other ▸ h.of_append
      rw [replaceAll_fieldMark hother hstart h,
        fillWith_of_some (fieldAt?_append hbehind hother hfield), ih hafter]
  | case3 c t hfield ih =>
    have hnone := fieldAt?_eq_none_iff.mp hfield
    have hstart : ¬fieldMark name <+: c :: t := hnone (name, v) List.mem_cons_self
    have hreplaced :
        fieldAt? behind (c :: Text.replaceAll (fieldMark name) (plainText v) t) = none := by
      rw [fieldAt?_eq_none_iff]
      intro field hmem hstarts
      refine hnone field (List.mem_cons_of_mem _ hmem) ?_
      exact (fieldMark_prefix_replaceAll_iff (hbehind field hmem) h).mp hstarts
    rw [Text.replaceAll_cons (fieldMark_ne_nil name) hstart, fillWith_of_none hreplaced,
      fillWith_of_none hfield, ih h.2]

/-- Names without braces, and values that leave no brace open and in which no placeholder of a field
behind them stands where one is. -/
def Fillable : Fields → Prop
  | [] => True
  | (name, v) :: behind =>
    (Braceless name ∧ openAfter false (plainText v) = false ∧
      TameFrom (behind.map Prod.fst) false (plainText v)) ∧ Fillable behind

instance decidableFillable : ∀ fields, Decidable (Fillable fields)
  | [] => isTrue trivial
  | (_, _) :: behind =>
    have := decidableFillable behind
    inferInstanceAs (Decidable (_ ∧ _))

theorem Fillable.braceless {fields : Fields} (h : Fillable fields) :
    ∀ field ∈ fields, Braceless field.1 := by
  induction fields with
  | nil => exact fun field hmem ↦ absurd hmem List.not_mem_nil
  | cons field fields ih => exact List.forall_mem_cons.mpr ⟨h.1.1, ih h.2⟩

/-- **Filling field by field is one pass**, in which each value is filled with the fields behind
it. -/
theorem fillFields_eq {fields : Fields} (h : Fillable fields)
    (ht : TameFrom (fields.map Prod.fst) isOpen t) :
    fillFields t fields = fillWith (fun v behind ↦ fillFields (plainText v) behind) fields t := by
  induction fields generalizing t isOpen with
  | nil => exact (fillWith_of_nil _ t).symm
  | cons field behind ih =>
    obtain ⟨name, v⟩ := field
    obtain ⟨⟨-, hclosed, htame⟩, hbehind⟩ := h
    have hnames : ∀ other ∈ behind.map Prod.fst, Braceless other :=
      List.forall_mem_map.mpr hbehind.braceless
    have hreplaced := TameFrom.replaceAll hnames hclosed htame ht
    calc fillFields t ((name, v) :: behind)
      _ = fillFields (Text.replaceAll (fieldMark name) (plainText v) t) behind := rfl
      _ = fillWith (fun v behind ↦ fillFields (plainText v) behind) behind
            (Text.replaceAll (fieldMark name) (plainText v) t) := ih hbehind hreplaced
      _ = fillWith (fun v behind ↦ fillFields (plainText v) behind) ((name, v) :: behind) t :=
            fillWith_replaceAll hbehind.braceless hclosed (ih hbehind htame) ht

/-! ## All fields at once -/

/-- No placeholder of the fields stands in the text where a brace is open. -/
def Tame (fields : Fields) (t : Text) : Prop :=
  TameFrom (fields.map Prod.fst) false t

theorem fieldAt?_fieldMark {front behind : Fields} {v : Json}
    (hfields : ∀ field ∈ front, Braceless field.1) (hname : Braceless name)
    (hfirst : name ∉ front.map Prod.fst) :
    fieldAt? (front ++ (name, v) :: behind) (fieldMark name ++ t) = some (v, behind, t) := by
  induction front with
  | nil => exact fieldAt?_cons_self name v behind t
  | cons field front ih =>
    obtain ⟨other, w⟩ := field
    obtain ⟨hother, hfront⟩ := List.forall_mem_cons.mp hfields
    obtain ⟨hne, hfirst⟩ := List.ne_and_not_mem_of_not_mem_cons hfirst
    have hstart : ¬fieldMark other <+: fieldMark name ++ t :=
      fun h ↦ hne ((fieldMark_prefix_iff hother hname).mp h).symm
    rw [List.cons_append, fieldAt?_cons_of_not_start w _ hstart, ih hfront hfirst]

/-- **A record is filled in simultaneously exactly if no value changes when the fields behind it are
filled into it.** In any case, each placeholder gives way to the value of its field, filled with the
fields behind. -/
theorem format_object {fields : Fields} (h : Fillable fields) :
    (∀ t, Tame fields t → format t (some (.object fields)) =
      fillWith (fun v behind ↦ fillFields (plainText v) behind) fields t) ∧
    ((∀ t, Tame fields t → format t (some (.object fields)) = fillAtOnce fields t) ↔
      ∀ front name v behind, fields = front ++ (name, v) :: behind → name ∉ front.map Prod.fst →
        fillFields (plainText v) behind = plainText v) := by
  have hpass (t : Text) (ht : Tame fields t) : format t (some (.object fields)) =
      fillWith (fun v behind ↦ fillFields (plainText v) behind) fields t := fillFields_eq h ht
  refine ⟨hpass, fun hall front name v behind hfront hfirst ↦ ?_, fun hvalues t ht ↦ ?_⟩
  · -- A text that is the placeholder of the field comes to its value.
    have hnames := h.braceless
    have hname : Braceless name :=
      hnames (name, v) (hfront ▸ List.mem_append_right _ List.mem_cons_self)
    have hfield : fieldAt? fields (fieldMark name ++ []) = some (v, behind, []) := by
      rw [hfront] at hnames ⊢
      exact fieldAt?_fieldMark (fun field hmem ↦ hnames field (List.mem_append_left _ hmem)) hname
        hfirst
    rw [List.append_nil] at hfield
    have htame : Tame fields (fieldMark name) := tameFrom_fieldMark hname
    have heq := (hpass _ htame).symm.trans (hall _ htame)
    rwa [fillAtOnce, fillWith_of_some hfield, fillWith_of_some hfield, fillWith_nil, fillWith_nil,
      List.append_nil, List.append_nil] at heq
  · exact (hpass t ht).trans (fillWith_congr hvalues t)

/-- A record with a value that is the placeholder of another. -/
def nestedFields : Fields :=
  [("x".toList, .string (fieldMark "y".toList)), ("y".toList, .string "Y".toList)]

theorem format_object_of_nestedFields :
    Fillable nestedFields ∧
      format (fieldMark "x".toList) (some (.object nestedFields)) = "Y".toList ∧
      ¬∀ t, Tame nestedFields t →
        format t (some (.object nestedFields)) = fillAtOnce nestedFields t := by
  have hfillable : Fillable nestedFields := by decide
  refine ⟨hfillable, by decide +kernel, fun hall ↦ ?_⟩
  have hvalue := (format_object hfillable).2.mp hall [] "x".toList
    (.string (fieldMark "y".toList)) _ rfl List.not_mem_nil
  exact absurd hvalue (by decide +kernel)

end Localized
end SiteClient
