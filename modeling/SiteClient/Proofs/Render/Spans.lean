import Mathlib.Data.List.Basic
import SiteClient.Proofs.Render.Parts

/-!
# Where a text is filled

Whatever text strings are put into, the places depend on the text and the number of strings alone. A
text is cut into spans: a placeholder that is filled, a guard that is dropped, or a character that
is kept. Which of them stands where can be said without a scan (`Span.Stands`): a guard is dropped
where it is not guarded itself, and a placeholder is filled where it is not guarded and the first of
its index. What is put in is no part of the text that is cut, so it is never looked at
(`substitute_spans`).

`Scan` is the scan as a relation, without the strings. It carries the indices that have been met;
that these are the indices of the placeholders passed (`Reached`) is the invariant behind
everything.
-/

namespace SiteClient.Placeholder

/-! ## Guarded places -/

/-- Whether what stands behind a text is guarded: the last character of the text is a guard that is
not guarded itself. -/
def isGuarded (before : Text) : Bool :=
  before.foldl (fun guarded c ↦ !guarded && c == guardMark) false

theorem isGuarded_concat (before : Text) (c : Char) :
    isGuarded (before ++ [c]) = (!isGuarded before && c == guardMark) := by
  rw [isGuarded, List.foldl_append, List.foldl_cons, List.foldl_nil, ← isGuarded]

/-- A guard only concerns the character behind it. -/
theorem isGuarded_concat_of_ne (before : Text) {c : Char} (h : c ≠ guardMark) :
    isGuarded (before ++ [c]) = false := by
  rw [isGuarded_concat, beq_false_of_ne h, Bool.and_false]

theorem isGuarded_placeholder (before : Text) (index : ℕ) :
    isGuarded (before ++ placeholder index) = false := by
  have hlast : before ++ placeholder index
      = before ++ (opening ++ Text.ofNat index ++ ['}']) ++ ['}'] := by
    simp [placeholder, closing]
  rw [hlast]
  exact isGuarded_concat_of_ne _ (by decide)

/-! ## Live placeholders -/

/-- The placeholder of `index` stands between `before` and what follows, and is not guarded. -/
def IsLive (index : ℕ) (before after : Text) : Prop :=
  isGuarded before = false ∧ placeholder index <+: after

/-- A live placeholder of `index` begins in `before`. -/
def Seen (index : ℕ) (before after : Text) : Prop :=
  ∃ earlier between, before = earlier ++ between ∧ between ≠ [] ∧
    IsLive index earlier (between ++ after)

/-- A live placeholder of `index` is the first one. -/
def IsFirst (index : ℕ) (before after : Text) : Prop :=
  IsLive index before after ∧ ¬Seen index before after

variable {index i : ℕ} {before after t : Text} {c : Char}

theorem not_isPrefix_of_ne (h : c ≠ '{') : ¬placeholder index <+: c :: t := by
  rintro ⟨rest, hrest⟩
  exact h (List.cons.inj hrest).1.symm

theorem not_isLive_of_ne (h : c ≠ '{') : ¬IsLive index before (c :: after) :=
  fun hlive ↦ not_isPrefix_of_ne h hlive.2

theorem not_seen_nil : ¬Seen index [] after := by
  rintro ⟨earlier, between, hnil, hne, -⟩
  exact hne (List.append_eq_nil_iff.mp hnil.symm).2

theorem seen_end_iff :
    Seen index t [] ↔ ∃ before after, t = before ++ (placeholder index ++ after) ∧
      isGuarded before = false := by
  constructor
  · rintro ⟨before, between, rfl, -, hfree, after, hafter⟩
    rw [List.append_nil] at hafter
    exact ⟨before, after, by rw [hafter], hfree⟩
  · rintro ⟨before, after, rfl, hfree⟩
    refine ⟨before, _, rfl, List.cons_ne_nil _ _, hfree, ?_⟩
    rw [List.append_nil]
    exact List.prefix_append _ _

/-- A placeholder begins in what is passed last or in what was passed before. -/
theorem seen_append (s : Text) :
    Seen index (before ++ s) after ↔ Seen index before (s ++ after) ∨
      ∃ earlier between, s = earlier ++ between ∧ between ≠ [] ∧
        IsLive index (before ++ earlier) (between ++ after) := by
  constructor
  · rintro ⟨earlier, between, heq, hne, hlive⟩
    obtain ⟨more, rfl, rfl⟩ | ⟨more, rfl, rfl⟩ := List.append_eq_append_iff.mp heq
    · exact .inr ⟨more, between, rfl, hne, hlive⟩
    · by_cases hmore : more = []
      · subst hmore
        rw [List.append_nil]
        exact .inr ⟨[], s, rfl, hne, by rwa [List.append_nil]⟩
      · exact .inl ⟨earlier, more, rfl, hmore, by rwa [List.append_assoc] at hlive⟩
  · rintro (⟨earlier, between, rfl, hne, hlive⟩ | ⟨earlier, between, rfl, hne, hlive⟩)
    · refine ⟨earlier, between ++ s, List.append_assoc _ _ _, ?_, by rwa [List.append_assoc]⟩
      exact List.append_ne_nil_of_left_ne_nil hne s
    · exact ⟨before ++ earlier, between, (List.append_assoc _ _ _).symm, hne, hlive⟩

theorem seen_concat :
    Seen index (before ++ [c]) after ↔
      Seen index before (c :: after) ∨ IsLive index before (c :: after) := by
  rw [seen_append]
  refine or_congr Iff.rfl ⟨?_, fun hlive ↦ ⟨[], [c], rfl, List.cons_ne_nil _ _, ?_⟩⟩
  · rintro ⟨earlier, between, heq, hne, hlive⟩
    obtain ⟨rfl, rfl⟩ : earlier = [] ∧ between = [c] := by
      simpa [List.singleton_eq_append_iff, hne] using heq
    rwa [List.append_nil] at hlive
  · rwa [List.append_nil]

/-- No other placeholder begins inside of one. -/
theorem not_isPrefix_of_append {earlier between : Text}
    (h : placeholder i = earlier ++ between) (hearlier : earlier ≠ []) (hbetween : between ≠ [])
    (rest : Text) : ¬placeholder index <+: between ++ rest := by
  have hdigits : ∀ c ∈ '_' :: 's' :: (Text.ofNat i ++ closing), c ≠ '{' := by
    have hofNat : '{' ∉ Text.ofNat i := fun hmem ↦
      absurd (Nat.isDigit_of_mem_toDigits (by decide) (by decide) hmem) (by decide)
    rintro c hmem rfl
    simp [closing, hofNat] at hmem
  obtain ⟨d, earlier, rfl⟩ := List.exists_cons_of_ne_nil hearlier
  have htail : '{' :: '_' :: 's' :: (Text.ofNat i ++ closing) = earlier ++ between :=
    (List.cons.inj h).2
  -- The second brace is not followed by another one, and there are no more braces of this kind.
  cases earlier with
  | nil =>
    rw [List.nil_append] at htail
    rw [← htail]
    rintro ⟨more, hmore⟩
    exact absurd (List.cons.inj (List.cons.inj hmore).2).1 (by decide)
  | cons e earlier =>
    obtain ⟨-, hmore⟩ := List.cons.inj htail
    obtain ⟨b, between, rfl⟩ := List.exists_cons_of_ne_nil hbetween
    refine not_isPrefix_of_ne (hdigits b ?_)
    rw [hmore]
    exact List.mem_append_right _ List.mem_cons_self

theorem eq_of_isPrefix (h : placeholder index <+: placeholder i ++ t) : index = i := by
  obtain ⟨rest, hrest⟩ := h
  have hlt : index < max index i + 1 := by omega
  have hlt' : i < max index i + 1 := by omega
  have hat := placeholderAt?_placeholder hlt rest
  rw [hrest, placeholderAt?_placeholder hlt' t] at hat
  exact (Prod.mk.inj (Option.some.inj hat)).1.symm

theorem seen_placeholder (hfree : isGuarded before = false) :
    Seen index (before ++ placeholder i) t ↔
      Seen index before (placeholder i ++ t) ∨ index = i := by
  rw [seen_append]
  refine or_congr Iff.rfl ⟨?_, ?_⟩
  · rintro ⟨earlier, between, heq, hne, hlive⟩
    by_cases hearlier : earlier = []
    · subst hearlier
      rw [List.nil_append] at heq
      rw [← heq] at hlive
      exact eq_of_isPrefix hlive.2
    · exact absurd hlive.2 (not_isPrefix_of_append heq hearlier hne t)
  · rintro rfl
    refine ⟨[], placeholder index, rfl, List.cons_ne_nil _ _, ?_, List.prefix_append _ _⟩
    rwa [List.append_nil]

/-! ## Spans -/

/-- A part of a text that strings are put into. -/
inductive Span where
  /-- A character that is kept. -/
  | kept (c : Char)
  /-- A guard that is dropped. -/
  | guard
  /-- A placeholder that is filled. -/
  | string (index : ℕ)
  deriving DecidableEq, Repr

namespace Span

def source : Span → Text
  | .kept c => [c]
  | .guard => [guardMark]
  | .string index => placeholder index

def part : Span → Part
  | .kept c => .text [c]
  | .guard => .text []
  | .string index => .string index

/-- The span stands rightly between two texts, for `count` strings. -/
def Stands (count : ℕ) (before after : Text) : Span → Prop
  | .kept c => (c = guardMark → isGuarded before = true) ∧
      ∀ index < count, ¬IsFirst index before (c :: after)
  | .guard => isGuarded before = false
  | .string index => index < count ∧ IsFirst index before (placeholder index ++ after)

end Span

def sources (spans : List Span) : Text :=
  spans.flatMap Span.source

def parts (spans : List Span) : List Part :=
  spans.map Span.part

@[simp] theorem indices_parts_kept (c : Char) (spans : List Span) :
    indices (parts (.kept c :: spans)) = indices (parts spans) := rfl

@[simp] theorem indices_parts_guard (spans : List Span) :
    indices (parts (.guard :: spans)) = indices (parts spans) := rfl

@[simp] theorem indices_parts_string (index : ℕ) (spans : List Span) :
    indices (parts (.string index :: spans)) = index :: indices (parts spans) := rfl

/-- Each span stands rightly, behind `before` and those that come first. -/
def Stand (count : ℕ) (before : Text) : List Span → Prop
  | [] => True
  | span :: spans =>
    span.Stands count before (sources spans) ∧ Stand count (before ++ span.source) spans

/-! ## The scan -/

/-- The spans that a scan cuts a text into. `used` are the indices that have been met. -/
inductive Scan (count : ℕ) : List ℕ → Text → List Span → Prop
  | nil (used : List ℕ) : Scan count used [] []
  | lastGuard (used : List ℕ) : Scan count used [guardMark] [.guard]
  | guarded {used : List ℕ} (c : Char) {t : Text} {spans : List Span}
      (hrest : Scan count used t spans) :
      Scan count used (guardMark :: c :: t) (.guard :: .kept c :: spans)
  | plain {used : List ℕ} {c : Char} (hplain : needsGuard c = false) {t : Text} {spans : List Span}
      (hrest : Scan count used t spans) : Scan count used (c :: t) (.kept c :: spans)
  | brace {used : List ℕ} {t : Text} {spans : List Span}
      (hnew : ∀ index < count, placeholder index <+: '{' :: t → index ∈ used)
      (hrest : Scan count used t spans) : Scan count used ('{' :: t) (.kept '{' :: spans)
  | string {used : List ℕ} {index : ℕ} (hcount : index < count) (hnew : index ∉ used) {t : Text}
      {spans : List Span} (hrest : Scan count (index :: used) t spans) :
      Scan count used (placeholder index ++ t) (.string index :: spans)

theorem exists_scan (count : ℕ) (used : List ℕ) (t : Text) : ∃ spans, Scan count used t spans := by
  induction hn : t.length using Nat.strongRecOn generalizing used t with
  | ind n ih =>
    subst hn
    cases t with
    | nil => exact ⟨[], .nil used⟩
    | cons c t =>
      have hlt : t.length < (c :: t).length := Nat.lt_succ_self _
      obtain ⟨spans, hspans⟩ := ih t.length hlt used t rfl
      by_cases hguard : c = guardMark
      · subst hguard
        cases t with
        | nil => exact ⟨_, .lastGuard used⟩
        | cons d t =>
          have hlt' : t.length < (guardMark :: d :: t).length := Nat.lt_add_of_pos_right Nat.two_pos
          obtain ⟨spans, hspans⟩ := ih t.length hlt' used t rfl
          exact ⟨_, .guarded d hspans⟩
      by_cases hbrace : c = '{'
      · subst hbrace
        by_cases hnew : ∀ index < count, placeholder index <+: '{' :: t → index ∈ used
        · exact ⟨_, .brace hnew hspans⟩
        · push Not at hnew
          obtain ⟨index, hcount, ⟨rest, hrest⟩, hused⟩ := hnew
          rw [← hrest] at ih ⊢
          have hshort : rest.length < (placeholder index ++ rest).length := by
            rw [List.length_append]
            exact Nat.lt_add_of_pos_left (Nat.succ_pos _)
          obtain ⟨spans, hspans⟩ := ih rest.length hshort (index :: used) rest rfl
          exact ⟨_, .string hcount hused hspans⟩
      · exact ⟨_, .plain (by simp [needsGuard, hguard, hbrace]) hspans⟩

namespace Scan

variable {count : ℕ} {used : List ℕ} {spans : List Span}

theorem sources_eq (h : Scan count used t spans) : sources spans = t := by
  induction h with
  | nil => rfl
  | lastGuard => rfl
  | guarded c _ ih => exact congrArg (guardMark :: c :: ·) ih
  | @plain used c hplain t spans _ ih => exact congrArg (c :: ·) ih
  | brace _ _ ih => exact congrArg ('{' :: ·) ih
  | @string used index hcount hnew t spans _ ih => exact congrArg (placeholder index ++ ·) ih

theorem substituteFrom_eq (h : Scan count used t spans) {strings : List Text}
    (hlength : strings.length = count) :
    substituteFrom strings used t = filled strings (parts spans) := by
  subst hlength
  induction h with
  | nil => exact substituteFrom_nil _ _
  | lastGuard => exact substituteFrom_lastGuard _ _
  | guarded c _ ih =>
    rw [substituteFrom_guardMark, ih]
    rfl
  | plain hplain _ ih =>
    rw [substituteFrom_plain _ _ hplain, ih]
    rfl
  | brace hnew _ ih =>
    rw [substituteFrom_brace hnew, ih]
    rfl
  | string hcount hnew _ ih =>
    rw [substituteFrom_placeholder hcount hnew, ih]
    rfl

theorem lt_of_mem_indices (h : Scan count used t spans) (hi : i ∈ indices (parts spans)) :
    i < count ∧ i ∉ used := by
  induction h with
  | nil | lastGuard => cases hi
  | guarded c _ ih => exact ih hi
  | plain _ _ ih => exact ih hi
  | brace _ _ ih => exact ih hi
  | string hcount hnew _ ih =>
    obtain rfl | hi := List.mem_cons.mp hi
    · exact ⟨hcount, hnew⟩
    · obtain ⟨hlt, hused⟩ := ih hi
      exact ⟨hlt, List.not_mem_of_not_mem_cons hused⟩

theorem nodup (h : Scan count used t spans) : (indices (parts spans)).Nodup := by
  induction h with
  | nil | lastGuard => exact List.nodup_nil
  | guarded c _ ih => exact ih
  | plain _ _ ih => exact ih
  | brace _ _ ih => exact ih
  | string _ _ hrest ih =>
    refine List.nodup_cons.mpr ⟨fun hmem ↦ ?_, ih⟩
    exact (hrest.lt_of_mem_indices hmem).2 List.mem_cons_self

end Scan

/-! ## What a scan has passed -/

/-- A scan has come to a place that is not guarded, and has met the placeholders in front of it. -/
structure Reached (count : ℕ) (used : List ℕ) (before after : Text) : Prop where
  free : isGuarded before = false
  mem_used_iff : ∀ index < count, index ∈ used ↔ Seen index before after

namespace Reached

variable {count : ℕ} {used : List ℕ}

theorem start (count : ℕ) (t : Text) : Reached count [] [] t where
  free := rfl
  mem_used_iff _ _ := iff_of_false List.not_mem_nil not_seen_nil

/-- What is no guard is passed, whether it is kept or not. -/
theorem concat (h : Reached count used before (c :: after)) (hc : c ≠ guardMark)
    (hmet : ∀ index < count, IsLive index before (c :: after) → index ∈ used) :
    Reached count used (before ++ [c]) after where
  free := isGuarded_concat_of_ne before hc
  mem_used_iff index hcount := by
    have hused := h.mem_used_iff index hcount
    rw [seen_concat, ← hused]
    exact (or_iff_left_of_imp (hmet index hcount)).symm

theorem plain (h : Reached count used before (c :: after)) (hplain : needsGuard c = false) :
    Reached count used (before ++ [c]) after := by
  obtain ⟨hbrace, hmark⟩ := ne_of_needsGuard hplain
  exact h.concat hmark fun index _ hlive ↦ absurd hlive (not_isLive_of_ne hbrace)

theorem brace (h : Reached count used before ('{' :: after))
    (hnew : ∀ index < count, placeholder index <+: '{' :: after → index ∈ used) :
    Reached count used (before ++ ['{']) after :=
  h.concat (by decide) fun index hcount hlive ↦ hnew index hcount hlive.2

theorem seen_guardMark_iff (hcount : index < count)
    (h : Reached count used before (guardMark :: after)) :
    Seen index (before ++ [guardMark]) after ↔ index ∈ used := by
  rw [seen_concat, ← h.mem_used_iff index hcount]
  exact or_iff_left (not_isLive_of_ne (by decide))

theorem guarded (h : Reached count used before (guardMark :: c :: after)) :
    Reached count used (before ++ [guardMark] ++ [c]) after where
  free := by
    rw [isGuarded_concat, isGuarded_concat, h.free]
    rfl
  mem_used_iff index hcount := by
    rw [seen_concat, h.seen_guardMark_iff hcount]
    refine (or_iff_left ?_).symm
    rintro ⟨hfree, -⟩
    rw [isGuarded_concat, h.free] at hfree
    exact absurd hfree (by decide)

theorem string (h : Reached count used before (placeholder index ++ after)) :
    Reached count (index :: used) (before ++ placeholder index) after where
  free := isGuarded_placeholder before index
  mem_used_iff i hcount := by
    rw [seen_placeholder h.free, ← h.mem_used_iff i hcount, List.mem_cons, or_comm]

end Reached

namespace Scan

variable {count : ℕ} {used : List ℕ} {spans : List Span}

/-- **Every span stands rightly.** -/
theorem stand (h : Scan count used t spans) (hreached : Reached count used before t) :
    Stand count before spans := by
  induction h generalizing before with
  | nil => exact trivial
  | lastGuard => exact ⟨hreached.free, trivial⟩
  | @guarded used c t spans hrest ih =>
    have hguarded : isGuarded (before ++ [guardMark]) = true := by
      rw [isGuarded_concat, hreached.free]
      rfl
    refine ⟨hreached.free, ⟨fun _ ↦ hguarded, fun index _ hfirst ↦ ?_⟩, ih hreached.guarded⟩
    exact absurd (hguarded.symm.trans hfirst.1.1) (by decide)
  | @plain used c hplain t spans hrest ih =>
    obtain ⟨hbrace, hmark⟩ := ne_of_needsGuard hplain
    exact ⟨⟨fun h ↦ absurd h hmark, fun index _ hfirst ↦ not_isLive_of_ne hbrace hfirst.1⟩,
      ih (hreached.plain hplain)⟩
  | @brace used t spans hnew hrest ih =>
    have hmark : '{' ≠ guardMark := by decide
    refine ⟨⟨fun h ↦ absurd h hmark, fun index hcount hfirst ↦ ?_⟩,
      ih (hreached.brace hnew)⟩
    rw [hrest.sources_eq] at hfirst
    -- It would not be the first one, for it has been met.
    exact hfirst.2 ((hreached.mem_used_iff index hcount).mp (hnew index hcount hfirst.1.2))
  | @string used index hcount hnew t spans hrest ih =>
    refine ⟨⟨hcount, ⟨hreached.free, List.prefix_append _ _⟩, fun hseen ↦ hnew ?_⟩,
      ih hreached.string⟩
    rw [hrest.sources_eq] at hseen
    exact (hreached.mem_used_iff index hcount).mpr hseen

/-- What has been met in the end are the placeholders of the whole text. -/
theorem mem_indices_iff (h : Scan count used t spans) (hreached : Reached count used before t)
    (hcount : i < count) :
    i ∈ used ∨ i ∈ indices (parts spans) ↔ Seen i (before ++ t) [] := by
  induction h generalizing before with
  | nil used =>
    rw [List.append_nil, ← hreached.mem_used_iff i hcount]
    exact or_iff_left List.not_mem_nil
  | lastGuard used =>
    rw [hreached.seen_guardMark_iff hcount]
    exact or_iff_left List.not_mem_nil
  | guarded c _ ih => simpa using ih hreached.guarded
  | plain hplain _ ih => simpa using ih (hreached.plain hplain)
  | brace hnew _ ih => simpa using ih (hreached.brace hnew)
  | @string used index _ _ t spans hrest ih =>
    have hall := ih hreached.string
    rw [List.append_assoc, List.mem_cons] at hall
    rw [← hall, indices_parts_string, List.mem_cons, ← or_assoc, or_comm (a := i ∈ used)]

end Scan

/-! ## Putting strings in -/

/-- **What is put in does not influence where.** A text is cut into spans that depend on it and on
the number of the strings only. -/
theorem substitute_spans (t : Text) (count : ℕ) :
    ∃ spans : List Span, sources spans = t ∧ Stand count [] spans ∧
      (indices (parts spans)).Nodup ∧
      (∀ index, index ∈ indices (parts spans) ↔ index < count ∧
        ∃ before after, t = before ++ (placeholder index ++ after) ∧ isGuarded before = false) ∧
      ∀ strings : List Text, strings.length = count →
        substitute t strings = filled strings (parts spans) := by
  obtain ⟨spans, hscan⟩ := exists_scan count [] t
  refine ⟨spans, hscan.sources_eq, hscan.stand (.start count t), hscan.nodup, fun index ↦ ?_,
    fun strings hlength ↦ hscan.substituteFrom_eq hlength⟩
  rw [← seen_end_iff]
  constructor
  · intro hindex
    obtain ⟨hcount, -⟩ := hscan.lt_of_mem_indices hindex
    exact ⟨hcount, (hscan.mem_indices_iff (.start count t) hcount).mp (.inr hindex)⟩
  · rintro ⟨hcount, hseen⟩
    have hmem := (hscan.mem_indices_iff (.start count t) hcount).mpr hseen
    exact hmem.resolve_left List.not_mem_nil

/-- A guarded placeholder, two live ones of which one comes twice, and a guard at the end. -/
def trickyText : Text :=
  guardMark :: placeholder 0 ++ placeholder 1 ++ '{' :: placeholder 0 ++
    placeholder 1 ++ [guardMark]

/-- The first string looks like the placeholder of the second one, and stays what it is. -/
theorem substitute_spans_of_trickyText :
    ∃ spans : List Span, sources spans = trickyText ∧ 0 ∈ indices (parts spans) ∧
      2 ∉ indices (parts spans) ∧ (indices (parts spans)).Nodup ∧
      substitute trickyText [placeholder 1, ['b']] = filled [placeholder 1, ['b']] (parts spans) ∧
      substitute trickyText [placeholder 1, ['b']]
        = placeholder 0 ++ 'b' :: '{' :: placeholder 1 ++ placeholder 1 := by
  obtain ⟨spans, hsources, -, hnodup, hmem, hfilled⟩ := substitute_spans trickyText 2
  refine ⟨spans, hsources, (hmem 0).mpr ⟨by decide, ?_⟩, fun htwo ↦ ?_, hnodup, hfilled _ rfl, ?_⟩
  · exact ⟨guardMark :: placeholder 0 ++ placeholder 1 ++ ['{'], placeholder 1 ++ [guardMark],
      by decide, by decide⟩
  · exact absurd ((hmem 2).mp htwo).1 (by decide)
  · decide +kernel

end SiteClient.Placeholder
