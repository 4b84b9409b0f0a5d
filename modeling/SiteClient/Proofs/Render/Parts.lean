import Mathlib.Data.List.Basic
import Mathlib.Data.List.GetD
import SiteClient.Render.Placeholder

/-!
# What an expansion writes, in parts

What an expansion writes is made of guarded texts and placeholders. Such a text can be taken apart
again in one way only: a scan from left to right finds each placeholder where one was written
(`places_written`) and no other, and `substitute` therefore puts the strings there and gives the
texts back as they were (`substitute_written`). The texts may hold braces, guards and whole
placeholders; it is the guard in front that a scan meets first.

Everything is stated for a part in front of an arbitrary rest. That is what makes the two inductions
go through, and it says that no text lines up with its neighbours to a placeholder.
-/

namespace SiteClient.Placeholder

/-! ## The scan at one part -/

theorem ne_of_needsGuard {c : Char} (h : needsGuard c = false) : c ≠ '{' ∧ c ≠ guardMark := by
  simpa [needsGuard] using h

theorem substituteFrom_nil (strings : List Text) (used : List ℕ) :
    substituteFrom strings used [] = [] := by
  rw [substituteFrom]

theorem substituteFrom_guardMark (strings : List Text) (used : List ℕ) (c : Char) (t : Text) :
    substituteFrom strings used (guardMark :: c :: t) = c :: substituteFrom strings used t := by
  rw [substituteFrom.eq_def]
  exact if_pos rfl

theorem substituteFrom_plain (strings : List Text) (used : List ℕ) {c : Char}
    (h : needsGuard c = false) (t : Text) :
    substituteFrom strings used (c :: t) = c :: substituteFrom strings used t := by
  obtain ⟨hbrace, hmark⟩ := ne_of_needsGuard h
  rw [substituteFrom.eq_def]
  dsimp only
  rw [if_neg hmark, if_neg hbrace]

theorem guarded_append (t t' : Text) : guarded (t ++ t') = guarded t ++ guarded t' :=
  List.flatMap_append

/-- A scan that skips a guard with what stands behind it, and takes what needs no guard as it is,
takes a guarded text as it was before. -/
theorem scan_guarded {α : Type} {scan : Text → α} {g : Char → α → α}
    (hguard : ∀ c t, scan (guardMark :: c :: t) = g c (scan t))
    (hplain : ∀ c t, needsGuard c = false → scan (c :: t) = g c (scan t)) (t rest : Text) :
    scan (guarded t ++ rest) = t.foldr g (scan rest) := by
  induction t with
  | nil => rfl
  | cons c t ih =>
    rw [guarded, List.flatMap_cons, ← guarded, List.append_assoc, List.foldr_cons, ← ih]
    cases hc : needsGuard c with
    | true => exact hguard c _
    | false => exact hplain c _ hc

theorem substituteFrom_guarded (strings : List Text) (used : List ℕ) (t rest : Text) :
    substituteFrom strings used (guarded t ++ rest) = t ++ substituteFrom strings used rest := by
  rw [scan_guarded (substituteFrom_guardMark strings used)
    (fun _ t h ↦ substituteFrom_plain strings used h t)]
  exact List.foldr_cons_eq_append'

theorem substitute_guarded (t : Text) (strings : List Text) :
    substitute (guarded t) strings = t := by
  have h := substituteFrom_guarded strings [] t []
  rwa [List.append_nil, substituteFrom_nil, List.append_nil] at h

theorem placeholderAt?_placeholder {count index : ℕ} (h : index < count) (rest : Text) :
    placeholderAt? count (placeholder index ++ rest) = some (index, rest) := by
  have hdigits : ∀ c ∈ Text.ofNat index, c.isDigit :=
    fun c hc ↦ Nat.isDigit_of_mem_toDigits (by decide) (by decide) hc
  have hvalue : Nat.ofDigitChars 10 (Text.ofNat index) 0 = index := Nat.ofDigitChars_ten_toDigits
  have htake : (Text.ofNat index ++ (closing ++ rest)).takeWhile Char.isDigit
      = Text.ofNat index := by
    rw [List.takeWhile_append_of_pos hdigits]
    exact List.append_nil _
  have hdrop : (Text.ofNat index ++ (closing ++ rest)).dropWhile Char.isDigit
      = closing ++ rest := by
    rw [List.dropWhile_append_of_pos hdigits]
    rfl
  have hmark (mark t : Text) : mark.isPrefixOf? (mark ++ t) = some t :=
    List.isPrefixOf?_eq_some_iff_append_eq.mpr rfl
  -- The digits end where the closing mark begins, whatever the rest begins with.
  rw [placeholderAt?, placeholder, List.append_assoc, List.append_assoc, hmark]
  dsimp only
  rw [htake, hdrop, hmark, hvalue]
  exact if_pos ⟨h, rfl⟩

theorem placeholder_eq_cons (index : ℕ) (rest : Text) :
    ∃ t, placeholder index ++ rest = '{' :: t :=
  ⟨_, rfl⟩

theorem substituteFrom_placeholder {strings : List Text} {used : List ℕ} {index : ℕ}
    (h : index < strings.length) (hused : index ∉ used) (rest : Text) :
    substituteFrom strings used (placeholder index ++ rest)
      = strings.getD index [] ++ substituteFrom strings (index :: used) rest := by
  have hat := placeholderAt?_placeholder h rest
  obtain ⟨t, ht⟩ := placeholder_eq_cons index rest
  rw [ht] at hat ⊢
  rw [substituteFrom.eq_def]
  dsimp only
  rw [if_neg (by decide), if_pos rfl]
  -- The match depends on its own equation, so `hat` cannot be rewritten in it.
  split
  · rename_i hsome
    obtain ⟨rfl, rfl⟩ := Prod.mk.inj (Option.some.inj (hat.symm.trans hsome))
    rw [if_neg hused]
  · rename_i hnone
    exact absurd (hat.symm.trans hnone) (Option.some_ne_none _)

theorem substituteFrom_lastGuard (strings : List Text) (used : List ℕ) :
    substituteFrom strings used [guardMark] = [] := by
  rw [substituteFrom.eq_def]
  exact if_pos rfl

/-- A brace is kept if no placeholder begins with it but those that have been met. -/
theorem substituteFrom_brace {strings : List Text} {used : List ℕ} {t : Text}
    (h : ∀ index < strings.length, placeholder index <+: '{' :: t → index ∈ used) :
    substituteFrom strings used ('{' :: t) = '{' :: substituteFrom strings used t := by
  rw [substituteFrom.eq_def]
  dsimp only
  rw [if_neg (by decide), if_pos rfl]
  split
  · rename_i index rest hsome
    obtain ⟨hindex, heq⟩ := eq_of_placeholderAt? hsome
    rw [if_pos (h index hindex ⟨rest, heq.symm⟩)]
  · rfl

/-- The indices of the placeholders below `count` in a text, in order. What has a guard is none. -/
def places (count : ℕ) : Text → List ℕ
  | [] => []
  | c :: t =>
    if c = guardMark then
      match t with
      | [] => []
      | _ :: t => places count t
    else if c = '{' then
      match h : placeholderAt? count (c :: t) with
      | some (index, rest) =>
        have : rest.length < t.length + 1 := by
          have := congrArg List.length (eq_of_placeholderAt? h).2
          simp only [placeholder, opening, List.length_append, List.length_cons] at this
          omega
        index :: places count rest
      | none => places count t
    else places count t
termination_by t => t.length

@[simp] theorem places_nil (count : ℕ) : places count [] = [] := by
  rw [places]

theorem places_guardMark (count : ℕ) (c : Char) (t : Text) :
    places count (guardMark :: c :: t) = places count t := by
  rw [places.eq_def]
  exact if_pos rfl

theorem places_plain (count : ℕ) {c : Char} (h : needsGuard c = false) (t : Text) :
    places count (c :: t) = places count t := by
  obtain ⟨hbrace, hmark⟩ := ne_of_needsGuard h
  rw [places.eq_def]
  dsimp only
  rw [if_neg hmark, if_neg hbrace]

theorem places_guarded (count : ℕ) (t rest : Text) :
    places count (guarded t ++ rest) = places count rest := by
  rw [scan_guarded (g := fun _ l ↦ l) (places_guardMark count)
    (fun _ t h ↦ places_plain count h t)]
  exact List.foldr_fixed t

theorem places_placeholder {count index : ℕ} (h : index < count) (rest : Text) :
    places count (placeholder index ++ rest) = index :: places count rest := by
  have hat := placeholderAt?_placeholder h rest
  obtain ⟨t, ht⟩ := placeholder_eq_cons index rest
  rw [ht] at hat ⊢
  rw [places.eq_def]
  dsimp only
  rw [if_neg (by decide), if_pos rfl]
  split
  · rename_i hsome
    obtain ⟨rfl, rfl⟩ := Prod.mk.inj (Option.some.inj (hat.symm.trans hsome))
    rfl
  · rename_i hnone
    exact absurd (hat.symm.trans hnone) (Option.some_ne_none _)

/-! ## Parts -/

/-- A part of what an expansion writes. -/
inductive Part where
  /-- A text, which is written with guards. -/
  | text (t : Text)
  /-- The place of a string. -/
  | string (index : ℕ)

namespace Part

/-- What is written for a part. -/
def written : Part → Text
  | .text t => guarded t
  | .string index => placeholder index

/-- What stands in the place of a part in the end. -/
def filled (strings : List Text) : Part → Text
  | .text t => t
  | .string index => strings.getD index []

def index? : Part → Option ℕ
  | .text _ => none
  | .string index => some index

end Part

/-- What is written for parts. -/
def written (parts : List Part) : Text :=
  parts.flatMap Part.written

/-- What stands in the place of parts in the end. -/
def filled (strings : List Text) (parts : List Part) : Text :=
  parts.flatMap (Part.filled strings)

/-- The strings that have a place among parts, in order. -/
def indices (parts : List Part) : List ℕ :=
  parts.filterMap Part.index?

@[simp] theorem written_nil : written [] = [] := rfl

@[simp] theorem written_cons (part : Part) (l : List Part) :
    written (part :: l) = part.written ++ written l := rfl

@[simp] theorem written_append (l l' : List Part) : written (l ++ l') = written l ++ written l' :=
  List.flatMap_append

@[simp] theorem filled_nil (strings : List Text) : filled strings [] = [] := rfl

@[simp] theorem filled_cons (strings : List Text) (part : Part) (l : List Part) :
    filled strings (part :: l) = part.filled strings ++ filled strings l := rfl

@[simp] theorem filled_append (strings : List Text) (l l' : List Part) :
    filled strings (l ++ l') = filled strings l ++ filled strings l' :=
  List.flatMap_append

@[simp] theorem indices_nil : indices [] = [] := rfl

@[simp] theorem indices_append (l l' : List Part) : indices (l ++ l') = indices l ++ indices l' :=
  List.filterMap_append

@[simp] theorem indices_text (t : Text) : indices [.text t] = [] := rfl

@[simp] theorem indices_string (index : ℕ) : indices [.string index] = [index] := rfl

theorem filled_append_strings {strings : List Text} {parts : List Part}
    (h : ∀ i ∈ indices parts, i < strings.length) (more : List Text) :
    filled (strings ++ more) parts = filled strings parts := by
  induction parts with
  | nil => rfl
  | cons part parts ih =>
    rw [filled_cons, filled_cons]
    cases part with
    | text t => exact congrArg _ (ih h)
    | string index =>
      obtain ⟨hhead, htail⟩ := List.forall_mem_cons.mp h
      rw [ih htail, Part.filled, Part.filled, List.getD_append _ _ _ _ hhead]

/-- **A scan finds the placeholders that were written**, and no others. -/
theorem places_written {count : ℕ} {parts : List Part} (h : ∀ i ∈ indices parts, i < count) :
    places count (written parts) = indices parts := by
  induction parts with
  | nil => rw [written_nil, places_nil, indices_nil]
  | cons part parts ih =>
    rw [written_cons]
    cases part with
    | text t => rw [Part.written, places_guarded, ih h]; rfl
    | string index =>
      obtain ⟨hhead, htail⟩ := List.forall_mem_cons.mp h
      rw [Part.written, places_placeholder hhead, ih htail]
      rfl

theorem substituteFrom_written {strings : List Text} {parts : List Part} (used : List ℕ)
    (h : ∀ i ∈ indices parts, i < strings.length) (hnodup : (indices parts).Nodup)
    (hused : ∀ i ∈ indices parts, i ∉ used) :
    substituteFrom strings used (written parts) = filled strings parts := by
  induction parts generalizing used with
  | nil => rw [written_nil, substituteFrom_nil, filled_nil]
  | cons part parts ih =>
    rw [written_cons, filled_cons]
    cases part with
    | text t => rw [Part.written, substituteFrom_guarded, ih used h hnodup hused]; rfl
    | string index =>
      obtain ⟨hhead, htail⟩ := List.forall_mem_cons.mp h
      obtain ⟨hnew, hused⟩ := List.forall_mem_cons.mp hused
      obtain ⟨hindex, hnodup⟩ := List.nodup_cons.mp hnodup
      rw [Part.written, substituteFrom_placeholder hhead hnew, ih (index :: used) htail hnodup]
      · rfl
      · -- No later part has the string that has just been used.
        intro i hi
        refine List.not_mem_cons_of_ne_of_not_mem ?_ (hused i hi)
        rintro rfl
        exact hindex hi

/-- **Substituting fills every place** and gives every text back as it was. -/
theorem substitute_written {strings : List Text} {parts : List Part}
    (h : ∀ i ∈ indices parts, i < strings.length) (hnodup : (indices parts).Nodup) :
    substitute (written parts) strings = filled strings parts :=
  substituteFrom_written [] h hnodup fun _ _ ↦ List.not_mem_nil

/-! ## Joining -/

/-- The parts of texts that are joined with `mark` between any two. -/
def joined (mark : Text) (texts : List (List Part)) : List Part :=
  [.text mark].intercalate texts

theorem flatMap_intercalate {α β : Type} (f : α → List β) (mark : List α) (ls : List (List α)) :
    (mark.intercalate ls).flatMap f = (mark.flatMap f).intercalate (ls.map (List.flatMap f)) := by
  induction ls with
  | nil => rfl
  | cons l ls ih =>
    cases ls with
    | nil => simp
    | cons l' ls =>
      rw [List.intercalate_cons_cons, List.flatMap_append, List.flatMap_append, ih, List.map_cons,
        List.map_cons, List.map_cons, List.intercalate_cons_cons]

theorem written_joined {mark : Text} (h : guarded mark = mark) (texts : List (List Part)) :
    written (joined mark texts) = mark.intercalate (texts.map written) := by
  rw [written, joined, flatMap_intercalate, ← written, written_cons, Part.written, h]
  exact congrArg (List.intercalate · _) (List.append_nil mark)

theorem filled_joined (strings : List Text) (mark : Text) (texts : List (List Part)) :
    filled strings (joined mark texts) = mark.intercalate (texts.map (filled strings)) := by
  rw [filled, joined, flatMap_intercalate]
  exact congrArg (List.intercalate · _) (List.append_nil mark)

theorem indices_joined (mark : Text) (texts : List (List Part)) :
    indices (joined mark texts) = texts.flatMap indices := by
  induction texts with
  | nil => rfl
  | cons l texts ih =>
    cases texts with
    | nil => simp [joined]
    | cons l' texts =>
      rw [joined, List.intercalate_cons_cons, ← joined, indices_append, indices_append, ih,
        indices_text, List.append_nil]
      exact List.flatMap_cons.symm

end SiteClient.Placeholder
