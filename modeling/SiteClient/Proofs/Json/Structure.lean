import SiteClient.Json.Outline
import SiteClient.Proofs.Json.Grammar
/-!
# The grammar of JSON values

An outline that is complete is the tree of a JSON text: the text is the tokens of the tree, with
blanks between them (`Outline.Spells`). The reader finds this tree in every such text, and what it
finds in any text is this tree or not complete (`Outline.spells_iff`). So a text spells at most one
tree.

The reader is a machine with a stack of open containers. Of each step it says either that the text
has broken off, and then the outline is not complete, or how one token is taken
(`Outline.Advances`). A stack stands for the tokens taken so far (`Outline.taken`), and each step
adds one.
-/

namespace SiteClient.Outline

/-! ## Trees and their tokens -/

mutual

/-- Every container is closed and every value is there. -/
def Complete : Outline → Prop
  | .array items ending => AllComplete items ∧ ending = .closed
  | .object entries ending => EntriesComplete entries ∧ ending = .closed
  | .absent .. => False
  | _ => True

def AllComplete : List Outline → Prop
  | [] => True
  | v :: rest => v.Complete ∧ AllComplete rest

def EntriesComplete : List (Except ReadError Text × Outline) → Prop
  | [] => True
  | (_, v) :: rest => v.Complete ∧ EntriesComplete rest

end

theorem allComplete_iff {items : List Outline} : AllComplete items ↔ ∀ v ∈ items, v.Complete := by
  induction items with
  | nil => simp [AllComplete]
  | cons v rest ih => simp [AllComplete, ih]

theorem entriesComplete_iff {entries : List (Except ReadError Text × Outline)} :
    EntriesComplete entries ↔ ∀ entry ∈ entries, entry.2.Complete := by
  induction entries with
  | nil => simp [EntriesComplete]
  | cons entry rest ih => simp only [EntriesComplete, ih, List.forall_mem_cons]

mutual

def tokens : Outline → List Token
  | .null => [.null]
  | .bool b => [.bool b]
  | .number n => [.number n]
  | .string t => [.string t]
  | .array items _ => .openArray :: itemsTokens items ++ [.closeArray]
  | .object entries _ => .openObject :: entriesTokens entries ++ [.closeObject]
  | .absent .. => []

def itemsTokens : List Outline → List Token
  | [] => []
  | [v] => v.tokens
  | v :: w :: rest => v.tokens ++ .comma :: itemsTokens (w :: rest)

def entriesTokens : List (Except ReadError Text × Outline) → List Token
  | [] => []
  | [(key, v)] => .string key :: .colon :: v.tokens
  | (key, v) :: w :: rest =>
      .string key :: .colon :: v.tokens ++ .comma :: entriesTokens (w :: rest)

end

/-- A text of a tree. -/
structure Spells (o : Outline) (s : List Symbol) : Prop where
  complete : o.Complete
  lexed : Token.Lexed s o.tokens

def entryTokens (entry : Except ReadError Text × Outline) : List Token :=
  .string entry.1 :: .colon :: entry.2.tokens

theorem itemsTokens_concat (items : List Outline) (v : Outline) :
    itemsTokens (items ++ [v]) = items.flatMap (fun w ↦ w.tokens ++ [.comma]) ++ v.tokens := by
  induction items with
  | nil => rfl
  | cons w items ih =>
    rw [List.flatMap_cons, List.append_assoc, ← ih]
    cases items <;> simp [itemsTokens]

theorem entriesTokens_concat (entries : List (Except ReadError Text × Outline))
    (entry : Except ReadError Text × Outline) :
    entriesTokens (entries ++ [entry]) =
      entries.flatMap (fun e ↦ entryTokens e ++ [.comma]) ++ entryTokens entry := by
  induction entries with
  | nil => rfl
  | cons e entries ih =>
    rw [List.flatMap_cons, List.append_assoc, ← ih]
    cases entries <;> simp [entriesTokens, entryTokens]

/-! ## Steps of the stack machine -/

/-- A value may come next. -/
inductive Expect.TakesValue : Expect → Prop
  | value : TakesValue .value
  | firstItem : TakesValue .firstItem
  | nextItem : TakesValue .nextItem

/-- A key may come next. -/
inductive Expect.TakesKey : Expect → Prop
  | firstKey : TakesKey .firstKey
  | nextKey : TakesKey .nextKey

/-- A value of one token. -/
inductive IsLeaf : Token → Outline → Prop
  | null : IsLeaf .null .null
  | bool (b : Bool) : IsLeaf (.bool b) (.bool b)
  | number (n : Except ReadError Number) : IsLeaf (.number n) (.number n)
  | string (t : Except ReadError Text) : IsLeaf (.string t) (.string t)

/-- One token is taken and the text goes on. -/
inductive Advances : Expect → List Frame → Token → Expect → List Frame → Prop
  | leaf {e : Expect} {token : Token} {v : Outline} (he : e.TakesValue) (hv : IsLeaf token v)
      (frames : List Frame) : Advances e frames token (.after v) frames
  | openArray {e : Expect} (he : e.TakesValue) (frames : List Frame) :
      Advances e frames .openArray .firstItem (.array [] :: frames)
  | openObject {e : Expect} (he : e.TakesValue) (frames : List Frame) :
      Advances e frames .openObject .firstKey (.object [] :: frames)
  | key {e : Expect} (he : e.TakesKey) (key : Except ReadError Text)
      (done : List (Except ReadError Text × Outline)) (frames : List Frame) :
      Advances e (.object done :: frames) (.string key) .colon (.entry done key :: frames)
  | colon (frames : List Frame) : Advances .colon frames .colon .value frames
  | nextItem (v : Outline) (done : List Outline) (frames : List Frame) :
      Advances (.after v) (.array done :: frames) .comma .nextItem (.array (v :: done) :: frames)
  | nextKey (v : Outline) (key : Except ReadError Text)
      (done : List (Except ReadError Text × Outline)) (frames : List Frame) :
      Advances (.after v) (.entry done key :: frames) .comma .nextKey
        (.object ((key, v) :: done) :: frames)
  | emptyArray (frames : List Frame) :
      Advances .firstItem (.array [] :: frames) .closeArray (.after (.array [] .closed)) frames
  | closeArray (v : Outline) (done : List Outline) (frames : List Frame) :
      Advances (.after v) (.array done :: frames) .closeArray
        (.after (.array (v :: done).reverse .closed)) frames
  | emptyObject (frames : List Frame) :
      Advances .firstKey (.object [] :: frames) .closeObject (.after (.object [] .closed)) frames
  | closeObject (v : Outline) (key : Except ReadError Text)
      (done : List (Except ReadError Text × Outline)) (frames : List Frame) :
      Advances (.after v) (.entry done key :: frames) .closeObject
        (.after (.object ((key, v) :: done).reverse .closed)) frames

variable {e e' : Expect} {frames frames' : List Frame} {token : Token}

theorem build_of_advances (h : Advances e frames token e' frames') (tokens : List Token) :
    build e frames (token :: tokens) = build e' frames' tokens := by
  cases h with
  | leaf he hv => cases he <;> cases hv <;> rfl
  | openArray he | openObject he | key he => cases he <;> rfl
  | _ => rfl

/-! ### Texts that break off -/

theorem not_complete_frame (frame : Frame) (v : Outline) {ending : Ending} (h : ending ≠ .closed) :
    ¬ (frame.complete v ending).Complete := by
  cases frame <;> exact fun hcomplete ↦ h hcomplete.2

theorem not_complete_abandon (frames : List Frame) {v : Outline} (hv : ¬ v.Complete) :
    ¬ (abandon frames v).Complete := by
  induction frames generalizing v with
  | nil => exact hv
  | cons frame frames ih => exact ih (not_complete_frame frame v (by decide))

theorem not_complete_stopInside (frames : List Frame) {ending : Ending} (h : ending ≠ .closed) :
    ¬ (stopInside frames ending).Complete := by
  cases frames with
  | nil => exact id
  | cons frame frames =>
    refine not_complete_abandon frames ?_
    cases frame <;> exact fun hcomplete ↦ h hcomplete.2

/-- The container that has just been opened is on top of the stack. -/
def Fits : Expect → List Frame → Prop
  | .firstItem, frames => ∃ below, frames = .array [] :: below
  | .firstKey, frames => ∃ below, frames = .object [] :: below
  | .colon, frames => ∃ done key below, frames = .entry done key :: below
  | _, _ => True

section Inversion

variable {tokens : List Token}

theorem advances_of_takesValue (he : e.TakesValue) (hclose : token ≠ .closeArray)
    (h : (build e frames (token :: tokens)).1.Complete) :
    ∃ e' frames', Advances e frames token e' frames' := by
  have hbroken (typed skipped : ReadError) : ¬ (abandon frames (.absent typed skipped)).Complete :=
    not_complete_abandon frames id
  cases token with
  | null => exact ⟨_, _, .leaf he .null frames⟩
  | bool b => exact ⟨_, _, .leaf he (.bool b) frames⟩
  | number n => exact ⟨_, _, .leaf he (.number n) frames⟩
  | string t => exact ⟨_, _, .leaf he (.string t) frames⟩
  | openArray => exact ⟨_, _, .openArray he frames⟩
  | openObject => exact ⟨_, _, .openObject he frames⟩
  | closeArray => exact absurd rfl hclose
  | closeObject | comma | colon | brokenString | brokenScalar | other =>
    cases he <;> exact absurd h (hbroken _ _)

theorem advances_of_takesKey (he : e.TakesKey) (hclose : token ≠ .closeObject)
    (h : (build e frames (token :: tokens)).1.Complete) :
    ∃ e' frames', Advances e frames token e' frames' := by
  have hkeyless : ¬ (stopInside frames .keyless).Complete :=
    not_complete_stopInside frames (by decide)
  cases token with
  | string key =>
    rcases frames with _ | ⟨frame | done | ⟨done, last⟩, frames⟩
    case cons.object => exact ⟨_, _, .key he key done frames⟩
    all_goals cases he <;> exact absurd h hkeyless
  | brokenString typed skipped =>
    -- With an object on top the entry of the broken key is abandoned, and else the text breaks off
    -- here.
    have hbroken (frames : List Frame) : ¬ (abandon frames (.absent typed skipped)).Complete :=
      not_complete_abandon frames id
    rcases frames with _ | ⟨frame | done | ⟨done, last⟩, frames⟩
    case cons.object => cases he <;> exact absurd h (hbroken (.entry done (.error typed) :: frames))
    all_goals cases he <;> exact absurd h hkeyless
  | closeObject => exact absurd rfl hclose
  | openArray | closeArray | openObject | comma | colon | null | bool | number | brokenScalar
  | other =>
    cases he <;> exact absurd h hkeyless

theorem advances_after {v : Outline} {frame : Frame}
    (h : (build (.after v) (frame :: frames) (token :: tokens)).1.Complete) :
    ∃ e' frames', Advances (.after v) (frame :: frames) token e' frames' := by
  have hjunk : ¬ (abandon frames (frame.complete v .junk)).Complete :=
    not_complete_abandon frames (not_complete_frame frame v (by decide))
  cases frame with
  | array done =>
    cases token with
    | comma => exact ⟨_, _, .nextItem v done frames⟩
    | closeArray => exact ⟨_, _, .closeArray v done frames⟩
    | _ => exact absurd h hjunk
  | entry done key =>
    cases token with
    | comma => exact ⟨_, _, .nextKey v key done frames⟩
    | closeObject => exact ⟨_, _, .closeObject v key done frames⟩
    | _ => exact absurd h hjunk
  | object done => cases token <;> exact absurd h hjunk

/-- **Inversion of a step.** If the outline comes out complete, the value has been read already or
the token is taken. -/
theorem advances_of_complete (hfits : Fits e frames)
    (h : (build e frames (token :: tokens)).1.Complete) :
    (∃ v, e = .after v ∧ frames = []) ∨ ∃ e' frames', Advances e frames token e' frames' := by
  cases e with
  | value =>
    by_cases hclose : token = .closeArray
    · subst hclose
      exact absurd h (not_complete_abandon frames id)
    · exact .inr (advances_of_takesValue .value hclose h)
  | firstItem =>
    by_cases hclose : token = .closeArray
    · obtain ⟨below, rfl⟩ := hfits
      subst hclose
      exact .inr ⟨_, _, .emptyArray below⟩
    · exact .inr (advances_of_takesValue .firstItem hclose h)
  | nextItem =>
    by_cases hclose : token = .closeArray
    · subst hclose
      exact absurd h (not_complete_stopInside frames (by decide))
    · exact .inr (advances_of_takesValue .nextItem hclose h)
  | firstKey =>
    by_cases hclose : token = .closeObject
    · obtain ⟨below, rfl⟩ := hfits
      subst hclose
      exact .inr ⟨_, _, .emptyObject below⟩
    · exact .inr (advances_of_takesKey .firstKey hclose h)
  | nextKey =>
    by_cases hclose : token = .closeObject
    · subst hclose
      exact absurd h (not_complete_stopInside frames (by decide))
    · exact .inr (advances_of_takesKey .nextKey hclose h)
  | colon =>
    cases token with
    | colon => exact .inr ⟨_, _, .colon frames⟩
    | _ => exact absurd h (not_complete_abandon frames id)
  | after v =>
    cases frames with
    | nil => exact .inl ⟨v, rfl, rfl⟩
    | cons frame frames => exact .inr (advances_after h)

theorem after_of_complete (h : (build e frames []).1.Complete) :
    ∃ v, e = .after v ∧ frames = [] := by
  cases e with
  | value | colon => exact absurd h (not_complete_abandon frames id)
  | firstItem | nextItem | firstKey | nextKey =>
    exact absurd h (not_complete_stopInside frames (by decide))
  | after v =>
    cases frames with
    | nil => exact ⟨v, rfl, rfl⟩
    | cons frame frames =>
      exact absurd h (not_complete_abandon frames (not_complete_frame frame v (by decide)))

end Inversion

/-! ## The tokens taken so far -/

/-- The tokens of a container that is still open. -/
def Frame.taken : Frame → List Token
  | .array done => .openArray :: done.reverse.flatMap fun v ↦ v.tokens ++ [.comma]
  | .object done => .openObject :: done.reverse.flatMap fun entry ↦ entryTokens entry ++ [.comma]
  | .entry done key =>
    .openObject :: done.reverse.flatMap (fun entry ↦ entryTokens entry ++ [.comma]) ++
      [.string key, .colon]

/-- The tokens of all open containers, of which the first is the innermost. -/
def framesTaken : List Frame → List Token
  | [] => []
  | frame :: frames => framesTaken frames ++ frame.taken

/-- The tokens taken so far. A key is on the stack before its colon is. -/
def taken : Expect → List Frame → List Token
  | .after v, frames => framesTaken frames ++ v.tokens
  | .colon, frames => (framesTaken frames).dropLast
  | _, frames => framesTaken frames

theorem fits_of_advances (h : Advances e frames token e' frames') : Fits e' frames' := by
  cases h with
  | openArray | openObject => exact ⟨_, rfl⟩
  | key => exact ⟨_, _, _, rfl⟩
  | _ => trivial

theorem taken_colon (done : List (Except ReadError Text × Outline)) (key : Except ReadError Text)
    (frames : List Frame) :
    taken .colon (.entry done key :: frames) =
      framesTaken (.object done :: frames) ++ [.string key] := by
  have hdrop (before : List Token) : (before ++ [Token.string key, .colon]).dropLast =
      before ++ [.string key] := by
    simp [List.dropLast_append_of_ne_nil]
  simp only [taken, framesTaken, Frame.taken, ← List.append_assoc, hdrop]

theorem taken_of_advances (hfits : Fits e frames) (h : Advances e frames token e' frames') :
    taken e' frames' = taken e frames ++ [token] := by
  cases h with
  | leaf he hv => cases he <;> cases hv <;> rfl
  | openArray he | openObject he => cases he <;> rfl
  | key he key done frames =>
    rw [taken_colon]
    cases he <;> rfl
  | colon =>
    obtain ⟨done, key, below, rfl⟩ := hfits
    rw [taken_colon]
    simp [taken, framesTaken, Frame.taken]
  | nextItem v done => simp [taken, framesTaken, Frame.taken]
  | nextKey v key done => simp [taken, framesTaken, Frame.taken, entryTokens]
  | emptyArray | emptyObject =>
    simp [taken, framesTaken, Frame.taken, tokens, itemsTokens, entriesTokens]
  | closeArray v done =>
    simp [taken, framesTaken, Frame.taken, tokens, itemsTokens_concat]
  | closeObject v key done =>
    simp [taken, framesTaken, Frame.taken, tokens, entriesTokens_concat, entryTokens]

/-- **What is read is spelled.** The tokens of a complete outline are those from which it was
built. -/
theorem tokens_of_build {tokens rest : List Token} {o : Outline} (hfits : Fits e frames)
    (h : build e frames tokens = (o, rest)) (hcomplete : o.Complete) :
    o.tokens ++ rest = taken e frames ++ tokens := by
  -- A step moves one token from the text to the stack, so both together stay what they are.
  induction tokens generalizing e frames with
  | nil =>
    obtain ⟨v, rfl, rfl⟩ := after_of_complete (by rw [h]; exact hcomplete)
    obtain ⟨rfl, rfl⟩ := Prod.mk.inj h
    rfl
  | cons token tokens ih =>
    rcases advances_of_complete hfits (by rw [h]; exact hcomplete) with
      ⟨v, rfl, rfl⟩ | ⟨e', frames', hadvances⟩
    · obtain ⟨rfl, rfl⟩ := Prod.mk.inj h
      rfl
    · rw [build_of_advances hadvances] at h
      rw [ih (fits_of_advances hadvances) h, taken_of_advances hfits hadvances, List.append_assoc]
      rfl

/-! ## A complete tree is built from its tokens -/

/-- Induction over an outline: the items of an array and the values of an object come before it. -/
@[elab_as_elim]
theorem induct {motive : Outline → Prop} (null : motive .null) (bool : ∀ b, motive (.bool b))
    (number : ∀ n, motive (.number n)) (string : ∀ t, motive (.string t))
    (array : ∀ items ending, (∀ v ∈ items, motive v) → motive (.array items ending))
    (object : ∀ entries ending, (∀ entry ∈ entries, motive entry.2) →
      motive (.object entries ending))
    (absent : ∀ typed skipped, motive (.absent typed skipped)) (o : Outline) : motive o :=
  @Outline.rec motive (fun items ↦ ∀ v ∈ items, motive v)
    (fun entries ↦ ∀ entry ∈ entries, motive entry.2) (fun entry ↦ motive entry.2)
    null bool number string array object absent
    (fun _ h ↦ absurd h List.not_mem_nil)
    (fun _ _ hv hrest _ h ↦ (List.mem_cons.1 h).elim (fun e ↦ e ▸ hv) (hrest _))
    (fun _ h ↦ absurd h List.not_mem_nil)
    (fun _ _ hv hrest _ h ↦ (List.mem_cons.1 h).elim (fun e ↦ e ▸ hv) (hrest _))
    (fun _ _ hv ↦ hv) o

/-- The tokens of the tree push it, whatever is open and whatever follows. -/
def Reads (o : Outline) : Prop :=
  ∀ {e : Expect}, e.TakesValue → ∀ (frames : List Frame) (rest : List Token),
    build e frames (o.tokens ++ rest) = build (.after o) frames rest

theorem build_items {items : List Outline} {v : Outline} (hitems : ∀ w ∈ v :: items, Reads w)
    {e : Expect} (he : e.TakesValue) (done : List Outline) (frames : List Frame)
    (rest : List Token) :
    build e (.array done :: frames) (itemsTokens (v :: items) ++ .closeArray :: rest) =
      build (.after (.array (done.reverse ++ v :: items) .closed)) frames rest := by
  have hv : Reads v := hitems v List.mem_cons_self
  induction items generalizing v e done with
  | nil =>
    rw [itemsTokens, hv he, build_of_advances (.closeArray v done frames), List.reverse_cons]
  | cons w items ih =>
    have htail : ∀ u ∈ w :: items, Reads u := fun u hu ↦ hitems u (List.mem_cons_of_mem v hu)
    rw [itemsTokens, List.append_assoc, hv he, List.cons_append,
      build_of_advances (.nextItem v done frames),
      ih htail .nextItem (v :: done) (htail w List.mem_cons_self), List.reverse_cons,
      List.append_assoc]
    rfl

theorem build_entry {entry : Except ReadError Text × Outline} (hv : Reads entry.2) {e : Expect}
    (he : e.TakesKey) (done : List (Except ReadError Text × Outline)) (frames : List Frame)
    (rest : List Token) :
    build e (.object done :: frames) (entryTokens entry ++ rest) =
      build (.after entry.2) (.entry done entry.1 :: frames) rest := by
  rw [entryTokens, List.cons_append, List.cons_append,
    build_of_advances (.key he entry.1 done frames), build_of_advances (.colon _), hv .value]

theorem build_entries {entries : List (Except ReadError Text × Outline)}
    {entry : Except ReadError Text × Outline} (hentries : ∀ w ∈ entry :: entries, Reads w.2)
    {e : Expect} (he : e.TakesKey) (done : List (Except ReadError Text × Outline))
    (frames : List Frame) (rest : List Token) :
    build e (.object done :: frames) (entriesTokens (entry :: entries) ++ .closeObject :: rest) =
      build (.after (.object (done.reverse ++ entry :: entries) .closed)) frames rest := by
  have hv : Reads entry.2 := hentries entry List.mem_cons_self
  induction entries generalizing entry e done with
  | nil =>
    have hentry : entriesTokens [entry] = entryTokens entry := rfl
    rw [hentry, build_entry hv he, build_of_advances (.closeObject _ _ _ _), List.reverse_cons]
  | cons w entries ih =>
    have htail : ∀ u ∈ w :: entries, Reads u.2 :=
      fun u hu ↦ hentries u (List.mem_cons_of_mem entry hu)
    have hentry : entriesTokens (entry :: w :: entries) =
      entryTokens entry ++ .comma :: entriesTokens (w :: entries) := rfl
    rw [hentry, List.append_assoc, build_entry hv he, List.cons_append,
      build_of_advances (.nextKey _ _ _ _), ih htail .nextKey _ (htail w List.mem_cons_self),
      List.reverse_cons, List.append_assoc]
    rfl

theorem reads {o : Outline} (ho : o.Complete) : Reads o := by
  induction o using induct with
  | null => exact fun he frames ↦ build_of_advances (.leaf he .null frames)
  | bool b => exact fun he frames ↦ build_of_advances (.leaf he (.bool b) frames)
  | number n => exact fun he frames ↦ build_of_advances (.leaf he (.number n) frames)
  | string t => exact fun he frames ↦ build_of_advances (.leaf he (.string t) frames)
  | array items ending ih =>
    obtain ⟨hitems, rfl⟩ := ho
    rw [allComplete_iff] at hitems
    intro e he frames rest
    rw [tokens, List.cons_append, List.cons_append, List.append_assoc,
      build_of_advances (.openArray he frames)]
    cases items with
    | nil => exact build_of_advances (.emptyArray frames) rest
    | cons v items => exact build_items (fun w hw ↦ ih w hw (hitems w hw)) .firstItem [] frames rest
  | object entries ending ih =>
    obtain ⟨hentries, rfl⟩ := ho
    rw [entriesComplete_iff] at hentries
    intro e he frames rest
    rw [tokens, List.cons_append, List.cons_append, List.append_assoc,
      build_of_advances (.openObject he frames)]
    cases entries with
    | nil => exact build_of_advances (.emptyObject frames) rest
    | cons entry entries =>
      exact build_entries (fun w hw ↦ ih w hw (hentries w hw)) .firstKey [] frames rest
  | absent => exact ho.elim

/-! ## The tree of a text -/

theorem isWhole_of_mem_itemsTokens {items : List Outline}
    (h : ∀ v ∈ items, ∀ token ∈ v.tokens, token.IsWhole) :
    ∀ token ∈ itemsTokens items, token.IsWhole := by
  induction items with
  | nil => exact fun _ h ↦ absurd h List.not_mem_nil
  | cons v items ih =>
    obtain ⟨hv, hitems⟩ := List.forall_mem_cons.mp h
    cases items with
    | nil => exact hv
    | cons w items =>
      rw [itemsTokens, List.forall_mem_append, List.forall_mem_cons]
      exact ⟨hv, trivial, ih hitems⟩

theorem isWhole_of_mem_entriesTokens {entries : List (Except ReadError Text × Outline)}
    (h : ∀ entry ∈ entries, ∀ token ∈ entry.2.tokens, token.IsWhole) :
    ∀ token ∈ entriesTokens entries, token.IsWhole := by
  induction entries with
  | nil => exact fun _ h ↦ absurd h List.not_mem_nil
  | cons entry entries ih =>
    obtain ⟨hv, hentries⟩ := List.forall_mem_cons.mp h
    have hentry : ∀ token ∈ entryTokens entry, token.IsWhole :=
      List.forall_mem_cons.mpr ⟨trivial, List.forall_mem_cons.mpr ⟨trivial, hv⟩⟩
    cases entries with
    | nil => exact hentry
    | cons w entries =>
      exact List.forall_mem_append.mpr ⟨hentry, List.forall_mem_cons.mpr ⟨trivial, ih hentries⟩⟩

theorem isWhole_of_mem_tokens (o : Outline) : ∀ token ∈ o.tokens, token.IsWhole := by
  induction o using induct with
  | null | bool b | number n | string t =>
    rw [tokens, List.forall_mem_singleton]
    trivial
  | array items ending ih =>
    rw [tokens, List.forall_mem_append, List.forall_mem_cons, List.forall_mem_singleton]
    exact ⟨⟨trivial, isWhole_of_mem_itemsTokens ih⟩, trivial⟩
  | object entries ending ih =>
    rw [tokens, List.forall_mem_append, List.forall_mem_cons, List.forall_mem_singleton]
    exact ⟨⟨trivial, isWhole_of_mem_entriesTokens ih⟩, trivial⟩
  | absent => exact fun _ h ↦ absurd h List.not_mem_nil

/-- **The reader reads the grammar.** A text spells a tree exactly if the tree is what the reader
finds in it, with nothing missing and nothing behind it. -/
theorem spells_iff {o : Outline} {s : List Symbol} :
    o.Spells s ↔ o.Complete ∧ ofTokens (Token.scan s) = (o, []) := by
  constructor
  · rintro ⟨hcomplete, hlexed⟩
    obtain ⟨hscan, -⟩ := Token.lexed_iff.mp hlexed
    have hbuild := reads hcomplete .value [] []
    rw [List.append_nil] at hbuild
    exact ⟨hcomplete, by rw [ofTokens, hscan, hbuild]; rfl⟩
  · rintro ⟨hcomplete, hbuild⟩
    have htokens := tokens_of_build (e := .value) trivial hbuild hcomplete
    rw [List.append_nil] at htokens
    exact ⟨hcomplete, Token.lexed_iff.mpr ⟨htokens.symm, isWhole_of_mem_tokens o⟩⟩

/-- **A text spells one tree at most.** -/
theorem Spells.unique {o o' : Outline} {s : List Symbol} (h : o.Spells s) (h' : o'.Spells s) :
    o = o' :=
  congrArg Prod.fst ((spells_iff.mp h).2.symm.trans (spells_iff.mp h').2)

end SiteClient.Outline
