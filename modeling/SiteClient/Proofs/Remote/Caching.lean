import Mathlib.Data.List.Induction
import Mathlib.Data.List.Nodup
import Mathlib.Logic.Basic
import Mathlib.Order.Defs.Unbundled
import SiteClient.Text.Basic
/-!
# Caches that only grow

Both caches of the library, of template sources and of localized strings, are lists of entries that
are searched from the front, and store an entry only if there is none for its key. So a cache only
ever turns into one that extends it, and what was found once is found again.

Both are filled in one way, too: of the keys that are wanted, those that the cache lacks are asked
for together, each once (`lacking`).
-/

namespace SiteClient

variable {κ : Type} [BEq κ]

/-- What one cache has for a key, a later one has too. -/
def Extends (cache later : List (κ × Text)) : Prop :=
  ∀ ⦃key : κ⦄ ⦃text : Text⦄, cache.lookup key = some text → later.lookup key = some text

instance : IsPreorder (List (κ × Text)) Extends where
  refl _ _ _ h := h
  trans _ _ _ h h' _ _ hkey := h' (h hkey)

theorem Extends.isSome {cache later : List (κ × Text)} (h : Extends cache later) {key : κ}
    (hkey : (cache.lookup key).isSome) : (later.lookup key).isSome := by
  obtain ⟨text, htext⟩ := Option.isSome_iff_exists.1 hkey
  exact Option.isSome_iff_exists.2 ⟨text, h htext⟩

theorem Extends.map {cache later : List (κ × Text)} (h : Extends cache later) {keys : List κ}
    {texts : List Text} (hkeys : keys.map (List.lookup · cache) = texts.map some) :
    keys.map (List.lookup · later) = texts.map some := by
  induction keys generalizing texts with
  | nil => exact hkeys
  | cons key keys ih =>
    obtain ⟨text, texts, rfl⟩ : ∃ text rest, texts = text :: rest :=
      List.exists_cons_of_ne_nil (by rintro rfl; simp at hkeys)
    simp only [List.map_cons, List.cons.injEq] at hkeys ⊢
    exact ⟨h hkeys.1, ih hkeys.2⟩

/-- Stores an entry, unless there is one for its key. -/
def insertNew (cache : List (κ × Text)) (key : κ) (text : Text) : List (κ × Text) :=
  if (cache.lookup key).isSome then cache else cache ++ [(key, text)]

/-- Stores entries one after the other, each unless there is one for its key. -/
def insertAll (cache entries : List (κ × Text)) : List (κ × Text) :=
  entries.foldl (fun cache entry ↦ insertNew cache entry.1 entry.2) cache

/-- The keys that a cache lacks, each once, in the order in which they first occur. -/
def lacking (cache : List (κ × Text)) (keys : List κ) : List κ :=
  (keys.filter fun key ↦ (cache.lookup key).isNone).eraseDups

theorem extends_append (cache entries : List (κ × Text)) : Extends cache (cache ++ entries) := by
  intro key text h
  rw [List.lookup_append, h, Option.some_or]

theorem lookup_append_singleton (cache : List (κ × Text)) (key other : κ) (text : Text) :
    (cache ++ [(key, text)]).lookup other =
      (cache.lookup other).or (if other == key then some text else none) := by
  rw [List.lookup_append, List.lookup_cons, List.lookup_nil]
  cases other == key <;> rfl

variable [LawfulBEq κ]

theorem lookup_insertNew_self (cache : List (κ × Text)) (key : κ) (text : Text) :
    (insertNew cache key text).lookup key = some ((cache.lookup key).getD text) := by
  unfold insertNew
  cases h : cache.lookup key with
  | none => simp [lookup_append_singleton, h]
  | some t => simp [h]

theorem lookup_insertNew_of_ne (cache : List (κ × Text)) {key other : κ} (text : Text)
    (h : other ≠ key) : (insertNew cache key text).lookup other = cache.lookup other := by
  unfold insertNew
  split
  · rfl
  · simp [lookup_append_singleton, h]

theorem extends_insertNew (cache : List (κ × Text)) (key : κ) (text : Text) :
    Extends cache (insertNew cache key text) := by
  intro other t ht
  obtain rfl | hne := eq_or_ne other key
  · rw [lookup_insertNew_self, ht, Option.getD_some]
  · rw [lookup_insertNew_of_ne cache text hne, ht]

/-! ## What is to be fetched -/

variable {cache : List (κ × Text)} {keys : List κ} {key : κ}

theorem eraseDups_concat (keys : List κ) (key : κ) :
    (keys ++ [key]).eraseDups = if key ∈ keys then keys.eraseDups else keys.eraseDups ++ [key] := by
  rw [List.eraseDups_append, List.removeAll, List.filter_singleton]
  by_cases h : key ∈ keys
  · rw [if_pos h, List.elem_eq_true_of_mem h]
    exact List.append_nil _
  · have helem : keys.elem key = false := by simpa using h
    rw [if_neg h, helem]
    rfl

theorem nodup_eraseDups (keys : List κ) : keys.eraseDups.Nodup := by
  induction keys using List.reverseRecOn with
  | nil => exact List.nodup_nil
  | append_singleton keys key ih =>
    rw [eraseDups_concat]
    split
    · exact ih
    · rename_i h
      rw [← List.concat_eq_append]
      exact ih.concat (mt List.mem_eraseDups.mp h)

theorem nodup_lacking (cache : List (κ × Text)) (keys : List κ) : (lacking cache keys).Nodup :=
  nodup_eraseDups _

theorem mem_lacking : key ∈ lacking cache keys ↔ key ∈ keys ∧ cache.lookup key = none := by
  rw [lacking, List.mem_eraseDups, List.mem_filter, Option.isNone_iff_eq_none]

theorem isSome_or_mem_lacking (h : key ∈ keys) :
    (cache.lookup key).isSome ∨ key ∈ lacking cache keys := by
  cases hkey : cache.lookup key with
  | none => exact .inr (mem_lacking.mpr ⟨h, hkey⟩)
  | some text => exact .inl rfl

theorem lacking_eq_nil : lacking cache keys = [] ↔ ∀ key ∈ keys, (cache.lookup key).isSome := by
  rw [List.eq_nil_iff_forall_not_mem]
  refine forall_congr' fun key ↦ ?_
  rw [mem_lacking, not_and, Option.isSome_iff_ne_none]

theorem lacking_concat (cache : List (κ × Text)) (keys : List κ) (key : κ) :
    lacking cache (keys ++ [key]) =
      if (cache.lookup key).isSome ∨ key ∈ lacking cache keys then lacking cache keys
      else lacking cache keys ++ [key] := by
  cases hkey : cache.lookup key with
  | some text =>
    rw [if_pos (.inl rfl), lacking, List.filter_append, List.filter_singleton, hkey]
    exact congrArg List.eraseDups (List.append_nil _)
  | none =>
    have hmem : key ∈ lacking cache keys ↔ key ∈ keys.filter fun key ↦ (cache.lookup key).isNone :=
      List.mem_eraseDups
    rw [lacking, List.filter_append, List.filter_singleton, hkey]
    refine (eraseDups_concat _ key).trans (if_congr ?_ rfl rfl)
    rw [hmem]
    simp

/-! ## Storing what was fetched -/

theorem extends_insertAll (cache entries : List (κ × Text)) :
    Extends cache (insertAll cache entries) := by
  induction entries generalizing cache with
  | nil => exact refl_of Extends cache
  | cons entry entries ih => exact trans_of Extends (extends_insertNew cache entry.1 entry.2) (ih _)

theorem isSome_insertAll {entries : List (κ × Text)} (h : key ∈ entries.map Prod.fst) :
    ((insertAll cache entries).lookup key).isSome := by
  induction entries generalizing cache with
  | nil => exact absurd h List.not_mem_nil
  | cons entry entries ih =>
    obtain rfl | h := List.mem_cons.mp h
    · refine (extends_insertAll (insertNew cache entry.1 entry.2) entries).isSome ?_
      rw [lookup_insertNew_self]
      rfl
    · exact ih h

/-- An entry for one key leaves a cache without entries for others. -/
theorem absent_append_singleton (hkey : key ∉ keys)
    (habsent : ∀ other ∈ keys, cache.lookup other = none)
    (text : Text) : ∀ other ∈ keys, (cache ++ [(key, text)]).lookup other = none := by
  intro other hother
  have hne : other ≠ key := fun h ↦ hkey (h ▸ hother)
  rw [lookup_append_singleton, habsent other hother, beq_false_of_ne hne]
  rfl

theorem map_lookup_append_zip {texts : List Text} (hlength : keys.length = texts.length)
    (hnodup : keys.Nodup) (habsent : ∀ key ∈ keys, cache.lookup key = none) :
    keys.map (List.lookup · (cache ++ keys.zip texts)) = texts.map some := by
  induction keys generalizing cache texts with
  | nil =>
    obtain rfl := List.length_eq_zero_iff.mp hlength.symm
    rfl
  | cons key keys ih =>
    obtain ⟨text, texts, rfl⟩ := List.exists_cons_of_length_eq_add_one hlength.symm
    obtain ⟨hkey, hnodup⟩ := List.nodup_cons.mp hnodup
    obtain ⟨hnone, habsent⟩ := List.forall_mem_cons.mp habsent
    have hself : (cache ++ [(key, text)]).lookup key = some text := by
      rw [lookup_append_singleton, hnone, BEq.rfl]
      rfl
    have hothers := absent_append_singleton hkey habsent text
    rw [List.zip_cons_cons, ← List.singleton_append, ← List.append_assoc, List.map_cons,
      List.map_cons, extends_append _ _ hself, ih (Nat.succ.inj hlength) hnodup hothers]

theorem insertAll_zip {texts : List Text} (hnodup : keys.Nodup)
    (habsent : ∀ key ∈ keys, cache.lookup key = none) :
    insertAll cache (keys.zip texts) = cache ++ keys.zip texts := by
  induction keys generalizing cache texts with
  | nil => exact (List.append_nil cache).symm
  | cons key keys ih =>
    cases texts with
    | nil => exact (List.append_nil cache).symm
    | cons text texts =>
      obtain ⟨hkey, hnodup⟩ := List.nodup_cons.mp hnodup
      obtain ⟨hnone, habsent⟩ := List.forall_mem_cons.mp habsent
      have hnew : insertNew cache key text = cache ++ [(key, text)] := by
        rw [insertNew, hnone]
        rfl
      have hothers := absent_append_singleton hkey habsent text
      rw [List.zip_cons_cons, insertAll, List.foldl_cons, hnew, ← insertAll, ih hnodup hothers,
        List.append_assoc, List.singleton_append]

/-- Once what a cache lacked has been stored, whatever else was, nothing is lacking. -/
theorem isSome_insertAll_lacking {later : List (κ × Text)} {texts : List Text}
    (hlater : Extends cache later) (hlength : texts.length = (lacking cache keys).length) :
    ∀ key ∈ keys, ((insertAll later ((lacking cache keys).zip texts)).lookup key).isSome := by
  intro key hkey
  have hfound : (cache.lookup key).isSome ∨ key ∈ lacking cache keys := isSome_or_mem_lacking hkey
  obtain hcached | hlacking := hfound
  · exact (extends_insertAll later _).isSome (hlater.isSome hcached)
  · refine isSome_insertAll ?_
    rwa [List.map_fst_zip (Nat.le_of_eq hlength.symm)]

end SiteClient
