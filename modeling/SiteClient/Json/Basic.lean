import SiteClient.Json.Number
/-!
# JSON values

Objects are maps: at most one value for a key, keys in ascending order of code points. `Fields` is
the list that holds such a map and `Fields.insert` the only way in which the library extends it, so
every value that is read or built satisfies `Json.Canonical`.
-/

namespace SiteClient

/-- A JSON value. -/
inductive Json where
  | null
  | bool (b : Bool)
  | number (n : Number)
  | string (t : Text)
  | array (items : List Json)
  | object (fields : List (Text × Json))

instance : Inhabited Json := ⟨.null⟩

/-- The fields of an object, by ascending key. -/
abbrev Fields := List (Text × Json)

namespace Fields

/-- The value of the field `key`. -/
def get? (fields : Fields) (key : Text) : Option Json :=
  (fields.find? fun field ↦ field.1 = key).map Prod.snd

/-- Gives the field `key` the value `v`, in its place in the order of keys. -/
def insert (fields : Fields) (key : Text) (v : Json) : Fields :=
  match fields with
  | [] => [(key, v)]
  | (k, w) :: rest =>
    if key < k then (key, v) :: (k, w) :: rest
    else if key = k then (key, v) :: rest
    else (k, w) :: insert rest key v

/-- The map that holds for each key the last value listed for it. -/
def ofList (entries : List (Text × Json)) : Fields :=
  entries.foldl (fun fields entry ↦ fields.insert entry.1 entry.2) []

theorem get?_insert_self (fields : Fields) (key : Text) (v : Json) :
    (fields.insert key v).get? key = some v := by
  induction fields with
  | nil => simp [insert, get?]
  | cons field rest ih =>
    obtain ⟨k, w⟩ := field
    rw [insert]
    split
    · simp [get?]
    · split
      · simp [get?]
      · rename_i hk
        rw [get?, List.find?_cons_of_neg (by simpa using fun h ↦ hk h.symm)]
        exact ih

theorem get?_insert_of_ne (fields : Fields) {key other : Text} (v : Json) (h : other ≠ key) :
    (fields.insert key v).get? other = fields.get? other := by
  induction fields with
  | nil => simp [insert, get?, h.symm]
  | cons field rest ih =>
    obtain ⟨k, w⟩ := field
    rw [insert]
    split
    · simp [get?, h.symm]
    · split
      · rename_i hk
        subst hk
        simp [get?, h.symm]
      · simp only [get?, List.find?_cons]
        split
        · rfl
        · exact ih

end Fields

namespace Json

def emptyObject : Json := .object []

def ofFields (entries : List (Text × Json)) : Json :=
  .object (Fields.ofList entries)

def field? (v : Json) (key : Text) : Option Json :=
  match v with
  | .object fields => Fields.get? fields key
  | _ => none

def asText? : Json → Option Text
  | .string t => some t
  | _ => none

/-! ## Canonical values -/

mutual

/-- Keys ascend in every object of the value. -/
def Canonical : Json → Prop
  | .array items => AllCanonical items
  | .object fields => (fields.map Prod.fst).Pairwise (· < ·) ∧ FieldsCanonical fields
  | _ => True

def AllCanonical : List Json → Prop
  | [] => True
  | v :: rest => v.Canonical ∧ AllCanonical rest

def FieldsCanonical : List (Text × Json) → Prop
  | [] => True
  | (_, v) :: rest => v.Canonical ∧ FieldsCanonical rest

end

/-! ## Equality -/

mutual

private def decide : (v w : Json) → Decidable (v = w)
  | .null, w => match w with
    | .null => isTrue rfl
    | .bool _ | .number _ | .string _ | .array _ | .object _ => isFalse nofun
  | .bool a, w => match w with
    | .bool b => decidable_of_iff (a = b) (by simp)
    | .null | .number _ | .string _ | .array _ | .object _ => isFalse nofun
  | .number a, w => match w with
    | .number b => decidable_of_iff (a = b) (by simp)
    | .null | .bool _ | .string _ | .array _ | .object _ => isFalse nofun
  | .string a, w => match w with
    | .string b => decidable_of_iff (a = b) (by simp)
    | .null | .bool _ | .number _ | .array _ | .object _ => isFalse nofun
  | .array a, w => match w with
    | .array b => @decidable_of_iff _ (a = b) (by simp) (decideList a b)
    | .null | .bool _ | .number _ | .string _ | .object _ => isFalse nofun
  | .object a, w => match w with
    | .object b => @decidable_of_iff _ (a = b) (by simp) (decideFields a b)
    | .null | .bool _ | .number _ | .string _ | .array _ => isFalse nofun

private def decideList : (a b : List Json) → Decidable (a = b)
  | [], [] => isTrue rfl
  | [], _ :: _ | _ :: _, [] => isFalse nofun
  | v :: a, w :: b =>
    match decide v w, decideList a b with
    | isTrue h, isTrue k => isTrue (by rw [h, k])
    | isFalse h, _ => isFalse fun e ↦ h (List.cons.inj e).1
    | _, isFalse k => isFalse fun e ↦ k (List.cons.inj e).2

private def decideFields : (a b : List (Text × Json)) → Decidable (a = b)
  | [], [] => isTrue rfl
  | [], _ :: _ | _ :: _, [] => isFalse nofun
  | (k, v) :: a, (l, w) :: b =>
    match instDecidableEqList k l, decide v w, decideFields a b with
    | isTrue h, isTrue i, isTrue j => isTrue (by rw [h, i, j])
    | isFalse h, _, _ => isFalse fun e ↦ h (Prod.mk.inj (List.cons.inj e).1).1
    | _, isFalse h, _ => isFalse fun e ↦ h (Prod.mk.inj (List.cons.inj e).1).2
    | _, _, isFalse h => isFalse fun e ↦ h (List.cons.inj e).2

end

instance : DecidableEq Json := decide

end Json
end SiteClient
