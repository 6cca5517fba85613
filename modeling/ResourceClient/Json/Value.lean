import ResourceClient.Binary64

/-! # JSON values

    A value is what a request body or a reply carries.  Integers and
    floating point numbers are kept apart: `1` and `1.0` are different
    values.  The members of an object are an association list that is sorted
    by key and holds each key once; `Fields` is such a list with its proof,
    and every object that the library builds or reads comes from one. -/

namespace ResourceClient

/-- A JSON value. -/
inductive Json where
  /-- The empty value. -/
  | null
  /-- A truth value. -/
  | bool (b : Bool)
  /-- An integer; a text holds those between `-2 ^ 63` and `2 ^ 64 - 1`. -/
  | int (n : Int)
  /-- A number with a fraction or an exponent. -/
  | float (x : Binary64)
  /-- A text. -/
  | string (s : String)
  /-- A list of values. -/
  | array (items : List Json)
  /-- The members of an object, sorted by key. -/
  | object (entries : List (String × Json))
  deriving Inhabited, Repr

namespace Json

mutual

/-- Whether two values are equal, where the two floating point zeros are one number. -/
def same : Json → Json → Bool
  | null, null => true
  | bool a, bool b => a == b
  | int a, int b => a == b
  | float a, float b => a.same b
  | string a, string b => a == b
  | array as, array bs => sameItems as bs
  | object as, object bs => sameEntries as bs
  | _, _ => false

/-- Whether two lists of values are equal, place by place. -/
def sameItems : List Json → List Json → Bool
  | [], [] => true
  | a :: as, b :: bs => same a b && sameItems as bs
  | _, _ => false

/-- Whether two lists of members are equal, place by place. -/
def sameEntries : List (String × Json) → List (String × Json) → Bool
  | [], [] => true
  | (k, a) :: as, (l, b) :: bs => k == l && same a b && sameEntries as bs
  | _, _ => false

end

mutual

theorem same_refl : (v : Json) → same v v = true
  | null | bool _ | int _ | string _ => by simp [same]
  | float x => by simp [same, Binary64.same_refl]
  | array items => by simp [same, sameItems_refl items]
  | object entries => by simp [same, sameEntries_refl entries]

theorem sameItems_refl : (vs : List Json) → sameItems vs vs = true
  | [] => by simp [sameItems]
  | v :: vs => by simp [sameItems, same_refl v, sameItems_refl vs]

theorem sameEntries_refl : (es : List (String × Json)) → sameEntries es es = true
  | [] => by simp [sameEntries]
  | (k, v) :: es => by simp [sameEntries, same_refl v, sameEntries_refl es]

end

mutual

theorem same_comm : (u v : Json) → same u v = same v u
  | null, v | bool _, v | int _, v | string _, v => by cases v <;> simp [same, Bool.beq_comm]
  | float x, v => by cases v <;> simp [same, Binary64.same_comm]
  | array us, v => by
    cases v with
    | array vs => simp only [same]; exact sameItems_comm us vs
    | _ => simp [same]
  | object es, v => by
    cases v with
    | object fs => simp only [same]; exact sameEntries_comm es fs
    | _ => simp [same]

theorem sameItems_comm : (us vs : List Json) → sameItems us vs = sameItems vs us
  | [], [] | [], _ :: _ | _ :: _, [] => by simp [sameItems]
  | u :: us, v :: vs => by simp only [sameItems, same_comm u v, sameItems_comm us vs]

theorem sameEntries_comm :
    (es fs : List (String × Json)) → sameEntries es fs = sameEntries fs es
  | [], [] | [], _ :: _ | _ :: _, [] => by simp [sameEntries]
  | (k, u) :: es, (l, v) :: fs => by
    simp only [sameEntries, same_comm u v, sameEntries_comm es fs, Bool.beq_comm (a := k)]

end

mutual

theorem same_trans : (u v w : Json) → same u v = true → same v w = true → same u w = true
  | null, v, w, huv, hvw => by
    cases v <;> simp only [same, Bool.false_eq_true] at huv
    exact hvw
  | bool _, v, w, huv, hvw | int _, v, w, huv, hvw | string _, v, w, huv, hvw => by
    cases v <;> simp only [same, Bool.false_eq_true, beq_iff_eq] at huv
    exact huv ▸ hvw
  | float x, v, w, huv, hvw => by
    cases v <;> simp only [same, Bool.false_eq_true] at huv
    cases w <;> simp only [same, Bool.false_eq_true] at hvw ⊢
    exact Binary64.same_trans huv hvw
  | array us, v, w, huv, hvw => by
    cases v <;> simp only [same, Bool.false_eq_true] at huv
    cases w <;> simp only [same, Bool.false_eq_true] at hvw ⊢
    exact sameItems_trans us _ _ huv hvw
  | object es, v, w, huv, hvw => by
    cases v <;> simp only [same, Bool.false_eq_true] at huv
    cases w <;> simp only [same, Bool.false_eq_true] at hvw ⊢
    exact sameEntries_trans es _ _ huv hvw

theorem sameItems_trans : (us vs ws : List Json) → sameItems us vs = true →
    sameItems vs ws = true → sameItems us ws = true
  | [], [], _, _, hvw => hvw
  | [], _ :: _, _, huv, _ | _ :: _, [], _, huv, _ => by simp [sameItems] at huv
  | _ :: _, _ :: _, [], _, hvw => by simp [sameItems] at hvw
  | u :: us, v :: vs, w :: ws, huv, hvw => by
    simp only [sameItems, Bool.and_eq_true] at huv hvw ⊢
    exact ⟨same_trans u v w huv.1 hvw.1, sameItems_trans us vs ws huv.2 hvw.2⟩

theorem sameEntries_trans : (es fs gs : List (String × Json)) → sameEntries es fs = true →
    sameEntries fs gs = true → sameEntries es gs = true
  | [], [], _, _, hfg => hfg
  | [], _ :: _, _, hef, _ | _ :: _, [], _, hef, _ => by simp [sameEntries] at hef
  | _ :: _, _ :: _, [], _, hfg => by simp [sameEntries] at hfg
  | (k, u) :: es, (l, v) :: fs, (m, w) :: gs, hef, hfg => by
    simp only [sameEntries, Bool.and_eq_true, beq_iff_eq] at hef hfg ⊢
    exact ⟨⟨hef.1.1.trans hfg.1.1, same_trans u v w hef.1.2 hfg.1.2⟩,
      sameEntries_trans es fs gs hef.2 hfg.2⟩

end

/-- Whether the value is `null`. -/
def isNull : Json → Bool
  | null => true
  | _ => false

/-- The text, if the value is one. -/
def string? : Json → Option String
  | string s => some s
  | _ => none

/-- The elements, if the value is an array. -/
def array? : Json → Option (List Json)
  | array items => some items
  | _ => none

/-- The integer, if the value is one that fits a signed 64-bit word. -/
def int64? : Json → Option Int64
  | int n =>
    if Int64.minValue.toInt ≤ n ∧ n ≤ Int64.maxValue.toInt then some (Int64.ofInt n) else none
  | _ => none

/-- The member of an object under a key. -/
def get? (v : Json) (key : String) : Option Json :=
  match v with
  | object entries => entries.lookup key
  | _ => none

/-- A signed 64-bit word as a value. -/
def ofInt64 (n : Int64) : Json := int n.toInt

@[simp] theorem int64?_ofInt64 (n : Int64) : (ofInt64 n).int64? = some n := by
  have low : Int64.minValue.toInt ≤ n.toInt := Int64.minValue_le_toInt n
  have high : n.toInt ≤ Int64.maxValue.toInt := Int64.toInt_le n
  simp only [ofInt64, int64?]
  rw [if_pos ⟨low, high⟩, Int64.ofInt_toInt]

end Json

/-! ## Members sorted by key -/

/-- A finite map from keys to values: an association list sorted by key, each key once. -/
structure Fields where
  /-- The members in key order. -/
  entries : List (String × Json)
  /-- Each key is smaller than every later one. -/
  sorted : entries.Pairwise (fun a b => a.1 < b.1)

namespace Fields

/-- Puts a member into its place, over the one with the same key if there is one. -/
def insertEntry (key : String) (value : Json) : List (String × Json) → List (String × Json)
  | [] => [(key, value)]
  | (k, v) :: rest =>
    if key < k then (key, value) :: (k, v) :: rest
    else if key = k then (key, value) :: rest
    else (k, v) :: insertEntry key value rest

theorem fst_mem_insertEntry {key : String} {value : Json} {es : List (String × Json)}
    {e : String × Json} (h : e ∈ insertEntry key value es) : e = (key, value) ∨ e ∈ es := by
  induction es with
  | nil => exact .inl (by simpa [insertEntry] using h)
  | cons head rest ih =>
    obtain ⟨k, v⟩ := head
    rw [insertEntry] at h
    split at h
    · simpa using h
    · split at h
      · rcases List.mem_cons.1 h with h | h
        · exact .inl h
        · exact .inr (List.mem_cons_of_mem _ h)
      · rcases List.mem_cons.1 h with h | h
        · exact .inr (h ▸ List.mem_cons_self)
        · exact (ih h).imp id (List.mem_cons_of_mem _)

theorem insertEntry_sorted {key : String} {value : Json} {es : List (String × Json)}
    (h : es.Pairwise (fun a b => a.1 < b.1)) :
    (insertEntry key value es).Pairwise (fun a b => a.1 < b.1) := by
  induction es with
  | nil => simp [insertEntry]
  | cons head rest ih =>
    obtain ⟨k, v⟩ := head
    obtain ⟨below, tail⟩ := List.pairwise_cons.1 h
    rw [insertEntry]
    split
    · next small =>
      refine List.pairwise_cons.2 ⟨fun e he => ?_, h⟩
      rcases List.mem_cons.1 he with rfl | he
      · exact small
      · exact String.lt_trans small (below e he)
    · next notSmall =>
      split
      · next equal => exact List.pairwise_cons.2 ⟨fun e he => equal ▸ below e he, tail⟩
      · next differ =>
        have large : k < key :=
          Std.lt_of_le_of_ne (String.not_lt.1 notSmall) (fun e => differ e.symm)
        refine List.pairwise_cons.2 ⟨fun e he => ?_, ih tail⟩
        rcases fst_mem_insertEntry he with rfl | he
        · exact large
        · exact below e he

/-- The map without members. -/
def empty : Fields := ⟨[], .nil⟩

instance : Inhabited Fields := ⟨empty⟩

/-- Sets the value under a key. -/
def insert (f : Fields) (key : String) (value : Json) : Fields :=
  ⟨insertEntry key value f.entries, insertEntry_sorted f.sorted⟩

/-- Sets the values of a list of members one after the other, so that the last of a key wins. -/
def insertAll (f : Fields) (members : List (String × Json)) : Fields :=
  members.foldl (fun f e => f.insert e.1 e.2) f

/-- The map with the given members; the last of a key wins. -/
def ofList (members : List (String × Json)) : Fields := empty.insertAll members

/-- The value under a key. -/
def get? (f : Fields) (key : String) : Option Json := f.entries.lookup key

/-- The keys in order. -/
def keys (f : Fields) : List String := f.entries.map (·.1)

/-- Keeps the members that satisfy a condition. -/
def filter (f : Fields) (keep : String → Json → Bool) : Fields :=
  ⟨f.entries.filter (fun e => keep e.1 e.2), f.sorted.filter _⟩

/-- Removes a key. -/
def erase (f : Fields) (key : String) : Fields := f.filter (fun k _ => k != key)

/-- Renames every key, in key order; of keys that become equal the last one's value stays. -/
def mapKeys (f : Fields) (rename : String → String) : Fields :=
  ofList (f.entries.map fun e => (rename e.1, e.2))

theorem lookup_insertEntry_self (key : String) (value : Json) (es : List (String × Json)) :
    (insertEntry key value es).lookup key = some value := by
  induction es with
  | nil => simp [insertEntry]
  | cons head rest ih =>
    obtain ⟨k, v⟩ := head
    rw [insertEntry]
    split
    · simp
    · split
      · simp
      · next differ => rw [List.lookup_cons, beq_false_of_ne differ]; exact ih

theorem lookup_insertEntry_ne {key other : String} (h : other ≠ key) (value : Json)
    (es : List (String × Json)) :
    (insertEntry key value es).lookup other = es.lookup other := by
  have hb : (other == key) = false := beq_false_of_ne h
  induction es with
  | nil => simp [insertEntry, List.lookup_cons, hb]
  | cons head rest ih =>
    obtain ⟨k, v⟩ := head
    rw [insertEntry]
    split
    · simp only [List.lookup_cons, hb]
    · split
      · next equal => subst equal; simp only [List.lookup_cons, hb]
      · simp only [List.lookup_cons, ih]

@[simp] theorem get?_empty (key : String) : empty.get? key = none := rfl

@[simp] theorem get?_insert_self (f : Fields) (key : String) (value : Json) :
    (f.insert key value).get? key = some value :=
  lookup_insertEntry_self key value f.entries

theorem get?_insert_ne (f : Fields) {key other : String} (h : other ≠ key) (value : Json) :
    (f.insert key value).get? other = f.get? other :=
  lookup_insertEntry_ne h value f.entries

theorem get?_insert (f : Fields) (key other : String) (value : Json) :
    (f.insert key value).get? other = if other = key then some value else f.get? other := by
  by_cases h : other = key
  · subst h; simp
  · rw [if_neg h, get?_insert_ne f h]

/-- Members with other keys do not change what is under a key. -/
theorem get?_insertAll {f : Fields} {key : String} {members : List (String × Json)}
    (h : members.lookup key = none) : (f.insertAll members).get? key = f.get? key := by
  induction members generalizing f with
  | nil => rfl
  | cons e members ih =>
    obtain ⟨k, v⟩ := e
    rw [List.lookup_cons] at h
    cases hkey : key == k with
    | true => simp [hkey] at h
    | false =>
      -- the member stands beside the one under the key
      rw [hkey] at h
      exact (ih h).trans (get?_insert_ne f (ne_of_beq_false hkey) v)

end Fields

/-- The object with the given members. -/
def Json.ofFields (f : Fields) : Json := .object f.entries

/-- The members of an object. -/
def Json.fields? : Json → Option Fields
  | .object entries => some (Fields.ofList entries)
  | _ => none

@[simp] theorem Json.get?_ofFields (f : Fields) (key : String) :
    (Json.ofFields f).get? key = f.get? key := rfl

/-- The object with one member. -/
def Json.singleton (key : String) (value : Json) : Json := .object [(key, value)]

end ResourceClient
