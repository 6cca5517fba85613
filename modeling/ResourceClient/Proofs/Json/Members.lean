import Mathlib
import ResourceClient.Wire.Form

/-! # The members of an object

    An object is told by what is under its keys (`Fields.ext_get?`).  So
    this module says of each way to make an object what is under its keys:
    of a list of members the last one of a key counts
    (`Fields.get?_ofList`), and if no key occurs twice, then the order of
    the list does not count either (`Fields.get?_ofList_of_nodup`).

    The lists are searched from the front, so the link between looking up
    and membership is that no key occurs twice
    (`lookup_eq_some_iff_mem`). -/

namespace ResourceClient

/-! ## Lists in which no key occurs twice -/

section lookup

variable {α β : Type} [BEq α] [LawfulBEq α] {members : List (α × β)} {key : α} {value : β}

theorem mem_of_lookup_eq_some (h : members.lookup key = some value) :
    (key, value) ∈ members := by
  obtain ⟨before, after, rfl, -⟩ := List.lookup_eq_some_iff.1 h
  exact List.mem_append_right before List.mem_cons_self

theorem lookup_eq_some_iff_mem (hkeys : (members.map (·.1)).Nodup) :
    members.lookup key = some value ↔ (key, value) ∈ members := by
  refine ⟨mem_of_lookup_eq_some, fun hmem => ?_⟩
  obtain ⟨before, after, rfl⟩ := List.append_of_mem hmem
  refine List.lookup_eq_some_iff.2 ⟨before, after, rfl, fun e he => ?_⟩
  -- the key occurs in the part before only if it occurs twice
  rw [bne_iff_ne]
  rintro rfl
  rw [List.map_append, List.map_cons] at hkeys
  exact (List.nodup_append.1 hkeys).2.2 _ (List.mem_map_of_mem he) _ List.mem_cons_self rfl

/-- The order of a list in which no key occurs twice does not count. -/
theorem lookup_eq_of_perm {others : List (α × β)} (hkeys : (members.map (·.1)).Nodup)
    (h : members.Perm others) (key : α) : members.lookup key = others.lookup key := by
  have hothers : (others.map (·.1)).Nodup := (h.map (·.1)).nodup hkeys
  refine Option.ext fun value => ?_
  rw [lookup_eq_some_iff_mem hkeys, lookup_eq_some_iff_mem hothers, h.mem_iff]

end lookup

namespace Fields

/-! ## What is under a key -/

theorem nodup_keys (f : Fields) : (f.entries.map (·.1)).Nodup :=
  List.pairwise_map.2 (f.sorted.imp fun h => ne_of_lt h)

theorem get?_eq_some_iff {f : Fields} {key : String} {value : Json} :
    f.get? key = some value ↔ (key, value) ∈ f.entries :=
  lookup_eq_some_iff_mem f.nodup_keys

theorem mem_keys_iff {f : Fields} {key : String} :
    key ∈ f.keys ↔ ∃ value, f.get? key = some value := by
  simp only [get?_eq_some_iff, keys, List.mem_map, Prod.exists, exists_and_right, exists_eq_right]

/-- Objects with the same values under all keys are equal.  They have the
    same members, and there is only one order to put these in. -/
theorem ext_get? {f g : Fields} (h : ∀ key, f.get? key = g.get? key) : f = g := by
  have hmem (e : String × Json) : e ∈ f.entries ↔ e ∈ g.entries := by
    rw [← get?_eq_some_iff, ← get?_eq_some_iff, h]
  have hperm : f.entries.Perm g.entries :=
    (List.perm_ext_iff_of_nodup f.nodup_keys.of_map g.nodup_keys.of_map).2 hmem
  have hentries : f.entries = g.entries :=
    hperm.eq_of_pairwise (fun _ _ _ _ hab hba => absurd hba (String.lt_asymm hab)) f.sorted g.sorted
  cases f
  cases g
  cases hentries
  rfl

/-- Of members that are added one after the other, the last one of a key
    counts. -/
theorem get?_insertAll_eq_or (f : Fields) (members : List (String × Json)) (key : String) :
    (f.insertAll members).get? key = (members.reverse.lookup key).or (f.get? key) := by
  induction members generalizing f with
  | nil => rfl
  | cons e members ih =>
    have hfirst : (f.insert e.1 e.2).get? key = ([e].lookup key).or (f.get? key) := by
      rw [get?_insert, List.lookup_cons]
      by_cases hkey : key = e.1
      · rw [if_pos hkey, beq_iff_eq.2 hkey]
        rfl
      · rw [if_neg hkey, beq_eq_false_iff_ne.2 hkey]
        rfl
    rw [List.reverse_cons, List.lookup_append, Option.or_assoc, ← hfirst]
    exact ih (f.insert e.1 e.2)

theorem get?_ofList (members : List (String × Json)) (key : String) :
    (ofList members).get? key = members.reverse.lookup key := by
  rw [ofList, get?_insertAll_eq_or, get?_empty, Option.or_none]

theorem get?_ofList_of_nodup {members : List (String × Json)} (h : (members.map (·.1)).Nodup)
    (key : String) : (ofList members).get? key = members.lookup key := by
  rw [get?_ofList]
  exact (lookup_eq_of_perm h (List.reverse_perm members).symm key).symm

/-- The members of an object in order make up the object. -/
theorem ofList_entries (f : Fields) : ofList f.entries = f :=
  ext_get? (get?_ofList_of_nodup f.nodup_keys)

theorem get?_filter (f : Fields) (keep : String → Json → Bool) (key : String) :
    (f.filter keep).get? key = (f.get? key).filter (keep key) := by
  refine Option.ext fun value => ?_
  rw [Option.filter_eq_some_iff, get?_eq_some_iff, get?_eq_some_iff]
  exact List.mem_filter

/-! ## The wire form -/

/-- Nothing is `null` in a wire form: the members that are were left out. -/
theorem get?_wireForm_ne_null (f : Fields) (key : String) : f.wireForm.get? key ≠ some .null := by
  intro hnull
  rw [wireForm, camelKeys, mapKeys, get?_ofList] at hnull
  obtain ⟨e, he, heq⟩ := List.mem_map.1 (List.mem_reverse.1 (mem_of_lookup_eq_some hnull))
  have hkept := (List.mem_filter.1 he).2
  rw [(Prod.mk.inj heq).2] at hkept
  cases hkept

end Fields

namespace Json

/-! ## Values by kind -/

@[simp] theorem fields?_ofFields (f : Fields) : (ofFields f).fields? = some f :=
  congrArg some f.ofList_entries

/-- The integers that fit a word are the words. -/
theorem int64?_eq_some_iff {v : Json} {n : Int64} : v.int64? = some n ↔ v = .ofInt64 n := by
  refine ⟨fun h => ?_, fun h => h ▸ int64?_ofInt64 n⟩
  cases v with
  | int m =>
    obtain ⟨⟨hlow, hhigh⟩, hword⟩ : (Int64.minValue.toInt ≤ m ∧ m ≤ Int64.maxValue.toInt) ∧
        Int64.ofInt m = n := by
      simpa only [int64?, Option.ite_none_right_eq_some, Option.some.injEq] using h
    have hback : (Int64.ofInt m).toInt = m := Int64.toInt_ofInt_of_le hlow (by
      have hmax : Int64.maxValue.toInt = 2 ^ 63 - 1 := rfl
      omega)
    rw [ofInt64, ← hword, hback]
  | _ => cases h

theorem string?_eq_some_iff {v : Json} {s : String} : v.string? = some s ↔ v = .string s := by
  cases v with
  | string t => exact ⟨fun h => congrArg Json.string (Option.some.inj h), fun h => by cases h; rfl⟩
  | _ => exact ⟨fun h => (by cases h), fun h => (by cases h)⟩

/-- A member is a 64-bit integer. -/
theorem bind_int64?_eq_some_iff {v : Json} {key : String} {n : Int64} :
    (v.get? key).bind int64? = some n ↔ v.get? key = some (.ofInt64 n) := by
  simp only [Option.bind_eq_some_iff, int64?_eq_some_iff, exists_eq_right]

/-- A member is a text. -/
theorem bind_string?_eq_some_iff {v : Json} {key : String} {s : String} :
    (v.get? key).bind string? = some s ↔ v.get? key = some (.string s) := by
  simp only [Option.bind_eq_some_iff, string?_eq_some_iff, exists_eq_right]

end Json

end ResourceClient
