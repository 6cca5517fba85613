import Mathlib
import ResourceClient.Proofs.Json.Members
import ResourceClient.Proofs.Text.ByteOrder
import ResourceClient.Proofs.Text.CamelCase

/-! # The wire form is a normal form

    The wire form of an object has no `null` and no underscores behind the
    first character of a name, and an object of this kind is its own wire
    form.  So it does not matter how often a value is put into its wire form
    (`wireForm_idempotent`).

    Several keys of an object may be spellings of one name.  They are renamed
    in key order, so that the greatest of them gives the value
    (`Fields.get?_mapKeys`).  The members without a value are left out before
    that, and a `null` hides no other spelling (`Fields.IsWireFormOf`).  Which
    key is the greatest is told by the bytes of the keys. -/

namespace ResourceClient

/-! ## Renamed keys -/

/-- Of sorted members that are renamed to one key, the last one is read, and
    it had the greatest key. -/
theorem exists_greatest_of_lookup_renamed {members : List (String × Json)}
    (hsorted : members.Pairwise fun a b => a.1 < b.1) {rename : String → String} {name : String}
    {value : Json}
    (h : (members.map fun e => (rename e.1, e.2)).reverse.lookup name = some value) :
    ∃ key, (key, value) ∈ members ∧ rename key = name ∧
      ∀ e ∈ members, rename e.1 = name → e.1 ≤ key := by
  induction members with
  | nil => cases h
  | cons first rest ih =>
    obtain ⟨hbelow, hrest⟩ := List.pairwise_cons.1 hsorted
    rw [List.map_cons, List.reverse_cons, List.lookup_append, Option.or_eq_some_iff] at h
    rcases h with hlater | ⟨hnone, hfirst⟩
    · -- a later member has a greater key than the first one
      obtain ⟨key, hmem, hname, hgreatest⟩ := ih hrest hlater
      refine ⟨key, List.mem_cons_of_mem _ hmem, hname, fun e he hrename => ?_⟩
      rcases List.mem_cons.1 he with rfl | he
      · exact le_of_lt (hbelow _ hmem)
      · exact hgreatest e he hrename
    · -- no later member has the name
      have hothers : ∀ e ∈ rest, rename e.1 ≠ name := by
        intro e he hrename
        rw [List.lookup_eq_none_iff] at hnone
        have hmem : (rename e.1, e.2) ∈ (rest.map fun e => (rename e.1, e.2)).reverse :=
          List.mem_reverse.2 (List.mem_map_of_mem he)
        exact (bne_iff_ne.1 (hnone _ hmem)) hrename.symm
      have hmem := mem_of_lookup_eq_some hfirst
      obtain ⟨rfl, rfl⟩ := Prod.mk.inj (List.mem_singleton.1 hmem)
      refine ⟨first.1, List.mem_cons_self, rfl, fun e he hrename => ?_⟩
      rcases List.mem_cons.1 he with rfl | he
      · exact le_rfl
      · exact absurd hrename (hothers e he)

namespace Fields

/-- Under a name is what was under the greatest key that is renamed to it. -/
theorem get?_mapKeys {f : Fields} {rename : String → String} {name : String} {value : Json} :
    (f.mapKeys rename).get? name = some value ↔
      ∃ key, IsGreatest {key | rename key = name ∧ key ∈ f.keys} key ∧
        f.get? key = some value := by
  have hgreatest {value : Json} (h : (f.mapKeys rename).get? name = some value) :
      ∃ key, IsGreatest {key | rename key = name ∧ key ∈ f.keys} key ∧
        f.get? key = some value := by
    rw [mapKeys, get?_ofList] at h
    obtain ⟨key, hmem, hname, hbelow⟩ := exists_greatest_of_lookup_renamed f.sorted h
    refine ⟨key, ⟨⟨hname, List.mem_map_of_mem hmem⟩, ?_⟩, get?_eq_some_iff.2 hmem⟩
    rintro other ⟨hother, hkey⟩
    obtain ⟨e, he, rfl⟩ := List.mem_map.1 hkey
    exact hbelow e he hother
  refine ⟨hgreatest, ?_⟩
  rintro ⟨key, hkey, hvalue⟩
  -- something is under the name, and only one key is the greatest
  have hmem : (rename key, value) ∈ f.entries.map fun e => (rename e.1, e.2) :=
    List.mem_map_of_mem (f := fun e : String × Json => (rename e.1, e.2))
      (get?_eq_some_iff.1 hvalue)
  have hsome : (f.mapKeys rename).get? name ≠ none := by
    rw [mapKeys, get?_ofList, Ne, List.lookup_eq_none_iff]
    intro hnone
    have hne := hnone _ (List.mem_reverse.2 hmem)
    rw [hkey.1.1, bne_self_eq_false] at hne
    cases hne
  obtain ⟨found, hfound⟩ := Option.ne_none_iff_exists'.1 hsome
  obtain ⟨other, hother, hvalue'⟩ := hgreatest hfound
  obtain rfl := hother.unique hkey
  rw [hfound, ← hvalue', hvalue]

/-! ## The members of a wire form -/

/-- The keys of an object that hold a value and spell a name. -/
def spellings (f : Fields) (name : String) : Set String :=
  {key | Text.camelCase key = name ∧ ∃ value, f.get? key = some value ∧ value ≠ .null}

/-- The greatest spelling of a name, byte by byte. -/
def IsLastSpelling (f : Fields) (name key : String) : Prop :=
  key ∈ f.spellings name ∧ ∀ other ∈ f.spellings name, Text.bytes other ≤ Text.bytes key

theorem isLastSpelling_iff {f : Fields} {name key : String} :
    f.IsLastSpelling name key ↔ IsGreatest (f.spellings name) key := by
  refine and_congr_right fun _ => ?_
  simp only [← Text.le_iff_bytes_le, mem_upperBounds]

/-- The members that an object has on the wire. -/
structure IsWireFormOf (w f : Fields) : Prop where
  /-- All of them hold a value. -/
  get?_ne_null : ∀ name, w.get? name ≠ some .null
  /-- Their names have no underscores behind the first character. -/
  underscore_notMem : ∀ name ∈ w.keys, '_' ∉ name.toList.tail
  /-- The value of a name is that of its greatest spelling. -/
  get?_eq_some : ∀ name value, w.get? name = some value ↔
    ∃ key, f.IsLastSpelling name key ∧ f.get? key = some value

theorem mem_keys_withoutNulls {f : Fields} {key : String} :
    key ∈ f.withoutNulls.keys ↔ ∃ value, f.get? key = some value ∧ value ≠ .null := by
  have hkept (value : Json) : (!value.isNull) = true ↔ value ≠ .null := by
    cases value <;> simp [Json.isNull]
  simp only [mem_keys_iff, withoutNulls, get?_filter, Option.filter_eq_some_iff, hkept]

theorem get?_wireForm {f : Fields} {name : String} {value : Json} :
    f.wireForm.get? name = some value ↔
      ∃ key, IsGreatest (f.spellings name) key ∧ f.get? key = some value := by
  have hspellings : {key | Text.camelCase key = name ∧ key ∈ f.withoutNulls.keys} =
      f.spellings name := by
    simp only [mem_keys_withoutNulls, spellings]
  rw [wireForm, camelKeys, get?_mapKeys, hspellings]
  refine exists_congr fun key => and_congr_right fun hkey => ?_
  obtain ⟨held, hheld, hvalue⟩ := hkey.1.2
  -- a spelling holds a value, which is kept
  rw [withoutNulls, get?_filter, hheld]
  cases held <;> simp [Json.isNull, Option.filter] at hvalue ⊢

/-- Every name of a wire form is in camel case. -/
theorem camelCase_of_mem_keys_wireForm {f : Fields} {name : String} (h : name ∈ f.wireForm.keys) :
    Text.camelCase name = name := by
  obtain ⟨value, hvalue⟩ := mem_keys_iff.1 h
  obtain ⟨key, hkey, -⟩ := get?_wireForm.1 hvalue
  rw [← hkey.1.1, Text.camelCase_camelCase]

theorem isWireFormOf_wireForm (f : Fields) : f.wireForm.IsWireFormOf f where
  get?_ne_null := f.get?_wireForm_ne_null
  underscore_notMem name hname := by
    rw [← camelCase_of_mem_keys_wireForm hname]
    exact Text.underscore_notMem_tail_camelCase name
  get?_eq_some name value := by
    simp only [isLastSpelling_iff, get?_wireForm]

/-- The only spelling of a name in a wire form is the name. -/
theorem eq_of_mem_spellings_wireForm {f : Fields} {key name : String}
    (h : key ∈ f.wireForm.spellings name) : key = name := by
  obtain ⟨hname, value, hvalue, -⟩ := h
  rw [← hname, camelCase_of_mem_keys_wireForm (mem_keys_iff.2 ⟨value, hvalue⟩)]

/-- The wire form of a wire form is the wire form. -/
theorem wireForm_wireForm (f : Fields) : f.wireForm.wireForm = f.wireForm := by
  refine ext_get? fun name => Option.ext fun value => ?_
  rw [get?_wireForm]
  constructor
  · rintro ⟨key, hkey, hvalue⟩
    rw [← eq_of_mem_spellings_wireForm hkey.1]
    exact hvalue
  · intro hvalue
    have hname := camelCase_of_mem_keys_wireForm (mem_keys_iff.2 ⟨value, hvalue⟩)
    have hnull : value ≠ .null := fun h => f.get?_wireForm_ne_null name (h ▸ hvalue)
    have hspelling : name ∈ f.wireForm.spellings name := ⟨hname, value, hvalue, hnull⟩
    exact ⟨name, ⟨hspelling, fun key hkey => le_of_eq (eq_of_mem_spellings_wireForm hkey)⟩, hvalue⟩

end Fields

/-! ## Values -/

namespace Json

theorem wireForm_of_fields? {v : Json} {f : Fields} (h : v.fields? = some f) :
    v.wireForm = .ofFields f.wireForm := by
  rw [wireForm, h]

theorem wireForm_of_fields?_eq_none {v : Json} (h : v.fields? = none) : v.wireForm = v := by
  rw [wireForm, h]

/-- **The wire form is a normal form.**  The wire form of any value is its own
    wire form.  Of a value that is no object it is the value itself.  Of an
    object it is an object without `null`, whose names have no underscores
    behind the first character, and which has under each name what is under
    the greatest of the keys that spell the name and hold a value.  The names
    are final because the camel case of any text is its own camel case. -/
theorem wireForm_idempotent (v : Json) :
    v.wireForm.wireForm = v.wireForm ∧
      (v.fields? = none → v.wireForm = v) ∧
      (∀ f, v.fields? = some f → ∃ w, v.wireForm = .ofFields w ∧ w.IsWireFormOf f) ∧
      ∀ s, Text.camelCase (Text.camelCase s) = Text.camelCase s := by
  refine ⟨?_, wireForm_of_fields?_eq_none, ?_, Text.camelCase_camelCase⟩
  · cases hfields : v.fields? with
    | none =>
      have hsame := wireForm_of_fields?_eq_none hfields
      rw [hsame, hsame]
    | some f =>
      rw [wireForm_of_fields? hfields, wireForm_of_fields? (fields?_ofFields f.wireForm),
        f.wireForm_wireForm]
  · intro f hfields
    exact ⟨f.wireForm, wireForm_of_fields? hfields, f.isWireFormOf_wireForm⟩

/-- An asset whose data set is there in three spellings, of which the greatest
    one has no value. -/
def thriceSpelled : Fields :=
  .ofList [("dataSetId", .int 1), ("data__set_id", .int 2), ("data_set_id", .null)]

/-- The value of the second spelling counts. -/
theorem wireForm_of_thrice_spelled :
    (ofFields thriceSpelled).fields? = some thriceSpelled ∧
      (ofFields thriceSpelled).wireForm = .object [("dataSetId", .int 2)] ∧
      ∃ w, (ofFields thriceSpelled).wireForm = .ofFields w ∧ w.IsWireFormOf thriceSpelled := by
  have hfields := fields?_ofFields thriceSpelled
  exact ⟨hfields, rfl, (wireForm_idempotent (ofFields thriceSpelled)).2.2.1 _ hfields⟩

end Json

end ResourceClient
