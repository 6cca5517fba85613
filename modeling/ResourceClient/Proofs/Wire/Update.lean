import Mathlib
import ResourceClient.Proofs.Wire.Patch

/-! # Updates by full resources

    A resource can be updated by handing over the whole of it, together with
    the attributes that may be updated.  What is sent is a patch: the
    attributes are gone through one after the other, and each adds its
    operation (`operation?_foldl_patchField`).  It does not count in which
    order they come, nor how often (`full_update_diff`).

    An attribute is looked up under its camel case, and its operation is sent
    under the camel case of that.  The two are the same key. -/

namespace ResourceClient

/-! ## The resource that is updated -/

/-- The resource that an object names: its number counts, and its text only
    if there is no number. -/
inductive Fields.Names (w : Fields) : Identifier → Prop where
  /-- By an integer of 64 bits. -/
  | id {n : Int64} (h : w.get? "id" = some (.ofInt64 n)) : Names w (.id n)
  /-- By a text. -/
  | externalId {s : String} (hid : ∀ n, w.get? "id" ≠ some (.ofInt64 n))
      (h : w.get? "externalId" = some (.string s)) : Names w (.externalId s)

theorem Identifier.ofWire?_ofFields {w : Fields} {i : Identifier} :
    ofWire? (.ofFields w) = some i ↔ w.Names i := by
  have hword (n : Int64) :
      ((Json.ofFields w).get? "id").bind Json.int64? = some n ↔
        w.get? "id" = some (.ofInt64 n) := by
    rw [Json.bind_int64?_eq_some_iff, Json.get?_ofFields]
  have htext (s : String) :
      ((Json.ofFields w).get? "externalId").bind Json.string? = some s ↔
        w.get? "externalId" = some (.string s) := by
    rw [Json.bind_string?_eq_some_iff, Json.get?_ofFields]
  unfold ofWire?
  cases hid : ((Json.ofFields w).get? "id").bind Json.int64? with
  | some n =>
    have hn := (hword n).1 hid
    constructor
    · intro hi
      cases hi
      exact .id hn
    · rintro (⟨h⟩ | ⟨hno, -⟩)
      · exact ((hword _).2 h ▸ hid).symm ▸ rfl
      · exact absurd hn (hno n)
  | none =>
    have hno (n : Int64) : w.get? "id" ≠ some (.ofInt64 n) := fun h => by
      rw [(hword n).2 h] at hid
      cases hid
    constructor
    · intro hi
      obtain ⟨s, hs, rfl⟩ := Option.map_eq_some_iff.1 hi
      exact .externalId hno ((htext s).1 hs)
    · rintro (⟨h⟩ | ⟨-, h⟩)
      · exact absurd h (hno _)
      · exact Option.map_eq_some_iff.2 ⟨_, (htext _).2 h, rfl⟩

/-- A value names nothing that has neither a number nor a text for it. -/
theorem Identifier.ofWire?_eq_none_iff {v : Json} :
    ofWire? v = none ↔ (∀ n : Int64, v.get? "id" ≠ some (.ofInt64 n)) ∧
      ∀ s, v.get? "externalId" ≠ some (.string s) := by
  have hid : (v.get? "id").bind Json.int64? = none ↔
      ∀ n : Int64, v.get? "id" ≠ some (.ofInt64 n) := by
    simp only [Option.eq_none_iff_forall_ne_some, ne_eq, Json.bind_int64?_eq_some_iff]
  have htext : (v.get? "externalId").bind Json.string? = none ↔
      ∀ s, v.get? "externalId" ≠ some (.string s) := by
    simp only [Option.eq_none_iff_forall_ne_some, ne_eq, Json.bind_string?_eq_some_iff]
  rw [← hid, ← htext]
  unfold ofWire?
  cases (v.get? "id").bind Json.int64? with
  | some n => simp
  | none => simp

/-! ## The operations -/

namespace UpdateItem

section operations

variable {w : Fields} {mode : UpdateMode}

/-- What is to be done to an attribute: it is set to its value, and without
    one it is cleared or left alone. -/
def attributeOp? (mode : UpdateMode) (w : Fields) (key : String) : Option PatchOp :=
  match mode with
  | .replace => some ((w.get? key).elim .setNull .set)
  | .patch => (w.get? key).map .set

/-- An attribute adds its operation to a patch, if there is something to be
    done to it. -/
theorem patchField_eq (hw : ∀ key, w.get? key ≠ some .null) (p : Patch) (key : String) :
    patchField (.ofFields w) mode p key = ((attributeOp? mode w key).map (p.push key)).getD p := by
  unfold patchField attributeOp?
  rw [Json.get?_ofFields]
  cases hvalue : w.get? key with
  | none => cases mode <;> rfl
  | some value =>
    cases value with
    | null => exact absurd hvalue (hw key)
    | _ => cases mode <;> rfl

theorem identifier_patchField (hw : ∀ key, w.get? key ≠ some .null) (p : Patch) (key : String) :
    (patchField (.ofFields w) mode p key).identifier = p.identifier := by
  rw [patchField_eq hw]
  cases attributeOp? mode w key <;> rfl

theorem distinct_patchField (hw : ∀ key, w.get? key ≠ some .null) {p : Patch} (h : p.Distinct)
    (key : String) : (patchField (.ofFields w) mode p key).Distinct := by
  rw [patchField_eq hw]
  cases attributeOp? mode w key with
  | none => exact h
  | some op => exact h.push key op

/-- An attribute in camel case changes its own operation only. -/
theorem operation?_patchField (hw : ∀ key, w.get? key ≠ some .null) (p : Patch) {name : String}
    (hname : Text.camelCase name = name) (key : String) :
    (patchField (.ofFields w) mode p name).operation? key =
      if key = name then (attributeOp? mode w key).or (p.operation? key) else p.operation? key := by
  rw [patchField_eq hw]
  by_cases hkey : key = name
  · subst hkey
    rw [if_pos rfl]
    cases attributeOp? mode w key with
    | none => rfl
    | some op => exact (p.operation?_push key op key).trans (if_pos hname.symm)
  · rw [if_neg hkey]
    cases attributeOp? mode w name with
    | none => rfl
    | some op => exact (p.operation?_push name op key).trans (if_neg (hname.symm ▸ hkey))

theorem identifier_foldl_patchField (hw : ∀ key, w.get? key ≠ some .null) (names : List String)
    (p : Patch) :
    (names.foldl (patchField (.ofFields w) mode) p).identifier = p.identifier := by
  induction names generalizing p with
  | nil => rfl
  | cons name rest ih => exact (ih _).trans (identifier_patchField hw p name)

theorem distinct_foldl_patchField (hw : ∀ key, w.get? key ≠ some .null) (names : List String)
    {p : Patch} (h : p.Distinct) :
    (names.foldl (patchField (.ofFields w) mode) p).Distinct := by
  induction names generalizing p with
  | nil => exact h
  | cons name rest ih => exact ih (distinct_patchField hw h name)

/-- Of attributes in camel case each has its operation in the end, whatever
    order they come in and however often. -/
theorem operation?_foldl_patchField (hw : ∀ key, w.get? key ≠ some .null) {names : List String}
    (hnames : ∀ name ∈ names, Text.camelCase name = name) (p : Patch) (key : String) :
    (names.foldl (patchField (.ofFields w) mode) p).operation? key =
      if key ∈ names then (attributeOp? mode w key).or (p.operation? key)
      else p.operation? key := by
  induction names generalizing p with
  | nil => exact (if_neg List.not_mem_nil).symm
  | cons name rest ih =>
    have hrest := fun name hmem => hnames name (List.mem_cons_of_mem _ hmem)
    rw [List.foldl_cons, ih hrest, operation?_patchField hw p (hnames name List.mem_cons_self)]
    by_cases hkey : key = name
    · -- a repetition puts in the operation that is there
      simp only [hkey, if_true, List.mem_cons_self]
      split
      · cases attributeOp? mode w name <;> rfl
      · rfl
    · simp only [hkey, if_false, List.mem_cons, false_or]

end operations

end UpdateItem

/-! ## Updates -/

/-- The operations that set a value. -/
def Fields.setters (update : Fields) : Fields :=
  update.filter fun _ op => (op.get? "set").isSome

/-- The operations that put a resource in the place of what is there: each
    attribute is set to its value, and one without a value is cleared. -/
structure Fields.Replaces (update w : Fields) (names : List String) : Prop where
  /-- The attributes are the listed ones, in camel case. -/
  keys : ∀ key, key ∈ update.keys ↔ ∃ name ∈ names, Text.camelCase name = key
  /-- One with a value is set. -/
  set : ∀ key ∈ update.keys, ∀ value, w.get? key = some value →
    update.get? key = some (.singleton "set" value)
  /-- One without is cleared. -/
  clear : ∀ key ∈ update.keys, w.get? key = none →
    update.get? key = some (.singleton "setNull" (.bool true))

/-- Operations on no other attributes than the listed ones, of which none
    sets `null`. -/
structure Fields.KeepsTo (update : Fields) (names : List String) : Prop where
  /-- The attributes are listed. -/
  listed : ∀ key ∈ update.keys, ∃ name ∈ names, Text.camelCase name = key
  /-- They are set to values. -/
  valued : ∀ key op, update.get? key = some op → op.get? "set" ≠ some .null

theorem Fields.KeepsTo.setters {update : Fields} {names : List String}
    (h : update.KeepsTo names) : update.setters.KeepsTo names := by
  have hkept {key : String} {op : Json} (hop : update.setters.get? key = some op) :
      update.get? key = some op := by
    rw [Fields.setters, get?_filter, Option.filter_eq_some_iff] at hop
    exact hop.1
  refine ⟨fun key hkey => ?_, fun key op hop => h.valued key op (hkept hop)⟩
  obtain ⟨op, hop⟩ := mem_keys_iff.1 hkey
  exact h.listed key (mem_keys_iff.2 ⟨op, hkept hop⟩)

namespace UpdateItem

section update

/-- What is sent to update a resource of which the whole is handed over. -/
def ofWhole (resource : Fields) (names : List String) (mode : UpdateMode) : Result Json :=
  ofTyped (.ok (.ofFields resource)) names >>= wire mode

/-- The patch for a resource. -/
def wholePatch (resource : Fields) (names : List String) (mode : UpdateMode) (i : Identifier) :
    Patch :=
  (names.map Text.camelCase).foldl (patchField (.ofFields resource.wireForm) mode)
    { identifier := i }

variable {resource : Fields} {names : List String} {mode : UpdateMode} {i : Identifier}

theorem ofWhole_eq (resource : Fields) (names : List String) (mode : UpdateMode) :
    ofWhole resource names mode =
      match Identifier.ofWire? (.ofFields resource.wireForm) with
      | none => .error unidentified
      | some i => .ok (wholePatch resource names mode i).wire := by
  have hform : (Json.ofFields resource).wireForm = .ofFields resource.wireForm := by
    rw [Json.wireForm, Json.fields?_ofFields]
  change (toPatch (Json.ofFields resource).wireForm (names.map Text.camelCase) mode).map
    Patch.wire = _
  rw [hform, toPatch]
  cases Identifier.ofWire? (.ofFields resource.wireForm) <;> rfl

/-- A full resource has no wire form exactly if it does not say which one it
    is. -/
theorem wire_resource_eq_error_iff {w : Json} {e : Error} :
    wire mode (.resource w names) = .error e ↔
      Identifier.ofWire? w = none ∧ unidentified = e := by
  show (toPatch w names mode).map Patch.wire = _ ↔ _
  unfold toPatch
  cases Identifier.ofWire? w <;> simp [Except.map]

/-- What is sent under an attribute is its operation, if it is listed. -/
theorem get?_update_wholePatch (key : String) :
    (wholePatch resource names mode i).update.get? key =
      if key ∈ names.map Text.camelCase
      then (attributeOp? mode resource.wireForm key).map PatchOp.wire else none := by
  have hw := resource.get?_wireForm_ne_null
  have hnames : ∀ name ∈ names.map Text.camelCase, Text.camelCase name = name := by
    intro name hname
    obtain ⟨first, -, rfl⟩ := List.mem_map.1 hname
    exact Text.camelCase_camelCase first
  rw [wholePatch, Patch.get?_update (distinct_foldl_patchField hw _ (Patch.distinct_empty i)),
    operation?_foldl_patchField hw hnames]
  have hempty : ({ identifier := i } : Patch).operation? key = none := rfl
  rw [hempty, Option.or_none]
  split <;> rfl

theorem patches_wholePatch (resource : Fields) (names : List String) (mode : UpdateMode)
    (i : Identifier) :
    (wholePatch resource names mode i).wire.Patches i
      (wholePatch resource names mode i).update := by
  have hi : (wholePatch resource names mode i).identifier = i :=
    identifier_foldl_patchField resource.get?_wireForm_ne_null _ _
  have hpatches := (wholePatch resource names mode i).patches_wire
  rwa [hi] at hpatches

/-- To replace, every listed attribute has its operation. -/
theorem get?_update_replace (key : String) :
    (wholePatch resource names .replace i).update.get? key =
      if key ∈ names.map Text.camelCase
      then some ((resource.wireForm.get? key).elim .setNull .set : PatchOp).wire else none :=
  get?_update_wholePatch key

theorem mem_keys_wholePatch_replace {key : String} :
    key ∈ (wholePatch resource names .replace i).update.keys ↔
      key ∈ names.map Text.camelCase := by
  simp only [Fields.mem_keys_iff, get?_update_replace, Option.ite_none_right_eq_some,
    exists_and_left, Option.some.injEq, exists_eq', and_true]

theorem replaces_wholePatch (resource : Fields) (names : List String) (i : Identifier) :
    (wholePatch resource names .replace i).update.Replaces resource.wireForm names := by
  refine ⟨fun key => mem_keys_wholePatch_replace.trans List.mem_map,
    fun key hkey value hvalue => ?_, fun key hkey hnone => ?_⟩
  · rw [get?_update_replace, if_pos (mem_keys_wholePatch_replace.1 hkey), hvalue]
    rfl
  · rw [get?_update_replace, if_pos (mem_keys_wholePatch_replace.1 hkey), hnone]
    rfl

theorem keepsTo_wholePatch (resource : Fields) (names : List String) (i : Identifier) :
    (wholePatch resource names .replace i).update.KeepsTo names := by
  refine ⟨fun key hkey => List.mem_map.1 (mem_keys_wholePatch_replace.1 hkey),
    fun key op hop hnull => ?_⟩
  rw [get?_update_replace, Option.ite_none_right_eq_some] at hop
  obtain ⟨-, hop⟩ := hop
  cases hvalue : resource.wireForm.get? key with
  | none =>
    rw [hvalue] at hop
    cases hop
    cases hnull
  | some value =>
    rw [hvalue] at hop
    cases hop
    -- what is set is what the wire form has, and that is not null
    have hvalueNull : value = .null := Option.some.inj hnull
    exact resource.get?_wireForm_ne_null key (hvalueNull ▸ hvalue)

/-- Leaving attributes without a value alone is to send the operations that
    set one, and no others. -/
theorem update_wholePatch_patch (resource : Fields) (names : List String) (i : Identifier) :
    (wholePatch resource names .patch i).update =
      (wholePatch resource names .replace i).update.setters := by
  refine Fields.ext_get? fun key => ?_
  rw [Fields.setters, Fields.get?_filter, get?_update_wholePatch, get?_update_wholePatch]
  by_cases hkey : key ∈ names.map Text.camelCase
  · rw [if_pos hkey, if_pos hkey, attributeOp?, attributeOp?]
    cases resource.wireForm.get? key <;> rfl
  · rw [if_neg hkey, if_neg hkey]
    rfl

/-- To update a resource fails if and only if its wire form has no 64-bit
    integer as `id` and no text as `externalId`.  Else the resource that it
    names is addressed, in both modes.

    To replace it sends one operation for each listed attribute, which sets
    it to its value in the wire form, or clears it.  To patch it sends those
    of the operations that set a value.  No other attributes are sent, and
    none is set to `null`. -/
theorem full_update_diff (resource : Fields) (names : List String) :
    (∀ mode, (∃ e, ofWhole resource names mode = .error e) ↔
      (∀ n : Int64, resource.wireForm.get? "id" ≠ some (.ofInt64 n)) ∧
        ∀ s, resource.wireForm.get? "externalId" ≠ some (.string s)) ∧
    ∀ replace patch, ofWhole resource names .replace = .ok replace →
      ofWhole resource names .patch = .ok patch →
      ∃ i update, resource.wireForm.Names i ∧ replace.Patches i update ∧
        patch.Patches i update.setters ∧ update.Replaces resource.wireForm names ∧
        update.KeepsTo names ∧ update.setters.KeepsTo names := by
  simp only [ofWhole_eq]
  cases hi : Identifier.ofWire? (.ofFields resource.wireForm) with
  | none =>
    have hnone (i : Identifier) : ¬ resource.wireForm.Names i := fun h => by
      rw [Identifier.ofWire?_ofFields.2 h] at hi
      cases hi
    have hid (n : Int64) : resource.wireForm.get? "id" ≠ some (.ofInt64 n) :=
      fun h => hnone _ (.id h)
    refine ⟨fun mode => ⟨fun _ => ⟨hid, fun s h => hnone _ (.externalId hid h)⟩,
      fun _ => ⟨_, rfl⟩⟩, fun replace patch hreplace => ?_⟩
    cases hreplace
  | some i =>
    have hnames := Identifier.ofWire?_ofFields.1 hi
    refine ⟨fun mode => ⟨?_, ?_⟩, fun replace patch hreplace hpatch => ?_⟩
    · rintro ⟨e, he⟩
      cases he
    · rintro ⟨hid, htext⟩
      cases hnames with
      | id h => exact absurd h (hid _)
      | externalId _ h => exact absurd h (htext _)
    · obtain rfl := Except.ok.inj hreplace
      obtain rfl := Except.ok.inj hpatch
      have hkeeps := keepsTo_wholePatch resource names i
      exact ⟨i, _, hnames, patches_wholePatch resource names .replace i,
        update_wholePatch_patch resource names i ▸ patches_wholePatch resource names .patch i,
        replaces_wholePatch resource names i, hkeeps, hkeeps.setters⟩

/-- An asset whose data set is there in both spellings, once without a value,
    and whose name has no value. -/
def twiceSpelled : Fields :=
  .ofList [("id", .int 7), ("data_set_id", .int 1), ("dataSetId", .null), ("name", .null)]

/-- The value of the data set counts although the other spelling comes later,
    and the name is cleared or left alone. -/
theorem full_update_of_twice_spelled :
    ofWhole twiceSpelled ["data_set_id", "dataSetId", "name"] .replace =
        .ok (.object [("id", .int 7), ("update", .object
          [("dataSetId", .singleton "set" (.int 1)),
            ("name", .singleton "setNull" (.bool true))])]) ∧
      ofWhole twiceSpelled ["data_set_id", "dataSetId", "name"] .patch =
        .ok (.object [("id", .int 7), ("update", .object
          [("dataSetId", .singleton "set" (.int 1))])]) ∧
      ∃ (i : Identifier) (update : Fields), twiceSpelled.wireForm.Names i ∧
        update.Replaces twiceSpelled.wireForm ["data_set_id", "dataSetId", "name"] ∧
        update.setters.KeepsTo ["data_set_id", "dataSetId", "name"] := by
  refine ⟨rfl, rfl, ?_⟩
  obtain ⟨i, update, hnames, -, -, hreplaces, -, hkeeps⟩ :=
    (full_update_diff twiceSpelled ["data_set_id", "dataSetId", "name"]).2 _ _ rfl rfl
  exact ⟨i, update, hnames, hreplaces, hkeeps⟩

end update

end UpdateItem

end ResourceClient
