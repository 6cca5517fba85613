import Mathlib
import ResourceClient.Proofs.Json.Members
import ResourceClient.Proofs.Text.CamelCase
import ResourceClient.Wire.Patch

/-! # The operations of a patch

    A patch keeps its operations in a list, by attribute.  Adding one goes
    through the list, and puts the operation in the place of an earlier one
    on the same attribute (`Patch.lookup_place`).  So no attribute occurs
    twice (`Patch.Distinct`), and what is sent under an attribute is its
    operation (`Patch.get?_update`).

    Attributes are compared in camel case.  Both spellings of a name find the
    same operation since camel case is final. -/

namespace ResourceClient

namespace Patch

/-! ## Operations by attribute -/

section operations

variable {field : String} {op : PatchOp} {ops : List (String × PatchOp)}

/-- An operation is put under its attribute, and the others stay. -/
theorem lookup_place (field : String) (op : PatchOp) (ops : List (String × PatchOp))
    (key : String) :
    (place field op ops).lookup key = if key = field then some op else ops.lookup key := by
  induction ops with
  | nil =>
    rw [place, List.lookup_cons]
    by_cases hkey : key = field
    · rw [if_pos hkey, beq_iff_eq.2 hkey]
    · rw [if_neg hkey, beq_eq_false_iff_ne.2 hkey]
  | cons first rest ih =>
    obtain ⟨name, old⟩ := first
    rw [place]
    by_cases hname : name = field
    · rw [if_pos hname, List.lookup_cons, List.lookup_cons, hname]
      by_cases hkey : key = field
      · rw [if_pos hkey, beq_iff_eq.2 hkey]
      · rw [if_neg hkey, beq_eq_false_iff_ne.2 hkey]
    · rw [if_neg hname, List.lookup_cons, List.lookup_cons, ih]
      by_cases hkey : key = name
      · rw [beq_iff_eq.2 hkey]
        exact (if_neg (hkey.trans_ne hname)).symm
      · rw [beq_eq_false_iff_ne.2 hkey]

theorem mem_names_place {name : String} (h : name ∈ (place field op ops).map (·.1)) :
    name = field ∨ name ∈ ops.map (·.1) := by
  induction ops with
  | nil => exact Or.inl (by simpa [place] using h)
  | cons first rest ih =>
    obtain ⟨other, old⟩ := first
    rw [place] at h
    split at h
    · exact Or.inr h
    · rw [List.map_cons, List.mem_cons] at h ⊢
      rcases h with hfirst | hrest
      · exact Or.inr (Or.inl hfirst)
      · exact (ih hrest).imp_right Or.inr

/-- No attribute comes to occur twice. -/
theorem nodup_place (h : (ops.map (·.1)).Nodup) : ((place field op ops).map (·.1)).Nodup := by
  induction ops with
  | nil => exact List.nodup_singleton field
  | cons first rest ih =>
    obtain ⟨name, old⟩ := first
    rw [place]
    by_cases hname : name = field
    · rw [if_pos hname]
      exact h
    · rw [List.map_cons, List.nodup_cons] at h
      rw [if_neg hname, List.map_cons, List.nodup_cons]
      refine ⟨fun hmem => ?_, ih h.2⟩
      rcases mem_names_place hmem with heq | hrest
      · exact hname heq
      · exact h.1 hrest

end operations

/-! ## What is sent of a patch -/

/-- The operation of a patch on an attribute, if it has one. -/
def operation? (p : Patch) (key : String) : Option PatchOp := p.operations.lookup key

/-- A patch in which no attribute occurs twice. -/
def Distinct (p : Patch) : Prop := (p.operations.map (·.1)).Nodup

theorem distinct_empty (i : Identifier) : Distinct { identifier := i } := List.nodup_nil

theorem Distinct.push {p : Patch} (h : p.Distinct) (field : String) (op : PatchOp) :
    (p.push field op).Distinct :=
  nodup_place h

/-- Adding an operation changes the one on its attribute only. -/
theorem operation?_push (p : Patch) (field : String) (op : PatchOp) (key : String) :
    (p.push field op).operation? key =
      if key = Text.camelCase field then some op else p.operation? key :=
  lookup_place _ _ _ _

/-- What is sent under an attribute is its operation. -/
theorem get?_update {p : Patch} (h : p.Distinct) (key : String) :
    p.update.get? key = (p.operation? key).map PatchOp.wire := by
  have hkeys : ((p.operations.map fun e => (e.1, e.2.wire)).map (·.1)).Nodup := by
    rw [List.map_map]
    exact h
  rw [update, Fields.get?_ofList_of_nodup hkeys, operation?]
  induction p.operations with
  | nil => rfl
  | cons first rest ih =>
    rw [List.map_cons, List.lookup_cons, List.lookup_cons, ih]
    cases key == first.1 <;> rfl

end Patch

/-! ## Patches on the wire -/

/-- What is sent for a patch of a resource: the identifier of the resource,
    the operations, and nothing else. -/
structure Json.Patches (item : Json) (i : Identifier) (update : Fields) : Prop where
  /-- The resource is named. -/
  identifier : item.get? i.member.1 = some i.member.2
  /-- The operations are there. -/
  update : item.get? "update" = some (.ofFields update)
  /-- There is nothing else. -/
  only : ∀ key, item.get? key ≠ none → key = i.member.1 ∨ key = "update"

theorem Patch.patches_wire (p : Patch) : p.wire.Patches p.identifier p.update := by
  have hkeys : ([p.identifier.member, ("update", .ofFields p.update)].map (·.1)).Nodup := by
    cases p.identifier with
    | id n => exact (by decide : ["id", "update"].Nodup)
    | externalId s => exact (by decide : ["externalId", "update"].Nodup)
  have hget (key : String) : p.wire.get? key =
      [p.identifier.member, ("update", Json.ofFields p.update)].lookup key := by
    rw [wire, Json.get?_ofFields, Fields.get?_ofList_of_nodup hkeys]
  constructor
  · rw [hget, lookup_eq_some_iff_mem hkeys]
    exact List.mem_cons_self
  · rw [hget, lookup_eq_some_iff_mem hkeys]
    exact List.mem_cons_of_mem _ List.mem_cons_self
  · intro key hkey
    rw [hget] at hkey
    obtain ⟨value, hvalue⟩ := Option.ne_none_iff_exists'.1 hkey
    have hmem := mem_of_lookup_eq_some hvalue
    simp only [List.mem_cons, List.not_mem_nil, or_false] at hmem
    exact hmem.imp (congrArg Prod.fst) (congrArg Prod.fst)

end ResourceClient
