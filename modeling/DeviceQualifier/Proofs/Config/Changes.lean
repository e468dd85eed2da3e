import DeviceQualifier.Proofs.Config.Shown

/-!
The fields in which a configuration differs from the unspecified one. They are all there is to it:
written over the unspecified configuration they give it back, `ofFields_changes`, so configurations
that differ have different changes, in order or by name.
-/
namespace DeviceQualifier

theorem Field.name_injective : Function.Injective Field.name := by
  intro f g same
  have known := Field.named?_name f f.mem_all
  rw [same, Field.named?_name g g.mem_all] at known
  exact (Option.some.inj known).symm

namespace Config

theorem ext_field {r q : Config} (h : ∀ f, r.field f = q.field f) : r = q := by
  apply ext_fields
  · apply Locale.ext_part
    intro p
    exact Datum.text.inj (h (.text p))
  · intro f
    exact Datum.number.inj (h (.number f))

/-- The fields that differ from the unspecified configuration, in record order. -/
def changedFields (r : Config) : List Field :=
  Field.all.filter fun f => r.field f ≠ unspecified.field f

theorem mem_changedFields {r : Config} {f : Field} :
    f ∈ r.changedFields ↔ r.field f ≠ unspecified.field f := by
  simp [changedFields, f.mem_all]

theorem changes_eq (r : Config) : r.changes = r.changedFields.map fun f => (f, r.field f) := by
  unfold changes fields changedFields
  rw [List.filter_map]
  refine congrArg _ (List.filter_congr fun f _ => ?_)
  by_cases same : r.field f = unspecified.field f <;> simp [same]

theorem field_foldl_put (r q : Config) (fs : List Field) (g : Field) :
    ((fs.map fun f => (f, q.field f)).foldl (fun r (f, d) => r.put f d) r).field g =
      if g ∈ fs then q.field g else r.field g := by
  induction fs generalizing r with
  | nil => rfl
  | cons f fs ih =>
    rw [List.map_cons, List.foldl_cons, ih, field_put]
    by_cases later : g ∈ fs
    · simp [later]
    · by_cases same : g = f
      · simp [same]
      · simp [later, same]

/-- The changes of a configuration give it back. -/
theorem ofFields_changes (r : Config) : ofFields r.changes = r := by
  apply ext_field
  intro g
  rw [ofFields, changes_eq, field_foldl_put]
  by_cases same : r.field g = unspecified.field g
  · rw [if_neg fun changed => mem_changedFields.mp changed same, same]
  · rw [if_pos (mem_changedFields.mpr same)]

theorem changes_injective : Function.Injective changes := by
  intro r q same
  rw [← ofFields_changes r, same, ofFields_changes]

theorem changes_eq_nil_iff {r : Config} : r.changes = [] ↔ r = unspecified := by
  have none : changes unspecified = [] := by decide
  rw [← none]
  exact changes_injective.eq_iff

theorem lookup_map_name {α : Type} (shown : Field → α) (fs : List Field) (g : Field) :
    (fs.map fun f => (f.name, shown f)).lookup g.name =
      if g ∈ fs then some (shown g) else none := by
  induction fs with
  | nil => rfl
  | cons f fs ih =>
    rw [List.map_cons, List.lookup_cons]
    by_cases same : g = f
    · simp [same]
    · have other : (g.name == f.name) = false :=
        beq_eq_false_iff_ne.mpr fun h => same (Field.name_injective h)
      rw [other, ih]
      simp [same]

theorem map_name_changes (r : Config) : (r.changes.map fun (f, d) => (f.name, d)) =
    r.changedFields.map fun f => (f.name, r.field f) := by
  rw [changes_eq, List.map_map]
  rfl

/-- A name is listed just if its field differs. -/
theorem lookup_changes (r : Config) (g : Field) :
    (r.changes.map fun (f, d) => (f.name, d)).lookup g.name =
      if r.field g = unspecified.field g then none else some (r.field g) := by
  rw [map_name_changes, lookup_map_name]
  by_cases same : r.field g = unspecified.field g
  · rw [if_neg fun changed => mem_changedFields.mp changed same, if_pos same]
  · rw [if_pos (mem_changedFields.mpr same), if_neg same]

/-- The changes by name, in whatever order, tell configurations apart. -/
theorem eq_of_lookup_changes {r q : Config}
    (h : ∀ name, (r.changes.map fun (f, d) => (f.name, d)).lookup name =
      (q.changes.map fun (f, d) => (f.name, d)).lookup name) : r = q := by
  apply ext_field
  intro f
  have same := h f.name
  rw [lookup_changes, lookup_changes] at same
  by_cases hr : r.field f = unspecified.field f
  · by_cases hq : q.field f = unspecified.field f
    · rw [hr, hq]
    · rw [if_pos hr, if_neg hq] at same
      cases same
  · by_cases hq : q.field f = unspecified.field f
    · rw [if_neg hr, if_pos hq] at same
      cases same
    · rw [if_neg hr, if_neg hq] at same
      exact Option.some.inj same

end Config
end DeviceQualifier
