import DeviceQualifier.Proofs.Config.Summary
import DeviceQualifier.Vectors.Run
import Mathlib.Data.List.TFAE
import Mathlib.Tactic.TFAE

/-!
The changes of a configuration by name. A configuration that is made from them is the same again,
`ofNamed_changedNames`. There are none just if the configuration is unspecified, and its text says
so: the text of any other has a colon in it.
-/
namespace DeviceQualifier.Config

open Vectors (changedNames)

/-- The configuration with the given data under the names of its fields and nothing else specified.
There is none if a name is not that of a field. -/
def ofNamed (entries : List (String × Datum)) : Option Config :=
  if entries.all fun (name, _) => (Field.named? name).isSome then
    some (ofFields (Field.all.map fun f =>
      (f, (entries.lookup f.name).getD (unspecified.field f))))
  else none

section There
variable (r : Config)

theorem changedNames_eq : changedNames r = r.changedFields.map fun f => (f.name, r.field f) :=
  map_name_changes r

theorem mem_changedNames {f : Field} {d : Datum} :
    (f.name, d) ∈ changedNames r ↔ d = r.field f ∧ d ≠ unspecified.field f := by
  rw [changedNames_eq, List.mem_map]
  constructor
  · rintro ⟨g, changed, same⟩
    obtain ⟨names, rfl⟩ := Prod.mk.inj same
    obtain rfl := Field.name_injective names
    exact ⟨rfl, mem_changedFields.mp changed⟩
  · rintro ⟨rfl, changed⟩
    exact ⟨f, mem_changedFields.mpr changed, rfl⟩

theorem names_sublist :
    ((changedNames r).map Prod.fst).Sublist (Field.all.map Field.name) := by
  rw [changedNames_eq, List.map_map]
  exact List.filter_sublist.map Field.name

theorem ofFields_fields : ofFields r.fields = r := by
  apply ext_field
  intro f
  rw [ofFields, fields, field_foldl_put, if_pos f.mem_all]

theorem ofNamed_changedNames : ofNamed (changedNames r) = some r := by
  have known : ((changedNames r).all fun (name, _) => (Field.named? name).isSome) = true := by
    rw [changedNames_eq, List.all_map, List.all_eq_true]
    intro f _
    exact Option.isSome_of_eq_some (Field.named?_name f f.mem_all)
  -- A field that is not listed is unspecified, which is what it gets.
  have held (f : Field) :
      ((changedNames r).lookup f.name).getD (unspecified.field f) = r.field f := by
    rw [changedNames, lookup_changes]
    by_cases same : r.field f = unspecified.field f
    · rw [if_pos same, same, Option.getD_none]
    · rw [if_neg same, Option.getD_some]
  rw [ofNamed, if_pos known]
  simp only [held]
  exact congrArg some (ofFields_fields r)

end There

theorem mem_intercalate_of_mem_head {c : Char} {l : String} (h : c ∈ l.toList) (sep : String)
    (ls : List String) : c ∈ (sep.intercalate (l :: ls)).toList := by
  rw [String.toList_intercalate, List.map_cons]
  cases ls with
  | nil => rwa [List.map_nil, List.intercalate_singleton]
  | cons k ls =>
    rw [List.map_cons, List.intercalate_cons_cons]
    exact List.mem_append_left _ (List.mem_append_left _ h)

theorem colon_mem_summaryLine (f : Field) (d : Datum) : ':' ∈ (summaryLine (f, d)).toList := by
  rw [summaryLine_eq, String.toList_append, String.toList_append]
  exact List.mem_append_left _ (List.mem_append_right _ List.mem_cons_self)

/-- Whatever a text within it is, a configuration that has changes is not shown as unspecified. -/
theorem summary_eq_defaultLine_iff {r : Config} : r.summary = defaultLine ↔ r.changes = [] := by
  have plain : ':' ∉ defaultLine.toList := by decide
  unfold summary
  cases r.changes with
  | nil => exact iff_of_true rfl rfl
  | cons change rest =>
    obtain ⟨f, d⟩ := change
    refine iff_of_false ?_ (List.cons_ne_nil _ _)
    intro same
    have colon :=
      mem_intercalate_of_mem_head (colon_mem_summaryLine f d) "\n" (rest.map summaryLine)
    rw [← List.map_cons] at colon
    exact plain (same ▸ colon)

/-- **The changes tell the configuration.** They have the names of the fields that differ from the
unspecified configuration, each once and in record order, with what the fields hold, and the
configuration that is made from them is the same again. There are none just if the configuration is
the unspecified one, and just then its text is the line for it. -/
theorem changes_tell (r : Config) :
    ((changedNames r).map Prod.fst).Sublist (Field.all.map Field.name) ∧
    ((changedNames r).map Prod.fst).Nodup ∧
    (∀ f d, (f.name, d) ∈ changedNames r ↔ d = r.field f ∧ d ≠ unspecified.field f) ∧
    ofNamed (changedNames r) = some r ∧
    [changedNames r = [], r.isDefault = true, r.summary = defaultLine].TFAE := by
  have names : (Field.all.map Field.name).Nodup := by decide
  refine ⟨names_sublist r, names.sublist (names_sublist r), fun _ _ => mem_changedNames r,
    ofNamed_changedNames r, ?_⟩
  tfae_have 1 ↔ 3 := by
    rw [changedNames, List.map_eq_nil_iff]
    exact summary_eq_defaultLine_iff.symm
  tfae_have 2 ↔ 3 := by
    rw [isDefault, beq_iff_eq, summary_eq_defaultLine_iff]
    exact changes_eq_nil_iff.symm
  tfae_finish

end DeviceQualifier.Config
