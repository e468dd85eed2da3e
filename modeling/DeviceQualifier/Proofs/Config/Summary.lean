import DeviceQualifier.Config.Summary
import DeviceQualifier.Proofs.Config.Changes
import DeviceQualifier.Proofs.Text.Numeral
import Mathlib.Data.List.Basic

/-!
A configuration as text, read line by line. Each line gives back the field it shows and what that
field holds, and no line is the one for the unspecified configuration. So the text tells
configurations apart, unless a line is broken by a text within it: `summary_injective`.
-/
namespace DeviceQualifier

def Text.lines (s : String) : List String := (s.toList.splitOn '\n').map String.ofList

theorem Text.lines_intercalate {ls : List String} (h : ∀ l ∈ ls, '\n' ∉ l.toList)
    (hne : ls ≠ []) : lines ("\n".intercalate ls) = ls := by
  have whole : ∀ p ∈ ls.map String.toList, '\n' ∉ p := by
    intro p hp
    obtain ⟨l, hl, rfl⟩ := List.mem_map.mp hp
    exact h l hl
  have split := List.splitOn_intercalate '\n' whole (by simpa using hne)
  rw [lines, String.toList_intercalate]
  rw [show "\n".toList = ['\n'] from rfl, split, List.map_map]
  exact List.map_id'' (fun _ => String.ofList_toList) ls

theorem Text.lines_of_unbroken {s : String} (h : '\n' ∉ s.toList) : lines s = [s] := by
  have alone := lines_intercalate (List.forall_mem_singleton.mpr h) (List.cons_ne_nil s [])
  rwa [String.intercalate_singleton] at alone

namespace Config

/-- What stands behind the name of a field. -/
def shownText : Field → Datum → String
  | .number f, .number n =>
    if f.isPacked then "0x" ++ Text.Numeral.hexWord n else toString n
  | _, d => d.toValue.display

theorem summaryLine_eq (f : Field) (d : Datum) :
    summaryLine (f, d) = "  " ++ f.name ++ ": " ++ shownText f d := by
  cases f <;> cases d <;> rfl

theorem name_plain : ∀ f ∈ Field.all, '\n' ∉ f.name.toList ∧ ':' ∉ f.name.toList ∧
    '(' ∉ f.name.toList ∧ f.name ≠ "" := by
  decide

/-- What stands in front of the first mark. -/
theorem takeWhile_mark {mark : Char} {cs : List Char} (h : mark ∉ cs) (rest : List Char) :
    (cs ++ mark :: rest).takeWhile (· != mark) = cs := by
  have before : ∀ c ∈ cs, (c != mark) = true := by
    intro c hc
    exact bne_iff_ne.mpr fun same => h (same ▸ hc)
  rw [List.takeWhile_append_of_pos before, List.takeWhile_cons_of_neg (by simp), List.append_nil]

/-- The first colon of a line ends the name. -/
theorem line_injective {name other text more : String} (h : ':' ∉ name.toList)
    (h' : ':' ∉ other.toList)
    (same : "  " ++ name ++ ": " ++ text = "  " ++ other ++ ": " ++ more) :
    name = other ∧ text = more := by
  have chars := congrArg String.toList same
  simp only [String.toList_append, List.append_assoc] at chars
  have behind : name.toList ++ ':' :: ' ' :: text.toList =
      other.toList ++ ':' :: ' ' :: more.toList := List.append_cancel_left chars
  have names : name.toList = other.toList := by
    rw [← takeWhile_mark h (' ' :: text.toList), behind, takeWhile_mark h']
  rw [names] at behind
  have texts := List.append_cancel_left behind
  exact ⟨String.toList_inj.mp names, String.toList_inj.mp (by simpa using texts)⟩

/-- No field has the line of the unspecified configuration. -/
theorem summaryLine_ne_defaultLine (f : Field) (d : Datum) : summaryLine (f, d) ≠ defaultLine := by
  obtain ⟨-, -, bracket, filled⟩ := name_plain f f.mem_all
  intro same
  rw [summaryLine_eq] at same
  have chars := congrArg String.toList same
  simp only [String.toList_append, List.append_assoc] at chars
  have behind : f.name.toList ++ (": ".toList ++ (shownText f d).toList) =
      "(default configuration)".toList := List.append_cancel_left chars
  cases name : f.name.toList with
  | nil => exact filled (String.toList_eq_nil_iff.mp name)
  | cons c cs =>
    rw [name] at behind bracket
    obtain rfl : c = '(' := (List.cons.inj behind).1
    exact bracket List.mem_cons_self

/-- No text is broken into lines. -/
def Legible (r : Config) : Prop := ∀ p s, r.locale.part p = some s → '\n' ∉ s.toList

theorem shownText_unbroken {r : Config} (h : r.Legible) (f : Field) :
    '\n' ∉ (shownText f (r.field f)).toList := by
  cases f with
  | number f =>
    have digits := @Text.Numeral.not_mem_hexWord '\n' (by decide) (by decide) (r.get f)
    have decimal := @Text.Numeral.not_mem_toString '\n' (by decide) rfl (r.get f)
    simp only [shownText, field]
    by_cases packed : f.isPacked = true
    · rw [if_pos packed, String.toList_append, List.mem_append, not_or]
      exact ⟨by decide, digits⟩
    · rwa [if_neg packed]
  | text p =>
    simp only [shownText, field]
    cases known : r.locale.part p with
    | none => decide
    | some s => exact h p s known

theorem summaryLine_unbroken {r : Config} (h : r.Legible) (f : Field) :
    '\n' ∉ (summaryLine (f, r.field f)).toList := by
  have name := (name_plain f f.mem_all).1
  have shown := shownText_unbroken h f
  simp only [summaryLine_eq, String.toList_append, List.mem_append, not_or]
  exact ⟨⟨⟨by decide, name⟩, by decide⟩, shown⟩

/-- What is shown of a field that is specified is told apart. -/
theorem shownText_injective {r q : Config} {f : Field} (hr : f ∈ r.changedFields)
    (hq : f ∈ q.changedFields) (same : shownText f (r.field f) = shownText f (q.field f)) :
    r.field f = q.field f := by
  cases f with
  | number f =>
    simp only [shownText, field] at same
    by_cases packed : f.isPacked = true
    · rw [if_pos packed, if_pos packed] at same
      exact congrArg _ (Text.Numeral.hexWord_injective ((String.append_right_inj "0x").mp same))
    · rw [if_neg packed, if_neg packed] at same
      exact congrArg _ (Text.Numeral.toString_injective same)
  | text p =>
    rw [mem_changedFields] at hr hq
    have absent : unspecified.field (.text p) = .text none := by cases p <;> rfl
    rw [absent] at hr hq
    simp only [field] at hr hq same ⊢
    cases there : r.locale.part p with
    | none => exact absurd (congrArg _ there) hr
    | some s =>
      cases there' : q.locale.part p with
      | none => exact absurd (congrArg _ there') hq
      | some t =>
        rw [there, there'] at same
        have texts : s = t := same
        rw [texts]

/-- One line for each field that is specified, in record order, or a single one for none. -/
def summaryLines (r : Config) : List String :=
  if r.changedFields = [] then [defaultLine]
  else r.changedFields.map fun f => summaryLine (f, r.field f)

theorem lines_summary {r : Config} (h : r.Legible) : Text.lines r.summary = r.summaryLines := by
  unfold summary summaryLines
  rw [changes_eq, List.isEmpty_map]
  by_cases none : r.changedFields = []
  · rw [if_pos (List.isEmpty_iff.mpr none), if_pos none]
    exact Text.lines_of_unbroken (by decide)
  · rw [if_neg (List.isEmpty_iff.not.mpr none), if_neg none, List.map_map]
    apply Text.lines_intercalate
    · intro l hl
      obtain ⟨f, -, rfl⟩ := List.mem_map.mp hl
      exact summaryLine_unbroken h f
    · exact List.map_eq_nil_iff.not.mpr none

/-- A line shows its field as it is in every configuration that has the line. -/
theorem field_of_line {r q : Config} {f : Field} (hr : f ∈ r.changedFields)
    (line : summaryLine (f, r.field f) ∈ q.summaryLines) : r.field f = q.field f := by
  unfold summaryLines at line
  by_cases none : q.changedFields = []
  · rw [if_pos none, List.mem_singleton] at line
    exact absurd line (summaryLine_ne_defaultLine f _)
  · rw [if_neg none] at line
    obtain ⟨g, hg, lines⟩ := List.mem_map.mp line
    rw [summaryLine_eq, summaryLine_eq] at lines
    obtain ⟨names, texts⟩ :=
      line_injective (name_plain g g.mem_all).2.1 (name_plain f f.mem_all).2.1 lines
    obtain rfl := Field.name_injective names
    exact (shownText_injective hg hr texts).symm

theorem mem_summaryLines {r : Config} {f : Field} (h : f ∈ r.changedFields) :
    summaryLine (f, r.field f) ∈ r.summaryLines := by
  rw [summaryLines, if_neg (List.ne_nil_of_mem h)]
  exact List.mem_map_of_mem h

/-- The text of a configuration tells it apart. -/
theorem summary_injective {r q : Config} (hr : r.Legible) (hq : q.Legible)
    (same : r.summary = q.summary) : r = q := by
  have lines : r.summaryLines = q.summaryLines := by
    rw [← lines_summary hr, same, lines_summary hq]
  apply ext_field
  intro f
  by_cases changed : f ∈ r.changedFields
  · exact field_of_line changed (lines ▸ mem_summaryLines changed)
  · by_cases changed' : f ∈ q.changedFields
    · exact (field_of_line changed' (lines ▸ mem_summaryLines changed')).symm
    · rw [mem_changedFields, not_not] at changed changed'
      rw [changed, changed']

end Config
end DeviceQualifier
