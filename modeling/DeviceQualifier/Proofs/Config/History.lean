import DeviceQualifier.Config.View
import DeviceQualifier.Proofs.Bits
import DeviceQualifier.Proofs.Config.Describable

/-!
Histories of writes to the packed words of a configuration. Each word goes through its own writes
and sees no others, `get_written`. As long as all writes keep to the views of their words, each view
shows the last write through its mask, `view_written`, since views of one word share no place.
-/
namespace DeviceQualifier

open Bits (MaskedWrite)

/-- Views of one word share no place. -/
theorem View.masks_apart : ∀ u ∈ View.all, ∀ v ∈ View.all, u ≠ v → u.word = v.word →
    Bits.conj u.mask v.mask = 0 := by
  decide

namespace Config

/-- A masked write to one of the packed words. -/
structure WordWrite extends MaskedWrite where
  word : NumField
  packed : word.isPacked = true

namespace WordWrite

def apply (r : Config) (w : WordWrite) : Config := r.setBits w.word w.mask w.value

/-- The write is meant for a view: it goes to its word through its mask. -/
def Through (w : WordWrite) (v : View) : Prop := w.word = v.word ∧ w.mask = v.mask

instance (w : WordWrite) (v : View) : Decidable (w.Through v) :=
  inferInstanceAs (Decidable (_ ∧ _))

/-- Two writes that share no place of a word. -/
def Apart (a b : WordWrite) : Prop := a.word = b.word → Bits.conj a.mask b.mask = 0

instance (a b : WordWrite) : Decidable (a.Apart b) := inferInstanceAs (Decidable (_ → _))

/-- What is written to one word, in order. -/
def own (f : NumField) (writes : List WordWrite) : List MaskedWrite :=
  (writes.filter fun w => w.word = f).map (·.toMaskedWrite)

/-- The last write that is meant for a view. -/
def lastThrough (v : View) (writes : List WordWrite) : Option WordWrite :=
  writes.reverse.find? fun w => w.Through v

end WordWrite

open WordWrite (own lastThrough)

/-- The configuration after some writes. -/
def written (r : Config) (writes : List WordWrite) : Config := writes.foldl WordWrite.apply r

section OneWrite
variable (r : Config) (w : WordWrite)

theorem get_apply (f : NumField) :
    (w.apply r).get f = if f = w.word then w.toMaskedWrite.apply (r.get f) else r.get f := by
  rw [WordWrite.apply, get_setBits]
  by_cases same : f = w.word
  · rw [if_pos same, if_pos same, same, MaskedWrite.apply]
  · rw [if_neg same, if_neg same]

theorem locale_apply : (w.apply r).locale = r.locale := locale_set r w.word _

/-- A write for some view is all that its view shows, and no other view shows it. -/
theorem view_apply {u : View} (meant : w.Through u) (v : View) :
    (w.apply r).view v = if w.Through v then Bits.conj w.value v.mask else r.view v := by
  unfold view
  rw [get_apply, MaskedWrite.apply]
  by_cases through : w.Through v
  · rw [if_pos through, if_pos through.1.symm, through.2, Bits.conj_setBits]
  · rw [if_neg through]
    by_cases word : v.word = w.word
    · -- The write reaches the word of the view, but through the mask of another one.
      have other : u ≠ v := fun same => through (same ▸ meant)
      have apart := View.masks_apart u u.mem_all v v.mem_all other (meant.1.symm.trans word.symm)
      rw [if_pos word, meant.2, Bits.conj_setBits_of_apart apart]
    · rw [if_neg word]

theorem apply_comm {a b : WordWrite} (apart : a.Apart b) :
    b.apply (a.apply r) = a.apply (b.apply r) := by
  apply ext_fields
  · simp only [locale_apply]
  · intro f
    simp only [get_apply]
    by_cases ha : f = a.word
    · by_cases hb : f = b.word
      · rw [if_pos ha, if_pos ha, if_pos hb, if_pos hb]
        exact Bits.setBits_comm (apart (ha.symm.trans hb)) _ _ _
      · rw [if_pos ha, if_neg hb, if_neg hb, if_pos ha]
    · rw [if_neg ha, if_neg ha]

theorem apply_idem : w.apply (w.apply r) = w.apply r := by
  apply ext_fields
  · simp only [locale_apply]
  · intro f
    simp only [get_apply]
    by_cases same : f = w.word
    · rw [if_pos same, if_pos same]
      exact Bits.setBits_idem _ _ _
    · rw [if_neg same, if_neg same]

end OneWrite

section History
variable (r : Config) (writes : List WordWrite)

theorem get_written (f : NumField) :
    (r.written writes).get f = (own f writes).foldl MaskedWrite.apply (r.get f) := by
  unfold written
  induction writes generalizing r with
  | nil => rfl
  | cons w writes ih =>
    rw [List.foldl_cons, ih, get_apply, own, own, List.filter_cons]
    by_cases same : w.word = f
    · rw [if_pos same.symm, if_pos (decide_eq_true same), List.map_cons, List.foldl_cons]
    · rw [if_neg (Ne.symm same), if_neg (by simpa using same)]

theorem locale_written : (r.written writes).locale = r.locale := by
  unfold written
  induction writes generalizing r with
  | nil => rfl
  | cons w writes ih => rw [List.foldl_cons, ih, locale_apply]

theorem get_written_of_not_packed {f : NumField} (h : f.isPacked = false) :
    (r.written writes).get f = r.get f := by
  have none : own f writes = [] := by
    rw [own, List.map_eq_nil_iff, List.filter_eq_nil_iff]
    intro w _ same
    have packed := w.packed
    rw [of_decide_eq_true same, h] at packed
    cases packed
  rw [get_written, none, List.foldl_nil]

theorem lastThrough_cons (v : View) (w : WordWrite) :
    lastThrough v (w :: writes) =
      (lastThrough v writes).or (if w.Through v then some w else none) := by
  simp [lastThrough, List.find?_append, List.find?_singleton]

theorem view_written (meant : ∀ w ∈ writes, ∃ u, w.Through u) (v : View) :
    (r.written writes).view v =
      (lastThrough v writes).elim (r.view v) fun w => Bits.conj w.value v.mask := by
  unfold written
  induction writes generalizing r with
  | nil => rfl
  | cons w writes ih =>
    obtain ⟨⟨u, here⟩, later⟩ := List.forall_mem_cons.mp meant
    rw [List.foldl_cons, ih _ later, lastThrough_cons]
    cases lastThrough v writes with
    | some last => rfl
    | none =>
      rw [Option.none_or, Option.elim_none, view_apply r w here]
      by_cases through : w.Through v
      · rw [if_pos through, if_pos through, Option.elim_some]
      · rw [if_neg through, if_neg through, Option.elim_none]

end History

/-- **What a history of masked writes leaves.** In a word each place holds what the last write that
selects it has there, or what it held before. In a configuration each packed word goes through its
own writes alone, and nothing else changes. If every write is meant for a view of its word, each
view shows the last write meant for it, cut down to its mask. Anywhere in a history, neighbours that
share no place can change their order, and a write that is repeated counts once. -/
theorem histories_settle :
    (∀ (word : Int) (writes : List MaskedWrite) (i : Nat),
      Bits.bit (writes.foldl MaskedWrite.apply word) i =
        (MaskedWrite.lastAt i writes).elim (Bits.bit word i) fun w => Bits.bit w.value i) ∧
    ∀ (r : Config) (writes : List WordWrite),
      (∀ f, (r.written writes).get f = (own f writes).foldl MaskedWrite.apply (r.get f)) ∧
      (∀ f, f.isPacked = false → (r.written writes).get f = r.get f) ∧
      (r.written writes).locale = r.locale ∧
      ((∀ w ∈ writes, ∃ u, w.Through u) → ∀ v, (r.written writes).view v =
        (lastThrough v writes).elim (r.view v) fun w => Bits.conj w.value v.mask) ∧
      (∀ a b rest, a.Apart b →
        r.written (writes ++ a :: b :: rest) = r.written (writes ++ b :: a :: rest)) ∧
      ∀ a rest, r.written (writes ++ a :: a :: rest) = r.written (writes ++ a :: rest) := by
  refine ⟨MaskedWrite.bit_foldl_apply, fun r writes => ⟨get_written r writes,
    fun f => get_written_of_not_packed r writes, locale_written r writes,
    view_written r writes, ?_, ?_⟩⟩
  · intro a b rest apart
    simp only [written, List.foldl_append, List.foldl_cons, apply_comm _ apart]
  · intro a rest
    simp only [written, List.foldl_append, List.foldl_cons, apply_idem]

/-- Night mode is written, then the type with bits that do not belong to it, then night mode again
from a negative value, over a word that has all its places set. -/
theorem histories_settle_ui_mode :
    let night (n : Int) : WordWrite := ⟨⟨0x30, n⟩, .uiMode, rfl⟩
    let type : WordWrite := ⟨⟨0x0F, 0x103⟩, .uiMode, rfl⟩
    let r := { unspecified with uiMode := -1 }
    let writes := [night 0x20, type, night (-0x30)]
    (∀ w ∈ writes, ∃ u, w.Through u) ∧
    (r.written writes).view .uiModeNight = 0x10 ∧ (r.written writes).view .uiModeType = 3 ∧
    (night 0x20).Apart type ∧
    r.written ([] ++ night 0x20 :: type :: [night (-0x30)]) =
      r.written ([] ++ type :: night 0x20 :: [night (-0x30)]) := by
  intro night type r writes
  have dark (n : Int) : (night n).Through .uiModeNight := ⟨rfl, rfl⟩
  have meant : ∀ w ∈ writes, ∃ u, w.Through u :=
    List.forall_mem_cons.mpr ⟨⟨_, dark _⟩, List.forall_mem_cons.mpr
      ⟨⟨.uiModeType, rfl, rfl⟩, List.forall_mem_singleton.mpr ⟨_, dark _⟩⟩⟩
  have apart : (night 0x20).Apart type := fun _ => by decide
  obtain ⟨-, -, -, views, swap, -⟩ := histories_settle.2 r writes
  refine ⟨meant, ?_, ?_, apart, ?_⟩
  · exact views meant .uiModeNight
  · exact views meant .uiModeType
  · exact (histories_settle.2 r []).2.2.2.2.1 _ _ _ apart

end Config
end DeviceQualifier
