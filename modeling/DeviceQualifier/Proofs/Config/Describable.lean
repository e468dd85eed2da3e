import DeviceQualifier.Config.View
import DeviceQualifier.Proofs.Locale.Describable

/-!
The configurations that descriptors can ask for, stated on the record itself. A packed word is one
code for each of its parts and has no bits besides; `packings_setBits` keeps it so under a write to
any part, and `rebuild` brings it back from its parts.
-/
namespace DeviceQualifier

/-- All words that take one value for each of their parts. -/
def Bits.words : List (List Int) → List Int
  | [] => [0]
  | part :: rest => part.flatMap fun n => (words rest).map (disj n)

/-- The codes of a part that a descriptor can ask for. -/
def View.codes : View → List Int
  | layoutDirection => [0, 0x40, 0x80]
  | screenLayoutSize => [0, 1, 2, 3, 4]
  | screenLayoutLong => [0, 0x10, 0x20]
  | screenRound => [0, 1, 2]
  | wideColorGamut => [0, 1, 2]
  | hdr => [0, 4, 8]
  | uiModeType => [0, 2, 3, 4, 5, 6, 7]
  | uiModeNight => [0, 0x10, 0x20]
  | keysHidden => [0, 1, 2, 3]
  | navHidden => [0, 4, 8]

namespace NumField

/-- The values of a packed word. -/
def packings : NumField → List Int
  | .screenLayout => Bits.words [View.layoutDirection.codes, View.screenLayoutLong.codes,
      View.screenLayoutSize.codes]
  | .screenLayout2 => Bits.words [View.screenRound.codes]
  | .colorMode => Bits.words [View.hdr.codes, View.wideColorGamut.codes]
  | .uiMode => Bits.words [View.uiModeNight.codes, View.uiModeType.codes]
  | .inputFlags => Bits.words [View.navHidden.codes, View.keysHidden.codes]
  | _ => []

/-- The values of a number that a descriptor can ask for. -/
def Allows (f : NumField) (n : Int) : Prop :=
  match f with
  | .mcc | .mnc | .density | .smallestScreenWidthDp | .screenWidthDp | .screenHeightDp
  | .sdkVersion | .screenWidth | .screenHeight => 0 ≤ n ∧ n ≤ 65535
  | .orientation | .touchscreen | .keyboard => 0 ≤ n ∧ n ≤ 3
  | .navigation => 0 ≤ n ∧ n ≤ 4
  | .minorVersion => n = 0
  | .screenLayout | .screenLayout2 | .colorMode | .uiMode | .inputFlags => n ∈ f.packings

instance (f : NumField) (n : Int) : Decidable (f.Allows n) :=
  match f with
  | .mcc | .mnc | .density | .smallestScreenWidthDp | .screenWidthDp | .screenHeightDp
  | .sdkVersion | .screenWidth | .screenHeight => inferInstanceAs (Decidable (0 ≤ n ∧ n ≤ 65535))
  | .orientation | .touchscreen | .keyboard => inferInstanceAs (Decidable (0 ≤ n ∧ n ≤ 3))
  | .navigation => inferInstanceAs (Decidable (0 ≤ n ∧ n ≤ 4))
  | .minorVersion => inferInstanceAs (Decidable (n = 0))
  | .screenLayout | .screenLayout2 | .colorMode | .uiMode | .inputFlags =>
    inferInstanceAs (Decidable (n ∈ _))

theorem packings_setBits : ∀ v ∈ View.all, ∀ m ∈ v.word.packings, ∀ n ∈ v.codes,
    Bits.setBits m v.mask n ∈ v.word.packings := by
  decide +kernel

theorem conj_mem_codes : ∀ v ∈ View.all, ∀ m ∈ v.word.packings, Bits.conj m v.mask ∈ v.codes := by
  decide +kernel

/-- A packed word is made again by writing its parts one after the other. -/
theorem rebuild : ∀ f ∈ View.all.map View.word, ∀ m ∈ f.packings,
    (View.all.filter (·.word = f)).foldl
      (fun w v => Bits.setBits w v.mask (Bits.conj m v.mask)) 0 = m := by
  decide +kernel

theorem packings_byte : ∀ f ∈ View.all.map View.word, ∀ m ∈ f.packings, 0 ≤ m ∧ m < 256 := by
  decide +kernel

theorem allows_word (v : View) (n : Int) : v.word.Allows n ↔ n ∈ v.word.packings := by
  cases v <;> rfl

end NumField

theorem View.mem_all (v : View) : v ∈ View.all := by
  cases v <;> decide

namespace Config

/-- The configurations that a descriptor can ask for. -/
structure Describable (r : Config) : Prop where
  numbers : ∀ f : NumField, f.Allows (r.get f)
  pixels : r.screenHeight ≤ r.screenWidth
  locale : r.locale.Describable

theorem describable_unspecified : Describable unspecified := by
  refine ⟨fun f => ?_, Int.le_refl _, .inl rfl⟩
  cases f <;> decide

section Numbers
variable {r : Config}

theorem allows_set (h : ∀ f : NumField, f.Allows (r.get f)) {f : NumField} {n : Int}
    (hn : f.Allows n) (g : NumField) : g.Allows ((r.set f n).get g) := by
  rw [get_set]
  by_cases hg : g = f
  · rw [if_pos hg, hg]
    exact hn
  · rw [if_neg hg]
    exact h g

theorem allows_setBits (h : ∀ f : NumField, f.Allows (r.get f)) {v : View} {n : Int}
    (hn : n ∈ v.codes) (g : NumField) : g.Allows ((r.setBits v.word v.mask n).get g) := by
  apply allows_set h
  have hm := (NumField.allows_word v _).mp (h v.word)
  exact (NumField.allows_word v _).mpr (NumField.packings_setBits v v.mem_all _ hm n hn)

theorem view_mem_codes (h : ∀ f : NumField, f.Allows (r.get f)) (v : View) :
    r.view v ∈ v.codes :=
  NumField.conj_mem_codes v v.mem_all _ ((NumField.allows_word v _).mp (h v.word))

end Numbers

end Config
end DeviceQualifier
