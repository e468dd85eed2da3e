import DeviceQualifier.Proofs.Wire.Places

/-!
What fits a record. A text that does not fit has one thing wrong with it, `Misfit`, and a
configuration with such texts is refused for the first of them, in the order in which they are
stored. Numbers are looked at when all texts fit. Whatever is written stands in the record as a
whole.
-/
namespace DeviceQualifier

namespace Locale.Part

/-- The parts that are stored in front of a part. -/
def before : Part → List Part
  | language => []
  | region => [language]
  | script => [language, region]
  | variant => [language, region, script]

/-- The most characters of a part. -/
def capacity : Part → Nat
  | language | region => 3
  | script => 4
  | variant => 8

/-- The character from which three characters are counted. -/
def base? : Part → Option Char
  | language => some 'a'
  | region => some '0'
  | script | variant => none

def slot : Part → Wire.Slot
  | language | region => .code
  | script => .script
  | variant => .variant

theorem width_slot (p : Part) : p.slot.width = p.capacity := by
  cases p <;> rfl

/-- Of two parts one is stored in front of the other. -/
theorem eq_or_before (p q : Part) : p = q ∨ p ∈ q.before ∨ q ∈ p.before := by
  cases p <;> cases q <;> decide

end Locale.Part

namespace Wire

open DeviceQualifier.Locale (Part)

def Ascii (s : String) : Prop := ∀ c ∈ s.toList, c.toNat < 128

instance (s : String) : Decidable (Ascii s) :=
  decidable_of_iff (s.toList.all fun c => c.toNat < 128) (by simp [Ascii])

/-- Every character is the base or one of the 31 behind it. -/
def Near (base : Char) (s : String) : Prop :=
  ∀ c ∈ s.toList, base.toNat ≤ c.toNat ∧ c.toNat ≤ base.toNat + 31

instance (base : Char) (s : String) : Decidable (Near base s) :=
  decidable_of_iff (s.toList.all fun c => base.toNat ≤ c.toNat ∧ c.toNat ≤ base.toNat + 31)
    (by simp [Near])

/-- A text that can be stored as a part. Only three characters at once need to be near a base. -/
structure Fits (p : Part) (s : String) : Prop where
  ascii : Ascii s
  short : s.toList.length ≤ p.capacity
  near : ∀ base, p.base? = some base → s.toList.length = 3 → Near base s

/-- What is wrong with a text that cannot be stored as a part. -/
inductive Misfit (p : Part) (s : String) : TextFault → Prop
  | notAscii (high : ¬Ascii s) : Misfit p s (.notAscii p.slot s)
  | tooLong (ascii : Ascii s) (long : p.capacity < s.toList.length) :
      Misfit p s (.tooLong p.slot s)
  | outsideBase {base} (ascii : Ascii s) (coded : p.base? = some base)
      (three : s.toList.length = 3) (far : ¬Near base s) : Misfit p s (.outsideBase s base)

theorem Misfit.not_fits {p : Part} {s : String} {fault : TextFault} (h : Misfit p s fault) :
    ¬Fits p s := by
  intro fits
  cases h with
  | notAscii high => exact high fits.ascii
  | tooLong _ long => exact Nat.not_lt.mpr fits.short long
  | outsideBase _ coded three far => exact far (fits.near _ coded three)

section Text
variable {s : String}

theorem asciiBytes_of_not_ascii (slot : Slot) (high : ¬Ascii s) :
    asciiBytes slot s = .error (.notAscii slot s) := by
  obtain ⟨c, hc, hn⟩ : ∃ c ∈ s.toList, 128 ≤ c.toNat := by
    simpa [Ascii] using high
  exact asciiBytes_error hc hn

theorem asciiBytes_of_long {slot : Slot} (ascii : Ascii s) (long : slot.width < s.toList.length) :
    asciiBytes slot s = .error (.tooLong slot s) := by
  have all : s.toList.all isAscii = true := by
    rw [List.all_eq_true]
    intro c hc
    simpa [isAscii] using ascii c hc
  simp only [asciiBytes, all, Bool.not_true]
  rw [if_neg (by decide), if_pos long]

/-- A character out of reach has no distance, so three of which one is are refused. -/
theorem Code.pack_of_far {base : Char} (ascii : Ascii s) (three : s.toList.length = 3)
    (far : ¬Near base s) : pack base (some s) = .error (.outsideBase s base) := by
  have fit : s.toList.length ≤ Slot.code.width := Nat.le_of_eq three
  obtain ⟨x, hx, out⟩ : ∃ x ∈ s.toList, ¬(base.toNat ≤ x.toNat ∧ x.toNat ≤ base.toNat + 31) := by
    simpa [Near] using far
  have nowhere : distance? base (ofChar x) = none := by
    rw [distance?, toNat_ofChar (ascii x hx), if_neg (by omega)]
  obtain ⟨a, b, c, hs⟩ := List.length_eq_three.mp three
  simp only [pack, asciiBytes_ok ascii fit, hs, Except.bind, List.map_cons, List.map_nil,
    packBytes]
  split
  · rename_i ha hb hc
    rw [hs] at hx
    rcases List.mem_cons.mp hx with rfl | hx
    · cases nowhere.symm.trans ha
    rcases List.mem_cons.mp hx with rfl | hx
    · cases nowhere.symm.trans hb
    cases List.mem_singleton.mp hx
    cases nowhere.symm.trans hc
  · rfl

end Text

/-- The bytes that are stored for a part. -/
def partBytes (p : Part) (text : Option String) : Except TextFault (List UInt8) :=
  match p with
  | .language => Code.pack languageBase text
  | .region => Code.pack regionBase text
  | .script => slotBytes .script text
  | .variant => slotBytes .variant text

section Part
variable {p : Part} {s : String}

theorem partBytes_none (p : Part) : ∃ raw, partBytes p none = .ok raw := by
  cases p <;> exact ⟨_, rfl⟩

theorem partBytes_of_error {fault : TextFault} (h : asciiBytes p.slot s = .error fault) :
    partBytes p (some s) = .error fault := by
  cases p with
  | language => exact congrArg (·.bind (Code.packBytes languageBase s)) h
  | region => exact congrArg (·.bind (Code.packBytes regionBase s)) h
  | script | variant => exact h

theorem partBytes_of_base {base : Char} (h : p.base? = some base) (text : Option String) :
    partBytes p text = Code.pack base text ∧ p.capacity = 3 := by
  cases p <;> cases h <;> exact ⟨rfl, rfl⟩

theorem partBytes_of_no_base (h : p.base? = none) :
    partBytes p (some s) = asciiBytes p.slot s := by
  cases p <;> cases h <;> rfl

/-- A text fits and has bytes, or it is refused for what is wrong with it. -/
theorem partBytes_cases (p : Part) (s : String) :
    (Fits p s ∧ ∃ raw, partBytes p (some s) = .ok raw) ∨
      ∃ fault, Misfit p s fault ∧ partBytes p (some s) = .error fault := by
  -- in the order of the tests, so that each fault comes with the tests before it passed
  by_cases ascii : Ascii s
  swap
  · exact .inr ⟨_, .notAscii ascii, partBytes_of_error (asciiBytes_of_not_ascii p.slot ascii)⟩
  by_cases short : s.toList.length ≤ p.capacity
  swap
  · have long := Nat.lt_of_not_le short
    refine .inr ⟨_, .tooLong ascii long, partBytes_of_error (asciiBytes_of_long ascii ?_)⟩
    rwa [p.width_slot]
  cases hb : p.base? with
  | none =>
    refine .inl ⟨⟨ascii, short, fun base coded => ?_⟩, s.toList.map ofChar, ?_⟩
    · cases hb.symm.trans coded
    · rw [partBytes_of_no_base hb]
      exact asciiBytes_ok ascii (by rwa [p.width_slot])
  | some base =>
    obtain ⟨bytes, three⟩ := partBytes_of_base hb (some s)
    rw [bytes]
    by_cases hn : s.toList.length = 3
    · by_cases near : Near base s
      · refine .inl ⟨⟨ascii, short, fun base' coded _ => ?_⟩, Code.pack_three ascii hn ?_⟩
        · cases hb.symm.trans coded
          exact near
        · intro c hc
          have := near c hc
          omega
      · exact .inr ⟨_, .outsideBase ascii hb hn near, Code.pack_of_far ascii hn near⟩
    · have packed := Code.pack_short base ascii (by omega)
      exact .inl ⟨⟨ascii, short, fun _ _ three => absurd three hn⟩, _, packed⟩

end Part

/-- The text of a part fits, or there is none. -/
def TextFits (r : Config) (p : Part) : Prop := ∀ s, r.locale.part p = some s → Fits p s

/-- The greatest number that is stored for a field. -/
def greatest : NumField → Int
  | .mcc | .mnc | .density | .screenWidth | .screenHeight | .sdkVersion | .minorVersion
  | .smallestScreenWidthDp | .screenWidthDp | .screenHeightDp => 65535
  | .orientation | .touchscreen | .keyboard | .navigation | .inputFlags | .screenLayout | .uiMode
  | .screenLayout2 | .colorMode => 255

def NumberFits (r : Config) (f : NumField) : Prop := 0 ≤ r.get f ∧ r.get f ≤ greatest f

theorem numbersFit_iff_greatest {r : Config} : numbersFit r = true ↔ ∀ f, NumberFits r f := by
  have bound (f : NumField) : (if isWide f then 0x10000 else 0x100 : Int) = greatest f + 1 := by
    cases f <;> rfl
  simp only [numbersFit_iff, bound, Int.lt_add_one_iff, NumberFits]

/-- The text of a part fits and has bytes, or something is wrong with it. -/
theorem text_cases (r : Config) (p : Part) :
    (TextFits r p ∧ ∃ raw, partBytes p (r.locale.part p) = .ok raw) ∨
      ∃ s fault, r.locale.part p = some s ∧ Misfit p s fault ∧
        partBytes p (r.locale.part p) = .error fault := by
  unfold TextFits
  cases r.locale.part p with
  | none =>
    refine .inl ⟨fun s hs => ?_, partBytes_none p⟩
    cases hs
  | some s =>
    rcases partBytes_cases p s with ⟨fits, ok⟩ | ⟨fault, misfit, failed⟩
    · refine .inl ⟨fun s' hs => ?_, ok⟩
      cases hs
      exact fits
    · exact .inr ⟨s, fault, rfl, misfit, failed⟩

theorem write_eq_parts (r : Config) : write r = (do
    let language ← (partBytes .language (r.locale.part .language)).mapError .text
    let region ← (partBytes .region (r.locale.part .region)).mapError .text
    let script ← (partBytes .script (r.locale.part .script)).mapError .text
    let variant ← (partBytes .variant (r.locale.part .variant)).mapError .text
    if numbersFit r then .ok (layout r language region script variant) else .error .number) :=
  rfl

/-- All that writing can come to: the bytes of a configuration that fits, the first text that does
not, or a number. -/
theorem write_cases (r : Config) :
    (∃ bytes, write r = .ok bytes ∧ (∀ p, TextFits r p) ∧ numbersFit r = true ∧ Laid r bytes) ∨
    (∃ p s fault, (∀ q ∈ p.before, TextFits r q) ∧ r.locale.part p = some s ∧ Misfit p s fault ∧
      write r = .error (.text fault)) ∨
    (∀ p, TextFits r p) ∧ numbersFit r = false ∧ write r = .error .number := by
  -- each text stops the record or leaves it to the next one
  rcases text_cases r .language with ⟨language, l, hl⟩ | ⟨t, fault, ht, misfit, failed⟩
  swap
  · refine .inr (.inl ⟨.language, t, fault, ?_, ht, misfit, ?_⟩)
    · simp [Part.before]
    · rw [write_eq_parts, failed]
      rfl
  rcases text_cases r .region with ⟨region, g, hg⟩ | ⟨t, fault, ht, misfit, failed⟩
  swap
  · refine .inr (.inl ⟨.region, t, fault, ?_, ht, misfit, ?_⟩)
    · simpa [Part.before] using language
    · rw [write_eq_parts, hl, failed]
      rfl
  rcases text_cases r .script with ⟨script, s, hs⟩ | ⟨t, fault, ht, misfit, failed⟩
  swap
  · refine .inr (.inl ⟨.script, t, fault, ?_, ht, misfit, ?_⟩)
    · simpa [Part.before] using ⟨language, region⟩
    · rw [write_eq_parts, hl, hg, failed]
      rfl
  rcases text_cases r .variant with ⟨variant, v, hv⟩ | ⟨t, fault, ht, misfit, failed⟩
  swap
  · refine .inr (.inl ⟨.variant, t, fault, ?_, ht, misfit, ?_⟩)
    · simpa [Part.before] using ⟨language, region, script⟩
    · rw [write_eq_parts, hl, hg, hs, failed]
      rfl
  have texts : ∀ p, TextFits r p := by
    rintro (_ | _ | _ | _)
    exacts [language, region, script, variant]
  cases fit : numbersFit r with
  | true => exact .inl ⟨_, write_of_texts hl hg hs hv fit, texts, rfl, laid_layout hl hg hs hv fit⟩
  | false =>
    refine .inr (.inr ⟨texts, rfl, ?_⟩)
    rw [write_eq_parts, hl, hg, hs, hv, fit]
    rfl

/-- **What a record can store.** A configuration is written just if every text and every number
fits, and then the whole of each field stands at its place. If some text does not fit, it is refused
for the first such text and for what is wrong with it, whatever the numbers are. If only numbers do
not fit, it is refused for a number. -/
theorem write_outcome (r : Config) :
    ((∃ bytes, write r = .ok bytes) ↔ (∀ p, TextFits r p) ∧ ∀ f, NumberFits r f) ∧
    (∀ bytes, write r = .ok bytes → Laid r bytes) ∧
    (∀ p, (∀ q ∈ p.before, TextFits r q) → ¬TextFits r p →
      ∃ s fault, r.locale.part p = some s ∧ Misfit p s fault ∧ write r = .error (.text fault)) ∧
    ((∀ p, TextFits r p) → (¬∀ f, NumberFits r f) → write r = .error .number) := by
  rcases write_cases r with ⟨bytes, ok, texts, fit, laid⟩ |
    ⟨p, s, fault, front, hs, misfit, failed⟩ | ⟨texts, unfit, failed⟩
  · rw [numbersFit_iff_greatest] at fit
    refine ⟨iff_of_true ⟨bytes, ok⟩ ⟨texts, fit⟩, fun b hb => ?_,
      fun p _ unfit => absurd (texts p) unfit, fun _ unfit => absurd fit unfit⟩
    cases ok.symm.trans hb
    exact laid
  · have unfit : ¬TextFits r p := fun fits => misfit.not_fits (fits s hs)
    refine ⟨iff_of_false ?_ fun h => unfit (h.1 p), fun b ok => ?_, fun q earlier unfitQ => ?_,
      fun texts => absurd (texts p) unfit⟩
    · rintro ⟨b, ok⟩
      cases failed.symm.trans ok
    · cases failed.symm.trans ok
    · rcases p.eq_or_before q with rfl | before | before
      · exact ⟨s, fault, hs, misfit, failed⟩
      · exact absurd (earlier p before) unfit
      · exact absurd (front q before) unfitQ
  · rw [← Bool.not_eq_true, numbersFit_iff_greatest] at unfit
    refine ⟨iff_of_false ?_ fun h => unfit h.2, fun b ok => ?_,
      fun p _ unfit => absurd (texts p) unfit, fun _ _ => failed⟩
    · rintro ⟨b, ok⟩
      cases failed.symm.trans ok
    · cases failed.symm.trans ok

/-- A language is packed, but the letters of a long region are out of reach of its digits. It comes
before the script, which is too long as well, and before a number below zero. -/
theorem write_outcome_long_region :
    write { Config.unspecified with
      mcc := -1, locale := ⟨some "fil", some "USA", some "Latin", none⟩ } =
        .error (.text (.outsideBase "USA" '0')) := by
  obtain ⟨-, -, texts, -⟩ := write_outcome { Config.unspecified with
    mcc := -1, locale := ⟨some "fil", some "USA", some "Latin", none⟩ }
  have language : Fits .language "fil" := by
    refine ⟨by decide, by decide, fun base coded _ => ?_⟩
    cases coded
    decide
  have far : ¬Near '0' "USA" := by decide
  obtain ⟨s, fault, hs, misfit, failed⟩ := texts .region
    (List.forall_mem_singleton.mpr fun s hs => Option.some.inj hs ▸ language)
    (fun fits => far ((fits "USA" rfl).near '0' rfl rfl))
  cases hs
  rw [failed]
  cases misfit with
  | notAscii high => exact absurd (by decide) high
  | tooLong _ long => exact absurd long (by decide)
  | outsideBase _ coded => cases coded; rfl

end Wire
end DeviceQualifier
