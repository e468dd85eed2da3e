import DeviceQualifier.Proofs.Locale.Spelled
import Mathlib.Data.List.Basic

/-!
The locales that tokens can spell, stated on the locale itself: `described_of_spelled` and
`Described.written`. A region with a digit among two characters is the one thing that no tag can
say.
-/
namespace DeviceQualifier.Locale

def isCapital (c : Char) : Bool := 'A' ≤ c && c ≤ 'Z'

/-- A capital and three small letters. -/
def isScript : List Char → Bool
  | [a, b, c, d] => isCapital a && isLetter b && isLetter c && isLetter d
  | _ => false

/-- Two capitals or three digits. -/
def isRegion (cs : List Char) : Bool :=
  (cs.all isCapital && cs.length == 2) || (cs.all isDigit && cs.length == 3)

/-- Two capitals or digits, with a digit among them. -/
def isMixedRegion (cs : List Char) : Bool :=
  cs.all (fun c => isCapital c || isDigit c) && cs.length == 2 && cs.any isDigit

/-- What a descriptor can say of a locale with a given language. A variant alone must not look like
a script, and a mixed region goes with a bare language word only. -/
structure Described (l : Locale) (w : String) : Prop where
  language : l.language = some w ∧ isLanguage w.toList = true
  script : ∀ s, l.script = some s → isScript s.toList = true
  variant : ∀ v, l.variant = some v →
    v.toList.all isLetterOrDigit = true ∧ 4 ≤ v.toList.length ∧ v.toList.length ≤ 8
  alone : l.script = none → l.region = none → ∀ v, l.variant = some v → StandsAlone v
  region : ∀ r, l.region = some r → isRegion r.toList = true ∨
    isMixedRegion r.toList = true ∧ l.script = none ∧ l.variant = none ∧ w ≠ "car"

def Describable (l : Locale) : Prop := l = unspecified ∨ ∃ w, Described l w

theorem isCapital_toUpper {c : Char} (h : isLetter c = true) : isCapital c.toUpper = true :=
  Text.forall_ascii (P := fun c => isLetter c = true → isCapital c.toUpper = true) (by decide)
    (Text.ascii_of_isLetter h) h

theorem toUpper_of_isDigit {c : Char} (h : isDigit c = true) : c.toUpper = c :=
  Text.forall_ascii (P := fun c => isDigit c = true → c.toUpper = c) (by decide)
    (Text.ascii_of_isDigit h) h

theorem toLower_of_isDigit {c : Char} (h : isDigit c = true) :
    isLetterOrDigit c.toLower = true ∧ c.toLower.toUpper = c :=
  Text.forall_ascii
    (P := fun c => isDigit c = true → isLetterOrDigit c.toLower = true ∧ c.toLower.toUpper = c)
    (by decide) (Text.ascii_of_isDigit h) h

theorem ascii_of_isCapital {c : Char} (h : isCapital c = true) : c.toNat < 128 := by
  simp only [isCapital, Bool.and_eq_true, decide_eq_true_eq, Char.le_def,
    UInt32.le_iff_toNat_le] at h
  have hz : ('Z' : Char).val.toNat = 90 := rfl
  exact Nat.lt_of_le_of_lt (hz ▸ h.2) (by decide)

theorem toLower_of_isCapital {c : Char} (h : isCapital c = true) :
    isLetter c.toLower = true ∧ c.toLower.toUpper = c :=
  Text.forall_ascii
    (P := fun c => isCapital c = true → isLetter c.toLower = true ∧ c.toLower.toUpper = c)
    (by decide) (ascii_of_isCapital h) h

theorem toList_upper {s : String} (h : Text.Plain s.toList) :
    (Text.upper s).toList = s.toList.map Char.toUpper := by
  rw [Text.upper, String.toList_ofList, Text.upperChars_of_ascii h.ascii]

theorem capitalize_ofList {c : Char} {cs : List Char} (h : Text.Plain (c :: cs)) :
    Text.capitalize (String.ofList (c :: cs)) = String.ofList (c.toUpper :: cs) := by
  have hc : Text.Plain [c] := by
    simpa [Text.Plain] using h c List.mem_cons_self
  have hcs : Text.Plain cs := fun d hd => h d (List.mem_cons_of_mem _ hd)
  rw [Text.capitalize, String.toList_ofList, List.take_one, List.drop_one, List.tail_cons,
    Text.lowerChars_plain hcs]
  simp [Text.upperChars_of_ascii hc.ascii]

theorem shown_of_region {cs : List Char} (h : isRegion cs = true ∨ isMixedRegion cs = true) :
    ∀ c ∈ cs, isLetterOrDigit c = true ∨ isCapital c = true := by
  intro c hc
  simp only [isRegion, isMixedRegion, Bool.and_eq_true, Bool.or_eq_true, List.all_eq_true] at h
  have side : isCapital c = true ∨ isDigit c = true := by
    rcases h with (⟨capitals, -⟩ | ⟨digits, -⟩) | ⟨⟨mixed, -⟩, -⟩
    · exact .inl (capitals c hc)
    · exact .inr (digits c hc)
    · exact mixed c hc
  rcases side with capital | digit
  · exact .inr capital
  · exact .inl (by rw [isLetterOrDigit, digit, Bool.or_true])

theorem shown_of_script {cs : List Char} (h : isScript cs = true) :
    cs.length = 4 ∧ ∀ c ∈ cs, isLetterOrDigit c = true ∨ isCapital c = true := by
  unfold isScript at h
  split at h
  · simp only [Bool.and_eq_true] at h
    obtain ⟨⟨⟨ha, hb⟩, hc⟩, hd⟩ := h
    have small {x : Char} (hx : isLetter x = true) : isLetterOrDigit x = true := by
      rw [isLetterOrDigit, hx, Bool.true_or]
    simp [ha, small hb, small hc, small hd]
  · cases h

theorem Described.shown {l : Locale} {w : String} (h : Described l w) {p : Part} {s : String}
    (there : l.part p = some s) :
    ∀ c ∈ s.toList, isLetterOrDigit c = true ∨ isCapital c = true := by
  cases p with
  | language =>
    obtain rfl := Option.some.inj (h.language.1.symm.trans there)
    have word := h.language.2
    simp only [isLanguage, Bool.and_eq_true] at word
    exact fun c hc => .inl (Text.plain_of_letters word.1 c hc)
  | region => exact shown_of_region ((h.region s there).imp_right And.left)
  | script => exact (shown_of_script (h.script s there)).2
  | variant => exact fun c hc => .inl (List.all_eq_true.mp (h.variant s there).1 c hc)

theorem isRegion_upper {r : String} (h : Part.region.accepts r = true) :
    isRegion (Text.upper r).toList = true := by
  rw [toList_upper (Part.plain_of_accepts h)]
  simp only [Part.accepts, Bool.or_eq_true, Bool.and_eq_true, beq_iff_eq] at h
  simp only [isRegion, Bool.or_eq_true, Bool.and_eq_true, beq_iff_eq, List.length_map,
    List.all_map]
  rcases h with ⟨hl, hn⟩ | ⟨hd, hn⟩
  · refine .inl ⟨List.all_eq_true.mpr fun c hc => ?_, hn⟩
    exact isCapital_toUpper (List.all_eq_true.mp hl c hc)
  · refine .inr ⟨List.all_eq_true.mpr fun c hc => ?_, hn⟩
    have := List.all_eq_true.mp hd c hc
    rwa [Function.comp_apply, toUpper_of_isDigit this]

/-- The region of a token is one that tags can say as well, or has a digit. -/
theorem isRegion_or_mixed {t r : String} (h : Reading.regionOfToken? t = some r) :
    isRegion (Text.upper r).toList = true ∨ isMixedRegion (Text.upper r).toList = true := by
  rw [toList_upper (plain_of_regionOfToken? h)]
  obtain ⟨a, b, -, ha, hb, rfl⟩ := toList_of_regionOfToken? h
  have side {c : Char} (hc : isLetterOrDigit c = true) :
      isCapital c.toUpper = true ∨ isDigit c.toUpper = true := by
    rcases Bool.or_eq_true_iff.mp hc with hl | hd
    · exact .inl (isCapital_toUpper hl)
    · exact .inr ((toUpper_of_isDigit hd).symm ▸ hd)
  have ha := side ha
  have hb := side hb
  simp only [isRegion, isMixedRegion, String.toList_ofList, List.map_cons, List.map_nil]
  rcases ha with ha | ha <;> rcases hb with hb | hb <;> simp [ha, hb]

theorem isScript_capitalize {s : String} (h : Part.script.accepts s = true) :
    isScript (Text.capitalize s).toList = true := by
  have plain := Part.plain_of_accepts h
  simp only [Part.accepts, Bool.and_eq_true, beq_iff_eq] at h
  obtain ⟨letters, four⟩ := h
  obtain ⟨a, b, c, d, hs⟩ := List.length_eq_four.mp four
  rw [← String.ofList_toList (s := s), hs, capitalize_ofList (hs ▸ plain), String.toList_ofList]
  simp only [hs, List.all_cons, List.all_nil, Bool.and_true, Bool.and_eq_true] at letters
  simp [isScript, isCapital_toUpper letters.1, letters.2]

/-- Capitals and digits come from small letters and digits. -/
theorem upper_toLower {r : String}
    (h : r.toList.all (fun c => isCapital c || isDigit c) = true) :
    Text.Plain (r.toList.map Char.toLower) ∧
      Text.upper (String.ofList (r.toList.map Char.toLower)) = r := by
  have each : ∀ c ∈ r.toList, isLetterOrDigit c.toLower = true ∧ c.toLower.toUpper = c := by
    intro c hc
    rcases Bool.or_eq_true_iff.mp (List.all_eq_true.mp h c hc) with hl | hd
    · obtain ⟨lower, back⟩ := toLower_of_isCapital hl
      exact ⟨by rw [isLetterOrDigit, lower, Bool.true_or], back⟩
    · exact toLower_of_isDigit hd
  have plain : Text.Plain (r.toList.map Char.toLower) := by
    intro c hc
    obtain ⟨d, hd, rfl⟩ := List.mem_map.mp hc
    exact (each d hd).1
  refine ⟨plain, ?_⟩
  rw [← String.toList_inj, toList_upper (by rwa [String.toList_ofList]), String.toList_ofList,
    List.map_map]
  exact Text.map_eq_self fun c hc => (each c hc).2

theorem exists_region {r : String} (h : isRegion r.toList = true) :
    ∃ s, Part.region.accepts s = true ∧ Text.upper s = r := by
  simp only [isRegion, Bool.or_eq_true, Bool.and_eq_true, beq_iff_eq] at h
  rcases h with ⟨hc, hn⟩ | ⟨hd, hn⟩
  · have letters : (r.toList.map Char.toLower).all isLetter = true := by
      rw [List.all_map]
      exact List.all_eq_true.mpr fun c h => (toLower_of_isCapital (List.all_eq_true.mp hc c h)).1
    have small : r.toList.all (fun c => isCapital c || isDigit c) = true :=
      List.all_eq_true.mpr fun c h => by rw [List.all_eq_true.mp hc c h, Bool.true_or]
    exact ⟨_, by simp [Part.accepts, letters, hn], (upper_toLower small).2⟩
  · refine ⟨r, by simp [Part.accepts, hd, hn], ?_⟩
    rw [← String.toList_inj, toList_upper (Text.plain_of_digits hd)]
    exact Text.map_eq_self fun c hc => toUpper_of_isDigit (List.all_eq_true.mp hd c hc)

theorem exists_regionToken {r : String} (h : isMixedRegion r.toList = true) :
    ∃ t s, Reading.regionOfToken? t = some s ∧ Text.Plain t.toList ∧ Text.upper s = r := by
  simp only [isMixedRegion, Bool.and_eq_true, beq_iff_eq] at h
  obtain ⟨⟨hall, hn⟩, -⟩ := h
  obtain ⟨plain, back⟩ := upper_toLower hall
  rw [← List.length_map Char.toLower] at hn
  obtain ⟨a, b, hr⟩ := List.length_eq_two.mp hn
  rw [hr] at plain back
  have ha := plain a List.mem_cons_self
  have hb := plain b (List.mem_cons_of_mem _ List.mem_cons_self)
  refine ⟨String.ofList ['r', a, b], String.ofList [a, b], ?_, ?_, back⟩
  · simp [Reading.regionOfToken?, ha, hb]
  · rw [String.toList_ofList]
    exact List.forall_mem_cons.mpr ⟨by decide, plain⟩

theorem exists_script {s : String} (h : isScript s.toList = true) :
    ∃ t, Part.script.accepts t = true ∧ Text.capitalize t = s := by
  unfold isScript at h
  split at h
  · rename_i a b c d hs
    simp only [Bool.and_eq_true] at h
    obtain ⟨⟨⟨ha, hb⟩, hc⟩, hd⟩ := h
    obtain ⟨small, back⟩ := toLower_of_isCapital ha
    have letters : [a.toLower, b, c, d].all isLetter = true := by simp [small, hb, hc, hd]
    refine ⟨String.ofList [a.toLower, b, c, d], by simp [Part.accepts, small, hb, hc, hd], ?_⟩
    rw [capitalize_ofList (Text.plain_of_letters letters), back, ← hs, String.ofList_toList]
  · cases h

theorem accepts_variant_iff {v : String} : Part.variant.accepts v = true ↔
    v.toList.all isLetterOrDigit = true ∧ 4 ≤ v.toList.length ∧ v.toList.length ≤ 8 := by
  simp [Part.accepts, and_assoc]

theorem described_of_written {ss : List String} {l : Locale} (h : Written ss l) :
    ∃ w, Described l w := by
  cases h with
  | language hl => exact ⟨_, ⟨rfl, hl⟩, by simp, by simp, by simp, by simp⟩
  | region hl hr => exact ⟨_, ⟨rfl, hl⟩, by simp, by simp, by simp, by simp [isRegion_upper hr]⟩
  | script hl hs =>
    exact ⟨_, ⟨rfl, hl⟩, by simp [isScript_capitalize hs], by simp, by simp, by simp⟩
  | variant hl hv alone =>
    exact ⟨_, ⟨rfl, hl⟩, by simp, by simpa using accepts_variant_iff.mp hv, by simpa using alone,
      by simp⟩
  | scriptRegion hl hs hr =>
    exact ⟨_, ⟨rfl, hl⟩, by simp [isScript_capitalize hs], by simp, by simp,
      by simp [isRegion_upper hr]⟩
  | scriptVariant hl hs hv =>
    exact ⟨_, ⟨rfl, hl⟩, by simp [isScript_capitalize hs], by simpa using accepts_variant_iff.mp hv,
      by simp, by simp⟩
  | regionVariant hl hr hv =>
    exact ⟨_, ⟨rfl, hl⟩, by simp, by simpa using accepts_variant_iff.mp hv, by simp,
      by simp [isRegion_upper hr]⟩
  | regions hl hr hq => exact ⟨_, ⟨rfl, hl⟩, by simp, by simp, by simp, by simp [isRegion_upper hq]⟩
  | full hl hs hr hv =>
    exact ⟨_, ⟨rfl, hl⟩, by simp [isScript_capitalize hs], by simpa using accepts_variant_iff.mp hv,
      by simp, by simp [isRegion_upper hr]⟩

theorem described_of_spelled {ts : List String} {l : Locale} (h : Spelled ts l) :
    ∃ w, Described l w := by
  cases h with
  | @word w hw =>
    have hl := (Bool.and_eq_true_iff.mp hw).1
    exact ⟨w, ⟨rfl, hl⟩, by simp, by simp, by simp, by simp⟩
  | @wordRegion w t r hw ht =>
    obtain ⟨hl, kept⟩ := Bool.and_eq_true_iff.mp hw
    have car : w ≠ "car" := by
      rintro rfl
      cases kept
    refine ⟨w, ⟨rfl, hl⟩, by simp, by simp, by simp, ?_⟩
    intro q hq
    cases hq
    rcases isRegion_or_mixed ht with h | h
    · exact .inl h
    · exact .inr ⟨h, rfl, rfl, car⟩
  | tag ht h => exact described_of_written h

/-- A described locale is written in a tag, or by a language and a region token. -/
theorem Described.written {l : Locale} {w : String} (h : Described l w) :
    (∃ ss, Written ss l) ∨ ∃ t r, Reading.isLanguageWord w = true ∧
      Reading.regionOfToken? t = some r ∧ Text.Plain t.toList ∧
      l = ⟨some w, some (Text.upper r), none, none⟩ := by
  obtain ⟨language, region, script, variant⟩ := l
  obtain ⟨⟨rfl, hl⟩, hs, hv, alone, hr⟩ := h
  simp only at hs hv alone hr
  have hv {v : String} (he : variant = some v) : Part.variant.accepts v = true :=
    accepts_variant_iff.mpr (hv v he)
  cases region with
  | none =>
    left
    cases script with
    | none =>
      cases variant with
      | none => exact ⟨_, .language hl⟩
      | some v => exact ⟨_, .variant hl (hv rfl) (alone rfl rfl v rfl)⟩
    | some s =>
      obtain ⟨t, ht, rfl⟩ := exists_script (hs s rfl)
      cases variant with
      | none => exact ⟨_, .script hl ht⟩
      | some v => exact ⟨_, .scriptVariant hl ht (hv rfl)⟩
  | some r =>
    rcases hr r rfl with plain | ⟨mixed, rfl, rfl, car⟩
    · left
      obtain ⟨q, hq, rfl⟩ := exists_region plain
      cases script with
      | none =>
        cases variant with
        | none => exact ⟨_, .region hl hq⟩
        | some v => exact ⟨_, .regionVariant hl hq (hv rfl)⟩
      | some s =>
        obtain ⟨t, ht, rfl⟩ := exists_script (hs s rfl)
        cases variant with
        | none => exact ⟨_, .scriptRegion hl ht hq⟩
        | some v => exact ⟨_, .full hl ht hq (hv rfl)⟩
    · right
      obtain ⟨t, q, ht, plain, rfl⟩ := exists_regionToken mixed
      refine ⟨t, q, ?_, ht, plain, rfl⟩
      rw [Reading.isLanguageWord, hl]
      simp [Reading.reserved, car]

theorem Written.plain {ss : List String} {l : Locale} (h : Written ss l) :
    ss ≠ [] ∧ ∀ s ∈ ss, Text.Plain s.toList := by
  constructor
  · rintro rfl
    cases h
  · intro s hs
    obtain ⟨p, hp⟩ := h.accepted s hs
    exact Part.plain_of_accepts hp

/-- Subtags joined to a tag. -/
def tagOf (subtags : List String) : String := "b+" ++ String.intercalate "+" subtags

theorem tagBody?_tagOf (ss : List String) :
    tagBody? (tagOf ss) = some (String.intercalate "+" ss).toList :=
  tagBody?_append _

theorem subtags_intercalate {ss : List String} (h : ∀ s ∈ ss, Text.Plain s.toList)
    (hne : ss ≠ []) : subtags (String.intercalate "+" ss).toList = ss := by
  have apart : ∀ p ∈ ss.map String.toList, Text.lowerChars p = p ∧ '+' ∉ p := by
    intro p hp
    obtain ⟨s, hs, rfl⟩ := List.mem_map.mp hp
    refine ⟨Text.lowerChars_plain (h s hs), fun hm => ?_⟩
    have := h s hs '+' hm
    cases this
  have split := Text.splitOn_lowerChars (Text.lowered_singleton (by decide)) apart
    (by simpa using hne)
  rw [subtags, String.toList_intercalate, show "+".toList = ['+'] from rfl, split, List.map_map]
  exact List.map_id'' (fun _ => String.ofList_toList) ss

end DeviceQualifier.Locale
