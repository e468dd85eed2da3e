import DeviceQualifier.Proofs.Bits
import DeviceQualifier.Proofs.Descriptor.Cursor
import DeviceQualifier.Proofs.Wire.Describable

/-!
What each category holds of a configuration: a part of a packed word, some numbers, or the locale.
An attempt changes nothing else, and what it puts there comes from the tokens it takes (`Overlay`).
No two categories hold a place in common, `masks_apart`, so their attempts do not see each other.
-/
namespace DeviceQualifier.Descriptor

open Category (Reads Whole Recognizes)

inductive Holding where
  /-- The part of a packed word that a view shows. -/
  | part (v : View)
  /-- Numbers as a whole. -/
  | numbers (fs : List NumField)
  | locale
  deriving DecidableEq

namespace Holding

/-- The places of a number that belong to a holding. -/
def mask : Holding → NumField → Int
  | part v, f => if f = v.word then v.mask else 0
  | numbers fs, f => if f ∈ fs then -1 else 0
  | locale, _ => 0

/-- `q` has what is held from `p` and all else from `r`. -/
structure Overlay (h : Holding) (p r q : Config) : Prop where
  numbers : ∀ f, q.get f = Bits.setBits (r.get f) (h.mask f) (p.get f)
  locale : q.locale = if h = .locale then p.locale else r.locale

theorem overlay_part (v : View) (n : Int) (p r : Config) :
    (part v).Overlay (p.setBits v.word v.mask n) r (r.setBits v.word v.mask n) := by
  refine ⟨fun f => ?_, Config.locale_set r v.word _⟩
  simp only [Config.get_setBits, mask]
  by_cases hf : f = v.word
  · subst hf
    rw [if_pos rfl, if_pos rfl, if_pos rfl, Bits.setBits_setBits]
  · rw [if_neg hf, if_neg hf, Bits.setBits_zero]

/-- Numbers to be written, each to its field. -/
def numberWrites (entries : List (NumField × Int)) : List Write :=
  entries.map fun (f, n) => .number f n

section NumberWrites
variable {entries : List (NumField × Int)} {f : NumField}

theorem locale_numberWrites (r : Config) :
    ((numberWrites entries).foldl Write.apply r).locale = r.locale := by
  induction entries generalizing r with
  | nil => rfl
  | cons e entries ih =>
    have rest := ih (r.set e.1 e.2)
    rwa [Config.locale_set] at rest

theorem get_numberWrites_of_not_mem (hf : f ∉ entries.map Prod.fst) (r : Config) :
    ((numberWrites entries).foldl Write.apply r).get f = r.get f := by
  induction entries generalizing r with
  | nil => rfl
  | cons e entries ih =>
    rw [List.map_cons, List.mem_cons, not_or] at hf
    have rest := ih hf.2 (r.set e.1 e.2)
    rwa [Config.get_set, if_neg hf.1] at rest

theorem get_numberWrites_of_mem (hf : f ∈ entries.map Prod.fst) (p r : Config) :
    ((numberWrites entries).foldl Write.apply p).get f =
      ((numberWrites entries).foldl Write.apply r).get f := by
  induction entries generalizing p r with
  | nil => cases hf
  | cons e entries ih =>
    by_cases later : f ∈ entries.map Prod.fst
    · exact ih later _ _
    · obtain rfl : f = e.1 := (List.mem_cons.mp hf).resolve_right later
      have written (q : Config) :
          ((numberWrites (e :: entries)).foldl Write.apply q).get e.1 = e.2 := by
        have rest := get_numberWrites_of_not_mem later (q.set e.1 e.2)
        rwa [Config.get_set, if_pos rfl] at rest
      rw [written, written]

end NumberWrites

theorem overlay_numbers (entries : List (NumField × Int)) (p r : Config) :
    (numbers (entries.map Prod.fst)).Overlay ((numberWrites entries).foldl Write.apply p) r
      ((numberWrites entries).foldl Write.apply r) := by
  refine ⟨fun f => ?_, locale_numberWrites r⟩
  by_cases hf : f ∈ entries.map Prod.fst
  · rw [mask, if_pos hf, Bits.setBits_neg_one, get_numberWrites_of_mem hf]
  · rw [mask, if_neg hf, Bits.setBits_zero, get_numberWrites_of_not_mem hf]

theorem overlay_locale (l : Locale) (p r : Config) :
    Holding.locale.Overlay { p with locale := l } r { r with locale := l } :=
  ⟨fun _ => (Bits.setBits_zero _ _).symm, rfl⟩

end Holding

namespace Category

def holding : Category → Holding
  | mcc => .numbers [.mcc]
  | mnc => .numbers [.mnc]
  | locale => .locale
  | layoutDirection => .part .layoutDirection
  | smallestScreenWidth => .numbers [.smallestScreenWidthDp]
  | screenWidth => .numbers [.screenWidthDp]
  | screenHeight => .numbers [.screenHeightDp]
  | screenLayoutSize => .part .screenLayoutSize
  | screenLayoutLong => .part .screenLayoutLong
  | screenRound => .part .screenRound
  | wideColorGamut => .part .wideColorGamut
  | hdr => .part .hdr
  | orientation => .numbers [.orientation]
  | uiModeType => .part .uiModeType
  | uiModeNight => .part .uiModeNight
  | density => .numbers [.density]
  | touchscreen => .numbers [.touchscreen]
  | keysHidden => .part .keysHidden
  | keyboard => .numbers [.keyboard]
  | navHidden => .part .navHidden
  | navigation => .numbers [.navigation]
  | pixels => .numbers [.screenWidth, .screenHeight]
  | version => .numbers [.sdkVersion, .minorVersion]

theorem holding_eq_locale_iff {c : Category} : c.holding = .locale ↔ c = locale := by
  cases c <;> simp [holding]

/-- No place of a number is held twice. -/
theorem masks_apart : ∀ b ∈ all, ∀ c ∈ all, b ≠ c → ∀ f ∈ Wire.numbers,
    Bits.conj (b.holding.mask f) (c.holding.mask f) = 0 := by
  decide +kernel

theorem overlay_writes {c : Category} (hc : c ≠ locale) (n : Int) (p r : Config) :
    c.holding.Overlay ((c.writes n).foldl Write.apply p) r ((c.writes n).foldl Write.apply r) := by
  cases c with
  | locale => exact absurd rfl hc
  | mcc => exact Holding.overlay_numbers [(.mcc, n)] p r
  | mnc => exact Holding.overlay_numbers [(.mnc, n)] p r
  | smallestScreenWidth => exact Holding.overlay_numbers [(.smallestScreenWidthDp, n)] p r
  | screenWidth => exact Holding.overlay_numbers [(.screenWidthDp, n)] p r
  | screenHeight => exact Holding.overlay_numbers [(.screenHeightDp, n)] p r
  | orientation => exact Holding.overlay_numbers [(.orientation, n)] p r
  | density => exact Holding.overlay_numbers [(.density, n)] p r
  | touchscreen => exact Holding.overlay_numbers [(.touchscreen, n)] p r
  | keyboard => exact Holding.overlay_numbers [(.keyboard, n)] p r
  | navigation => exact Holding.overlay_numbers [(.navigation, n)] p r
  | pixels => exact Holding.overlay_numbers [(.screenWidth, n), (.screenHeight, n)] p r
  | version => exact Holding.overlay_numbers [(.sdkVersion, n), (.minorVersion, 0)] p r
  | layoutDirection | screenLayoutSize | screenLayoutLong | screenRound | wideColorGamut | hdr
  | uiModeType | uiModeNight | keysHidden | navHidden => exact Holding.overlay_part _ n p r

/-- What a category reads is written to its holding, whatever the configuration is. -/
theorem Reads.overlay {c : Category} {g : List String} {ws : List Write} (h : Reads c g ws)
    (p r : Config) :
    c.holding.Overlay (ws.foldl Write.apply p) r (ws.foldl Write.apply r) := by
  cases h with
  | wildcard hc => exact overlay_writes hc 0 p r
  | word hs hw =>
    refine overlay_writes ?_ _ p r
    rintro rfl
    cases hs
  | number hm hn fits =>
    refine overlay_writes ?_ _ p r
    rintro rfl
    cases hm
  | @pixels _ _ w h =>
    exact Holding.overlay_numbers [(.screenWidth, (w : Int)), (.screenHeight, (h : Int))] p r
  | locale h => exact Holding.overlay_locale _ p r

/-- What some tokens on their own make of the unspecified configuration. -/
def imprint (c : Category) (g : List String) : Config :=
  match c.matcher.attempt g Config.unspecified with
  | .ok (_, q) => q
  | .error _ => Config.unspecified

/-- A group that a category reads is taken when nothing stands behind it. -/
theorem imprint_of_reads {c : Category} {t : String} {g : List String} {ws : List Write}
    (reads : Reads c (t :: g) ws) :
    c.imprint (t :: g) = ws.foldl Write.apply Config.unspecified := by
  have turn := turn c t g
  unfold imprint Matcher.attempt
  generalize c.matcher.recognize (t :: g) = result at turn
  cases turn with
  | @taken _ _ g' left ws' reads' whole' =>
    have same := (Whole.unique reads reads' (whole_nil _ _) whole' (List.append_nil _)).1
    rw [same] at reads
    rw [reads.unique reads']
    rfl
  | passed unread => exact absurd ⟨_, _, reads⟩ unread
  | malformed h => exact absurd ⟨_, _, reads⟩ (not_recognizes_of_malformed h _)

theorem overlay_comm {b c : Category} (hne : b ≠ c) {p q r x y z w : Config}
    (hx : b.holding.Overlay p r x) (hy : c.holding.Overlay q x y)
    (hz : c.holding.Overlay q r z) (hw : b.holding.Overlay p z w) : y = w := by
  apply Config.ext_fields
  · rw [hy.locale, hw.locale, hx.locale, hz.locale]
    by_cases hb : b.holding = .locale
    · have hc : c.holding ≠ .locale := fun hc =>
        hne ((holding_eq_locale_iff.mp hb).trans (holding_eq_locale_iff.mp hc).symm)
      rw [if_neg hc, if_pos hb, if_pos hb]
    · rw [if_neg hb, if_neg hb]
  · intro f
    have apart := masks_apart b b.mem_all c c.mem_all hne f (Wire.mem_numbers f)
    rw [hy.numbers, hw.numbers, hx.numbers, hz.numbers, Bits.setBits_comm apart]

end Category

namespace Call

/-- What is left of the tokens at the place of a call. -/
def rest (a : Call) : List String := a.tokens.drop a.position

/-- The count of tokens taken, or why the call breaks off. -/
def outcome (a : Call) (r : Config) : Except Fault Nat :=
  (a.category.matcher.attempt a.rest r).map Prod.fst

/-- The tokens that a call may take: one, or a bare language with its region. -/
inductive Takes (a : Call) : Nat → Prop
  | one : Takes a 1
  | languageRegion {w t} (locale : a.category = .locale) (front : a.rest.take 2 = [w, t])
      (language : Locale.Reading.isLanguageWord w = true)
      (region : Locale.isRegionToken t = true) : Takes a 2

/-- A call comes out the same for every configuration. -/
theorem outcome_congr (a : Call) (r q : Config) : a.outcome r = a.outcome q := by
  unfold outcome Matcher.attempt
  cases a.category.matcher.recognize a.rest with
  | error f => rfl
  | ok found => cases found <;> rfl

/-- A call within the tokens changes nothing, or overlays what the tokens taken say. -/
theorem cases_inside {a : Call} (inside : a.position < a.tokens.length) (r : Config) :
    (a.after r = r ∧ (a.outcome r = .ok 0 ∨ ∃ e, a.outcome r = .error (.locale e))) ∨
      ∃ n, a.outcome r = .ok n ∧ a.Takes n ∧ a.position + n ≤ a.tokens.length ∧
        a.category.holding.Overlay (a.category.imprint (a.rest.take n)) r (a.after r) := by
  obtain ⟨t, more, -, hd⟩ := drop_of_lt inside
  have hr : a.rest = t :: more := hd
  have attempted : a.after r = match a.category.matcher.attempt (t :: more) r with
      | .ok (_, r') => r'
      | .error _ => r := by
    rw [← hd]
    rfl
  unfold outcome
  rw [attempted, hr]
  rcases attempt_cases a.category t more r with passed | ⟨fault, -, -, broken⟩ |
    ⟨g, left, ws, hg, reads, taken⟩
  · rw [passed]
    exact .inl ⟨rfl, .inl rfl⟩
  · rw [broken]
    exact .inl ⟨rfl, .inr ⟨_, rfl⟩⟩
  · rw [taken]
    have front : (t :: more).take (g.length + 1) = t :: g := by
      rw [hg, List.take_succ_cons, List.take_left]
    refine .inr ⟨g.length + 1, rfl, ?_, ?_, ?_⟩
    · rcases reads.tail with rfl | ⟨locale, language, next, rfl, region⟩
      · exact .one
      · exact .languageRegion locale (by rw [hr]; exact front) language region
    · have length := congrArg List.length hd
      rw [List.length_drop, hg, List.length_cons, List.length_append] at length
      omega
    · rw [front, Category.imprint_of_reads reads]
      exact reads.overlay _ _

/-- Whatever a call does, it does to every configuration alike. -/
theorem after_cases (a : Call) :
    (∀ r, a.after r = r) ∨ ∃ p, ∀ r, a.category.holding.Overlay p r (a.after r) := by
  unfold after Matcher.attempt
  cases found : a.category.matcher.recognize (a.tokens.drop a.position) with
  | error f => exact .inl fun _ => rfl
  | ok o =>
    cases o with
    | none => exact .inl fun _ => rfl
    | some m =>
      obtain ⟨g, reads⟩ := exists_reads_of_recognize found
      exact .inr ⟨_, reads.overlay Config.unspecified⟩

theorem after_comm {a b : Call} (hne : a.category ≠ b.category) (r : Config) :
    b.after (a.after r) = a.after (b.after r) := by
  rcases a.after_cases with idle | ⟨p, hp⟩
  · rw [idle, idle]
  · rcases b.after_cases with idle | ⟨q, hq⟩
    · rw [idle, idle]
    · exact Category.overlay_comm hne (hp r) (hq _) (hq r) (hp _)

end Call

/-- **Attempts keep to what their category holds, and so commute.** An attempt that takes nothing or
breaks off leaves the configuration alone. Any other takes one token, or a bare language with its
region, and overlays the configuration with what these tokens alone write to the holding of its
category. So two attempts of different categories, at any places of any tokens, come to the same
configuration and the same outcomes in either order. -/
theorem attempts_commute :
    (∀ (a : Call) (r : Config), a.position < a.tokens.length →
      (a.after r = r ∧ (a.outcome r = .ok 0 ∨ ∃ e, a.outcome r = .error (.locale e))) ∨
        ∃ n, a.outcome r = .ok n ∧ a.Takes n ∧ a.position + n ≤ a.tokens.length ∧
          a.category.holding.Overlay (a.category.imprint (a.rest.take n)) r (a.after r)) ∧
      ∀ a b : Call, a.category ≠ b.category → ∀ r,
        b.after (a.after r) = a.after (b.after r) ∧
          a.outcome (b.after r) = a.outcome r ∧ b.outcome (a.after r) = b.outcome r := by
  constructor
  · intro a r inside
    exact Call.cases_inside inside r
  · intro a b hne r
    exact ⟨Call.after_comm hne r, a.outcome_congr _ _, b.outcome_congr _ _⟩

/-- Two parts of one word that is full of stray bits. -/
theorem attempts_commute_color_mode :
    let r := { Config.unspecified with colorMode := -1 }
    let a : Call := ⟨.hdr, ["en", "lowdr"], 1⟩
    let b : Call := ⟨.wideColorGamut, ["widecg"], 0⟩
    a.after r = { r with colorMode := -9 } ∧ b.after (a.after r) = { r with colorMode := -10 } ∧
      a.after (b.after r) = { r with colorMode := -10 } ∧ a.position + 1 ≤ a.tokens.length := by
  refine ⟨by rfl, by rfl, ?_, ?_⟩
  · rw [← ((attempts_commute.2 ⟨.hdr, ["en", "lowdr"], 1⟩ ⟨.wideColorGamut, ["widecg"], 0⟩
      (by decide)) _).1]
    rfl
  · rcases attempts_commute.1 ⟨.hdr, ["en", "lowdr"], 1⟩ Config.unspecified (by decide) with
      ⟨-, passed | ⟨e, broken⟩⟩ | ⟨n, taken, -, inside, -⟩
    · cases passed
    · cases broken
    · cases taken
      exact inside

end DeviceQualifier.Descriptor
