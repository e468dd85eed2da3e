import DeviceQualifier.Descriptor.Category
import DeviceQualifier.Proofs.Descriptor.Numeral
import DeviceQualifier.Proofs.Locale.Spelled

/-!
The tokens that a category reads and what it writes for them. `Reads` states this form by form, for
every category at once; the matchers try the forms in an order of their own. `recognize_token` and
`turn` say all that a canonical matcher can do at the cursor.
-/
namespace DeviceQualifier.Descriptor

/-- Digits and the number they stand for. -/
def IsNumeral (s : String) (n : Nat) : Prop := isDigits s.toList = true ∧ decimal s.toList = n

namespace Category

/-- The place of a category in canonical order, counted from one. -/
def number (c : Category) : Nat := all.idxOf c + 1

/-- The scale whose words a category reads. -/
def scale? : Category → Option Scale
  | layoutDirection => some .layoutDir
  | screenLayoutSize => some .screenSize
  | screenLayoutLong => some .screenLong
  | screenRound => some .screenRound
  | wideColorGamut => some .wideColorGamut
  | hdr => some .hdr
  | orientation => some .orientation
  | uiModeType => some .uiModeType
  | uiModeNight => some .uiModeNight
  | density => some .density
  | touchscreen => some .touchscreen
  | keysHidden => some .keysHidden
  | keyboard => some .keyboard
  | navHidden => some .navHidden
  | navigation => some .navigation
  | _ => none

/-- What stands before and after the number of a category. -/
def marks? : Category → Option (String × String)
  | mcc => some ("mcc", "")
  | mnc => some ("mnc", "")
  | smallestScreenWidth => some ("sw", "dp")
  | screenWidth => some ("w", "dp")
  | screenHeight => some ("h", "dp")
  | density => some ("", "dpi")
  | version => some ("v", "")
  | _ => none

/-- The largest number that a category reads. -/
def limit : Category → Nat
  | mnc => 65534
  | _ => 65535

/-- The number that is stored for the one read: network code zero has a stored form of its own. -/
def stored (c : Category) (n : Nat) : Int := if c = mnc ∧ n = 0 then 65535 else n

def shown (v : View) (n : Int) : List Write := [.bits v.word v.mask n]

/-- What a category writes for a value. The wildcard of the two-sided sizes resets both sides, and
every version resets the minor one. -/
def writes (c : Category) (n : Int) : List Write :=
  match c with
  | mcc => [.number .mcc n]
  | mnc => [.number .mnc n]
  | locale => []
  | layoutDirection => shown .layoutDirection n
  | smallestScreenWidth => [.number .smallestScreenWidthDp n]
  | screenWidth => [.number .screenWidthDp n]
  | screenHeight => [.number .screenHeightDp n]
  | screenLayoutSize => shown .screenLayoutSize n
  | screenLayoutLong => shown .screenLayoutLong n
  | screenRound => shown .screenRound n
  | wideColorGamut => shown .wideColorGamut n
  | hdr => shown .hdr n
  | orientation => [.number .orientation n]
  | uiModeType => shown .uiModeType n
  | uiModeNight => shown .uiModeNight n
  | density => [.number .density n]
  | touchscreen => [.number .touchscreen n]
  | keysHidden => shown .keysHidden n
  | keyboard => [.number .keyboard n]
  | navHidden => shown .navHidden n
  | navigation => [.number .navigation n]
  | pixels => [.number .screenWidth n, .number .screenHeight n]
  | version => [.number .sdkVersion n, .number .minorVersion 0]

/-- A group of tokens that a category reads, and what it writes for them. -/
inductive Reads : Category → List String → List Write → Prop
  | wildcard {c} (hc : c ≠ .locale) : Reads c [Descriptor.wildcard] (c.writes 0)
  | word {c s w code} (hs : scale? c = some s) (hw : (w, code) ∈ s.words) :
      Reads c [w] (c.writes code)
  | number {c opening closing ds n} (hm : marks? c = some (opening, closing))
      (hn : IsNumeral ds n) (fits : n ≤ c.limit) :
      Reads c [opening ++ ds ++ closing] (c.writes (c.stored n))
  | pixels {a b w h} (hw : IsNumeral a w) (hh : IsNumeral b h) (fits : w ≤ 65535)
      (order : h ≤ w) :
      Reads .pixels [a ++ "x" ++ b] [.number .screenWidth w, .number .screenHeight h]
  | locale {ts l} (h : Locale.Spelled ts l) : Reads .locale ts [.locale l]

theorem code?_of_mem_words : ∀ s ∈ Scale.all, ∀ e ∈ s.words,
    (vocabulary s).code? e.1 = some e.2 := by
  decide +kernel

theorem join_lookup (l : List (String × Int)) (t : String) :
    ((l.map fun (word, code) => (word, some code)).lookup t).join = l.lookup t := by
  induction l with
  | nil => rfl
  | cons e l ih =>
    rcases e with ⟨word, code⟩
    by_cases ht : t = word
    · simp [ht]
    · have hb : (t == word) = false := beq_false_of_ne ht
      rw [List.map_cons, List.lookup_cons, List.lookup_cons, hb]
      exact ih

theorem mem_of_lookup {l : List (String × Int)} {t : String} {n : Int}
    (h : l.lookup t = some n) : (t, n) ∈ l := by
  obtain ⟨before, after, rfl, -⟩ := List.lookup_eq_some_iff.mp h
  simp

/-- The words of a vocabulary are those of its scale, and the wildcard. -/
theorem code?_vocabulary_iff {s : Scale} (hs : s ∈ Scale.all) {t : String} {code : Int} :
    (vocabulary s).code? t = some code ↔
      (t = wildcard ∧ code = 0) ∨ (t, code) ∈ s.words := by
  constructor
  · intro h
    by_cases ht : t = wildcard
    · rw [Vocabulary.code?, if_pos ht] at h
      exact .inl ⟨ht, (Option.some.inj h).symm⟩
    · rw [Vocabulary.code?, if_neg ht] at h
      exact .inr (mem_of_lookup ((join_lookup _ _).symm.trans h))
  · rintro (⟨rfl, rfl⟩ | h)
    · rfl
    · exact code?_of_mem_words s hs _ h

theorem code?_noWords_iff {t : String} {code : Int} :
    noWords.code? t = some code ↔ t = wildcard ∧ code = 0 := by
  by_cases ht : t = wildcard <;> simp [Vocabulary.code?, noWords, ht, eq_comm]

theorem take_between (first mid last : List Char) :
    (mid ++ last).take ((first ++ (mid ++ last)).length - first.length - last.length) = mid := by
  simp only [List.length_append]
  exact List.take_left' (by omega)

theorem between?_eq_some_iff {opening closing t : String} {cs : List Char} :
    between? opening closing t = some cs ↔
      t.toList = opening.toList ++ (cs ++ closing.toList) := by
  simp only [between?, List.isPrefixOf_iff_prefix, List.isSuffixOf_iff_suffix]
  constructor
  · intro h
    split at h
    · rename_i hb
      obtain ⟨⟨rest, hp⟩, hs⟩ := hb
      rw [← hp, List.drop_left] at hs h
      obtain ⟨inner, rfl⟩ := hs
      rw [take_between, Option.some.injEq] at h
      rw [← hp, h]
    · cases h
  · intro h
    rw [h, List.drop_left, if_pos ⟨List.prefix_append _ _, List.suffix_append _ _⟩, take_between]

/-- A numeric form reads digits between its marks and nothing else. -/
theorem digits?_eq_some_iff {form : NumberForm} {t ds : String} :
    form.digits? t = some ds ↔
      t = form.opening ++ ds ++ form.closing ∧ isDigits ds.toList = true := by
  have spelled : t = form.opening ++ ds ++ form.closing ↔
      between? form.opening form.closing t = some ds.toList := by
    rw [between?_eq_some_iff, ← String.toList_inj, String.toList_append, String.toList_append,
      List.append_assoc]
  rw [spelled, NumberForm.digits?]
  constructor
  · intro h
    split at h
    · rename_i cs hb
      split at h
      · rename_i hd
        cases h
        rw [String.toList_ofList]
        exact ⟨hb, hd⟩
      · cases h
    · cases h
  · rintro ⟨hb, hd⟩
    simp [hb, hd]

theorem number_of_isDigits {ds : String} (h : isDigits ds.toList = true) :
    Rule.number ds = .ok (if decimal ds.toList ≤ 65535 then some (Int.ofNat (decimal ds.toList))
      else none) := by
  rw [Rule.number, ← String.ofList_toList (s := ds), readNumber_of_isDigits h,
    String.ofList_toList]
  rfl

/-- A matcher of a single token either reads it as stated or passes it by. -/
def ReadsToken (c : Category) (t : String) (result : Except Fault (Option (List Write))) : Prop :=
  ∃ o, result = .ok o ∧ ∀ ws, o = some ws ↔ Reads c [t] ws

theorem mem_all_of_scale? {c : Category} {s : Scale} (h : scale? c = some s) : s ∈ Scale.all := by
  cases c <;> cases h <;> simp [Scale.all]

theorem readsToken_named {c : Category} {s : Scale} {target : Target} {w : Int → Write}
    (t : String) (hs : scale? c = some s) (hm : marks? c = none) (hp : c ≠ .pixels)
    (hw : ∀ n, target.write n = .ok (w n)) (hc : ∀ n, c.writes n = [w n]) :
    ReadsToken c t (Rule.recognizeNamed target (vocabulary s) t) := by
  have words {code : Int} : (vocabulary s).code? t = some code ↔
      (t = wildcard ∧ code = 0) ∨ (t, code) ∈ s.words :=
    code?_vocabulary_iff (mem_all_of_scale? hs)
  refine ⟨((vocabulary s).code? t).map fun n => [w n], ?_, fun ws => ⟨fun h => ?_, fun h => ?_⟩⟩
  · rw [Rule.recognizeNamed]
    cases (vocabulary s).code? t with
    | none => rfl
    | some n => simp [Rule.writing, hw, Except.map]
  · obtain ⟨n, hn, rfl⟩ := Option.map_eq_some_iff.mp h
    rw [← hc]
    rcases words.mp hn with ⟨rfl, rfl⟩ | hn
    · refine .wildcard ?_
      rintro rfl
      cases hs
    · exact .word hs hn
  · cases h with
    | wildcard _ => rw [words.mpr (.inl ⟨rfl, rfl⟩), hc, Option.map_some]
    | word hs' hn =>
      cases hs.symm.trans hs'
      rw [words.mpr (.inr hn), hc, Option.map_some]
    | number hm' => rw [hm] at hm'; cases hm'
    | pixels => exact absurd rfl hp
    | locale => cases hs

section Numeric
variable {c : Category} {v : Vocabulary} {form : NumberForm} {t : String}

theorem reads_numeric_iff (hm : marks? c = some (form.opening, form.closing))
    (words : ∀ code, v.code? t = some code ↔
      (t = wildcard ∧ code = 0) ∨ ∃ s, scale? c = some s ∧ (t, code) ∈ s.words)
    {ws : List Write} :
    Reads c [t] ws ↔ (∃ code, v.code? t = some code ∧ ws = c.writes code) ∨
      ∃ ds, form.digits? t = some ds ∧ decimal ds.toList ≤ c.limit ∧
        ws = c.writes (c.stored (decimal ds.toList)) := by
  constructor
  · intro h
    cases h with
    | wildcard => exact .inl ⟨0, (words 0).mpr (.inl ⟨rfl, rfl⟩), rfl⟩
    | word hs hn => exact .inl ⟨_, (words _).mpr (.inr ⟨_, hs, hn⟩), rfl⟩
    | number hm' hn fits =>
      obtain ⟨hd, rfl⟩ := hn
      cases hm.symm.trans hm'
      exact .inr ⟨_, digits?_eq_some_iff.mpr ⟨rfl, hd⟩, fits, rfl⟩
    | pixels => cases hm
    | locale => cases hm
  · rintro (⟨code, hcode, rfl⟩ | ⟨ds, hds, fits, rfl⟩)
    · rcases (words code).mp hcode with ⟨rfl, rfl⟩ | ⟨s, hs, hn⟩
      · refine .wildcard ?_
        rintro rfl
        cases hm
      · exact .word hs hn
    · obtain ⟨rfl, hd⟩ := digits?_eq_some_iff.mp hds
      exact .number hm ⟨hd, rfl⟩ fits

theorem readsToken_numeric {target : Target} {w : Int → Write}
    (hm : marks? c = some (form.opening, form.closing))
    (words : ∀ code, v.code? t = some code ↔
      (t = wildcard ∧ code = 0) ∨ ∃ s, scale? c = some s ∧ (t, code) ∈ s.words)
    (apart : ∀ code, v.code? t = some code → form.digits? t = none)
    (conversion : ∀ n : Nat, n ≤ 65535 →
      form.conversion.apply n = if n ≤ c.limit then some (c.stored n) else none)
    (limit : c.limit ≤ 65535)
    (hw : ∀ n, target.write n = .ok (w n)) (hc : ∀ n, c.writes n = [w n]) :
    ReadsToken c t (Rule.recognizeNumeric target v form t) := by
  unfold ReadsToken Rule.recognizeNumeric
  simp only [reads_numeric_iff hm words]
  cases hcode : v.code? t with
  | some code =>
    refine ⟨some [w code], by simp [Rule.writing, hw, Except.map], fun ws => ?_⟩
    simp [apart code hcode, hc, eq_comm]
  | none =>
    cases hds : form.digits? t with
    | none => exact ⟨none, rfl, by simp⟩
    | some ds =>
      simp only [number_of_isDigits (digits?_eq_some_iff.mp hds).2, Except.bind]
      by_cases fits : decimal ds.toList ≤ c.limit
      · refine ⟨some [w (c.stored (decimal ds.toList))], ?_, by simp [hc, fits, eq_comm]⟩
        rw [if_pos (Nat.le_trans fits limit), Option.bind_some, Int.ofNat_eq_natCast,
          conversion _ (Nat.le_trans fits limit), if_pos fits, Rule.writing, hw]
        rfl
      · refine ⟨none, ?_, by simp [fits]⟩
        by_cases small : decimal ds.toList ≤ 65535
        · rw [if_pos small, Option.bind_some, Int.ofNat_eq_natCast, conversion _ small,
            if_neg fits, Rule.writing]
        · rw [if_neg small, Option.bind_none, Rule.writing]

end Numeric

theorem noWords_iff {c : Category} (hs : scale? c = none) (t : String) (code : Int) :
    noWords.code? t = some code ↔
      (t = wildcard ∧ code = 0) ∨ ∃ s, scale? c = some s ∧ (t, code) ∈ s.words := by
  simp [code?_noWords_iff, hs]

theorem readsToken_version (t : String) : ReadsToken .version t (Rule.recognizeVersion t) := by
  have reads {ws} := @reads_numeric_iff .version noWords Rule.versionForm t rfl
    (noWords_iff rfl t) ws
  unfold ReadsToken Rule.recognizeVersion
  simp only [reads, code?_noWords_iff]
  by_cases ht : t = wildcard
  · subst ht
    refine ⟨_, if_pos rfl, fun ws => ?_⟩
    have hd : Rule.versionForm.digits? wildcard = none := by decide
    simp [hd, writes, eq_comm]
  · rw [if_neg ht]
    cases hds : Rule.versionForm.digits? t with
    | none => exact ⟨none, rfl, by simp [ht]⟩
    | some ds =>
      simp only [number_of_isDigits (digits?_eq_some_iff.mp hds).2]
      by_cases fits : decimal ds.toList ≤ 65535
      · refine ⟨_, rfl, fun ws => ?_⟩
        simp [ht, fits, limit, stored, writes, eq_comm]
      · refine ⟨_, rfl, fun ws => ?_⟩
        simp [ht, fits, limit]

theorem sides?_eq_some_iff {t a b : String} :
    Rule.sides? t = some (a, b) ↔
      t = a ++ "x" ++ b ∧ isDigits a.toList = true ∧ isDigits b.toList = true := by
  constructor
  · intro h
    unfold Rule.sides? at h
    simp only at h
    split at h
    · rename_i height hx
      split at h
      · rename_i hd
        cases h
        rw [String.toList_ofList, String.toList_ofList]
        refine ⟨?_, Bool.and_eq_true_iff.mp hd⟩
        rw [← String.toList_inj]
        have := List.takeWhile_append_dropWhile (p := Char.isDigit) (l := t.toList)
        rw [hx] at this
        simpa using this.symm
      · cases h
    · cases h
  · rintro ⟨rfl, ha, hb⟩
    have digits : ∀ c ∈ a.toList, c.isDigit = true :=
      List.all_eq_true.mp (Bool.and_eq_true_iff.mp ha).1
    have hx : ('x' : Char).isDigit = false := rfl
    simp [Rule.sides?, List.takeWhile_append_of_pos digits, List.dropWhile_append_of_pos digits, hx,
      ha, hb]

theorem reads_pixels_iff {t : String} {ws : List Write} :
    Reads .pixels [t] ws ↔ (t = wildcard ∧ ws = writes .pixels 0) ∨
      ∃ a b, Rule.sides? t = some (a, b) ∧ decimal a.toList ≤ 65535 ∧
        decimal b.toList ≤ decimal a.toList ∧
        ws = [.number .screenWidth (decimal a.toList),
          .number .screenHeight (decimal b.toList)] := by
  constructor
  · intro h
    cases h with
    | wildcard => exact .inl ⟨rfl, rfl⟩
    | word hs => cases hs
    | number hm => cases hm
    | pixels hw hh fits order =>
      obtain ⟨ha, rfl⟩ := hw
      obtain ⟨hb, rfl⟩ := hh
      exact .inr ⟨_, _, sides?_eq_some_iff.mpr ⟨rfl, ha, hb⟩, fits, order, rfl⟩
  · rintro (⟨rfl, rfl⟩ | ⟨a, b, hs, fits, order, rfl⟩)
    · exact .wildcard (by decide)
    · obtain ⟨rfl, ha, hb⟩ := sides?_eq_some_iff.mp hs
      exact .pixels ⟨ha, rfl⟩ ⟨hb, rfl⟩ fits order

theorem readsToken_pixels (t : String) : ReadsToken .pixels t (Rule.recognizePixels t) := by
  unfold ReadsToken Rule.recognizePixels
  simp only [reads_pixels_iff]
  by_cases ht : t = wildcard
  · subst ht
    refine ⟨_, if_pos rfl, fun ws => ?_⟩
    have hs : Rule.sides? wildcard = none := by decide
    simp [hs, writes, eq_comm]
  · rw [if_neg ht]
    cases hs : Rule.sides? t with
    | none => exact ⟨none, rfl, by simp [ht]⟩
    | some sides =>
      obtain ⟨a, b⟩ := sides
      obtain ⟨-, ha, hb⟩ := sides?_eq_some_iff.mp hs
      simp only [number_of_isDigits ha, number_of_isDigits hb, bind, Except.bind]
      by_cases wide : decimal a.toList ≤ 65535
      · by_cases order : decimal b.toList ≤ decimal a.toList
        · have high : decimal b.toList ≤ 65535 := Nat.le_trans order wide
          have kept : ¬(Int.ofNat (decimal a.toList) < Int.ofNat (decimal b.toList)) := by
            simp only [Int.ofNat_eq_natCast]
            omega
          simp only [if_pos wide, if_pos high, if_neg kept]
          refine ⟨_, rfl, fun ws => ⟨fun h => ?_, ?_⟩⟩
          · exact .inr ⟨a, b, rfl, wide, order, (Option.some.inj h).symm⟩
          · rintro (⟨rfl, -⟩ | ⟨_, _, h, -, -, rfl⟩)
            · exact absurd rfl ht
            · cases h
              rfl
        · refine ⟨none, ?_, by simp [ht, order]⟩
          by_cases high : decimal b.toList ≤ 65535
          · have turned : Int.ofNat (decimal a.toList) < Int.ofNat (decimal b.toList) := by
              simp only [Int.ofNat_eq_natCast]
              omega
            simp only [if_pos wide, if_pos high, if_pos turned]
          · simp only [if_pos wide, if_neg high]
      · refine ⟨none, ?_, by simp [ht, wide]⟩
        simp only [if_neg wide]

/-- No word for a density is the number form of one. -/
theorem digits?_density :
    ∀ e ∈ Scale.density.words, (⟨"", "dpi", .plain⟩ : NumberForm).digits? e.1 = none := by
  decide

/-- All that the matcher of a single token can do: it reads its first token as stated, or passes it
by. -/
theorem recognize_token {c : Category} (hc : c ≠ .locale) (t : String) (rest : List String) :
    ∃ o : Option (List Write), c.matcher.recognize (t :: rest) = .ok (o.map fun ws => ⟨1, ws⟩) ∧
      ∀ ws, o = some ws ↔ Reads c [t] ws := by
  have one {result} (h : ReadsToken c t result) : ∃ o : Option (List Write),
      result.map (fun o => o.map fun ws => (⟨1, ws⟩ : Match)) = .ok (o.map fun ws => ⟨1, ws⟩) ∧
        ∀ ws, o = some ws ↔ Reads c [t] ws := by
    obtain ⟨o, rfl, h⟩ := h
    exact ⟨o, rfl, h⟩
  cases c with
  | locale => exact absurd rfl hc
  | pixels => exact one (readsToken_pixels t)
  | version => exact one (readsToken_version t)
  | mcc | smallestScreenWidth | screenWidth | screenHeight =>
    refine one (readsToken_numeric rfl (noWords_iff rfl t) (fun code hcode => ?_)
      (fun n hn => by simp [Conversion.apply, limit, stored, hn]) (Nat.le_refl _) (fun _ => rfl)
      (fun _ => rfl))
    obtain ⟨rfl, -⟩ := code?_noWords_iff.mp hcode
    decide
  | mnc =>
    refine one (readsToken_numeric rfl (noWords_iff rfl t) (fun code hcode => ?_)
      (fun n hn => ?_) (by decide) (fun _ => rfl) (fun _ => rfl))
    · obtain ⟨rfl, -⟩ := code?_noWords_iff.mp hcode
      decide
    · simp only [Conversion.apply, largest, limit, stored]
      grind
  | density =>
    refine one (readsToken_numeric rfl (fun code => ?_) (fun code hcode => ?_)
      (fun n hn => by simp [Conversion.apply, limit, stored, hn]) (Nat.le_refl _) (fun _ => rfl)
      (fun _ => rfl))
    · simp [code?_vocabulary_iff (s := .density) (by simp [Scale.all]), scale?]
    · rcases (code?_vocabulary_iff (s := .density) (by simp [Scale.all])).mp hcode with
        ⟨rfl, -⟩ | hw
      · decide
      · exact digits?_density _ hw
  | layoutDirection | screenLayoutSize | screenLayoutLong | screenRound | wideColorGamut | hdr
  | orientation | uiModeType | uiModeNight | touchscreen | keysHidden | keyboard | navHidden
  | navigation =>
    exact one (readsToken_named t rfl rfl (by decide) (fun _ => rfl) (fun _ => rfl))

/-- Some group that a category reads starts with the token. -/
def Recognizes (c : Category) (t : String) : Prop := ∃ g ws, Reads c (t :: g) ws

/-- A bare language is read together with a region token right behind it. -/
def Whole (c : Category) (g rest : List String) : Prop :=
  c = .locale → ∀ w next, g = [w] → Locale.Reading.isLanguageWord w = true →
    rest.head? = some next → Locale.isRegionToken next = false

/-- A group stays whole in front of other tokens that start with the same one or do not start. -/
theorem Whole.congr {c : Category} {g rest rest' : List String} (h : Whole c g rest)
    (front : ∀ next, rest'.head? = some next → rest.head? = some next) : Whole c g rest' := by
  intro hc w next hg hw hn
  exact h hc w next hg hw (front next hn)

theorem whole_nil (c : Category) (g : List String) : Whole c g [] := by
  intro _ _ _ _ _ hn
  cases hn

theorem whole_pair (c : Category) (w t : String) (rest : List String) : Whole c [w, t] rest := by
  intro _ _ _ hg
  cases hg

/-- What becomes of the tokens at the turn of a category. -/
inductive Turn : Category → List String → Except Fault (Option Match) → Prop
  | taken {c t g rest ws} (reads : Reads c (t :: g) ws) (whole : Whole c (t :: g) rest) :
      Turn c (t :: (g ++ rest)) (.ok (some ⟨g.length + 1, ws⟩))
  | passed {c t rest} (unread : ¬Recognizes c t)
      (sound : c = .locale → ∀ fault, ¬Locale.Malformed t fault) :
      Turn c (t :: rest) (.ok none)
  | malformed {t rest fault} (h : Locale.Malformed t fault) :
      Turn .locale (t :: rest) (.error (.locale ⟨t, fault⟩))

/-- A group is one token, or a bare language with its region token. -/
theorem Reads.tail {c : Category} {t : String} {g : List String} {ws : List Write}
    (h : Reads c (t :: g) ws) :
    g = [] ∨ c = .locale ∧ Locale.Reading.isLanguageWord t = true ∧
      ∃ next, g = [next] ∧ Locale.isRegionToken next = true := by
  cases h with
  | wildcard | word | number | pixels => exact .inl rfl
  | locale h =>
    cases h with
    | word | tag => exact .inl rfl
    | wordRegion hw ht => exact .inr ⟨rfl, hw, _, rfl, by simp [Locale.isRegionToken, ht]⟩

/-- Two whole groups at the front of the same tokens are the same. -/
theorem Whole.unique {c : Category} {t : String} {g g' rest rest' : List String}
    {ws ws' : List Write} (h : Reads c (t :: g) ws) (h' : Reads c (t :: g') ws')
    (whole : Whole c (t :: g) rest) (whole' : Whole c (t :: g') rest')
    (same : g ++ rest = g' ++ rest') : g = g' ∧ rest = rest' := by
  rcases h.tail with rfl | ⟨hc, hw, next, rfl, hn⟩ <;>
    rcases h'.tail with rfl | ⟨hc', hw', next', rfl, hn'⟩
  · exact ⟨rfl, same⟩
  · have := whole hc' t next' rfl hw' (by rw [← List.nil_append rest, same]; rfl)
    rw [hn'] at this
    cases this
  · have := whole' hc t next rfl hw (by rw [← List.nil_append rest', ← same]; rfl)
    rw [hn] at this
    cases this
  · simp only [List.cons_append, List.nil_append, List.cons.injEq] at same
    exact ⟨by rw [same.1], same.2⟩

theorem recognizeLocale_of_ok {ts : List String} {n : Nat} {l : Locale}
    (h : (Locale.Reading.ofTokens ts).outcome = .ok (n + 1) ∧
      (Locale.Reading.ofTokens ts).onto Locale.unspecified = l) :
    Rule.recognizeLocale ts = .ok (some ⟨n + 1, [.locale l]⟩) := by
  simp only [Rule.recognizeLocale, h.1, h.2]

theorem not_recognizes_locale {t : String} (ht : Locale.tagBody? t = none)
    (hw : Locale.Reading.isLanguageWord t = false) : ¬Recognizes .locale t := by
  rintro ⟨g, ws, h⟩
  cases h with
  | wildcard hc => exact hc rfl
  | word hs => cases hs
  | number hm => cases hm
  | locale h =>
    cases h with
    | word hw' | wordRegion hw' => rw [hw] at hw'; cases hw'
    | tag ht' => rw [ht] at ht'; cases ht'

theorem turn_locale (t : String) (rest : List String) :
    Turn .locale (t :: rest) ((matcher .locale).recognize (t :: rest)) := by
  change Turn .locale (t :: rest) (Rule.recognizeLocale (t :: rest))
  cases ht : Locale.tagBody? t with
  | some body =>
    rcases Locale.written_or_malformed ht with ⟨l, hl⟩ | ⟨fault, hf⟩
    · rw [recognizeLocale_of_ok (Locale.Reading.ofTokens_of_written ht hl)]
      refine .taken (g := []) (.locale (.tag ht hl)) fun _ w next hw hl => ?_
      cases hw
      rw [Locale.not_tag_of_isLanguageWord hl] at ht
      cases ht
    · simp only [Rule.recognizeLocale, Locale.Reading.ofTokens_of_malformed hf]
      exact .malformed hf
  | none =>
    cases hw : Locale.Reading.isLanguageWord t with
    | false =>
      simp only [Rule.recognizeLocale, Locale.Reading.ofTokens_absent ht hw]
      refine .passed (not_recognizes_locale ht hw) fun _ fault hf => ?_
      obtain ⟨body, hb, -⟩ := hf
      rw [ht] at hb
      cases hb
    | true =>
      cases hr : rest.head?.bind Locale.Reading.regionOfToken? with
      | none =>
        rw [recognizeLocale_of_ok (Locale.Reading.ofTokens_word hw hr)]
        refine .taken (g := []) (.locale (.word hw)) fun _ w next _ _ hn => ?_
        rw [hn, Option.bind_some] at hr
        simp [Locale.isRegionToken, hr]
      | some r =>
        obtain ⟨next, hn, hr⟩ := Option.bind_eq_some_iff.mp hr
        obtain ⟨rest', rfl⟩ := List.head?_eq_some_iff.mp hn
        rw [recognizeLocale_of_ok (Locale.Reading.ofTokens_wordRegion hw hr)]
        exact .taken (g := [next]) (.locale (.wordRegion hw hr)) (whole_pair _ _ _ _)

/-- Every turn of a canonical matcher. -/
theorem turn (c : Category) (t : String) (rest : List String) :
    Turn c (t :: rest) (c.matcher.recognize (t :: rest)) := by
  by_cases hc : c = .locale
  · subst hc
    exact turn_locale t rest
  · obtain ⟨o, ho, hr⟩ := recognize_token hc t rest
    rw [ho]
    cases o with
    | none =>
      refine .passed ?_ (fun he => absurd he hc)
      rintro ⟨g, ws, h⟩
      obtain rfl : g = [] := h.tail.resolve_right fun hl => hc hl.1
      cases (hr ws).mpr h
    | some ws => exact .taken (g := []) ((hr ws).mp rfl) (fun he => absurd he hc)

/-- The tokens of a group settle what is written for them. -/
theorem Reads.unique {c : Category} {g : List String} {ws ws' : List Write} (h : Reads c g ws)
    (h' : Reads c g ws') : ws = ws' := by
  by_cases hc : c = .locale
  · subst hc
    cases h with
    | wildcard hc => exact absurd rfl hc
    | word hs => cases hs
    | number hm => cases hm
    | locale h =>
      cases h' with
      | wildcard hc => exact absurd rfl hc
      | word hs => cases hs
      | number hm => cases hm
      | locale h' => rw [h.unique h']
  · cases g with
    | nil => cases h with | locale h => cases h
    | cons t g =>
      obtain rfl : g = [] := h.tail.resolve_right fun hl => hc hl.1
      obtain ⟨o, -, hr⟩ := recognize_token hc t []
      exact Option.some.inj (((hr ws).mpr h).symm.trans ((hr ws').mpr h'))

end Category
end DeviceQualifier.Descriptor
