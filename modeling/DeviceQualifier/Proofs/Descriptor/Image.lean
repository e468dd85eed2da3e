import DeviceQualifier.Proofs.Descriptor.Invariant
import DeviceQualifier.Proofs.Descriptor.Joined

/-!
Every describable configuration has a descriptor. Network codes come first, so that the language is
at its place even if it is spelled like the wildcard; every other category then says its value, or
that it has none. Only the locale, and the layout direction behind it, can be left out.
-/
namespace DeviceQualifier.Descriptor

open Category (Reads Whole Recognizes)

/-- Text that is a token of a descriptor as it stands. -/
def IsToken (t : String) : Prop :=
  t ≠ "" ∧ t.toList.all (fun c => Locale.isLetterOrDigit c || c == '+') = true

instance (t : String) : Decidable (IsToken t) := inferInstanceAs (Decidable (_ ∧ _))

theorem isToken_iff {t : String} :
    IsToken t ↔ t ≠ "" ∧ ∀ c ∈ t.toList, Locale.isLetterOrDigit c = true ∨ c = '+' := by
  simp [IsToken]

theorem IsToken.piece {t : String} (h : IsToken t) : Piece t := by
  obtain ⟨filled, allowed⟩ := isToken_iff.mp h
  have settled : Text.Settled t.toList := by
    intro c hc
    rcases allowed c hc with plain | rfl
    · exact ⟨Text.ascii_of_isLetterOrDigit plain, Text.toLower_of_isLetterOrDigit plain⟩
    · decide
  refine ⟨filled, fun hm => ?_, Text.lower_settled settled⟩
  rcases allowed '-' hm with plain | same
  · cases plain
  · cases same

theorem isToken_of_plain {t : String} (hne : t ≠ "") (h : Text.Plain t.toList) : IsToken t :=
  isToken_iff.mpr ⟨hne, fun c hc => .inl (h c hc)⟩

theorem isToken_tagOf {ss : List String} (h : ∀ s ∈ ss, Text.Plain s.toList) :
    IsToken (Locale.tagOf ss) := by
  have pieces : ∀ p ∈ ss.map String.toList, ∀ c ∈ p,
      Locale.isLetterOrDigit c = true ∨ c = '+' := by
    intro p hp c hc
    obtain ⟨s, hs, rfl⟩ := List.mem_map.mp hp
    exact .inl (h s hs c hc)
  have inner := Text.forall_mem_intercalate (.inr rfl) pieces
  have spelled : (Locale.tagOf ss).toList =
      'b' :: '+' :: ['+'].intercalate (ss.map String.toList) := by
    simp [Locale.tagOf]
  rw [isToken_iff, spelled]
  refine ⟨fun he => ?_, ?_⟩
  · rw [he] at spelled
    cases spelled
  · exact List.forall_mem_cons.mpr ⟨.inl rfl, List.forall_mem_cons.mpr ⟨.inr rfl, inner⟩⟩

theorem isNumeral_repr (n : Nat) : IsNumeral n.repr n := by
  refine ⟨?_, ?_⟩
  · rw [Nat.toList_repr, isDigits, Bool.and_eq_true, List.all_eq_true]
    exact ⟨fun c hc => Nat.isDigit_of_mem_toDigits (by decide) (by decide) hc, by simp⟩
  · rw [Nat.toList_repr, decimal, Nat.ofDigitChars_ten_toDigits]

theorem plain_of_isDigits {ds : List Char} (h : isDigits ds = true) : Text.Plain ds := by
  intro c hc
  have hd : c.isDigit = true := List.all_eq_true.mp (Bool.and_eq_true_iff.mp h).1 c hc
  rw [Locale.isLetterOrDigit, Text.isDigit_eq, hd, Bool.or_true]

/-- Digits between two marks are a token, and not the wildcard. -/
theorem isToken_number {a ds b : String} (ha : Text.Plain a.toList) (hb : Text.Plain b.toList)
    (h : isDigits ds.toList = true) : IsToken (a ++ ds ++ b) ∧ a ++ ds ++ b ≠ wildcard := by
  obtain ⟨all, filled⟩ := Bool.and_eq_true_iff.mp h
  obtain ⟨c, hc⟩ := List.exists_mem_of_ne_nil ds.toList (by simpa using filled)
  have hd : c.isDigit = true := List.all_eq_true.mp all c hc
  have inside : c ∈ (a ++ ds ++ b).toList := by
    simp [hc]
  refine ⟨isToken_iff.mpr ⟨?_, fun d hm => .inl ?_⟩, ?_⟩
  · intro he
    rw [he] at inside
    cases inside
  · simp only [String.toList_append, List.mem_append] at hm
    rcases hm with (hm | hm) | hm
    · exact ha d hm
    · exact plain_of_isDigits h d hm
    · exact hb d hm
  · intro he
    rw [he] at inside
    have letters : wildcard.toList.all (!·.isDigit) = true := by decide
    have := List.all_eq_true.mp letters c inside
    rw [hd] at this
    cases this

/-- Two runs of digits around the letter x are a token, and not the wildcard. -/
theorem isToken_sides {a b : String} (ha : isDigits a.toList = true)
    (hb : isDigits b.toList = true) : IsToken (a ++ "x" ++ b) ∧ a ++ "x" ++ b ≠ wildcard := by
  have empty : Text.Plain "".toList := fun c hc => absurd hc List.not_mem_nil
  have plain : Text.Plain ("x" ++ b).toList := by
    rw [String.toList_append]
    exact List.forall_mem_cons.mpr ⟨rfl, plain_of_isDigits hb⟩
  simpa [String.append_assoc] using isToken_number empty plain ha

namespace Category

theorem plain_marks : ∀ c ∈ all, ∀ m ∈ c.marks?,
    m.1.toList.all Locale.isLetterOrDigit = true ∧
      m.2.toList.all Locale.isLetterOrDigit = true := by
  decide

theorem isToken_words : ∀ s ∈ Scale.all, ∀ e ∈ s.words, IsToken e.1 := by
  decide +kernel

theorem exists_number {c : Category} {m : String × String} (hm : c.marks? = some m) {n : Nat}
    (fits : n ≤ c.limit) :
    ∃ t, IsToken t ∧ t ≠ wildcard ∧ Reads c [t] (c.writes (c.stored n)) := by
  obtain ⟨ha, hb⟩ := plain_marks c c.mem_all m hm
  obtain ⟨token, ne⟩ := isToken_number (List.all_eq_true.mp ha) (List.all_eq_true.mp hb)
    (isNumeral_repr n).1
  exact ⟨_, token, ne, .number hm (isNumeral_repr n) fits⟩

/-- Outside network codes a number is stored as it is. -/
theorem exists_plain_number {c : Category} {m : String × String} (hm : c.marks? = some m)
    (hc : c ≠ mnc) {n : Int} (h : 0 ≤ n ∧ n ≤ 65535) :
    ∃ t, IsToken t ∧ t ≠ wildcard ∧ Reads c [t] (c.writes n) := by
  obtain ⟨k, rfl⟩ := Int.eq_ofNat_of_zero_le h.1
  have fits : k ≤ c.limit := by
    cases c <;> first | exact absurd rfl hc | (simp only [limit]; omega)
  have stored : c.stored k = k := if_neg fun hs => hc hs.1
  rw [← stored]
  exact exists_number hm fits

theorem exists_network_code {n : Int} (h : 0 ≤ n ∧ n ≤ 65535) :
    ∃ t, IsToken t ∧ Reads mnc [t] (mnc.writes n) := by
  by_cases h0 : n = 0
  · subst h0
    exact ⟨wildcard, by decide, .wildcard (by decide)⟩
  · by_cases hz : n = 65535
    · subst hz
      obtain ⟨t, token, -, reads⟩ := @exists_number mnc _ rfl 0 (by decide)
      exact ⟨t, token, reads⟩
    · obtain ⟨k, rfl⟩ := Int.eq_ofNat_of_zero_le h.1
      obtain ⟨t, token, -, reads⟩ := @exists_number mnc _ rfl k (by simp only [limit]; omega)
      have stored : mnc.stored k = k := if_neg fun hs => h0 (by rw [hs.2]; rfl)
      exact ⟨t, token, stored ▸ reads⟩

theorem exists_word {c : Category} {s : Scale} (hs : c.scale? = some s) {n : Int}
    (hn : n = 0 ∨ n ∈ s.words.map Prod.snd) : ∃ t, IsToken t ∧ Reads c [t] (c.writes n) := by
  rcases hn with rfl | hn
  · refine ⟨wildcard, by decide, .wildcard ?_⟩
    rintro rfl
    cases hs
  · obtain ⟨⟨w, code⟩, hw, rfl⟩ := List.mem_map.mp hn
    exact ⟨w, isToken_words s (mem_all_of_scale? hs) _ hw, .word hs hw⟩

theorem exists_pixels {w h : Int} (range : 0 ≤ h ∧ w ≤ 65535) (order : h ≤ w) :
    ∃ t, IsToken t ∧ Reads pixels [t] [.number .screenWidth w, .number .screenHeight h] := by
  obtain ⟨a, rfl⟩ := Int.eq_ofNat_of_zero_le (Int.le_trans range.1 order)
  obtain ⟨b, rfl⟩ := Int.eq_ofNat_of_zero_le range.1
  exact ⟨a.repr ++ "x" ++ b.repr, (isToken_sides (isNumeral_repr a).1 (isNumeral_repr b).1).1,
    .pixels (isNumeral_repr a) (isNumeral_repr b) (by omega) (by omega)⟩

/-- The value of a configuration that a category has to say. -/
def value (r : Config) : Category → Int
  | mcc => r.mcc
  | mnc => r.mnc
  | layoutDirection => r.view .layoutDirection
  | smallestScreenWidth => r.smallestScreenWidthDp
  | screenWidth => r.screenWidthDp
  | screenHeight => r.screenHeightDp
  | screenLayoutSize => r.view .screenLayoutSize
  | screenLayoutLong => r.view .screenLayoutLong
  | screenRound => r.view .screenRound
  | wideColorGamut => r.view .wideColorGamut
  | hdr => r.view .hdr
  | orientation => r.orientation
  | uiModeType => r.view .uiModeType
  | uiModeNight => r.view .uiModeNight
  | density => r.density
  | touchscreen => r.touchscreen
  | keysHidden => r.view .keysHidden
  | keyboard => r.keyboard
  | navHidden => r.view .navHidden
  | navigation => r.navigation
  | version => r.sdkVersion
  | locale | pixels => 0

def restoring (r : Config) (c : Category) : List Write :=
  match c with
  | locale => [.locale r.locale]
  | pixels => [.number .screenWidth r.screenWidth, .number .screenHeight r.screenHeight]
  | c => c.writes (value r c)

/-- The writes of all categories make a configuration. -/
theorem foldl_restoring {r : Config} (h : r.Describable) :
    (all.flatMap (restoring r)).foldl Write.apply Config.unspecified = r := by
  have word (v : View) := NumField.rebuild v.word (List.mem_map_of_mem v.mem_all) (r.get v.word)
    ((NumField.allows_word v _).mp (h.numbers v.word))
  simp only [all, List.flatMap_cons, List.flatMap_nil, restoring, writes, shown, value,
    List.cons_append, List.nil_append, List.foldl_cons, List.foldl_nil, Write.apply, Config.setBits,
    View.word]
  simp only [Config.set, Config.get, Config.unspecified]
  apply Config.ext_fields
  · rfl
  · intro f
    cases f with
    | screenLayout => exact word .layoutDirection
    | screenLayout2 => exact word .screenRound
    | colorMode => exact word .hdr
    | uiMode => exact word .uiModeNight
    | inputFlags => exact word .navHidden
    | minorVersion =>
      have : r.minorVersion = 0 := h.numbers .minorVersion
      exact this.symm
    | _ => rfl

/-- Every category but the locale has a token that says its value. -/
theorem exists_token {r : Config} (h : r.Describable) {c : Category} (hc : c ≠ locale) :
    ∃ t, IsToken t ∧ Reads c [t] (c.restoring r) := by
  have number {c : Category} {m : String × String} (hm : c.marks? = some m) (hc : c ≠ mnc) {n : Int}
      (range : 0 ≤ n ∧ n ≤ 65535) : ∃ t, IsToken t ∧ Reads c [t] (c.writes n) := by
    obtain ⟨t, token, -, reads⟩ := exists_plain_number hm hc range
    exact ⟨t, token, reads⟩
  have part {c : Category} {s : Scale} (v : View) (hs : c.scale? = some s)
      (spoken : ∀ n ∈ v.codes, n = 0 ∨ n ∈ s.words.map Prod.snd) :
      ∃ t, IsToken t ∧ Reads c [t] (c.writes (r.view v)) :=
    exists_word hs (spoken _ (Config.view_mem_codes h.numbers v))
  have step {c : Category} {s : Scale} {n : Int} {k : Nat} (hs : c.scale? = some s)
      (range : 0 ≤ n ∧ n ≤ k)
      (spoken : ∀ i < k + 1, (i : Int) = 0 ∨ (i : Int) ∈ s.words.map Prod.snd) :
      ∃ t, IsToken t ∧ Reads c [t] (c.writes n) := by
    obtain ⟨i, rfl⟩ := Int.eq_ofNat_of_zero_le range.1
    exact exists_word hs (spoken i (by omega))
  cases c with
  | locale => exact absurd rfl hc
  | mcc => exact number rfl (by decide) (h.numbers .mcc)
  | mnc => exact exists_network_code (h.numbers .mnc)
  | smallestScreenWidth => exact number rfl (by decide) (h.numbers .smallestScreenWidthDp)
  | screenWidth => exact number rfl (by decide) (h.numbers .screenWidthDp)
  | screenHeight => exact number rfl (by decide) (h.numbers .screenHeightDp)
  | density => exact number rfl (by decide) (h.numbers .density)
  | version => exact number rfl (by decide) (h.numbers .sdkVersion)
  | layoutDirection => exact part .layoutDirection rfl (by decide)
  | screenLayoutSize => exact part .screenLayoutSize rfl (by decide)
  | screenLayoutLong => exact part .screenLayoutLong rfl (by decide)
  | screenRound => exact part .screenRound rfl (by decide)
  | wideColorGamut => exact part .wideColorGamut rfl (by decide)
  | hdr => exact part .hdr rfl (by decide)
  | uiModeType => exact part .uiModeType rfl (by decide)
  | uiModeNight => exact part .uiModeNight rfl (by decide)
  | keysHidden => exact part .keysHidden rfl (by decide)
  | navHidden => exact part .navHidden rfl (by decide)
  | orientation => exact step rfl (h.numbers .orientation) (by decide)
  | touchscreen => exact step rfl (h.numbers .touchscreen) (by decide)
  | keyboard => exact step rfl (h.numbers .keyboard) (by decide)
  | navigation => exact step rfl (h.numbers .navigation) (by decide)
  | pixels =>
    have wide : 0 ≤ r.screenWidth ∧ r.screenWidth ≤ 65535 := h.numbers .screenWidth
    have high : 0 ≤ r.screenHeight ∧ r.screenHeight ≤ 65535 := h.numbers .screenHeight
    exact exists_pixels ⟨high.1, wide.2⟩ h.pixels

/-- A described locale has tokens. -/
theorem exists_locale {l : Locale} {w : String} (h : Locale.Described l w) :
    ∃ t g, (∀ u ∈ t :: g, IsToken u) ∧ Reads locale (t :: g) [.locale l] := by
  rcases h.written with ⟨ss, written⟩ | ⟨t, r, hw, ht, plain, rfl⟩
  · obtain ⟨hne, plain⟩ := written.plain
    refine ⟨Locale.tagOf ss, [], ?_, .locale (.tag (Locale.tagBody?_tagOf ss) ?_)⟩
    · intro u hu
      rw [List.mem_singleton.mp hu]
      exact isToken_tagOf plain
    · rwa [Locale.subtags_intercalate plain hne]
  · have word : IsToken w := by
      refine isToken_of_plain ?_ (Locale.plain_of_isLanguageWord hw)
      rintro rfl
      cases hw
    have region : IsToken t := by
      refine isToken_of_plain ?_ plain
      rintro rfl
      cases ht
    exact ⟨w, [t], by simp [word, region], .locale (.wordRegion hw ht)⟩

end Category

/-- The next category takes its token. -/
theorem Scan.next {c : Category} {last : Nat} {t : String} {rest : List String} {ws : List Write}
    {r : Config} {out : Except Rejection Config} (hc : c.number = last + 1) (hl : c ≠ .locale)
    (reads : Reads c [t] ws) (next : Scan (last + 1) rest (ws.foldl Write.apply r) out) :
    Scan last (t :: rest) r out :=
  .take (g := []) (by omega) reads (fun b above below => by omega) (fun he => absurd he hl)
    (reads.leaves r) (hc ▸ next)

/-- A category that owns the token can be reached past others. -/
theorem Scan.past {b c : Category} {last : Nat} {t : String} {rest : List String}
    {ws : List Write} {r : Config} {out : Except Rejection Config} (hb : b.number = last + 1)
    (hc : c ≠ .locale) (apart : b ≠ c) (reads : Reads c [t] ws) (ht : t ≠ wildcard)
    (h : Scan (last + 1) (t :: rest) r out) : Scan last (t :: rest) r out := by
  have hown := Category.owner_of_reads reads ht
  refine h.lower hb ?_ ?_
  · rintro ⟨g, ws', reads'⟩
    exact apart ((Category.owner_of_reads reads' ht).symm.trans hown)
  · rintro - fault ⟨body, hbody, -⟩
    exact hc (hown.symm.trans (Category.owner_of_tag hbody))

/-- What the categories behind `last` have to write. -/
def finish (r : Config) (last : Nat) (q : Config) : Config :=
  ((Category.all.drop last).flatMap (Category.restoring r)).foldl Write.apply q

theorem finish_next {r : Config} {last : Nat} {c : Category} (hc : c.number = last + 1)
    (q : Config) :
    finish r last q = finish r (last + 1) ((Category.restoring r c).foldl Write.apply q) := by
  have hlt : last < Category.all.length := by
    have := c.number_le
    have : Category.all.length = 23 := rfl
    omega
  have found := c.getElem?_number
  rw [hc, Nat.add_sub_cancel, List.getElem?_eq_getElem hlt, Option.some.injEq] at found
  rw [finish, finish, List.drop_eq_getElem_cons hlt, found, List.flatMap_cons, List.foldl_append]

/-- Behind the locale every category can say its value, one after the other. -/
theorem exists_rest {r : Config} (h : r.Describable) {cs : List Category} {last : Nat}
    (hcs : Category.all.drop last = cs) (behind : Category.locale.number ≤ last) :
    ∃ ts, (∀ t ∈ ts, IsToken t) ∧ ∀ q, Scan last ts q (.ok (finish r last q)) := by
  induction cs generalizing last with
  | nil =>
    refine ⟨[], by simp, fun q => ?_⟩
    rw [finish, hcs]
    exact .done
  | cons c cs ih =>
    obtain ⟨hc, hcs⟩ := Category.number_of_drop hcs
    have hl : c ≠ .locale := by
      rintro rfl
      omega
    obtain ⟨t, token, reads⟩ := Category.exists_token h hl
    obtain ⟨ts, tokens, scan⟩ := ih hcs (by omega)
    refine ⟨t :: ts, List.forall_mem_cons.mpr ⟨token, tokens⟩, fun q => ?_⟩
    rw [finish_next hc]
    exact .next hc hl reads (scan _)

/-- The smallest width is always said; no category before it reads its token. -/
theorem exists_behind_direction {r : Config} (h : r.Describable) :
    ∃ ts, (∀ t ∈ ts, IsToken t) ∧
      ∀ q, Scan 4 ts q (.ok (finish r 4 q)) ∧ Scan 2 ts q (.ok (finish r 4 q)) := by
  obtain ⟨t, token, ne, reads⟩ := @Category.exists_plain_number .smallestScreenWidth _ rfl
    (by decide) _ (h.numbers .smallestScreenWidthDp)
  obtain ⟨ts, tokens, scan⟩ := @exists_rest r h _ 5 rfl (by decide)
  refine ⟨t :: ts, List.forall_mem_cons.mpr ⟨token, tokens⟩, fun q => ?_⟩
  have next : Scan 4 (t :: ts) q (.ok (finish r 4 q)) := by
    rw [@finish_next r 4 .smallestScreenWidth rfl]
    exact .next (by rfl) (by decide) reads (scan _)
  have past : Scan 3 (t :: ts) q (.ok (finish r 4 q)) :=
    .past (b := .layoutDirection) (by rfl) (by decide) (by decide) reads ne next
  exact ⟨next, .past (b := .locale) (by rfl) (by decide) (by decide) reads ne past⟩

theorem finish_no_locale {r q : Config} (hr : r.locale = Locale.unspecified)
    (hq : q.locale = Locale.unspecified) : finish r 2 q = finish r 3 q := by
  rw [@finish_next r 2 .locale rfl]
  change finish r 3 { q with locale := r.locale } = finish r 3 q
  rw [hr, ← hq]

theorem finish_no_direction {r q : Config}
    (hr : Category.restoring r .layoutDirection = Category.writes .layoutDirection 0)
    (hq : q.screenLayout = 0) : finish r 3 q = finish r 4 q := by
  rw [@finish_next r 3 .layoutDirection rfl, hr]
  change finish r 4 (q.set .screenLayout (Bits.setBits q.screenLayout 0xC0 0)) = finish r 4 q
  rw [hq, show Bits.setBits 0 0xC0 0 = 0 by decide, ← hq]
  rfl

/-- Behind the network codes the locale is said if there is one, then all the rest. -/
theorem exists_from_locale {r : Config} (h : r.Describable) {q : Config}
    (hl : q.locale = Locale.unspecified) (hs : q.screenLayout = 0) :
    ∃ ts, (∀ t ∈ ts, IsToken t) ∧ Scan 2 ts q (.ok (finish r 2 q)) := by
  obtain ⟨d, direction, reads⟩ := @Category.exists_token r h .layoutDirection (by decide)
  obtain ⟨ts, tokens, scan⟩ := exists_behind_direction h
  have all (q : Config) : Scan 3 (d :: ts) q (.ok (finish r 3 q)) := by
    rw [@finish_next r 3 .layoutDirection rfl]
    exact .next (by rfl) (by decide) reads (scan _).1
  have both : ∀ t ∈ d :: ts, IsToken t := List.forall_mem_cons.mpr ⟨direction, tokens⟩
  rcases h.locale with absent | ⟨w, described⟩
  · rw [finish_no_locale absent hl]
    by_cases hd : d = wildcard
    · -- the wildcard would be read as a language, so the layout direction is left out
      subst hd
      rw [finish_no_direction (reads.unique (.wildcard (by decide))) hs]
      exact ⟨ts, tokens, (scan q).2⟩
    · exact ⟨d :: ts, both, .past (b := .locale) (by rfl) (by decide) (by decide) reads hd (all q)⟩
  · obtain ⟨t, g, group, spelled⟩ := Category.exists_locale described
    refine ⟨t :: (g ++ d :: ts), ?_, ?_⟩
    · intro u hu
      rw [← List.cons_append, List.mem_append] at hu
      exact hu.elim (group u) (both u)
    · rw [@finish_next r 2 .locale rfl]
      refine .take (by decide) spelled (fun b above below => ?_) (fun _ _ next _ _ hn => ?_)
        (spelled.leaves q) (all _)
      · have : Category.locale.number = 3 := rfl
        omega
      · -- no region token stands for a layout direction
        cases hn
        cases hr : Locale.isRegionToken d with
        | false => rfl
        | true => cases Category.eq_locale_of_reads_region reads hr

theorem exists_descriptor {r : Config} (h : r.Describable) : ∃ d, decode d = .ok r := by
  obtain ⟨t, token, reads⟩ := @Category.exists_token r h .mcc (by decide)
  obtain ⟨u, token', reads'⟩ := @Category.exists_token r h .mnc (by decide)
  obtain ⟨ts, tokens, scan⟩ := @exists_from_locale r h
    ((Category.restoring r .mnc).foldl Write.apply
      ((Category.restoring r .mcc).foldl Write.apply Config.unspecified)) rfl rfl
  have made : finish r 0 Config.unspecified = r := Category.foldl_restoring h
  have first := @finish_next r 0 .mcc rfl Config.unspecified
  have second := @finish_next r 1 .mnc rfl
    ((Category.restoring r .mcc).foldl Write.apply Config.unspecified)
  rw [← second.symm.trans (first.symm.trans made)]
  have all := List.forall_mem_cons.mpr ⟨token, List.forall_mem_cons.mpr ⟨token', tokens⟩⟩
  refine ⟨joined (t :: u :: ts), (decode_joined_eq_ok_iff fun v hv => (all v hv).piece).mpr ?_⟩
  exact .next (by rfl) (by decide) reads (.next (by rfl) (by decide) reads' scan)

/-- **The image of decoding.** A configuration has a descriptor just if it is describable. -/
theorem decode_image (r : Config) : (∃ d, decode d = .ok r) ↔ r.Describable := by
  constructor
  · rintro ⟨d, h⟩
    exact describable_of_decode h
  · exact exists_descriptor

end DeviceQualifier.Descriptor
