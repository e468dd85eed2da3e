import DeviceQualifier.Proofs.Descriptor.Image
import DeviceQualifier.Proofs.Descriptor.Parse
import DeviceQualifier.Proofs.Locale.Word

/-!
A locale in other words. Wherever some tokens say a locale, others that say one can stand in their
place, and nothing changes but the locale: `Scan.exchange`. So the two ways to write a language with
its region agree in every descriptor.
-/
namespace DeviceQualifier.Descriptor

open Category (Reads Whole Recognizes)

/-- Tokens that say a locale wherever it is its turn. No category can want the first of them for
itself, what follows adds nothing, and a language in front of them could take at most a part. -/
structure LocaleGroup (t : String) (g after : List String) (l : Locale) : Prop where
  reads : Reads .locale (t :: g) [.locale l]
  named : t ≠ wildcard
  whole : Whole .locale (t :: g) after
  apart : Locale.isRegionToken t = true → g ≠ []

/-- Behind the locale, tokens do not see it and do not change it. -/
theorem Scan.withLocale {last : Nat} {ts : List String} {r q : Config}
    {out : Except Rejection Config} (h : Scan last ts r out) (hq : out = .ok q)
    (behind : Category.locale.number ≤ last) :
    q.locale = r.locale ∧
      ∀ l, Scan last ts { r with locale := l } (.ok { q with locale := l }) := by
  induction h with
  | done =>
    cases hq
    exact ⟨rfl, fun l => .done⟩
  | @take last c t g rest ws r q' out above reads least whole left next ih =>
    obtain rfl := reads.eq_of_leaves left
    have hc : c ≠ .locale := by
      rintro rfl
      omega
    have fits := reads.fits_of_ne_locale hc
    obtain ⟨kept, moved⟩ := ih hq (by omega)
    constructor
    · rw [kept, locale_foldl fits]
    · intro l
      refine .take above reads least whole (reads.leaves _) ?_
      rw [foldl_withLocale fits]
      exact moved l
  | malformed | unread => cases hq

/-- Behind the locale, no token is left that only a locale could want. -/
theorem Scan.owner_ne_locale {last : Nat} {t : String} {more : List String} {r q : Config}
    (h : Scan last (t :: more) r (.ok q)) (behind : Category.locale.number ≤ last)
    (named : t ≠ wildcard) : Category.owner t ≠ .locale := by
  intro ho
  obtain ⟨gs, parse, -⟩ := h.parse rfl
  have above := parse.number_lt_owner List.mem_cons_self named
  rw [ho] at above
  omega

namespace LocaleGroup
variable {t t' : String} {g g' after : List String} {l l' : Locale}

theorem owner (h : LocaleGroup t g after l) : Category.owner t = .locale :=
  Category.owner_of_reads h.reads h.named

/-- Two locales are one too many. -/
theorem not_scan_behind (h : LocaleGroup t g after l) {r q : Config} :
    ¬Scan Category.locale.number (t :: (g ++ after)) r (.ok q) := by
  intro scan
  exact scan.owner_ne_locale (Nat.le_refl _) h.named h.owner

/-- If a language in front takes the first token as its region, another region is left. -/
theorem not_scan_left (h : LocaleGroup t g after l) (first : Locale.isRegionToken t = true)
    {r q : Config} : ¬Scan Category.locale.number (g ++ after) r (.ok q) := by
  intro scan
  rcases h.reads.tail with rfl | ⟨-, -, n, rfl, region⟩
  · exact h.apart first rfl
  · have named : n ≠ wildcard := by
      rintro rfl
      cases region
    exact scan.owner_ne_locale (Nat.le_refl _) named (Category.owner_of_isRegionToken region)

/-- A group at the cursor has its turn, and so has any other. -/
theorem scan_front (old : LocaleGroup t g after l) (new : LocaleGroup t' g' after l')
    {last : Nat} {r q : Config} (h : Scan last (t :: (g ++ after)) r (.ok q)) :
    q.locale = l ∧ Scan last (t' :: (g' ++ after)) r (.ok { q with locale := l' }) := by
  rcases h.step with ⟨c, g₀, rest, ws, q', same, above, reads, least, whole, left, next⟩ |
    ⟨_, _, _, failed⟩ | ⟨_, _, failed⟩
  · have hc : c = .locale := (Category.owner_of_reads reads old.named).symm.trans old.owner
    subst hc
    obtain ⟨rfl, rfl⟩ := Whole.unique old.reads reads old.whole whole same
    cases old.reads.unique reads
    obtain rfl := reads.eq_of_leaves left
    obtain ⟨kept, moved⟩ := next.withLocale rfl (Nat.le_refl _)
    refine ⟨kept, .take above new.reads ?_ new.whole (new.reads.leaves r) (moved l')⟩
    rintro b - below ⟨_, _, reads'⟩
    rw [← Category.owner_of_reads reads' new.named, new.owner] at below
    exact Nat.lt_irrefl _ below
  · cases failed
  · cases failed

end LocaleGroup

/-- **One locale for another.** The induction follows the scan up to the place of the group. What
is taken in front of it does not depend on it, unless that is a language that has no region yet. -/
theorem Scan.exchange {t t' : String} {g g' after : List String} {l l' : Locale}
    (old : LocaleGroup t g after l) (new : LocaleGroup t' g' after l') {last : Nat}
    {before ts : List String} {r q : Config} {out : Except Rejection Config}
    (h : Scan last ts r out) (hts : ts = before ++ t :: (g ++ after)) (hq : out = .ok q) :
    q.locale = l ∧
      Scan last (before ++ t' :: (g' ++ after)) r (.ok { q with locale := l' }) := by
  induction h generalizing before with
  | done => simp at hts
  | @take last c u g₀ rest ws r q' out above reads least whole left next ih =>
    subst hq
    cases before with
    | nil =>
      have here := Scan.take above reads least whole left next
      rw [hts] at here
      exact old.scan_front new here
    | cons p before =>
      obtain ⟨rfl, same⟩ := List.cons.inj hts
      rcases reads.tail with rfl | ⟨rfl, -, n, rfl, region⟩
      · obtain rfl : rest = before ++ t :: (g ++ after) := same
        obtain ⟨kept, moved⟩ := ih rfl rfl
        refine ⟨kept, .take (g := []) above reads least ?_ left moved⟩
        cases before with
        | nil =>
          rintro rfl
          exact absurd next old.not_scan_behind
        | cons b before => exact whole
      · cases before with
        | nil =>
          obtain ⟨rfl, rfl⟩ := List.cons.inj same
          exact absurd next (old.not_scan_left region)
        | cons b before =>
          obtain ⟨rfl, behind⟩ := List.cons.inj same
          obtain ⟨kept, moved⟩ := ih behind rfl
          exact ⟨kept, .take (g := [n]) above reads least (Category.whole_pair _ _ _ _) left moved⟩
  | malformed | unread => cases hq

section Groups
variable {w : String} (hw : Locale.Reading.isLanguageWord w = true) (named : w ≠ wildcard)
include hw named

theorem localeGroup_word {after : List String}
    (alone : ∀ t, after.head? = some t → Locale.isRegionToken t = false)
    (apart : Locale.isRegionToken w = false) :
    LocaleGroup w [] after ⟨some w, none, none, none⟩ where
  reads := .locale (.word hw)
  named := named
  whole := by
    rintro - _ next - - hn
    exact alone next hn
  apart := by
    intro region
    rw [apart] at region
    cases region

theorem localeGroup_wordRegion {s : String} (hs : Locale.IsLetterPair s) (after : List String) :
    LocaleGroup w ["r" ++ s] after ⟨some w, some (Text.upper s), none, none⟩ where
  reads := .locale (.wordRegion hw hs.regionOfToken?)
  named := named
  whole := Category.whole_pair _ _ _ _
  apart := by simp

end Groups

theorem localeGroup_tag {ss : List String} {l : Locale} (h : Locale.Written ss l)
    (after : List String) : LocaleGroup (Locale.tagOf ss) [] after l := by
  obtain ⟨hne, plain⟩ := h.plain
  have body := Locale.tagBody?_tagOf ss
  have written : Locale.Written (Locale.subtags (String.intercalate "+" ss).toList) l := by
    rwa [Locale.subtags_intercalate plain hne]
  refine ⟨.locale (.tag body written), ?_, ?_, ?_⟩
  · intro he
    rw [he] at body
    cases body
  · intro _ w next hg hw
    cases hg
    rw [Locale.not_tag_of_isLanguageWord hw] at body
    cases body
  · intro region
    simp [Locale.isRegionToken, Locale.Reading.regionOfToken?, Locale.tagOf] at region

/-- Both descriptors decode to the same configuration, or both are rejected. -/
def Agree (d d' : String) : Prop :=
  (∃ r, decode d = .ok r ∧ decode d' = .ok r) ∨
    ∃ e f, decode d = .error (.rejected e) ∧ decode d' = .error (.rejected f)

theorem decode_exchange {t t' : String} {g g' before after : List String} {l l' : Locale}
    (old : LocaleGroup t g after l) (new : LocaleGroup t' g' after l')
    (pieces : ∀ u ∈ before ++ t :: (g ++ after), Piece u)
    (pieces' : ∀ u ∈ before ++ t' :: (g' ++ after), Piece u) {q : Config}
    (h : decode (joined (before ++ t :: (g ++ after))) = .ok q) :
    q.locale = l ∧
      decode (joined (before ++ t' :: (g' ++ after))) = .ok { q with locale := l' } := by
  rw [decode_joined_eq_ok_iff pieces']
  exact ((decode_joined_eq_ok_iff pieces).mp h).exchange old new rfl rfl

/-- Groups for the same locale agree wherever they stand. -/
theorem agree_of_groups {t t' : String} {g g' before after : List String} {l : Locale}
    (old : LocaleGroup t g after l) (new : LocaleGroup t' g' after l)
    (pieces : ∀ u ∈ before ++ t :: (g ++ after), Piece u)
    (pieces' : ∀ u ∈ before ++ t' :: (g' ++ after), Piece u) :
    Agree (joined (before ++ t :: (g ++ after))) (joined (before ++ t' :: (g' ++ after))) := by
  by_cases ok : ∃ q, decode (joined (before ++ t :: (g ++ after))) = .ok q
  · obtain ⟨q, hq⟩ := ok
    obtain ⟨rfl, hq'⟩ := decode_exchange old new pieces pieces' hq
    exact .inl ⟨q, hq, hq'⟩
  · have ok' : ¬∃ q, decode (joined (before ++ t' :: (g' ++ after))) = .ok q := by
      rintro ⟨q, hq⟩
      exact ok ⟨_, (decode_exchange new old pieces' pieces hq).2⟩
    obtain ⟨e, he⟩ := rejected_of_not_ok ok
    obtain ⟨f, hf⟩ := rejected_of_not_ok ok'
    exact .inr ⟨e, f, he, hf⟩

theorem pieces_insert {t : String} {g before after : List String}
    (pieces : ∀ u ∈ before ++ after, Piece u) (group : ∀ u ∈ t :: g, Piece u) :
    ∀ u ∈ before ++ t :: (g ++ after), Piece u := by
  intro u hu
  simp only [List.mem_append, List.mem_cons] at pieces group hu
  rcases hu with hu | rfl | hu | hu
  · exact pieces u (.inl hu)
  · exact group _ (.inl rfl)
  · exact group u (.inr hu)
  · exact pieces u (.inr hu)

theorem piece_tagOf {ss : List String} (h : ∀ s ∈ ss, Text.Plain s.toList) :
    Piece (Locale.tagOf ss) :=
  (isToken_tagOf h).piece

theorem piece_of_isLanguageWord {w : String} (h : Locale.Reading.isLanguageWord w = true) :
    Piece w := by
  refine (isToken_of_plain ?_ (Locale.plain_of_isLanguageWord h)).piece
  rintro rfl
  cases h

/-- **A tag says what words say.** A language with its region agrees with the tag of both, wherever
it stands. So does a language alone, unless it looks like a region or a region follows it. -/
theorem spellings_agree {before after : List String} (pieces : ∀ t ∈ before ++ after, Piece t)
    {w : String} (word : Locale.IsRun Locale.isLetter 2 3 w.toList) (other : w ≠ "car")
    (named : w ≠ wildcard) :
    (∀ s, Locale.IsLetterPair s →
        Agree (joined (before ++ w :: ("r" ++ s) :: after))
          (joined (before ++ ("b+" ++ w ++ "+" ++ s) :: after))) ∧
      ((∀ s, Locale.IsLetterPair s → w ≠ "r" ++ s) →
        (∀ s rest, Locale.IsRun Locale.isLetterOrDigit 2 2 s.toList →
          after ≠ ("r" ++ s) :: rest) →
        Agree (joined (before ++ w :: after)) (joined (before ++ ("b+" ++ w) :: after))) := by
  have hw : Locale.Reading.isLanguageWord w = true := Locale.isLanguageWord_iff.mpr ⟨word, other⟩
  have language : Locale.Part.language.accepts w = true :=
    (Locale.Kind.fits_iff (k := .language)).mp word |>.1
  have plain : Text.Plain w.toList := Locale.plain_of_isLanguageWord hw
  constructor
  · intro s hs
    have tag : "b+" ++ w ++ "+" ++ s = Locale.tagOf [w, s] := by
      simp [Locale.tagOf, String.append_assoc]
    have words : ∀ u ∈ [w, "r" ++ s], Piece u := by
      simp [piece_of_isLanguageWord hw, piece_of_isLanguageWord hs.isLanguageWord]
    have written : ∀ u ∈ [Locale.tagOf [w, s]], Piece u := by
      simp [piece_tagOf, plain, hs.plain]
    have agree := agree_of_groups (localeGroup_wordRegion hw named hs after)
      (localeGroup_tag (.region language hs.accepts) after) (pieces_insert pieces words)
      (pieces_insert pieces written)
    rwa [tag]
  · intro notRegion alone
    have tag : "b+" ++ w = Locale.tagOf [w] := by
      simp [Locale.tagOf]
    have apart : Locale.isRegionToken w = false := by
      rw [Bool.eq_false_iff]
      intro region
      obtain ⟨s, hs, he⟩ := Locale.exists_letterPair hw region
      exact notRegion s hs he
    have next : ∀ t, after.head? = some t → Locale.isRegionToken t = false := by
      intro t ht
      rw [Bool.eq_false_iff]
      intro region
      obtain ⟨s, hs, rfl⟩ := Locale.isRegionToken_iff.mp region
      obtain ⟨rest, he⟩ := List.head?_eq_some_iff.mp ht
      exact alone s rest hs he
    have word : ∀ u ∈ [w], Piece u := by
      simp [piece_of_isLanguageWord hw]
    have written : ∀ u ∈ [Locale.tagOf [w]], Piece u := by
      simp [piece_tagOf, plain]
    have agree := agree_of_groups (localeGroup_word hw named next apart)
      (localeGroup_tag (.language language) after) (pieces_insert pieces word)
      (pieces_insert pieces written)
    rwa [tag]

/-- A wildcard for the country in front of a language that could be a region; and a language whose
turn is over, which neither spelling brings back. -/
theorem spellings_agree_early_and_late :
    Agree "any-rus-rgb-land" "any-b+rus+gb-land" ∧ Agree "land-en-v21" "land-b+en-v21" := by
  obtain ⟨early, -⟩ := @spellings_agree ["any"] ["land"] (by decide) "rus" (by decide) (by decide)
    (by decide)
  obtain ⟨-, late⟩ := @spellings_agree ["land"] ["v21"] (by decide) "en" (by decide) (by decide)
    (by decide)
  refine ⟨early "gb" (by decide), late ?_ ?_⟩
  · intro s _ he
    simp [← String.toList_inj] at he
  · intro s rest _ he
    simp [← String.toList_inj] at he

end DeviceQualifier.Descriptor
