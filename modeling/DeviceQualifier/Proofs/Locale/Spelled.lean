import DeviceQualifier.Locale.Reading
import DeviceQualifier.Proofs.Text.Plain

/-!
What the tokens of a locale spell, stated without the order in which a reading goes about it. A tag
is read by the shape of its subtags: the shapes are listed one by one in `Written`, and
`Written.met` and `written_of_met` say that these and no others are accepted.
-/
namespace DeviceQualifier.Locale

/-- A variant right after the language: with four characters it is one only if it starts with a
digit, and a script otherwise. -/
def StandsAlone (v : String) : Prop :=
  v.toList.length = 4 → (v.toList.head?.map isDigit).getD false = true

/-- The subtags of a tag and the locale they write. Language and variant are kept as they are,
regions in upper case, and scripts capitalized; of two regions the last one counts. -/
inductive Written : List String → Locale → Prop
  | language {l} (hl : Part.language.accepts l) : Written [l] ⟨some l, none, none, none⟩
  | region {l r} (hl : Part.language.accepts l) (hr : Part.region.accepts r) :
      Written [l, r] ⟨some l, some (Text.upper r), none, none⟩
  | script {l s} (hl : Part.language.accepts l) (hs : Part.script.accepts s) :
      Written [l, s] ⟨some l, none, some (Text.capitalize s), none⟩
  | variant {l v} (hl : Part.language.accepts l) (hv : Part.variant.accepts v)
      (alone : StandsAlone v) : Written [l, v] ⟨some l, none, none, some v⟩
  | scriptRegion {l s r} (hl : Part.language.accepts l) (hs : Part.script.accepts s)
      (hr : Part.region.accepts r) :
      Written [l, s, r] ⟨some l, some (Text.upper r), some (Text.capitalize s), none⟩
  | scriptVariant {l s v} (hl : Part.language.accepts l) (hs : Part.script.accepts s)
      (hv : Part.variant.accepts v) :
      Written [l, s, v] ⟨some l, none, some (Text.capitalize s), some v⟩
  | regionVariant {l r v} (hl : Part.language.accepts l) (hr : Part.region.accepts r)
      (hv : Part.variant.accepts v) :
      Written [l, r, v] ⟨some l, some (Text.upper r), none, some v⟩
  | regions {l r q} (hl : Part.language.accepts l) (hr : Part.region.accepts r)
      (hq : Part.region.accepts q) :
      Written [l, r, q] ⟨some l, some (Text.upper q), none, none⟩
  | full {l s r v} (hl : Part.language.accepts l) (hs : Part.script.accepts s)
      (hr : Part.region.accepts r) (hv : Part.variant.accepts v) :
      Written [l, s, r, v] ⟨some l, some (Text.upper r), some (Text.capitalize s), some v⟩

namespace Part

theorem plain_of_accepts {p : Part} {s : String} (h : p.accepts s = true) :
    Text.Plain s.toList := by
  cases p with
  | language =>
    simp only [accepts, isLanguage, Bool.and_eq_true] at h
    exact Text.plain_of_letters h.1
  | region =>
    simp only [accepts, Bool.or_eq_true, Bool.and_eq_true] at h
    rcases h with h | h
    · exact Text.plain_of_letters h.1
    · exact Text.plain_of_digits h.1
  | script =>
    simp only [accepts, Bool.and_eq_true] at h
    exact Text.plain_of_letters h.1
  | variant =>
    simp only [accepts, Bool.and_eq_true] at h
    exact List.all_eq_true.mp h.1.1

/-- The lengths of the subtags of a kind. -/
def HasLength (p : Part) (n : Nat) : Prop :=
  match p with
  | language | region => n = 2 ∨ n = 3
  | script => n = 4
  | variant => 4 ≤ n ∧ n ≤ 8

theorem length_of_accepts {p : Part} {s : String} (h : p.accepts s = true) :
    p.HasLength s.toList.length := by
  cases p <;>
    simp only [accepts, isLanguage, Bool.or_eq_true, Bool.and_eq_true, beq_iff_eq,
      decide_eq_true_eq] at h <;>
    simp only [HasLength] <;> omega

theorem ne_empty_of_accepts {p : Part} {s : String} (h : p.accepts s = true) : s ≠ "" := by
  rintro rfl
  have := length_of_accepts h
  cases p <;> simp [HasLength] at this

theorem spell_language {s : String} (h : language.accepts s = true) : language.spell s = s := by
  have hs := plain_of_accepts h
  rw [spell, Text.trim_plain hs, Text.lower_plain hs]

theorem spell_region {s : String} (h : region.accepts s = true) :
    region.spell s = Text.upper s := by
  rw [spell, Text.trim_plain (plain_of_accepts h)]

theorem spell_script (s : String) : script.spell s = Text.capitalize s := rfl

theorem spell_variant {s : String} (h : variant.accepts s = true) : variant.spell s = s := by
  rw [spell, Text.trim_plain (plain_of_accepts h)]

end Part

theorem meet_kind {p : Part} {s : String} {ds : List Demand} (h : p.accepts s = true) :
    meet (.kind p s :: ds) = ((p, s) :: (meet ds).1, (meet ds).2) := by
  rw [meet, if_pos h]

theorem meet_cons_eq_none {d : Demand} {ds : List Demand} {stored : List (Part × String)}
    (h : meet (d :: ds) = (stored, none)) :
    ∃ p s rest, d = .kind p s ∧ p.accepts s = true ∧ stored = (p, s) :: rest ∧
      meet ds = (rest, none) := by
  cases d with
  | refuse fault => simp [meet] at h
  | kind p s =>
    cases ha : p.accepts s with
    | false => simp [meet, ha] at h
    | true =>
      simp only [meet_kind ha, Prod.mk.injEq] at h
      exact ⟨p, s, (meet ds).1, rfl, ha, h.1.symm, Prod.ext rfl h.2⟩

theorem meet_nil_eq_none {stored : List (Part × String)} (h : meet [] = (stored, none)) :
    stored = [] :=
  (congrArg Prod.fst h).symm

theorem tagBody?_append (body : String) : tagBody? ("b+" ++ body) = some body.toList := by
  simp [tagBody?]

theorem not_isDigit_of_isLetter {c : Char} (h : isLetter c = true) : isDigit c = false :=
  Text.forall_ascii (P := fun c => isLetter c = true → isDigit c = false) (by decide)
    (Text.ascii_of_isLetter h) h

theorem demandSecond_eq_kind {b x : String} {p : Part} (h : demandSecond b = .kind p x) :
    x = b ∧ (p = .region ∨ p = .script ∨ p = .variant ∧ StandsAlone b) := by
  unfold demandSecond at h
  simp only at h
  split at h
  · cases h
    exact ⟨rfl, .inl rfl⟩
  · split at h
    · cases h
      exact ⟨rfl, .inr (.inl rfl)⟩
    · rename_i hs
      split at h
      · cases h
        refine ⟨rfl, .inr (.inr ⟨rfl, fun h4 => ?_⟩)⟩
        simpa [h4] using hs
      · cases h

theorem demandMiddle_eq_kind {b x : String} {p : Part} (h : demandMiddle b = .kind p x) :
    x = b ∧ (p = .script ∨ p = .region) := by
  unfold demandMiddle at h
  simp only at h
  split at h
  · cases h
    exact ⟨rfl, .inl rfl⟩
  · split at h <;> cases h
    exact ⟨rfl, .inr rfl⟩

theorem demandLast_eq_kind {b x : String} {p : Part} (h : demandLast b = .kind p x) :
    x = b ∧ (p = .variant ∨ p = .region) := by
  unfold demandLast at h
  split at h <;> cases h
  · exact ⟨rfl, .inl rfl⟩
  · exact ⟨rfl, .inr rfl⟩

theorem demandSecond_region {r : String} (h : Part.region.accepts r = true) :
    demandSecond r = .kind .region r :=
  if_pos (Part.length_of_accepts h)

theorem demandSecond_script {s : String} (h : Part.script.accepts s = true) :
    demandSecond s = .kind .script s := by
  have h4 : s.toList.length = 4 := Part.length_of_accepts h
  simp only [Part.accepts, Bool.and_eq_true] at h
  have hd : (s.toList.head?.map isDigit).getD false = false := by
    cases hs : s.toList with
    | nil => rfl
    | cons c cs =>
      exact not_isDigit_of_isLetter (List.all_eq_true.mp h.1 c (hs ▸ List.mem_cons_self))
  simp [demandSecond, h4, hd]

theorem demandSecond_variant {v : String} (h : Part.variant.accepts v = true)
    (alone : StandsAlone v) : demandSecond v = .kind .variant v := by
  have hn : 4 ≤ v.toList.length ∧ v.toList.length ≤ 8 := Part.length_of_accepts h
  have hs : ¬(v.toList.length = 4 ∧ (!(v.toList.head?.map isDigit).getD false) = true) := by
    rintro ⟨h4, hd⟩
    rw [alone h4] at hd
    cases hd
  unfold demandSecond
  simp only
  rw [if_neg (by omega), if_neg hs, if_pos hn]

theorem demandMiddle_script {s : String} (h : Part.script.accepts s = true) :
    demandMiddle s = .kind .script s :=
  if_pos (Part.length_of_accepts h)

theorem demandMiddle_region {r : String} (h : Part.region.accepts r = true) :
    demandMiddle r = .kind .region r := by
  have hn : r.toList.length = 2 ∨ r.toList.length = 3 := Part.length_of_accepts h
  unfold demandMiddle
  simp only
  rw [if_neg (by omega), if_pos hn]

theorem demandLast_variant {v : String} (h : Part.variant.accepts v = true) :
    demandLast v = .kind .variant v := by
  have hn : 4 ≤ v.toList.length ∧ v.toList.length ≤ 8 := Part.length_of_accepts h
  exact if_pos hn.1

theorem demandLast_region {r : String} (h : Part.region.accepts r = true) :
    demandLast r = .kind .region r := by
  have hn : r.toList.length = 2 ∨ r.toList.length = 3 := Part.length_of_accepts h
  exact if_neg (by omega)

/-- The locale that some subtags leave behind. -/
def stores (stored : List (Part × String)) : Locale :=
  stored.foldl (fun l e => l.store e.1 e.2) unspecified

/-- Every subtag of a written locale is accepted as some part. -/
theorem Written.accepted {subtags : List String} {l : Locale} (h : Written subtags l) :
    ∀ s ∈ subtags, ∃ p : Part, p.accepts s = true := by
  intro s hs
  cases h <;> simp only [List.mem_cons, List.not_mem_nil, or_false] at hs <;> grind

theorem Written.filled {subtags : List String} {l : Locale} (h : Written subtags l) :
    ¬subtags.any (· == "") = true := by
  rw [List.any_eq_true]
  rintro ⟨s, hs, he⟩
  obtain ⟨p, hp⟩ := h.accepted s hs
  exact Part.ne_empty_of_accepts hp (beq_iff_eq.mp he)

/-- Subtags that are accepted as what they have to be are all stored. -/
theorem meet_kinds {ds : List Demand} {stored : List (Part × String)}
    (hd : ds = stored.map fun e => .kind e.1 e.2) (h : ∀ e ∈ stored, e.1.accepts e.2 = true) :
    meet ds = (stored, none) := by
  subst hd
  induction stored with
  | nil => rfl
  | cons e rest ih =>
    have he := h e List.mem_cons_self
    have hr := ih fun f hf => h f (List.mem_cons_of_mem _ hf)
    rw [List.map_cons, meet, if_pos he, hr]

/-- The subtags of a written locale meet all demands. -/
theorem Written.met {subtags : List String} {l : Locale} (h : Written subtags l) :
    ∃ stored, meet (demands subtags) = (stored, none) ∧ l = stores stored := by
  have filled := h.filled
  unfold demands
  rw [if_neg filled]
  cases h with
  | @language a ha =>
    refine ⟨[(.language, a)], meet_kinds rfl (by simp [ha]), ?_⟩
    simp [stores, store, setPart, unspecified, Part.spell_language ha]
  | @region a r ha hr =>
    refine ⟨[(.language, a), (.region, r)], ?_, ?_⟩
    · simp only [demandSecond_region hr]
      exact meet_kinds rfl (by simp [ha, hr])
    · simp [stores, store, setPart, unspecified, Part.spell_language ha, Part.spell_region hr]
  | @script a s ha hs =>
    refine ⟨[(.language, a), (.script, s)], ?_, ?_⟩
    · simp only [demandSecond_script hs]
      exact meet_kinds rfl (by simp [ha, hs])
    · simp [stores, store, setPart, unspecified, Part.spell_language ha, Part.spell_script]
  | @variant a v ha hv alone =>
    refine ⟨[(.language, a), (.variant, v)], ?_, ?_⟩
    · simp only [demandSecond_variant hv alone]
      exact meet_kinds rfl (by simp [ha, hv])
    · simp [stores, store, setPart, unspecified, Part.spell_language ha, Part.spell_variant hv]
  | @scriptRegion a s r ha hs hr =>
    refine ⟨[(.language, a), (.script, s), (.region, r)], ?_, ?_⟩
    · simp only [demandMiddle_script hs, demandLast_region hr]
      exact meet_kinds rfl (by simp [ha, hs, hr])
    · simp [stores, store, setPart, unspecified, Part.spell_language ha, Part.spell_script,
        Part.spell_region hr]
  | @scriptVariant a s v ha hs hv =>
    refine ⟨[(.language, a), (.script, s), (.variant, v)], ?_, ?_⟩
    · simp only [demandMiddle_script hs, demandLast_variant hv]
      exact meet_kinds rfl (by simp [ha, hs, hv])
    · simp [stores, store, setPart, unspecified, Part.spell_language ha, Part.spell_script,
        Part.spell_variant hv]
  | @regionVariant a r v ha hr hv =>
    refine ⟨[(.language, a), (.region, r), (.variant, v)], ?_, ?_⟩
    · simp only [demandMiddle_region hr, demandLast_variant hv]
      exact meet_kinds rfl (by simp [ha, hr, hv])
    · simp [stores, store, setPart, unspecified, Part.spell_language ha, Part.spell_region hr,
        Part.spell_variant hv]
  | @regions a r q ha hr hq =>
    refine ⟨[(.language, a), (.region, r), (.region, q)], ?_, ?_⟩
    · simp only [demandMiddle_region hr, demandLast_region hq]
      exact meet_kinds rfl (by simp [ha, hr, hq])
    · simp [stores, store, setPart, unspecified, Part.spell_language ha, Part.spell_region hq]
  | @full a s r v ha hs hr hv =>
    refine ⟨[(.language, a), (.script, s), (.region, r), (.variant, v)], ?_, ?_⟩
    · exact meet_kinds rfl (by simp [ha, hs, hr, hv])
    · simp [stores, store, setPart, unspecified, Part.spell_language ha, Part.spell_script,
        Part.spell_region hr, Part.spell_variant hv]

/-- Subtags whose demands are all met write the locale they leave behind. -/
theorem written_of_met {subtags : List String} {stored : List (Part × String)}
    (h : meet (demands subtags) = (stored, none)) : Written subtags (stores stored) := by
  unfold demands at h
  split at h
  · simp [meet] at h
  · split at h
    · rename_i a _
      obtain ⟨_, _, _, hd, ha, rfl, h'⟩ := meet_cons_eq_none h
      cases hd
      cases meet_nil_eq_none h'
      simpa [stores, store, setPart, unspecified, Part.spell_language ha] using Written.language ha
    · rename_i a b _
      obtain ⟨_, _, _, hd, ha, rfl, h₁⟩ := meet_cons_eq_none h
      cases hd
      obtain ⟨p, _, _, hd, hb, rfl, h₂⟩ := meet_cons_eq_none h₁
      cases meet_nil_eq_none h₂
      obtain ⟨rfl, rfl | rfl | ⟨rfl, alone⟩⟩ := demandSecond_eq_kind hd
      · simpa [stores, store, setPart, unspecified, Part.spell_language ha,
          Part.spell_region hb] using Written.region ha hb
      · simpa [stores, store, setPart, unspecified, Part.spell_language ha,
          Part.spell_script] using Written.script ha hb
      · simpa [stores, store, setPart, unspecified, Part.spell_language ha,
          Part.spell_variant hb] using Written.variant ha hb alone
    · rename_i a b c _
      obtain ⟨_, _, _, hd, ha, rfl, h₁⟩ := meet_cons_eq_none h
      cases hd
      obtain ⟨p, _, _, hd, hb, rfl, h₂⟩ := meet_cons_eq_none h₁
      obtain ⟨q, _, _, hd', hc, rfl, h₃⟩ := meet_cons_eq_none h₂
      cases meet_nil_eq_none h₃
      obtain ⟨rfl, rfl | rfl⟩ := demandMiddle_eq_kind hd <;>
        obtain ⟨rfl, rfl | rfl⟩ := demandLast_eq_kind hd'
      · simpa [stores, store, setPart, unspecified, Part.spell_language ha, Part.spell_script,
          Part.spell_variant hc] using Written.scriptVariant ha hb hc
      · simpa [stores, store, setPart, unspecified, Part.spell_language ha, Part.spell_script,
          Part.spell_region hc] using Written.scriptRegion ha hb hc
      · simpa [stores, store, setPart, unspecified, Part.spell_language ha, Part.spell_region hb,
          Part.spell_variant hc] using Written.regionVariant ha hb hc
      · simpa [stores, store, setPart, unspecified, Part.spell_language ha, Part.spell_region hb,
          Part.spell_region hc] using Written.regions ha hb hc
    · rename_i a b c d _
      obtain ⟨_, _, _, hd, ha, rfl, h₁⟩ := meet_cons_eq_none h
      cases hd
      obtain ⟨_, _, _, hd, hb, rfl, h₂⟩ := meet_cons_eq_none h₁
      cases hd
      obtain ⟨_, _, _, hd, hc, rfl, h₃⟩ := meet_cons_eq_none h₂
      cases hd
      obtain ⟨_, _, _, hd, he, rfl, h₄⟩ := meet_cons_eq_none h₃
      cases hd
      cases meet_nil_eq_none h₄
      simpa [stores, store, setPart, unspecified, Part.spell_language ha, Part.spell_script,
        Part.spell_region hc, Part.spell_variant he] using Written.full ha hb hc he
    · simp [meet] at h

/-- A token that can follow a bare language as its region. -/
def isRegionToken (t : String) : Bool := (Reading.regionOfToken? t).isSome

/-- The tokens that spell a locale: a bare language, a language with a region token, or a tag. -/
inductive Spelled : List String → Locale → Prop
  | word {w} (hw : Reading.isLanguageWord w) : Spelled [w] ⟨some w, none, none, none⟩
  | wordRegion {w t r} (hw : Reading.isLanguageWord w) (ht : Reading.regionOfToken? t = some r) :
      Spelled [w, t] ⟨some w, some (Text.upper r), none, none⟩
  | tag {t body l} (ht : tagBody? t = some body) (h : Written (subtags body) l) : Spelled [t] l

/-- A tag whose subtags have none of the shapes, with the first fault found in it. -/
def Malformed (t : String) (fault : TagFault) : Prop :=
  ∃ body, tagBody? t = some body ∧ (meet (demands (subtags body))).2 = some fault

theorem Written.unique {subtags : List String} {l k : Locale} (h : Written subtags l)
    (h' : Written subtags k) : l = k := by
  obtain ⟨stored, hm, rfl⟩ := h.met
  obtain ⟨stored', hm', rfl⟩ := h'.met
  cases hm.symm.trans hm'
  rfl

theorem plain_of_isLanguageWord {w : String} (h : Reading.isLanguageWord w = true) :
    Text.Plain w.toList := by
  simp only [Reading.isLanguageWord, isLanguage, Bool.and_eq_true] at h
  exact Text.plain_of_letters h.1.1

theorem toList_of_regionOfToken? {t r : String} (h : Reading.regionOfToken? t = some r) :
    ∃ a b, t.toList = ['r', a, b] ∧ isLetterOrDigit a = true ∧ isLetterOrDigit b = true ∧
      r = String.ofList [a, b] := by
  unfold Reading.regionOfToken? at h
  split at h
  · rename_i a b ht
    split at h
    · rename_i hab
      simp only [Bool.and_eq_true] at hab
      exact ⟨a, b, ht, hab.1, hab.2, (Option.some.inj h).symm⟩
    · cases h
  · cases h

theorem plain_of_regionOfToken? {t r : String} (h : Reading.regionOfToken? t = some r) :
    Text.Plain r.toList := by
  obtain ⟨a, b, -, ha, hb, rfl⟩ := toList_of_regionOfToken? h
  rw [String.toList_ofList]
  intro c hc
  simp only [List.mem_cons, List.not_mem_nil, or_false] at hc
  rcases hc with rfl | rfl
  · exact ha
  · exact hb

theorem not_tag_of_isLanguageWord {w : String} (h : Reading.isLanguageWord w = true) :
    tagBody? w = none := by
  have hp := plain_of_isLanguageWord h
  unfold tagBody?
  split
  · rename_i body hw
    have := hp '+' (by simp [hw])
    cases this
  · rfl

/-- Tokens spell one locale. -/
theorem Spelled.unique {ts : List String} {l k : Locale} (h : Spelled ts l) (h' : Spelled ts k) :
    l = k := by
  cases h with
  | word hw =>
    cases h' with
    | word => rfl
    | tag ht => rw [not_tag_of_isLanguageWord hw] at ht; cases ht
  | wordRegion hw ht =>
    cases h' with
    | wordRegion _ ht' =>
      cases ht.symm.trans ht'
      rfl
  | tag ht h =>
    cases h' with
    | word hw => rw [not_tag_of_isLanguageWord hw] at ht; cases ht
    | tag ht' h' =>
      cases ht.symm.trans ht'
      exact h.unique h'

theorem written_or_malformed {t : String} {body : List Char} (ht : tagBody? t = some body) :
    (∃ l, Written (subtags body) l) ∨ ∃ fault, Malformed t fault := by
  cases hf : (meet (demands (subtags body))).2 with
  | none => exact .inl ⟨_, written_of_met (Prod.ext rfl hf)⟩
  | some fault => exact .inr ⟨fault, body, ht, hf⟩

theorem not_malformed_of_written {t : String} {body : List Char} {l : Locale} {fault : TagFault}
    (ht : tagBody? t = some body) (h : Written (subtags body) l) : ¬Malformed t fault := by
  rintro ⟨body', ht', hf⟩
  cases ht.symm.trans ht'
  obtain ⟨stored, hm, -⟩ := h.met
  rw [hm] at hf
  cases hf

theorem Malformed.unique {t : String} {f g : TagFault} (hf : Malformed t f) (hg : Malformed t g) :
    f = g := by
  obtain ⟨body, hb, hf⟩ := hf
  obtain ⟨body', hb', hg⟩ := hg
  cases hb.symm.trans hb'
  exact Option.some.inj (hf.symm.trans hg)

namespace Reading

theorem ofTokens_of_written {t : String} {rest : List String} {body : List Char} {l : Locale}
    (ht : tagBody? t = some body) (h : Written (subtags body) l) :
    (ofTokens (t :: rest)).outcome = .ok 1 ∧ (ofTokens (t :: rest)).onto unspecified = l := by
  obtain ⟨stored, hm, rfl⟩ := h.met
  simp only [ofTokens, ht, ofTag, hm]
  exact ⟨trivial, rfl⟩

theorem ofTokens_of_malformed {t : String} {rest : List String} {fault : TagFault}
    (h : Malformed t fault) : (ofTokens (t :: rest)).outcome = .error ⟨t, fault⟩ := by
  obtain ⟨body, ht, hf⟩ := h
  simp only [ofTokens, ht, ofTag, hf]

theorem ofTokens_word {w : String} {rest : List String} (hw : isLanguageWord w = true)
    (hr : rest.head?.bind regionOfToken? = none) :
    (ofTokens (w :: rest)).outcome = .ok 1 ∧
      (ofTokens (w :: rest)).onto unspecified = ⟨some w, none, none, none⟩ := by
  have hs : Part.language.spell w = w :=
    Part.spell_language (Bool.and_eq_true_iff.mp hw).1
  simp [ofTokens, not_tag_of_isLanguageWord hw, hw, ofWord, hr, onto, store, setPart, unspecified,
    hs]

theorem ofTokens_wordRegion {w t r : String} {rest : List String} (hw : isLanguageWord w = true)
    (ht : regionOfToken? t = some r) :
    (ofTokens (w :: t :: rest)).outcome = .ok 2 ∧
      (ofTokens (w :: t :: rest)).onto unspecified =
        ⟨some w, some (Text.upper r), none, none⟩ := by
  have hs : Part.language.spell w = w :=
    Part.spell_language (Bool.and_eq_true_iff.mp hw).1
  have hr : Part.region.spell r = Text.upper r := by
    rw [Part.spell, Text.trim_plain (plain_of_regionOfToken? ht)]
  simp [ofTokens, not_tag_of_isLanguageWord hw, hw, ofWord, ht, onto, store, setPart, unspecified,
    hs, hr]

theorem ofTokens_absent {t : String} {rest : List String} (ht : tagBody? t = none)
    (hw : isLanguageWord t = false) : (ofTokens (t :: rest)).outcome = .ok 0 := by
  simp [ofTokens, ht, hw, absent]

end Reading
end DeviceQualifier.Locale
